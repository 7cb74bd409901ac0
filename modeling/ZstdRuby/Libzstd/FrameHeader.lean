import ZstdRuby.Libzstd.SkippableFrame

/-! # Frame headers

`ZSTD_getFrameHeader_advanced` of `zstd_decompress.c`, for the format with a
magic number. The header of a frame is read in two steps: the first five bytes
say how long the header is.
-/

namespace ZstdRuby.Libzstd

def startingInputLength : Nat := 5

def frameHeaderSizeMin : Nat := 6

def windowLogAbsoluteMin : Nat := 10

def windowLogMax : Nat := 31

structure FrameParameters where
  /-- `none` is `ZSTD_CONTENTSIZE_UNKNOWN`. -/
  frameContentSize : Option Nat
  windowSize : Nat
  blockSizeMax : Nat
  dictID : Nat
  checksumFlag : Bool
  deriving DecidableEq

inductive FrameHeader
  | skippable (variant frameContentSize : Nat)
  | frame (parameters : FrameParameters)
  deriving DecidableEq

inductive HeaderResult
  | wanted (size : Nat)
  | filled (header : FrameHeader)
  deriving DecidableEq

def byteAt (source : Bytes) (offset : Nat) : Nat := (source.getD offset 0).toNat

def readLE (width : Nat) (source : Bytes) (offset : Nat) : Nat :=
  LittleEndian.value ((source.drop offset).take width)

def didFieldSize (code : Nat) : Nat := [0, 1, 2, 4].getD code 0

def fcsFieldSize (code : Nat) : Nat := [0, 2, 4, 8].getD code 0

/-- `ZSTD_frameHeaderSize_internal`, as a function of the frame header
descriptor. -/
def frameHeaderSize (fhd : Nat) : Nat :=
  let dictID := fhd % 4
  let singleSegment := fhd / 2 ^ 5 % 2
  let fcsId := fhd / 2 ^ 6
  startingInputLength + (if singleSegment = 0 then 1 else 0) + didFieldSize dictID +
    fcsFieldSize fcsId + (if singleSegment = 1 ∧ fcsId = 0 then 1 else 0)

/-- The last part of `ZSTD_getFrameHeader_advanced`, which decodes the fields
of a complete header. -/
def frameParameters (source : Bytes) : Except ErrorCode FrameParameters :=
  let fhdByte := byteAt source 4
  let dictIDSizeCode := fhdByte % 4
  let checksumFlag := fhdByte / 2 ^ 2 % 2
  let singleSegment := fhdByte / 2 ^ 5 % 2
  let fcsID := fhdByte / 2 ^ 6
  if fhdByte / 2 ^ 3 % 2 ≠ 0 then .error .frameParameterUnsupported
  else
    let wlByte := byteAt source 5
    let windowLog := wlByte / 2 ^ 3 + windowLogAbsoluteMin
    if singleSegment = 0 ∧ windowLog > windowLogMax then
      .error .frameParameterWindowTooLarge
    else
      let pos := if singleSegment = 0 then 6 else 5
      let dictID := readLE (didFieldSize dictIDSizeCode) source pos
      let pos := pos + didFieldSize dictIDSizeCode
      let frameContentSize :=
        match fcsID with
        | 0 => if singleSegment = 1 then some (byteAt source pos) else none
        | 1 => some (readLE 2 source pos + 256)
        | 2 => some (readLE 4 source pos)
        | _ => some (readLE 8 source pos)
      let windowSize :=
        if singleSegment = 0 then 2 ^ windowLog + 2 ^ windowLog / 8 * (wlByte % 8)
        else frameContentSize.getD 0
      .ok ⟨frameContentSize, windowSize, min windowSize blockSizeMax, dictID,
        checksumFlag = 1⟩

/-- Whether fewer bytes than a magic number could still become one: the missing
bytes are supplied from the magic number itself. -/
def startsMagic (source : Bytes) : Bool :=
  let hbuf := memcpy (writeLE32 magicNumber) 0 (source.take 4)
  if readLE32 hbuf ≠ magicNumber then
    let hbuf := memcpy (writeLE32 magicSkippableStart) 0 (source.take 4)
    isSkippableMagic (readLE32 hbuf)
  else true

def getFrameHeader (source : Bytes) : Except ErrorCode HeaderResult :=
  if source.length < startingInputLength then
    if source.length > 0 ∧ !startsMagic source then .error .prefixUnknown
    else .ok (.wanted startingInputLength)
  else if readLE32 source ≠ magicNumber then
    if isSkippableMagic (readLE32 source) then
      if source.length < skippableHeaderSize then .ok (.wanted skippableHeaderSize)
      else .ok (.filled (.skippable (readLE32 source - magicSkippableStart)
        (readLE32 (source.drop frameIdSize))))
    else .error .prefixUnknown
  else
    let fhsize := frameHeaderSize (byteAt source 4)
    if source.length < fhsize then .ok (.wanted fhsize)
    else (frameParameters source).map fun parameters => .filled (.frame parameters)

/-! ## Longer and shorter inputs -/

theorem byteAt_append {source : Bytes} (more : Bytes) {offset : Nat}
    (within : offset < source.length) : byteAt (source ++ more) offset = byteAt source offset := by
  rw [byteAt, byteAt, List.getD_eq_getElem?_getD, List.getD_eq_getElem?_getD,
    List.getElem?_append_left within]

theorem lt_frameHeaderSize (source : Bytes) (offset : Nat) :
    startingInputLength < frameHeaderSize (byteAt source offset) := by
  have every : ∀ fhd : Fin 256, startingInputLength < frameHeaderSize fhd.val := by
    decide +kernel
  exact every ⟨byteAt source offset, UInt8.toNat_lt _⟩

theorem readLE_append {source : Bytes} (more : Bytes) {width offset : Nat}
    (within : offset + width ≤ source.length) :
    readLE width (source ++ more) offset = readLE width source offset := by
  rw [readLE, readLE, List.drop_append_of_le_length (by omega),
    List.take_append_of_le_length (by rw [List.length_drop]; omega)]

theorem frameParameters_append {source : Bytes} (more : Bytes)
    (complete : frameHeaderSize (byteAt source 4) ≤ source.length) :
    frameParameters (source ++ more) = frameParameters source := by
  have long := lt_frameHeaderSize source 4
  simp only [startingInputLength] at long
  have sameFhd := byteAt_append more (by omega : 4 < source.length)
  have sameWl := byteAt_append more (by omega : 5 < source.length)
  have size : byteAt source 4 < 256 := UInt8.toNat_lt _
  have segment : byteAt source 4 / 2 ^ 5 % 2 = 0 ∨ byteAt source 4 / 2 ^ 5 % 2 = 1 := by omega
  have code : byteAt source 4 / 2 ^ 6 = 0 ∨ byteAt source 4 / 2 ^ 6 = 1 ∨
      byteAt source 4 / 2 ^ 6 = 2 ∨ byteAt source 4 / 2 ^ 6 = 3 := by omega
  simp only [frameHeaderSize, startingInputLength] at complete
  simp only [frameParameters, sameFhd, sameWl]
  generalize byteAt source 4 = fhd at complete segment code
  rcases segment with segment | segment <;>
    simp only [segment, if_true, Nat.one_ne_zero, Nat.zero_ne_one, if_false, true_and,
      false_and] at complete ⊢
  · rw [readLE_append more (by omega : 6 + didFieldSize (fhd % 4) ≤ source.length)]
    rcases code with code | code | code | code <;>
      simp only [code, fcsFieldSize, List.getD_cons_zero, List.getD_cons_succ] at complete ⊢
    · rw [readLE_append more (by omega)]
    · rw [readLE_append more (by omega)]
    · rw [readLE_append more (by omega)]
  · rw [readLE_append more (by omega : 5 + didFieldSize (fhd % 4) ≤ source.length)]
    rcases code with code | code | code | code <;>
      simp only [code, fcsFieldSize, List.getD_cons_zero, List.getD_cons_succ] at complete ⊢
    · rw [byteAt_append more (by simp at complete; omega)]
    · rw [readLE_append more (by omega)]
    · rw [readLE_append more (by omega)]
    · rw [readLE_append more (by omega)]

theorem startsMagic_iff (source : Bytes) :
    startsMagic source = true ↔ source.take 4 <+: writeLE32 magicNumber ∨
      ∃ variant < 16, source.take 4 <+: writeLE32 (magicSkippableStart + variant) := by
  have short : (source.take 4).length ≤ 4 := List.length_take_le 4 source
  have whole : ∀ number, memcpy (writeLE32 number) 0 (source.take 4) =
      source.take 4 ++ (writeLE32 number).drop (source.take 4).length := by
    intro number
    simp [memcpy]
  have restored : ∀ number, writeLE32 (readLE32 (memcpy (writeLE32 number) 0 (source.take 4))) =
      memcpy (writeLE32 number) 0 (source.take 4) := by
    intro number
    have length : (memcpy (writeLE32 number) 0 (source.take 4)).length = 4 := by
      rw [memcpy_length (by rw [writeLE32_length]; omega), writeLE32_length]
    rw [writeLE32_readLE32 length.ge, List.take_of_length_le length.le]
  simp only [startsMagic]
  constructor
  · intro starts
    split at starts
    · right
      rcases isSkippableMagic_inv (readLE32_lt _) starts with ⟨variant, small, equal⟩
      refine ⟨variant, small, ?_⟩
      rw [← equal, restored, whole]
      exact List.prefix_append _ _
    · left
      rename_i equal
      rw [not_ne_iff] at equal
      rw [← equal, restored, whole]
      exact List.prefix_append _ _
  · rintro (starts | ⟨variant, small, starts⟩)
    · have covered : memcpy (writeLE32 magicNumber) 0 (source.take 4) =
          writeLE32 magicNumber := by
        rcases starts with ⟨rest, split⟩
        rw [whole, ← split, List.drop_left]
      rw [covered, if_neg (by decide)]
    · split
      · have every : ∀ (variant : Fin 16) (size : Fin 5), isSkippableMagic (readLE32
            (memcpy (writeLE32 magicSkippableStart) 0
              ((writeLE32 (magicSkippableStart + variant.val)).take size.val))) = true := by
          decide
        rw [List.prefix_iff_eq_take.mp starts]
        exact every ⟨variant, small⟩ ⟨(source.take 4).length, by omega⟩
      · rfl

theorem startsMagic_of_magic {source : Bytes} (enough : 4 ≤ source.length)
    (magic : readLE32 source = magicNumber ∨ isSkippableMagic (readLE32 source) = true) :
    startsMagic source = true := by
  rw [startsMagic_iff, ← writeLE32_readLE32 enough]
  rcases magic with equal | skippable
  · exact Or.inl (equal ▸ List.prefix_refl _)
  · rcases isSkippableMagic_inv (readLE32_lt _) skippable with ⟨variant, small, equal⟩
    exact Or.inr ⟨variant, small, equal ▸ List.prefix_refl _⟩

theorem startsMagic_of_append {source more : Bytes}
    (starts : startsMagic (source ++ more) = true) : startsMagic source = true := by
  have shorter : source.take 4 <+: (source ++ more).take 4 := by
    rw [List.take_append]
    exact List.prefix_append _ _
  rw [startsMagic_iff] at starts ⊢
  rcases starts with starts | ⟨variant, small, starts⟩
  · exact Or.inl (shorter.trans starts)
  · exact Or.inr ⟨variant, small, shorter.trans starts⟩

/-- What a complete header is refused for stands in its first six bytes. -/
theorem frameParameters_ok_iff (source : Bytes) :
    (∃ parameters, frameParameters source = .ok parameters) ↔
      byteAt source 4 / 2 ^ 3 % 2 = 0 ∧ ¬(byteAt source 4 / 2 ^ 5 % 2 = 0 ∧
        byteAt source 5 / 2 ^ 3 + windowLogAbsoluteMin > windowLogMax) := by
  simp only [frameParameters]
  split
  · simp_all
  · split <;> simp_all

/-! The four ways through `ZSTD_getFrameHeader_advanced`. -/

theorem getFrameHeader_short {source : Bytes} (short : source.length < startingInputLength) :
    getFrameHeader source = if source.length > 0 ∧ !startsMagic source then
      .error .prefixUnknown else .ok (.wanted startingInputLength) := by
  rw [getFrameHeader, if_pos short]

theorem getFrameHeader_frame {source : Bytes} (long : ¬source.length < startingInputLength)
    (magic : readLE32 source = magicNumber) :
    getFrameHeader source = if source.length < frameHeaderSize (byteAt source 4) then
        .ok (.wanted (frameHeaderSize (byteAt source 4)))
      else (frameParameters source).map fun parameters => .filled (.frame parameters) := by
  simp only [getFrameHeader, long, magic, ne_eq, not_true_eq_false, if_false]

theorem getFrameHeader_skippable {source : Bytes}
    (long : ¬source.length < startingInputLength)
    (skippable : isSkippableMagic (readLE32 source) = true) :
    getFrameHeader source = if source.length < skippableHeaderSize then
        .ok (.wanted skippableHeaderSize)
      else .ok (.filled (.skippable (readLE32 source - magicSkippableStart)
        (readLE32 (source.drop frameIdSize)))) := by
  have different : readLE32 source ≠ magicNumber := by
    intro equal
    rw [equal, isSkippableMagic_magicNumber] at skippable
    cases skippable
  simp only [getFrameHeader, long, different, skippable, ne_eq, not_false_eq_true, if_true,
    if_false]

theorem getFrameHeader_unknown {source : Bytes}
    (long : ¬source.length < startingInputLength) (different : readLE32 source ≠ magicNumber)
    (unknown : ¬isSkippableMagic (readLE32 source) = true) :
    getFrameHeader source = .error .prefixUnknown := by
  simp only [getFrameHeader, long, different, unknown, ne_eq, not_false_eq_true, if_true,
    if_false, Bool.false_eq_true]

theorem getFrameHeader_filled_frame {source : Bytes} {fParams : FrameParameters}
    (filled : getFrameHeader source = .ok (.filled (.frame fParams))) :
    startingInputLength ≤ source.length ∧ readLE32 source = magicNumber ∧
      frameHeaderSize (byteAt source 4) ≤ source.length ∧
      frameParameters source = .ok fParams := by
  by_cases short : source.length < startingInputLength
  · rw [getFrameHeader_short short] at filled
    split at filled <;> cases filled
  · by_cases magic : readLE32 source = magicNumber
    · rw [getFrameHeader_frame short magic] at filled
      split at filled
      · cases filled
      · rename_i complete
        cases parsed : frameParameters source with
        | error code => simp [parsed, Except.map] at filled
        | ok parameters =>
            simp only [parsed, Except.map, Except.ok.injEq, HeaderResult.filled.injEq,
              FrameHeader.frame.injEq] at filled
            exact ⟨not_lt.mp short, magic, not_lt.mp complete, by rw [filled]⟩
    · by_cases skippable : isSkippableMagic (readLE32 source) = true
      · rw [getFrameHeader_skippable short skippable] at filled
        split at filled <;> cases filled
      · rw [getFrameHeader_unknown short magic skippable] at filled
        cases filled

theorem startsMagic_of_getFrameHeader {source : Bytes} {result : HeaderResult}
    (nonempty : source ≠ []) (accepted : getFrameHeader source = .ok result) :
    startsMagic source = true := by
  have positive := List.length_pos_iff.mpr nonempty
  by_cases short : source.length < startingInputLength
  · rw [getFrameHeader_short short] at accepted
    split at accepted
    · cases accepted
    · simp_all
  · apply startsMagic_of_magic (by simp only [startingInputLength] at short; omega)
    by_contra unknown
    rw [not_or] at unknown
    rw [getFrameHeader_unknown short unknown.1 unknown.2] at accepted
    cases accepted

theorem getFrameHeader_of_append {source more : Bytes} {result : HeaderResult}
    (accepted : getFrameHeader (source ++ more) = .ok result) :
    ∃ result, getFrameHeader source = .ok result := by
  by_cases short : source.length < startingInputLength
  · rw [getFrameHeader_short short]
    split
    · rename_i refused
      have nonempty : source ++ more ≠ [] := by
        intro empty
        simp_all
      have starts := startsMagic_of_append (startsMagic_of_getFrameHeader nonempty accepted)
      simp [starts] at refused
    · exact ⟨_, rfl⟩
  · have longer : ¬(source ++ more).length < startingInputLength := by
      rw [List.length_append]
      omega
    simp only [startingInputLength] at short
    have sameMagic := readLE32_append more (by omega : 4 ≤ source.length)
    have sameFhd := byteAt_append more (by omega : 4 < source.length)
    by_cases magic : readLE32 source = magicNumber
    · rw [getFrameHeader_frame longer (sameMagic.trans magic), sameFhd] at accepted
      rw [getFrameHeader_frame short magic]
      split
      · exact ⟨_, rfl⟩
      · rename_i complete
        have size := lt_frameHeaderSize source 4
        simp only [startingInputLength] at size
        rw [if_neg (by rw [List.length_append]; omega)] at accepted
        have parsed : ∃ parameters, frameParameters (source ++ more) = .ok parameters := by
          cases decoded : frameParameters (source ++ more) with
          | error code => simp [decoded, Except.map] at accepted
          | ok parameters => exact ⟨parameters, rfl⟩
        rw [frameParameters_ok_iff, sameFhd,
          byteAt_append more (by omega : 5 < source.length), ← frameParameters_ok_iff] at parsed
        rcases parsed with ⟨parameters, parsed⟩
        exact ⟨.filled (.frame parameters), by rw [parsed, Except.map]⟩
    · by_cases skippable : isSkippableMagic (readLE32 source) = true
      · rw [getFrameHeader_skippable short skippable]
        split <;> exact ⟨_, rfl⟩
      · rw [getFrameHeader_unknown longer (sameMagic ▸ magic) (sameMagic ▸ skippable)] at accepted
        cases accepted

theorem getFrameHeader_filled_append {source : Bytes} {fParams : FrameParameters}
    (filled : getFrameHeader source = .ok (.filled (.frame fParams))) (more : Bytes) :
    getFrameHeader (source ++ more) = .ok (.filled (.frame fParams)) := by
  rcases getFrameHeader_filled_frame filled with ⟨long, magic, complete, parsed⟩
  simp only [startingInputLength] at long
  have sameMagic := readLE32_append more (by omega : 4 ≤ source.length)
  have sameFhd := byteAt_append more (by omega : 4 < source.length)
  rw [getFrameHeader_frame (by rw [List.length_append]; simp only [startingInputLength]; omega)
    (sameMagic.trans magic), sameFhd, if_neg (by rw [List.length_append]; omega),
    frameParameters_append more complete, parsed, Except.map]

theorem getFrameHeader_take {source : Bytes} {fParams : FrameParameters}
    (filled : getFrameHeader source = .ok (.filled (.frame fParams))) :
    getFrameHeader (source.take (frameHeaderSize (byteAt source 4))) =
      .ok (.filled (.frame fParams)) := by
  rcases getFrameHeader_filled_frame filled with ⟨long, magic, complete, parsed⟩
  have size := lt_frameHeaderSize source 4
  simp only [startingInputLength] at long size
  have length : (source.take (frameHeaderSize (byteAt source 4))).length =
      frameHeaderSize (byteAt source 4) := by
    rw [List.length_take, min_eq_left complete]
  have split := List.take_append_drop (frameHeaderSize (byteAt source 4)) source
  generalize source.take (frameHeaderSize (byteAt source 4)) = header at length split ⊢
  generalize source.drop (frameHeaderSize (byteAt source 4)) = rest at split
  subst split
  rw [readLE32_append rest (by omega : 4 ≤ header.length)] at magic
  have sameFhd := byteAt_append rest (by omega : 4 < header.length)
  rw [sameFhd] at length size
  rw [frameParameters_append rest length.ge] at parsed
  rw [getFrameHeader_frame (by simp only [startingInputLength]; omega) magic,
    if_neg (by omega), parsed, Except.map]

theorem lt_of_getFrameHeader_wanted {source : Bytes} {size : Nat}
    (wanted : getFrameHeader source = .ok (.wanted size)) : source.length < size := by
  by_cases short : source.length < startingInputLength
  · rw [getFrameHeader_short short] at wanted
    split at wanted <;> cases wanted
    exact short
  · by_cases magic : readLE32 source = magicNumber
    · rw [getFrameHeader_frame short magic] at wanted
      split at wanted
      · rename_i incomplete
        cases wanted
        exact incomplete
      · cases decoded : frameParameters source <;> simp [decoded, Except.map] at wanted
    · by_cases skippable : isSkippableMagic (readLE32 source) = true
      · rw [getFrameHeader_skippable short skippable] at wanted
        split at wanted <;> cases wanted
        assumption
      · rw [getFrameHeader_unknown short magic skippable] at wanted
        cases wanted

theorem getFrameHeader_wanted_append {source more : Bytes} {size : Nat} {result : HeaderResult}
    (wanted : getFrameHeader source = .ok (.wanted size))
    (incomplete : (source ++ more).length < size)
    (accepted : getFrameHeader (source ++ more) = .ok result) : result = .wanted size := by
  by_cases short : source.length < startingInputLength
  · rw [getFrameHeader_short short] at wanted
    split at wanted <;> cases wanted
    rw [getFrameHeader_short incomplete] at accepted
    split at accepted <;> cases accepted
    rfl
  · have longer : ¬(source ++ more).length < startingInputLength := by
      rw [List.length_append]
      omega
    simp only [startingInputLength] at short
    have sameMagic := readLE32_append more (by omega : 4 ≤ source.length)
    have sameFhd := byteAt_append more (by omega : 4 < source.length)
    by_cases magic : readLE32 source = magicNumber
    · rw [getFrameHeader_frame short magic] at wanted
      split at wanted
      · cases wanted
        rw [getFrameHeader_frame longer (sameMagic.trans magic), sameFhd,
          if_pos incomplete] at accepted
        cases accepted
        rfl
      · cases decoded : frameParameters source <;> simp [decoded, Except.map] at wanted
    · by_cases skippable : isSkippableMagic (readLE32 source) = true
      · rw [getFrameHeader_skippable short skippable] at wanted
        split at wanted <;> cases wanted
        rw [getFrameHeader_skippable longer (sameMagic ▸ skippable), if_pos incomplete]
          at accepted
        cases accepted
        rfl
      · rw [getFrameHeader_unknown short magic skippable] at wanted
        cases wanted

theorem getFrameHeader_wanted_of_append {source more : Bytes} {size : Nat}
    (wanted : getFrameHeader (source ++ more) = .ok (.wanted size)) :
    ∃ size, getFrameHeader source = .ok (.wanted size) := by
  rcases getFrameHeader_of_append wanted with ⟨result, accepted⟩
  cases result with
  | wanted size => exact ⟨size, accepted⟩
  | filled header =>
      exfalso
      have incomplete := lt_of_getFrameHeader_wanted wanted
      rw [List.length_append] at incomplete
      by_cases short : source.length < startingInputLength
      · rw [getFrameHeader_short short] at accepted
        split at accepted <;> cases accepted
      · have longer : ¬(source ++ more).length < startingInputLength := by
          rw [List.length_append]
          omega
        simp only [startingInputLength] at short
        have sameMagic := readLE32_append more (by omega : 4 ≤ source.length)
        have sameFhd := byteAt_append more (by omega : 4 < source.length)
        by_cases magic : readLE32 source = magicNumber
        · rw [getFrameHeader_frame longer (sameMagic.trans magic), sameFhd,
            List.length_append] at wanted
          rw [getFrameHeader_frame short magic] at accepted
          split at wanted
          · rw [if_pos (by omega)] at accepted
            cases accepted
          · cases parsed : frameParameters (source ++ more) <;>
              simp [parsed, Except.map] at wanted
        · by_cases skippable : isSkippableMagic (readLE32 source) = true
          · rw [getFrameHeader_skippable longer (sameMagic ▸ skippable),
              List.length_append] at wanted
            rw [getFrameHeader_skippable short skippable] at accepted
            split at wanted
            · rw [if_pos (by omega)] at accepted
              cases accepted
            · cases wanted
          · rw [getFrameHeader_unknown short magic skippable] at accepted
            cases accepted

theorem getFrameHeader_wanted_iff {source : Bytes}
    (magic : writeLE32 magicNumber <+: source) :
    (∃ size, getFrameHeader source = .ok (.wanted size)) ↔
      source.length < startingInputLength ∨
        source.length < frameHeaderSize (byteAt source 4) := by
  have number : readLE32 source = magicNumber := by
    rcases magic with ⟨after, rfl⟩
    exact (readLE32_writeLE32 magicNumber after).trans (by decide)
  have enough := magic.length_le
  rw [writeLE32_length] at enough
  by_cases short : source.length < startingInputLength
  · rw [getFrameHeader_short short, startsMagic_of_magic enough (Or.inl number)]
    simp [short]
  · rw [getFrameHeader_frame short number]
    by_cases incomplete : source.length < frameHeaderSize (byteAt source 4)
    · simp [incomplete]
    · cases frameParameters source <;> simp [incomplete, short, Except.map]

end ZstdRuby.Libzstd
