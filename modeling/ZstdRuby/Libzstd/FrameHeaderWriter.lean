import ZstdRuby.Libzstd.FrameHeader

/-! # Writing frame headers

`ZSTD_writeFrameHeader` of `zstd_compress.c`, for the format with a magic number,
and that `ZSTD_getFrameHeader_advanced` reads back what it has written.
-/

namespace ZstdRuby.Libzstd

def frameHeaderSizeMax : Nat := 18

/-- `ZSTD_frameParameters`. -/
structure FrameFlags where
  contentSizeFlag : Bool
  checksumFlag : Bool
  noDictIDFlag : Bool
  deriving DecidableEq

/-- What a header is written from: the flags, the logarithm of the window, the
content size that has been pledged, which is an unsigned 64-bit number, and the
identifier of the dictionary. -/
structure HeaderFields where
  fParams : FrameFlags
  windowLog : Nat
  pledgedSrcSize : Nat
  dictID : Nat

namespace HeaderFields

def dictIDSizeCode (fields : HeaderFields) : Nat :=
  if fields.fParams.noDictIDFlag then 0
  else (if fields.dictID > 0 then 1 else 0) + (if fields.dictID ≥ 256 then 1 else 0) +
    (if fields.dictID ≥ 65536 then 1 else 0)

def singleSegment (fields : HeaderFields) : Bool :=
  fields.fParams.contentSizeFlag && decide (2 ^ fields.windowLog ≥ fields.pledgedSrcSize)

def fcsCode (fields : HeaderFields) : Nat :=
  if fields.fParams.contentSizeFlag then
    (if fields.pledgedSrcSize ≥ 256 then 1 else 0) +
      (if fields.pledgedSrcSize ≥ 65536 + 256 then 1 else 0) +
      (if fields.pledgedSrcSize ≥ 0xFFFFFFFF then 1 else 0)
  else 0

/-- `frameHeaderDescriptionByte`. -/
def descriptor (fields : HeaderFields) : Nat :=
  fields.dictIDSizeCode + fields.fParams.checksumFlag.toNat * 2 ^ 2 +
    fields.singleSegment.toNat * 2 ^ 5 + fields.fcsCode * 2 ^ 6

def contentSizeBytes (fields : HeaderFields) : Bytes :=
  match fields.fcsCode with
  | 0 => if fields.singleSegment then LittleEndian.encode 1 fields.pledgedSrcSize else []
  | 1 => LittleEndian.encode 2 (fields.pledgedSrcSize - 256)
  | 2 => LittleEndian.encode 4 fields.pledgedSrcSize
  | _ => LittleEndian.encode 8 fields.pledgedSrcSize

def afterDescriptor (fields : HeaderFields) : Bytes :=
  (if fields.singleSegment then []
    else LittleEndian.encode 1 ((fields.windowLog - windowLogAbsoluteMin) * 2 ^ 3)) ++
  (LittleEndian.encode (didFieldSize fields.dictIDSizeCode) fields.dictID ++
    fields.contentSizeBytes)

def header (fields : HeaderFields) : Bytes :=
  writeLE32 magicNumber ++ (LittleEndian.encode 1 fields.descriptor ++ fields.afterDescriptor)

def parameters (fields : HeaderFields) : FrameParameters :=
  let windowSize := if fields.singleSegment then fields.pledgedSrcSize else 2 ^ fields.windowLog
  { frameContentSize :=
      if fields.fParams.contentSizeFlag then some fields.pledgedSrcSize else none
    windowSize := windowSize
    blockSizeMax := min windowSize blockSizeMax
    dictID := if fields.fParams.noDictIDFlag then 0 else fields.dictID
    checksumFlag := fields.fParams.checksumFlag }

structure Representable (fields : HeaderFields) : Prop where
  windowLog : windowLogAbsoluteMin ≤ fields.windowLog ∧ fields.windowLog ≤ windowLogMax
  pledgedSrcSize : fields.pledgedSrcSize < 2 ^ 64
  dictID : fields.dictID < 2 ^ 32

end HeaderFields

/-- `ZSTD_writeFrameHeader`: what it writes to a destination of a certain
capacity. -/
def writeFrameHeader (capacity : Nat) (fields : HeaderFields) : Except ErrorCode Bytes :=
  if capacity < frameHeaderSizeMax then .error .dstSizeTooSmall
  else .ok fields.header

/-! ## Fields of a byte string -/

theorem byteAt_encode {source left right : Bytes} {number offset : Nat}
    (split : source = left ++ (LittleEndian.encode 1 number ++ right))
    (position : left.length = offset) : byteAt source offset = number % 256 := by
  subst split position
  rw [byteAt, List.getD_eq_getElem?_getD, List.getElem?_append_right (le_refl _), Nat.sub_self]
  simp [LittleEndian.encode]

theorem readLE_encode {source left right : Bytes} {width number offset : Nat}
    (split : source = left ++ (LittleEndian.encode width number ++ right))
    (position : left.length = offset) (fits : number < 256 ^ width) :
    readLE width source offset = number := by
  subst split position
  rw [readLE, List.drop_left, List.take_left' (LittleEndian.encode_length width number),
    LittleEndian.value_encode_of_lt fits]

def contentSizeAt (fcsID singleSegment : Nat) (source : Bytes) (pos : Nat) : Option Nat :=
  match fcsID with
  | 0 => if singleSegment = 1 then some (byteAt source pos) else none
  | 1 => some (readLE 2 source pos + 256)
  | 2 => some (readLE 4 source pos)
  | _ => some (readLE 8 source pos)

theorem frameParameters_of_fields {source : Bytes} {fhdByte wlByte pos : Nat}
    (fhd : byteAt source 4 = fhdByte) (reserved : fhdByte / 2 ^ 3 % 2 = 0)
    (window : fhdByte / 2 ^ 5 % 2 = 0 → byteAt source 5 = wlByte ∧
      wlByte / 2 ^ 3 + windowLogAbsoluteMin ≤ windowLogMax)
    (position : pos = if fhdByte / 2 ^ 5 % 2 = 0 then 6 else 5) :
    let dictIDSize := didFieldSize (fhdByte % 4)
    let frameContentSize := contentSizeAt (fhdByte / 2 ^ 6) (fhdByte / 2 ^ 5 % 2) source
      (pos + dictIDSize)
    let windowSize := if fhdByte / 2 ^ 5 % 2 = 0 then
      2 ^ (wlByte / 2 ^ 3 + windowLogAbsoluteMin) +
        2 ^ (wlByte / 2 ^ 3 + windowLogAbsoluteMin) / 8 * (wlByte % 8)
      else frameContentSize.getD 0
    frameParameters source = .ok ⟨frameContentSize, windowSize, min windowSize blockSizeMax,
      readLE dictIDSize source pos, decide (fhdByte / 2 ^ 2 % 2 = 1)⟩ := by
  subst fhd position
  simp only [frameParameters, reserved, ne_eq, not_true_eq_false, if_false]
  by_cases several : byteAt source 4 / 2 ^ 5 % 2 = 0
  · rcases window several with ⟨rfl, expressible⟩
    rw [if_neg (by omega)]
    simp only [several, if_true]
    rfl
  · rw [if_neg (by tauto)]
    simp only [several, if_false]
    rfl

/-! ## The round trip -/

namespace HeaderFields

variable {fields : HeaderFields}

theorem dictIDSizeCode_le (fields : HeaderFields) : fields.dictIDSizeCode ≤ 3 := by
  rw [dictIDSizeCode]
  split
  · omega
  · split <;> split <;> split <;> omega

theorem fcsCode_le (fields : HeaderFields) : fields.fcsCode ≤ 3 := by
  rw [fcsCode]
  split
  · split <;> split <;> split <;> omega
  · omega

theorem descriptor_fields (fields : HeaderFields) :
    fields.descriptor < 256 ∧ fields.descriptor % 4 = fields.dictIDSizeCode ∧
      fields.descriptor / 2 ^ 2 % 2 = fields.fParams.checksumFlag.toNat ∧
      fields.descriptor / 2 ^ 3 % 2 = 0 ∧
      fields.descriptor / 2 ^ 5 % 2 = fields.singleSegment.toNat ∧
      fields.descriptor / 2 ^ 6 = fields.fcsCode := by
  have dict := fields.dictIDSizeCode_le
  have fcs := fields.fcsCode_le
  have checksum := Bool.toNat_lt fields.fParams.checksumFlag
  have single := Bool.toNat_lt fields.singleSegment
  simp only [descriptor]
  omega

theorem dictID_fits (representable : fields.Representable)
    (shown : fields.fParams.noDictIDFlag = false) :
    fields.dictID < 256 ^ didFieldSize fields.dictIDSizeCode := by
  have bound := representable.dictID
  rw [dictIDSizeCode, if_neg (by simp [shown])]
  by_cases one : fields.dictID > 0
  · by_cases two : fields.dictID ≥ 256
    · by_cases three : fields.dictID ≥ 65536
      · simpa [one, two, three, didFieldSize] using bound
      · simp only [one, two, three, if_true, if_false, didFieldSize]
        exact Nat.lt_of_not_le three
    · have three : ¬fields.dictID ≥ 65536 := by omega
      simp only [one, two, three, if_true, if_false, didFieldSize]
      exact Nat.lt_of_not_le two
  · have none : fields.dictID = 0 := by omega
    simp [none, didFieldSize]

theorem fcsCode_pos (representable : fields.Representable)
    (known : fields.fParams.contentSizeFlag = true) (several : fields.singleSegment = false) :
    0 < fields.fcsCode := by
  have window : 2 ^ 10 ≤ 2 ^ fields.windowLog :=
    Nat.pow_le_pow_right (by decide) representable.windowLog.1
  have larger : 2 ^ fields.windowLog < fields.pledgedSrcSize := by
    simpa [singleSegment, known] using several
  rw [fcsCode, if_pos known, if_pos (by omega)]
  omega

theorem frameHeaderSize_descriptor (fields : HeaderFields) :
    frameHeaderSize fields.descriptor = startingInputLength + fields.afterDescriptor.length := by
  rcases fields.descriptor_fields with ⟨-, dict, -, -, single, fcs⟩
  have bound := fields.fcsCode_le
  simp only [frameHeaderSize, dict, single, fcs, afterDescriptor, List.length_append,
    LittleEndian.encode_length]
  have content : fields.contentSizeBytes.length = fcsFieldSize fields.fcsCode +
      if fields.singleSegment.toNat = 1 ∧ fields.fcsCode = 0 then 1 else 0 := by
    rw [contentSizeBytes]
    generalize fields.fcsCode = code at bound ⊢
    have codes : code = 0 ∨ code = 1 ∨ code = 2 ∨ code = 3 := by omega
    rcases codes with rfl | rfl | rfl | rfl
    · cases fields.singleSegment <;> simp [fcsFieldSize]
    · simp [fcsFieldSize]
    · simp [fcsFieldSize]
    · simp [fcsFieldSize]
  rw [content]
  cases fields.singleSegment <;> simp <;> omega

theorem afterDescriptor_length_le (fields : HeaderFields) :
    fields.afterDescriptor.length ≤ frameHeaderSizeMax - startingInputLength := by
  have every : ∀ (dict : Fin 4) (single : Bool) (fcs : Fin 4),
      (if single.toNat = 0 then 1 else 0) + didFieldSize dict.val + fcsFieldSize fcs.val +
        (if single.toNat = 1 ∧ fcs.val = 0 then 1 else 0) ≤
          frameHeaderSizeMax - startingInputLength := by decide
  have size := fields.frameHeaderSize_descriptor
  rcases fields.descriptor_fields with ⟨-, dict, -, -, single, fcs⟩
  have bound := every ⟨_, Nat.lt_succ_of_le fields.dictIDSizeCode_le⟩ fields.singleSegment
    ⟨_, Nat.lt_succ_of_le fields.fcsCode_le⟩
  simp only [frameHeaderSize, dict, single, fcs] at size
  simp only at bound
  omega

theorem fcsCode_cases (known : fields.fParams.contentSizeFlag = true) :
    (fields.fcsCode = 0 ∧ fields.pledgedSrcSize < 256) ∨
    (fields.fcsCode = 1 ∧ 256 ≤ fields.pledgedSrcSize ∧ fields.pledgedSrcSize < 65536 + 256) ∨
    (fields.fcsCode = 2 ∧ fields.pledgedSrcSize < 0xFFFFFFFF) ∨ fields.fcsCode = 3 := by
  rw [fcsCode, if_pos known]
  split <;> split <;> split <;> omega

theorem contentSizeAt_eq (representable : fields.Representable) {source front rest : Bytes}
    {pos : Nat} (split : source = front ++ (fields.contentSizeBytes ++ rest))
    (position : front.length = pos) :
    contentSizeAt fields.fcsCode fields.singleSegment.toNat source pos =
      fields.parameters.frameContentSize := by
  have bound := representable.pledgedSrcSize
  simp only [parameters]
  cases known : fields.fParams.contentSizeFlag with
  | false =>
      have code : fields.fcsCode = 0 := by rw [fcsCode, known, if_neg Bool.false_ne_true]
      have several : fields.singleSegment = false := by rw [singleSegment, known, Bool.false_and]
      simp [contentSizeAt, code, several]
  | true =>
      rw [if_pos rfl]
      rcases fcsCode_cases known with ⟨code, small⟩ | ⟨code, large, small⟩ | ⟨code, small⟩ | code
      · cases single : fields.singleSegment with
        | false =>
            have positive := fcsCode_pos representable known single
            omega
        | true =>
            rw [contentSizeBytes, code] at split
            simp only [single, if_true] at split
            have read := byteAt_encode split position
            rw [Nat.mod_eq_of_lt small] at read
            simp [contentSizeAt, code, read]
      · rw [contentSizeBytes, code] at split
        have read := readLE_encode split position (by omega)
        simp only [contentSizeAt, code, read, Option.some.injEq]
        omega
      · rw [contentSizeBytes, code] at split
        simp only [contentSizeAt, code, readLE_encode split position (by omega)]
      · rw [contentSizeBytes, code] at split
        simp only [contentSizeAt, code, readLE_encode split position (by omega)]

theorem dictIDAt_eq (representable : fields.Representable) {source front rest : Bytes} {pos : Nat}
    (split : source = front ++
      (LittleEndian.encode (didFieldSize fields.dictIDSizeCode) fields.dictID ++ rest))
    (position : front.length = pos) :
    readLE (didFieldSize fields.dictIDSizeCode) source pos = fields.parameters.dictID := by
  simp only [parameters]
  cases shown : fields.fParams.noDictIDFlag with
  | true =>
      have code : fields.dictIDSizeCode = 0 := by rw [dictIDSizeCode, if_pos shown]
      simp [code, didFieldSize, readLE, LittleEndian.value]
  | false => exact readLE_encode split position (dictID_fits representable shown)

theorem frameParameters_header (representable : fields.Representable) (rest : Bytes) :
    frameParameters (writeLE32 magicNumber ++ (LittleEndian.encode 1 fields.descriptor ++
      (fields.afterDescriptor ++ rest))) = .ok fields.parameters := by
  rcases fields.descriptor_fields with ⟨small, dict, checksum, reserved, single, fcs⟩
  rcases representable.windowLog with ⟨lower, upper⟩
  simp only [windowLogAbsoluteMin] at lower
  have fits : fields.windowLog ≤ 31 := upper
  generalize sourceEq : writeLE32 magicNumber ++ (LittleEndian.encode 1 fields.descriptor ++
    (fields.afterDescriptor ++ rest)) = source
  have fhd : byteAt source 4 = fields.descriptor := by
    rw [byteAt_encode sourceEq.symm (writeLE32_length magicNumber), Nat.mod_eq_of_lt small]
  generalize frontEq : writeLE32 magicNumber ++ LittleEndian.encode 1 fields.descriptor = front
    at sourceEq
  have frontLength : front.length = 5 := by
    rw [← frontEq, List.length_append, writeLE32_length, LittleEndian.encode_length]
  have read : ∀ {before : Bytes} {pos : Nat}, source = before ++
      (LittleEndian.encode (didFieldSize fields.dictIDSizeCode) fields.dictID ++
        (fields.contentSizeBytes ++ rest)) → before.length = pos →
      readLE (didFieldSize fields.dictIDSizeCode) source pos = fields.parameters.dictID ∧
        contentSizeAt fields.fcsCode fields.singleSegment.toNat source
          (pos + didFieldSize fields.dictIDSizeCode) = fields.parameters.frameContentSize := by
    intro before pos split position
    refine ⟨dictIDAt_eq representable split position, ?_⟩
    refine @contentSizeAt_eq fields representable source (before ++ LittleEndian.encode
      (didFieldSize fields.dictIDSizeCode) fields.dictID) rest _ ?_ ?_
    · rw [split, List.append_assoc]
    · rw [List.length_append, position, LittleEndian.encode_length]
  cases segment : fields.singleSegment with
  | true =>
      rcases @read front 5 (by rw [← sourceEq, ← frontEq]; simp [afterDescriptor, segment])
        frontLength with ⟨dictID, contentSize⟩
      have known : fields.fParams.contentSizeFlag = true := by
        rw [singleSegment, Bool.and_eq_true] at segment
        exact segment.1
      have parsed := @frameParameters_of_fields source fields.descriptor 0 5 fhd reserved
        (by rw [single, segment]; intro absurd; cases absurd) (by rw [single, segment]; rfl)
      rw [segment] at contentSize
      simp only [dict, fcs, single, segment, checksum, contentSize, dictID] at parsed
      simpa [parameters, segment, known] using parsed
  | false =>
      generalize windowEq :
        LittleEndian.encode 1 ((fields.windowLog - windowLogAbsoluteMin) * 2 ^ 3) = windowByte
      have after : source = front ++ (windowByte ++
          (LittleEndian.encode (didFieldSize fields.dictIDSizeCode) fields.dictID ++
            (fields.contentSizeBytes ++ rest))) := by
        rw [← sourceEq, ← frontEq, ← windowEq]
        simp [afterDescriptor, segment]
      rcases @read (front ++ windowByte) 6 (by rw [after, List.append_assoc])
        (by rw [List.length_append, frontLength, ← windowEq, LittleEndian.encode_length]) with
        ⟨dictID, contentSize⟩
      have window : byteAt source 5 = (fields.windowLog - 10) * 2 ^ 3 := by
        rw [← windowEq] at after
        rw [byteAt_encode after frontLength, windowLogAbsoluteMin, Nat.mod_eq_of_lt (by omega)]
      have windowLog : (fields.windowLog - 10) * 2 ^ 3 / 2 ^ 3 + windowLogAbsoluteMin =
          fields.windowLog := by
        simp only [windowLogAbsoluteMin]
        omega
      have mantissa : (fields.windowLog - 10) * 2 ^ 3 % 8 = 0 := by omega
      have parsed := @frameParameters_of_fields source fields.descriptor _ 6 fhd reserved
        (fun _ => ⟨window, by rw [windowLog]; exact upper⟩) (by rw [single, segment]; rfl)
      rw [segment] at contentSize
      simp only [dict, fcs, single, segment, checksum, contentSize, dictID, windowLog, mantissa]
        at parsed
      simpa [parameters, segment] using parsed

theorem header_append (fields : HeaderFields) (rest : Bytes) :
    fields.header ++ rest = writeLE32 magicNumber ++ (LittleEndian.encode 1 fields.descriptor ++
      (fields.afterDescriptor ++ rest)) := by
  rw [header, List.append_assoc, List.append_assoc]

theorem header_length (fields : HeaderFields) :
    fields.header.length = frameHeaderSize fields.descriptor := by
  rw [header, frameHeaderSize_descriptor]
  simp only [List.length_append, writeLE32_length, LittleEndian.encode_length,
    startingInputLength]
  omega

theorem header_length_le (fields : HeaderFields) : fields.header.length ≤ frameHeaderSizeMax := by
  have after := fields.afterDescriptor_length_le
  rw [header_length, frameHeaderSize_descriptor]
  simp only [startingInputLength, frameHeaderSizeMax] at after ⊢
  omega

theorem magic_prefix_header (fields : HeaderFields) :
    writeLE32 magicNumber <+: fields.header :=
  List.prefix_append _ _

theorem byteAt_header (fields : HeaderFields) (rest : Bytes) :
    byteAt (fields.header ++ rest) 4 = fields.descriptor := by
  rw [byteAt_encode (header_append fields rest) (writeLE32_length magicNumber),
    Nat.mod_eq_of_lt fields.descriptor_fields.1]

theorem readLE32_header (fields : HeaderFields) (rest : Bytes) :
    readLE32 (fields.header ++ rest) = magicNumber := by
  rw [header_append, readLE32_writeLE32]
  decide

theorem lt_header_length (fields : HeaderFields) :
    startingInputLength < fields.header.length := by
  have long := lt_frameHeaderSize (fields.header ++ []) 4
  rwa [byteAt_header, ← header_length] at long

theorem getFrameHeader_header (representable : fields.Representable) (rest : Bytes) :
    getFrameHeader (fields.header ++ rest) = .ok (.filled (.frame fields.parameters)) := by
  have length : (fields.header ++ rest).length =
      frameHeaderSize fields.descriptor + rest.length := by
    rw [List.length_append, header_length]
  have long := lt_frameHeaderSize (fields.header ++ rest) 4
  rw [byteAt_header] at long
  rw [getFrameHeader_frame (by rw [length]; omega) (readLE32_header fields rest), byteAt_header,
    if_neg (by rw [length]; omega), header_append, frameParameters_header representable]
  rfl

theorem getFrameHeader_incomplete (fields : HeaderFields) {part rest : Bytes}
    (split : part ++ rest = fields.header) (incomplete : rest ≠ []) :
    getFrameHeader part = .ok (.wanted (if part.length < startingInputLength then
      startingInputLength else fields.header.length)) := by
  have size := fields.header_length
  have positive := List.length_pos_iff.mpr incomplete
  have length : part.length + rest.length = fields.header.length := by
    rw [← List.length_append, split]
  have whole := byteAt_header fields []
  have magic := readLE32_header fields []
  rw [List.append_nil, ← split] at whole magic
  by_cases short : part.length < startingInputLength
  · rw [if_pos short, getFrameHeader_short short, if_neg]
    have starts : startsMagic (part ++ rest) = true :=
      startsMagic_of_magic (by rw [List.length_append, length, size,
        frameHeaderSize_descriptor]; simp only [startingInputLength]; omega) (Or.inl magic)
    simp [startsMagic_of_append starts]
  · rw [if_neg short]
    simp only [startingInputLength] at short
    rw [byteAt_append rest (by omega)] at whole
    rw [readLE32_append rest (by omega)] at magic
    rw [getFrameHeader_frame (by simp only [startingInputLength]; omega) magic, whole, ← size,
      if_pos (by omega)]

end HeaderFields

/-- What `ZSTD_writeFrameHeader` writes, `ZSTD_getFrameHeader` reads back, whatever
follows; and of every shorter part it wants more, but never more than the header. -/
theorem getFrameHeader_writeFrameHeader {fields : HeaderFields}
    (representable : fields.Representable) {capacity : Nat} {header : Bytes}
    (written : writeFrameHeader capacity fields = .ok header) :
    header.length ≤ frameHeaderSizeMax ∧
      (∀ rest, getFrameHeader (header ++ rest) = .ok (.filled (.frame fields.parameters))) ∧
      ∀ part rest, part ++ rest = header → rest ≠ [] → ∃ size,
        getFrameHeader part = .ok (.wanted size) ∧ part.length < size ∧ size ≤ header.length := by
  have written : fields.header = header := by
    rw [writeFrameHeader] at written
    split at written
    · cases written
    · exact Except.ok.inj written
  subst written
  refine ⟨fields.header_length_le, fields.getFrameHeader_header representable, ?_⟩
  intro part rest split incomplete
  have wanted := fields.getFrameHeader_incomplete split incomplete
  have size := fields.header_length.trans fields.frameHeaderSize_descriptor
  refine ⟨_, wanted, lt_of_getFrameHeader_wanted wanted, ?_⟩
  split <;> omega

end ZstdRuby.Libzstd
