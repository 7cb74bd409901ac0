import ZstdRuby.Ruby.Value

/-! # Skippable frames in libzstd

`ZSTD_writeSkippableFrame` of `zstd_compress.c` and the readers of
`zstd_decompress.c`. Results are `size_t` values, errors included.
-/

namespace ZstdRuby.Libzstd

def skippableFrame (variant : Nat) (payload : Bytes) : Bytes :=
  writeLE32 (magicSkippableStart + variant) ++ writeLE32 payload.length ++ payload

@[simp] theorem skippableFrame_length (variant : Nat) (payload : Bytes) :
    (skippableFrame variant payload).length = skippableHeaderSize + payload.length := by
  simp only [skippableFrame, List.length_append, writeLE32_length, skippableHeaderSize]

def writeSkippableFrame (dst : Bytes) (dstCapacity : Nat) (src : Bytes)
    (magicVariant : Nat) : Nat × Bytes :=
  if dstCapacity < (src.length + skippableHeaderSize) % sizeRange then
    (error .dstSizeTooSmall, dst)
  else if src.length > 0xFFFFFFFF then
    (error .srcSizeWrong, dst)
  else if magicVariant > 15 then
    (error .parameterOutOfBound, dst)
  else
    let dst := memcpy dst 0 (writeLE32 (magicSkippableStart + magicVariant))
    let dst := memcpy dst 4 (writeLE32 src.length)
    let dst := memcpy dst 8 src
    (src.length + skippableHeaderSize, dst)

def isSkippableFrame (buffer : Bytes) : Bool :=
  if buffer.length < frameIdSize then false
  else isSkippableMagic (readLE32 buffer)

def readSkippableFrameSize (src : Bytes) : Nat :=
  if src.length < skippableHeaderSize then error .srcSizeWrong
  else
    let sizeU32 := readLE32 (src.drop frameIdSize)
    if (sizeU32 + skippableHeaderSize) % 2 ^ 32 < sizeU32 then
      error .frameParameterUnsupported
    else if skippableHeaderSize + sizeU32 > src.length then error .srcSizeWrong
    else skippableHeaderSize + sizeU32

/-- `ZSTD_readSkippableFrame`: the result and the destination afterwards. The
caller's `magicVariant` is not read by the extension and is left out. The
difference is a `size_t`, so a failing size wraps round. -/
def readSkippableFrame (dst : Bytes) (dstCapacity : Nat) (src : Bytes) : Nat × Bytes :=
  if src.length < skippableHeaderSize then (error .srcSizeWrong, dst)
  else
    let skippableFrameSize := readSkippableFrameSize src
    let skippableContentSize :=
      (skippableFrameSize + sizeRange - skippableHeaderSize) % sizeRange
    if !isSkippableFrame src then (error .frameParameterUnsupported, dst)
    else if skippableFrameSize < skippableHeaderSize ∨ skippableFrameSize > src.length then
      (error .srcSizeWrong, dst)
    else if skippableContentSize > dstCapacity then (error .dstSizeTooSmall, dst)
    else
      let dst :=
        if skippableContentSize > 0 then
          memcpy dst 0 ((src.drop skippableHeaderSize).take skippableContentSize)
        else dst
      (skippableContentSize, dst)

/-! ## What the writer leaves in its buffer -/

private theorem memcpy_memcpy (buffer copied source : Bytes) :
    memcpy (memcpy buffer 0 copied) copied.length source =
      memcpy buffer 0 (copied ++ source) := by
  simp [memcpy, List.drop_append]

theorem writeSkippableFrame_eq {dst src : Bytes} {magicVariant : Nat}
    (room : src.length + skippableHeaderSize ≤ dst.length)
    (fits : src.length ≤ 0xFFFFFFFF) (variant : magicVariant ≤ 15) :
    writeSkippableFrame dst dst.length src magicVariant =
      (src.length + skippableHeaderSize, memcpy dst 0 (skippableFrame magicVariant src)) := by
  have noWrap : (src.length + skippableHeaderSize) % sizeRange =
      src.length + skippableHeaderSize :=
    Nat.mod_eq_of_lt (by simp only [skippableHeaderSize, sizeRange]; omega)
  have header := memcpy_memcpy dst (writeLE32 (magicSkippableStart + magicVariant))
    (writeLE32 src.length)
  have whole := memcpy_memcpy dst
    (writeLE32 (magicSkippableStart + magicVariant) ++ writeLE32 src.length) src
  simp only [List.length_append, writeLE32_length] at header whole
  rw [writeSkippableFrame, noWrap, if_neg (by omega), if_neg (by omega), if_neg (by omega)]
  simp only [header, whole, skippableFrame]

theorem writeSkippableFrame_accepts {dst src : Bytes} {dstCapacity magicVariant : Nat}
    (accepted : isError (writeSkippableFrame dst dstCapacity src magicVariant).1 = false) :
    src.length + skippableHeaderSize ≤ dstCapacity ∧ src.length ≤ 0xFFFFFFFF ∧
      magicVariant ≤ 15 := by
  unfold writeSkippableFrame at accepted
  split at accepted
  · simp [error_isError] at accepted
  · split at accepted
    · simp [error_isError] at accepted
    · split at accepted
      · simp [error_isError] at accepted
      · rename_i room fits variant
        rw [Nat.mod_eq_of_lt (by simp only [skippableHeaderSize, sizeRange]; omega)] at room
        omega

/-! ## What the readers see -/

theorem readLE32_skippableFrame {variant : Nat} (fits : variant ≤ 15) (payload rest : Bytes) :
    readLE32 (skippableFrame variant payload ++ rest) = magicSkippableStart + variant := by
  rw [skippableFrame, List.append_assoc, List.append_assoc, readLE32_writeLE32,
    Nat.mod_eq_of_lt (by simp only [magicSkippableStart]; omega)]

theorem readLE32_skippableFrame_size (variant : Nat) (payload rest : Bytes)
    (fits : payload.length < 2 ^ 32) :
    readLE32 ((skippableFrame variant payload ++ rest).drop frameIdSize) =
      payload.length := by
  rw [skippableFrame, List.append_assoc, List.append_assoc, frameIdSize,
    List.drop_left' (writeLE32_length _), readLE32_writeLE32, Nat.mod_eq_of_lt fits]

theorem exists_skippableFrame {bytes : Bytes}
    (skippable : isSkippableMagic (readLE32 bytes) = true)
    (enough : skippableHeaderSize + readLE32 (bytes.drop frameIdSize) ≤ bytes.length) :
    ∃ variant payload rest, variant ≤ 15 ∧ payload.length = readLE32 (bytes.drop frameIdSize) ∧
      bytes = skippableFrame variant payload ++ rest := by
  rcases isSkippableMagic_inv (readLE32_lt bytes) skippable with ⟨variant, small, magic⟩
  have length : (bytes.take skippableHeaderSize).length = skippableHeaderSize := by
    rw [List.length_take]
    omega
  have header := eq_writeLE32_writeLE32 length
  have split := List.take_append_drop skippableHeaderSize bytes
  have front := readLE32_append (bytes.drop skippableHeaderSize)
    (by rw [length]; decide : 4 ≤ (bytes.take skippableHeaderSize).length)
  have field := @readLE32_append ((bytes.take skippableHeaderSize).drop frameIdSize)
    (bytes.drop skippableHeaderSize) (by rw [List.length_drop, length]; decide)
  rw [split] at front
  rw [← List.drop_append_of_le_length (by rw [length]; decide), split] at field
  rw [← front, ← field, magic] at header
  refine ⟨variant, (bytes.drop skippableHeaderSize).take (readLE32 (bytes.drop frameIdSize)),
    (bytes.drop skippableHeaderSize).drop (readLE32 (bytes.drop frameIdSize)), by omega, ?_, ?_⟩
  · rw [List.length_take, List.length_drop]
    omega
  · have size : ((bytes.drop skippableHeaderSize).take
        (readLE32 (bytes.drop frameIdSize))).length = readLE32 (bytes.drop frameIdSize) := by
      rw [List.length_take, List.length_drop]
      omega
    rw [skippableFrame, size, ← header, List.append_assoc, List.take_append_drop, split]

theorem isSkippableFrame_skippableFrame {variant : Nat} (fits : variant ≤ 15)
    (payload : Bytes) : isSkippableFrame (skippableFrame variant payload) = true := by
  have magic := readLE32_skippableFrame fits payload []
  rw [List.append_nil] at magic
  rw [isSkippableFrame, if_neg (by simp [skippableHeaderSize, frameIdSize]; omega), magic]
  exact isSkippableMagic_variant (by omega)

theorem readSkippableFrameSize_skippableFrame (variant : Nat) (payload : Bytes)
    (fits : payload.length < 2 ^ 32 - skippableHeaderSize) :
    readSkippableFrameSize (skippableFrame variant payload) =
      skippableHeaderSize + payload.length := by
  have size := readLE32_skippableFrame_size variant payload [] (by omega)
  have noWrap : (payload.length + skippableHeaderSize) % 2 ^ 32 =
      payload.length + skippableHeaderSize :=
    Nat.mod_eq_of_lt (by simp only [skippableHeaderSize] at fits ⊢; omega)
  rw [List.append_nil] at size
  simp only [readSkippableFrameSize, size, noWrap, skippableFrame_length]
  rw [if_neg (by omega), if_neg (by omega), if_neg (by omega)]

/-- The reader's overflow check refuses the last eight payload lengths. -/
theorem readSkippableFrameSize_overflow (variant : Nat) {payload : Bytes}
    (fits : payload.length < 2 ^ 32) (large : 2 ^ 32 - skippableHeaderSize ≤ payload.length) :
    readSkippableFrameSize (skippableFrame variant payload) =
      error .frameParameterUnsupported := by
  have size := readLE32_skippableFrame_size variant payload [] fits
  have wraps : (payload.length + skippableHeaderSize) % 2 ^ 32 < payload.length := by
    simp only [skippableHeaderSize] at large ⊢
    omega
  rw [List.append_nil] at size
  simp only [readSkippableFrameSize, size, skippableFrame_length]
  rw [if_neg (by omega), if_pos wraps]

theorem readSkippableFrame_eq {variant : Nat} (fits : variant ≤ 15) {payload : Bytes}
    (dst : Bytes) {dstCapacity : Nat} (room : payload.length ≤ dstCapacity)
    (capacity : dstCapacity < 2 ^ 32 - skippableHeaderSize) :
    readSkippableFrame dst dstCapacity (skippableFrame variant payload) =
      (payload.length, memcpy dst 0 payload) := by
  have size := readSkippableFrameSize_skippableFrame variant payload (by omega)
  have content : (skippableHeaderSize + payload.length + sizeRange - skippableHeaderSize) %
      sizeRange = payload.length := by
    rw [Nat.add_assoc, Nat.add_sub_cancel_left, Nat.add_mod_right]
    exact Nat.mod_eq_of_lt (by simp only [sizeRange]; omega)
  have body : (skippableFrame variant payload).drop skippableHeaderSize = payload := by
    rw [skippableFrame]
    exact List.drop_left' (by simp [skippableHeaderSize])
  simp only [readSkippableFrame, size, content, body, skippableFrame_length,
    isSkippableFrame_skippableFrame fits, Bool.not_true, Bool.false_eq_true, if_false]
  rw [if_neg (by omega), if_neg (by omega), if_neg (by omega)]
  by_cases some : payload.length > 0
  · rw [if_pos some, List.take_length]
  · have empty : payload = [] := List.length_eq_zero_iff.mp (by omega)
    simp [empty, memcpy]

theorem readSkippableFrame_tooLarge {variant : Nat} (fits : variant ≤ 15)
    {payload : Bytes} (dst : Bytes) {dstCapacity : Nat} (small : payload.length < 2 ^ 32)
    (large : dstCapacity < payload.length) :
    isError (readSkippableFrame dst dstCapacity (skippableFrame variant payload)).1 = true := by
  simp only [readSkippableFrame, isSkippableFrame_skippableFrame fits,
    skippableFrame_length, Bool.not_true, Bool.false_eq_true, if_false]
  rw [if_neg (by omega)]
  by_cases overflow : 2 ^ 32 - skippableHeaderSize ≤ payload.length
  · rw [readSkippableFrameSize_overflow variant small overflow, if_pos]
    · exact error_isError _
    · right
      simp only [error, ErrorCode.number, skippableHeaderSize, sizeRange]
      omega
  · have size := readSkippableFrameSize_skippableFrame variant payload (by omega)
    have content : (skippableHeaderSize + payload.length + sizeRange - skippableHeaderSize) %
        sizeRange = payload.length := by
      rw [Nat.add_assoc, Nat.add_sub_cancel_left, Nat.add_mod_right]
      exact Nat.mod_eq_of_lt (by simp only [sizeRange]; omega)
    simp only [size, content]
    rw [if_neg (by omega), if_pos large]
    exact error_isError _

end ZstdRuby.Libzstd
