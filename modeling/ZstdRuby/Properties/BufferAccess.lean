import ZstdRuby.Extension.BufferAccess

/-! # Bounds of the skippable-frame functions

`read_skippable_frame` stays inside its buffers, whatever it is given.
`write_skippable_frame` makes its output with `rb_str_new` from the input string,
at the size of the output: it reads past the end of the input.
-/

namespace ZstdRuby

open Libzstd

/-! ## The record changes no result -/

@[simp] theorem readLE32At_result (source : Bytes) (offset : Nat) :
    (readLE32At source offset).result = .ok (readLE32 (source.drop offset)) := rfl

@[simp] theorem writeLE32At_result (dst : Bytes) (offset number : Nat) :
    (writeLE32At dst offset number).result = .ok (memcpy dst offset (writeLE32 number)) := rfl

@[simp] theorem copyAt_result (dst : Bytes) (offset : Nat) (source : Bytes) (start count : Nat) :
    (copyAt dst offset source start count).result =
      .ok (memcpy dst offset ((source.drop start).take count)) := rfl

@[simp] theorem isSkippableFrameAccesses_result (buffer : Bytes) :
    (isSkippableFrameAccesses buffer).result = .ok (isSkippableFrame buffer) := by
  simp only [isSkippableFrameAccesses, isSkippableFrame]
  split <;> rfl

@[simp] theorem readSkippableFrameSizeAccesses_result (src : Bytes) :
    (readSkippableFrameSizeAccesses src).result = .ok (readSkippableFrameSize src) := by
  simp only [readSkippableFrameSizeAccesses, readSkippableFrameSize]
  split
  · rfl
  · simp only [Recorded.bind_result, readLE32At_result, Recorded.except_ok_bind]
    split
    · rfl
    · split <;> rfl

@[simp] theorem readSkippableFrameAccesses_result (dst : Bytes) (dstCapacity : Nat)
    (src : Bytes) :
    (readSkippableFrameAccesses dst dstCapacity src).result =
      .ok (readSkippableFrame dst dstCapacity src) := by
  simp only [readSkippableFrameAccesses, readSkippableFrame]
  split
  · rfl
  · simp only [Recorded.bind_result, readLE32At_result, readSkippableFrameSizeAccesses_result,
      isSkippableFrameAccesses_result, Recorded.except_ok_bind]
    split
    · rfl
    · split
      · rfl
      · split
        · rfl
        · split <;> rfl

@[simp] theorem writeSkippableFrameAccesses_result (dst : Bytes) (dstCapacity : Nat)
    (src : Bytes) (magicVariant : Nat) :
    (writeSkippableFrameAccesses dst dstCapacity src magicVariant).result =
      .ok (writeSkippableFrame dst dstCapacity src magicVariant) := by
  simp only [writeSkippableFrameAccesses, writeSkippableFrame]
  split
  · rfl
  · split
    · rfl
    · split
      · rfl
      · simp

theorem rbReadSkippableFrameAccesses_result (unset : Nat → UInt8) (input : Bytes) :
    (rbReadSkippableFrameAccesses unset input).result = rbReadSkippableFrame unset input := by
  simp only [rbReadSkippableFrameAccesses, rbReadSkippableFrame, Recorded.bind_result,
    isSkippableFrameAccesses_result, Recorded.except_ok_bind]
  split
  · rfl
  · simp only [Recorded.bind_result, readSkippableFrameAccesses_result, Recorded.except_ok_bind]
    split <;> rfl

theorem rbStrNewAccesses_result (source : Bytes) (beyond : Nat → UInt8) {size : Nat}
    (small : size < 2 ^ 63) :
    (rbStrNewAccesses source beyond size).result = .ok (rbStrNew source beyond size) := by
  rw [rbStrNewAccesses, if_neg (by omega)]
  rfl

theorem rbWriteSkippableFrameAccesses_result (beyond : Nat → UInt8) {input skip : Value}
    (kwargs : Kwargs)
    (short : ∀ inputData skipData, input.stringValue = .ok inputData →
      skip.stringValue = .ok skipData →
      inputData.length + skippableHeaderSize + skipData.length < 2 ^ 63) :
    (rbWriteSkippableFrameAccesses beyond input skip kwargs).result =
      rbWriteSkippableFrame beyond input skip kwargs := by
  simp only [rbWriteSkippableFrameAccesses, rbWriteSkippableFrame, Recorded.bind_result,
    Recorded.lift_result]
  apply congrArg
  funext variant
  cases givenInput : input.stringValue with
  | error raised => rfl
  | ok inputData =>
      cases givenSkip : skip.stringValue with
      | error raised => rfl
      | ok skipData =>
          have small := short inputData skipData givenInput givenSkip
          have exact : (inputData.length + skippableHeaderSize + skipData.length) % sizeRange =
              inputData.length + skippableHeaderSize + skipData.length :=
            Nat.mod_eq_of_lt (by simp only [sizeRange]; omega)
          simp only [Recorded.except_ok_bind, exact, rbStrNewAccesses_result _ _ small,
            writeSkippableFrameAccesses_result]
          split <;> rfl

/-! ## The reader stays in bounds -/

theorem readLE32At_inBounds {source : Bytes} {offset : Nat}
    (enough : offset + 4 ≤ source.length) : (readLE32At source offset).Only Access.InBounds := by
  rw [readLE32At, Recorded.only_note_bind]
  refine ⟨fun index small => ?_, Recorded.only_lift _⟩
  omega

theorem writeLE32At_inBounds {dst : Bytes} {offset : Nat} (number : Nat)
    (enough : offset + 4 ≤ dst.length) :
    (writeLE32At dst offset number).Only Access.InBounds := by
  rw [writeLE32At, Recorded.only_note_bind]
  refine ⟨fun index small => ?_, Recorded.only_lift _⟩
  omega

theorem copyAt_inBounds {dst source : Bytes} {offset start count : Nat}
    (enough : start + count ≤ source.length) (room : offset + count ≤ dst.length) :
    (copyAt dst offset source start count).Only Access.InBounds := by
  rw [copyAt, Recorded.only_note_bind, Recorded.only_note_bind]
  refine ⟨fun index small => ?_, fun index small => ?_, Recorded.only_lift _⟩
  · omega
  · omega

theorem isSkippableFrameAccesses_inBounds (buffer : Bytes) :
    (isSkippableFrameAccesses buffer).Only Access.InBounds := by
  rw [isSkippableFrameAccesses]
  split
  · exact Recorded.only_lift _
  · rename_i enough
    rw [frameIdSize] at enough
    exact (readLE32At_inBounds (by omega)).bind fun _ _ => Recorded.only_lift _

theorem readSkippableFrameSizeAccesses_inBounds (src : Bytes) :
    (readSkippableFrameSizeAccesses src).Only Access.InBounds := by
  rw [readSkippableFrameSizeAccesses]
  split
  · exact Recorded.only_lift _
  · rename_i enough
    rw [skippableHeaderSize] at enough
    apply (readLE32At_inBounds (by rw [frameIdSize]; omega)).bind
    intro sizeU32 _
    split
    · exact Recorded.only_lift _
    · split <;> exact Recorded.only_lift _

theorem readSkippableFrameAccesses_inBounds (dst src : Bytes) :
    (readSkippableFrameAccesses dst dst.length src).Only Access.InBounds := by
  rw [readSkippableFrameAccesses]
  split
  · exact Recorded.only_lift _
  · rename_i enough
    rw [skippableHeaderSize] at enough
    apply (readLE32At_inBounds (by omega)).bind
    intro magicNumber _
    apply (readSkippableFrameSizeAccesses_inBounds src).bind
    intro skippableFrameSize _
    apply (isSkippableFrameAccesses_inBounds src).bind
    intro skippable _
    split
    · exact Recorded.only_lift _
    · split
      · exact Recorded.only_lift _
      · split
        · exact Recorded.only_lift _
        · split
          · rename_i valid room some
            -- A size that passed the check wraps round to nothing.
            have content : (skippableFrameSize + sizeRange - skippableHeaderSize) % sizeRange ≤
                skippableFrameSize - skippableHeaderSize := by
              rw [show skippableFrameSize + sizeRange - skippableHeaderSize =
                skippableFrameSize - skippableHeaderSize + sizeRange by omega, Nat.add_mod_right]
              exact Nat.mod_le _ _
            apply (copyAt_inBounds (by omega) (by omega)).bind
            exact fun _ _ => Recorded.only_lift _
          · exact Recorded.only_lift _

theorem readSkippableFrame_le {dst src : Bytes} {dstCapacity : Nat}
    (accepted : isError (readSkippableFrame dst dstCapacity src).1 = false) :
    (readSkippableFrame dst dstCapacity src).1 ≤ dstCapacity := by
  revert accepted
  simp only [readSkippableFrame]
  split
  · simp [error_isError]
  · split
    · simp [error_isError]
    · split
      · simp [error_isError]
      · split
        · simp [error_isError]
        · simp only
          omega

theorem rbReadSkippableFrameAccesses_inBounds (unset : Nat → UInt8) (input : Bytes) :
    (rbReadSkippableFrameAccesses unset input).Only Access.InBounds := by
  rw [rbReadSkippableFrameAccesses]
  apply (isSkippableFrameAccesses_inBounds input).bind
  intro skippable _
  split
  · exact Recorded.only_lift _
  · have size := rbStrNew_length [] unset skipLen
    have reads := readSkippableFrameAccesses_inBounds (rbStrNew [] unset skipLen) input
    rw [size] at reads
    apply reads.bind
    intro read returned
    rw [readSkippableFrameAccesses_result] at returned
    cases returned
    split
    · exact Recorded.only_lift _
    · rename_i accepted
      rw [Recorded.only_note_bind, Access.InBounds, size]
      exact ⟨readSkippableFrame_le (Bool.eq_false_iff.mpr accepted), Recorded.only_lift _⟩

/-! ## The writer reads too much -/

theorem writeSkippableFrameAccesses_inBounds (dst src : Bytes) (magicVariant : Nat) :
    (writeSkippableFrameAccesses dst dst.length src magicVariant).Only Access.InBounds := by
  rw [writeSkippableFrameAccesses]
  split
  · exact Recorded.only_lift _
  · split
    · exact Recorded.only_lift _
    · split
      · exact Recorded.only_lift _
      · rename_i room fits _
        rw [Nat.mod_eq_of_lt (by simp only [skippableHeaderSize, sizeRange]; omega),
          skippableHeaderSize] at room
        apply (writeLE32At_inBounds _ (by omega)).bind
        intro first returned
        rw [writeLE32At_result] at returned
        cases returned
        have firstLength := @memcpy_length dst 0
          (writeLE32 (magicSkippableStart + magicVariant)) (by rw [writeLE32_length]; omega)
        apply (writeLE32At_inBounds _ (by omega)).bind
        intro second returned
        rw [writeLE32At_result] at returned
        cases returned
        have secondLength := @memcpy_length
          (memcpy dst 0 (writeLE32 (magicSkippableStart + magicVariant))) 4
          (writeLE32 src.length) (by rw [writeLE32_length]; omega)
        apply (copyAt_inBounds (by omega) (by omega)).bind
        exact fun _ _ => Recorded.only_lift _

theorem writeSkippableFrame_le {dst src : Bytes} {dstCapacity magicVariant : Nat}
    (accepted : isError (writeSkippableFrame dst dstCapacity src magicVariant).1 = false) :
    (writeSkippableFrame dst dstCapacity src magicVariant).1 ≤ dstCapacity := by
  have checked := writeSkippableFrame_accepts accepted
  have exact : (src.length + skippableHeaderSize) % sizeRange = src.length + skippableHeaderSize :=
    Nat.mod_eq_of_lt (by simp only [skippableHeaderSize, sizeRange]; omega)
  rw [writeSkippableFrame, exact, if_neg (by omega), if_neg (by omega), if_neg (by omega)]
  exact checked.1

/-- The magic variant is absent or an `int`, and there is no other keyword. -/
def VariantGiven (kwargs : Kwargs) : Prop :=
  ¬UnknownKeyword kwargs ["magic_variant"] ∧
    ∀ value, kwargs.lookup "magic_variant" = some value → ∃ number, value.num2int = .ok number

theorem magicVariant_accepts_iff (kwargs : Kwargs) :
    (∃ variant, magicVariant kwargs = .ok variant) ↔ VariantGiven kwargs := by
  by_cases unknown : UnknownKeyword kwargs ["magic_variant"]
  · rcases rbGetKwargs_of_unknown unknown with ⟨raised, refused⟩
    simp [magicVariant, refused, VariantGiven, unknown]
  · simp only [magicVariant, rbGetKwargs_of_known unknown, Recorded.except_ok_bind, VariantGiven,
      unknown, not_false_eq_true, true_and]
    cases kwargs.lookup "magic_variant" with
    | none => simp [pure, Except.pure]
    | some value =>
        simp only [Option.some.injEq, forall_eq']
        cases value.num2int with
        | error raised => simp
        | ok number => simp [pure, Except.pure]

/-- The call gets as far as `rb_str_new`, which takes the size. -/
def MakesOutput (input skip : Value) (kwargs : Kwargs) : Prop :=
  VariantGiven kwargs ∧ ∃ inputData skipData, input.stringValue = .ok inputData ∧
    skip.stringValue = .ok skipData ∧
    inputData.length + skippableHeaderSize + skipData.length < 2 ^ 63

theorem rbStrNewAccesses_inBounds_iff (source : Bytes) (beyond : Nat → UInt8) (size : Nat) :
    (rbStrNewAccesses source beyond size).Only Access.InBounds ↔
      (size < 2 ^ 63 → size ≤ source.length) := by
  rw [rbStrNewAccesses]
  split
  · rename_i large
    apply iff_of_true (Recorded.only_lift _)
    omega
  · rename_i small
    rw [Recorded.only_note_bind, Recorded.only_note_bind]
    constructor
    · rintro ⟨within, -⟩ -
      by_contra past
      exact absurd (within source.length (by omega)) (by omega)
    · intro enough
      have within := enough (by omega)
      refine ⟨fun index inside => ?_, fun index inside => ?_, Recorded.only_lift _⟩
      · omega
      · omega

theorem outputSize_within_iff {inputSize skipSize : Nat} (inputShort : inputSize < 2 ^ 63)
    (skipShort : skipSize < 2 ^ 63) :
    ((inputSize + skippableHeaderSize + skipSize) % sizeRange < 2 ^ 63 →
        (inputSize + skippableHeaderSize + skipSize) % sizeRange ≤ inputSize) ↔
      ¬inputSize + skippableHeaderSize + skipSize < 2 ^ 63 := by
  simp only [skippableHeaderSize, sizeRange]
  omega

theorem rbWriteSkippableFrameAccesses_inBounds_iff (beyond : Nat → UInt8) {input skip : Value}
    (kwargs : Kwargs)
    (inputShort : ∀ bytes, input.stringValue = .ok bytes → bytes.length < 2 ^ 63)
    (skipShort : ∀ bytes, skip.stringValue = .ok bytes → bytes.length < 2 ^ 63) :
    (rbWriteSkippableFrameAccesses beyond input skip kwargs).Only Access.InBounds ↔
      ¬MakesOutput input skip kwargs := by
  have given := magicVariant_accepts_iff kwargs
  rw [rbWriteSkippableFrameAccesses, MakesOutput, ← given]
  cases variantGiven : magicVariant kwargs with
  | error raised => simpa using Recorded.only_lift _
  | ok variant =>
      cases inputGiven : input.stringValue with
      | error raised => simpa using Recorded.only_lift _
      | ok inputData =>
          cases skipGiven : skip.stringValue with
          | error raised => simpa using Recorded.only_lift _
          | ok skipData =>
              have inputBound := inputShort inputData inputGiven
              have skipBound := skipShort skipData skipGiven
              have within := outputSize_within_iff inputBound skipBound
              rw [← rbStrNewAccesses_inBounds_iff inputData beyond] at within
              simp only [Recorded.lift_ok_bind, Except.ok.injEq, exists_eq', exists_eq_left',
                exists_and_left, true_and, ← within]
              refine ⟨fun only => only.of_bind, fun only => only.bind fun output returned => ?_⟩
              have size : output.length =
                  (inputData.length + skippableHeaderSize + skipData.length) % sizeRange := by
                rw [rbStrNewAccesses] at returned
                split at returned
                · cases returned
                · cases returned
                  exact rbStrNew_length _ _ _
              rw [← size]
              apply (writeSkippableFrameAccesses_inBounds output skipData variant).bind
              intro written returned
              rw [writeSkippableFrameAccesses_result] at returned
              cases returned
              split
              · exact Recorded.only_lift _
              · rename_i accepted
                rw [Recorded.only_note_bind]
                exact ⟨writeSkippableFrame_le (Bool.eq_false_iff.mpr accepted),
                  Recorded.only_lift _⟩

/-! ## Both functions -/

/-- The reader always stays in bounds. The writer does so only where it raises
before it makes its output. -/
theorem skippableFrame_inBounds_iff (beyond unset : Nat → UInt8) :
    (∀ input, (rbReadSkippableFrameAccesses unset input).Only Access.InBounds) ∧
    ∀ (input skip : Value) (kwargs : Kwargs),
      (∀ bytes, input.stringValue = .ok bytes → bytes.length < 2 ^ 63) →
      (∀ bytes, skip.stringValue = .ok bytes → bytes.length < 2 ^ 63) →
      ((rbWriteSkippableFrameAccesses beyond input skip kwargs).Only Access.InBounds ↔
        ¬MakesOutput input skip kwargs) :=
  ⟨rbReadSkippableFrameAccesses_inBounds unset,
    fun _ _ kwargs => rbWriteSkippableFrameAccesses_inBounds_iff beyond kwargs⟩

theorem skippableFrame_inBounds_iff_unknownKeyword :
    (rbWriteSkippableFrameAccesses (fun _ => 0) (.string []) (.string sampleData)
      [("variant", .integer 1)]).Only Access.InBounds := by
  have short : ∀ bytes, (Value.string []).stringValue = .ok bytes → bytes.length < 2 ^ 63 := by
    rintro bytes ⟨⟩
    decide
  have skipShort : ∀ bytes, (Value.string sampleData).stringValue = .ok bytes →
      bytes.length < 2 ^ 63 := by
    rintro bytes ⟨⟩
    decide
  apply ((skippableFrame_inBounds_iff (fun _ => 0) (fun _ => 0)).2 _ _ _ short skipShort).mpr
  rintro ⟨⟨known, -⟩, -⟩
  exact known ⟨"variant", by simp, by simp⟩

/-- For an empty input, `rb_str_new` reads all the bytes of the output from it. -/
theorem rbWriteSkippableFrame_outOfBounds :
    ¬(rbWriteSkippableFrameAccesses (fun _ => 0) (.string []) (.string sampleData) []).Only
      Access.InBounds := by
  intro only
  have past := only (.read 0 0 19) List.mem_cons_self 0 (by decide)
  exact absurd past (by decide)

end ZstdRuby
