import ZstdRuby.Libzstd.SkippableFrame

/-! # `Zstd.write_skippable_frame` and `Zstd.read_skippable_frame`

The functions of `skippable_frame.c`.
-/

namespace ZstdRuby

open Libzstd

/-- The fixed destination size of `rb_read_skippable_frame`. -/
def skipLen : Nat := 129 * 1024

/-- The magic variant of `rb_write_skippable_frame`: an `int` stored in an
`unsigned`. -/
def magicVariant (kwargs : Kwargs) : Except RubyError Nat := do
  let values ← rbGetKwargs kwargs ["magic_variant"]
  match values "magic_variant" with
  | some value => do
      let number ← value.num2int
      return (number % 2 ^ 32).toNat
  | none => return 0

/-- `rb_write_skippable_frame`. `beyond` is the memory past the end of the
input string, which `rb_str_new` reads. -/
def rbWriteSkippableFrame (beyond : Nat → UInt8) (input skip : Value) (kwargs : Kwargs) :
    Except RubyError Bytes := do
  let variant ← magicVariant kwargs
  let inputData ← input.stringValue
  let skipData ← skip.stringValue
  let dstSize := (inputData.length + skippableHeaderSize + skipData.length) % sizeRange
  let output := rbStrNew inputData beyond dstSize
  let written := writeSkippableFrame output dstSize skipData variant
  if isError written.1 then
    .error (.runtimeError ("write skippable frame failed: " ++ getErrorName written.1))
  else
    .ok (rbStrResize written.2 written.1)

/-- `rb_read_skippable_frame`. `none` is Ruby's `nil`; `unset` is what the
freshly allocated destination holds. -/
def rbReadSkippableFrame (unset : Nat → UInt8) (input : Bytes) :
    Except RubyError (Option Bytes) :=
  if !isSkippableFrame input then
    .ok none
  else
    let output := rbStrNew [] unset skipLen
    let read := readSkippableFrame output skipLen input
    if isError read.1 then
      .error (.runtimeError ("read skippable frame failed: " ++ getErrorName read.1))
    else
      .ok (some (rbStrResize read.2 read.1))

/-! ## What the writer returns -/

theorem magicVariant_of_num2int {value : Value} {number : Int}
    (converted : value.num2int = .ok number) :
    magicVariant [("magic_variant", value)] = .ok (number % 2 ^ 32).toNat := by
  simp only [magicVariant, rbGetKwargs_single, List.lookup_cons_self, converted, bind,
    Except.bind, pure, Except.pure]

theorem magicVariant_of_lt {variant : Nat} (fits : variant < 2 ^ 31) :
    magicVariant [("magic_variant", .integer variant)] = .ok variant := by
  have converted := @Value.num2int_integer variant (by omega) (by omega)
  have stored : ((variant : Int) % 2 ^ 32).toNat = variant := by omega
  rw [magicVariant_of_num2int converted, stored]

theorem isError_of_small {size : Nat} (small : size ≤ 2 ^ 33) : isError size = false := by
  apply decide_eq_false
  simp only [sizeRange, maxCode]
  omega

theorem rbWriteSkippableFrame_eq {beyond : Nat → UInt8} {input skip output : Bytes}
    {variant : Nat} (small : variant ≤ 15)
    (accepted : rbWriteSkippableFrame beyond (.string input) (.string skip)
      [("magic_variant", .integer variant)] = .ok output) :
    skip.length ≤ 0xFFFFFFFF ∧ output = skippableFrame variant skip := by
  simp only [rbWriteSkippableFrame, magicVariant_of_lt (by omega : variant < 2 ^ 31),
    Value.stringValue_string, bind, Except.bind] at accepted
  split at accepted
  · cases accepted
  · rename_i written
    have checked := writeSkippableFrame_accepts (Bool.eq_false_iff.mpr written)
    rcases checked with ⟨room, fits, -⟩
    have dstSize := rbStrNew_length input beyond
      ((input.length + skippableHeaderSize + skip.length) % sizeRange)
    have result := writeSkippableFrame_eq (by rwa [dstSize]) fits small
    rw [dstSize] at result
    rw [result] at accepted
    have content := Except.ok.inj accepted
    rw [rbStrResize, Nat.add_comm, ← skippableFrame_length variant skip,
      memcpy_zero_take] at content
    exact ⟨fits, content.symm⟩

theorem rbWriteSkippableFrame_ok (beyond : Nat → UInt8) {input skip : Bytes} {variant : Nat}
    (small : variant ≤ 15) (fits : skip.length ≤ 0xFFFFFFFF)
    (limit : input.length < 2 ^ 63) :
    rbWriteSkippableFrame beyond (.string input) (.string skip)
      [("magic_variant", .integer variant)] = .ok (skippableFrame variant skip) := by
  have noWrap : (input.length + skippableHeaderSize + skip.length) % sizeRange =
      input.length + skippableHeaderSize + skip.length :=
    Nat.mod_eq_of_lt (by simp only [skippableHeaderSize, sizeRange]; omega)
  have dstSize := rbStrNew_length input beyond
    (input.length + skippableHeaderSize + skip.length)
  have result := writeSkippableFrame_eq (by rw [dstSize]; omega) fits small
  rw [dstSize] at result
  have sound : isError (skip.length + skippableHeaderSize) = false :=
    isError_of_small (by simp only [skippableHeaderSize]; omega)
  simp only [rbWriteSkippableFrame, magicVariant_of_lt (by omega : variant < 2 ^ 31),
    Value.stringValue_string, bind, Except.bind, noWrap, result, sound,
    Bool.false_eq_true, if_false, rbStrResize]
  rw [Nat.add_comm, ← skippableFrame_length variant skip, memcpy_zero_take]

/-! ## Reading back -/

theorem rbReadSkippableFrame_iff (unset : Nat → UInt8) {skip : Bytes} {variant : Nat}
    (small : variant ≤ 15) (fits : skip.length ≤ 0xFFFFFFFF) :
    rbReadSkippableFrame unset (skippableFrame variant skip) = .ok (some skip) ↔
      skip.length ≤ skipLen := by
  rw [rbReadSkippableFrame, isSkippableFrame_skippableFrame small]
  constructor
  · intro restored
    by_contra large
    have refused := readSkippableFrame_tooLarge small (rbStrNew [] unset skipLen)
      (by omega) (not_le.mp large)
    simp [refused] at restored
  · intro room
    have read := readSkippableFrame_eq small (rbStrNew [] unset skipLen) room (by decide)
    simp only [read, isError_of_small (by omega : skip.length ≤ 2 ^ 33), rbStrResize,
      memcpy_zero_take, Bool.not_true, Bool.false_eq_true, if_false]

/-- `read_skippable_frame` undoes `write_skippable_frame` exactly for the
payloads that fit the reader's fixed destination. -/
theorem rbReadSkippableFrame_rbWriteSkippableFrame
    (beyond unset : Nat → UInt8) (input skip output : Bytes) (variant : Nat)
    (small : variant ≤ 15)
    (accepted : rbWriteSkippableFrame beyond (.string input) (.string skip)
      [("magic_variant", .integer variant)] = .ok output) :
    rbReadSkippableFrame unset output = .ok (some skip) ↔ skip.length ≤ skipLen := by
  rcases rbWriteSkippableFrame_eq small accepted with ⟨fits, rfl⟩
  exact rbReadSkippableFrame_iff unset small fits

def sampleData : Bytes :=
  [0x73, 0x61, 0x6D, 0x70, 0x6C, 0x65, 0x20, 0x64, 0x61, 0x74, 0x61]

theorem rbReadSkippableFrame_sampleData :
    rbReadSkippableFrame (fun _ => 0) (skippableFrame 1 sampleData) =
      .ok (some sampleData) :=
  (rbReadSkippableFrame_rbWriteSkippableFrame (fun _ => 0) (fun _ => 0) [] sampleData
    (skippableFrame 1 sampleData) 1 (by decide)
    (rbWriteSkippableFrame_ok _ (by decide) (by decide) (by decide))).mpr (by decide)

def oversizedPayload : Bytes := List.replicate (skipLen + 1) 0x61

/-- It is written and cannot be read back. -/
theorem rbReadSkippableFrame_oversizedPayload :
    rbWriteSkippableFrame (fun _ => 0) (.string []) (.string oversizedPayload)
        [("magic_variant", .integer 0)] = .ok (skippableFrame 0 oversizedPayload) ∧
      rbReadSkippableFrame (fun _ => 0) (skippableFrame 0 oversizedPayload) ≠
        .ok (some oversizedPayload) := by
  have length : oversizedPayload.length = skipLen + 1 := List.length_replicate
  have fits : oversizedPayload.length ≤ 0xFFFFFFFF := by rw [length]; decide
  constructor
  · exact rbWriteSkippableFrame_ok _ (by decide) fits (by decide)
  · intro restored
    have room := (rbReadSkippableFrame_iff _ (by decide) fits).mp restored
    omega

end ZstdRuby
