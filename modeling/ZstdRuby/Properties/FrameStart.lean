import ZstdRuby.Extension.Decompress
import ZstdRuby.Libzstd.SkippableFrame

/-! # Where `rb_decompress` finds a frame

The scan steps over complete skippable frames and over single bytes, up to a
magic number of a data frame. This is what it steps over, described without the
loop.
-/

namespace ZstdRuby

open Libzstd

/-! ## What is stepped over -/

/-- The bytes start with no magic number. -/
def NoMagic (bytes : Bytes) : Prop :=
  isSkippableMagic (readLE32 bytes) = false ∧ readLE32 bytes ≠ magicNumber

/-- `SteppedOver front rest`: `front` consists of complete skippable frames and
of bytes at which, with what follows them, no magic number starts. `rest` is what
follows `front`. -/
inductive SteppedOver : (front rest : Bytes) → Prop
  | nil (rest : Bytes) : SteppedOver [] rest
  | frame {variant : Nat} {payload front rest : Bytes} (small : variant ≤ 15)
      (fits : payload.length < 2 ^ 32) (stepped : SteppedOver front rest) :
      SteppedOver (skippableFrame variant payload ++ front) rest
  | byte {byte : UInt8} {front rest : Bytes} (enough : 4 ≤ (byte :: (front ++ rest)).length)
      (noMagic : NoMagic (byte :: (front ++ rest))) (stepped : SteppedOver front rest) :
      SteppedOver (byte :: front) rest

theorem SteppedOver.append {front more rest : Bytes} (first : SteppedOver front (more ++ rest))
    (second : SteppedOver more rest) : SteppedOver (front ++ more) rest := by
  generalize equal : more ++ rest = after at first
  induction first with
  | nil => exact second
  | frame small fits stepped induction =>
      rw [List.append_assoc]
      exact .frame small fits (induction equal)
  | byte enough noMagic stepped induction =>
      subst equal
      rw [← List.append_assoc] at enough noMagic
      exact .byte enough noMagic (induction rfl)

/-! ## Bytes without magic numbers -/

/-- No four consecutive bytes are a magic number. -/
def NoMagicWithin (garbage : Bytes) : Prop :=
  ∀ window, window <:+: garbage → window.length = 4 → NoMagic window

theorem NoMagicWithin.tail {byte : UInt8} {garbage : Bytes}
    (clean : NoMagicWithin (byte :: garbage)) : NoMagicWithin garbage :=
  fun window inside => clean window (inside.trans (List.suffix_cons byte garbage).isInfix)

theorem noMagic_of_fourth {first second third fourth : UInt8} {rest : Bytes}
    (notSkippable : fourth ≠ 0x18) (notData : fourth ≠ 0xFD) :
    NoMagic (first :: second :: third :: fourth :: rest) := by
  have number : readLE32 (first :: second :: third :: fourth :: rest) =
      first.toNat + 256 * (second.toNat + 256 * (third.toNat + 256 * fourth.toNat)) := by
    simp [readLE32, LittleEndian.value]
  have firstBound := UInt8.toNat_lt first
  have secondBound := UInt8.toNat_lt second
  have thirdBound := UInt8.toNat_lt third
  rw [Ne, ← UInt8.toNat_inj] at notSkippable notData
  change fourth.toNat ≠ 0x18 at notSkippable
  change fourth.toNat ≠ 0xFD at notData
  constructor
  · rw [← Bool.not_eq_true]
    intro skippable
    rcases isSkippableMagic_inv (readLE32_lt _) skippable with ⟨variant, small, equal⟩
    rw [number, magicSkippableStart] at equal
    omega
  · rw [number, magicNumber]
    omega

theorem NoMagicWithin.noMagic {byte : UInt8} {garbage frame : Bytes}
    (clean : NoMagicWithin (byte :: garbage)) (magic : writeLE32 magicNumber <+: frame) :
    NoMagic (byte :: (garbage ++ frame)) := by
  rcases magic with ⟨after, rfl⟩
  -- The magic number is `28 B5 2F FD`.
  match garbage with
  | [] => exact noMagic_of_fourth (by decide) (by decide)
  | [_] => exact noMagic_of_fourth (by decide) (by decide)
  | [_, _] => exact noMagic_of_fourth (by decide) (by decide)
  | second :: third :: fourth :: garbage =>
      have window := clean [byte, second, third, fourth]
        (List.prefix_append [byte, second, third, fourth] garbage).isInfix rfl
      have same : readLE32 (byte :: (second :: third :: fourth :: garbage ++
          (writeLE32 magicNumber ++ after))) = readLE32 [byte, second, third, fourth] :=
        @readLE32_append [byte, second, third, fourth]
          (garbage ++ (writeLE32 magicNumber ++ after)) (le_refl 4)
      rwa [NoMagic, same]

theorem NoMagicWithin.steppedOver {garbage frame : Bytes} (clean : NoMagicWithin garbage)
    (magic : writeLE32 magicNumber <+: frame) : SteppedOver garbage frame := by
  have length := magic.length_le
  rw [writeLE32_length] at length
  induction garbage with
  | nil => exact .nil frame
  | cons byte garbage induction =>
      apply SteppedOver.byte _ (clean.noMagic magic) (induction clean.tail)
      rw [List.length_cons, List.length_append]
      omega

theorem NoMagicWithin.steppedOver_end {garbage : Bytes} (clean : NoMagicWithin garbage) :
    ∃ front rest, garbage = front ++ rest ∧ SteppedOver front rest ∧ rest.length < 4 := by
  induction garbage with
  | nil => exact ⟨[], [], rfl, .nil [], by decide⟩
  | cons byte garbage induction =>
      rcases induction clean.tail with ⟨front, rest, split, stepped, few⟩
      by_cases enough : 4 ≤ (byte :: garbage).length
      · refine ⟨byte :: front, rest, by rw [split, List.cons_append], ?_, few⟩
        have window := clean ((byte :: garbage).take 4) (List.take_prefix 4 _).isInfix
          (by rw [List.length_take, min_eq_left enough])
        have same : readLE32 ((byte :: garbage).take 4) = readLE32 (byte :: garbage) := by
          rw [readLE32, readLE32, List.take_take, min_self]
        rw [NoMagic, same, split] at window
        exact .byte (split ▸ enough) window stepped
      · exact ⟨[], byte :: garbage, rfl, .nil _, by omega⟩

/-! ## Passes of the scan -/

section

variable {input rest : Bytes} {off : Nat}

theorem scanPass_skippableFrame {variant : Nat} {payload : Bytes} (small : variant ≤ 15)
    (fits : payload.length < 2 ^ 32)
    (short : off + (skippableFrame variant payload).length < 2 ^ 63)
    (found : input.drop off = skippableFrame variant payload ++ rest) :
    scanPass 64 input off = .again (off + (skippableFrame variant payload).length) := by
  have length := congrArg List.length found
  rw [List.length_drop, List.length_append, skippableFrame_length, skippableHeaderSize] at length
  have magic := readLE32_skippableFrame small payload rest
  have size := readLE32_skippableFrame_size variant payload rest fits
  rw [← found] at magic size
  rw [List.drop_drop, frameIdSize] at size
  have skippable := isSkippableMagic_variant (by omega : variant < 16)
  have advance : (8 + payload.length) % 2 ^ 64 = 8 + payload.length :=
    Nat.mod_eq_of_lt (by omega)
  rw [skippableFrame_length, skippableHeaderSize] at short
  rw [scanPass, Nat.mod_eq_of_lt (by omega : off + 4 < 2 ^ 64), if_neg (by omega)]
  simp only [magic, skippable, if_true, size, advance]
  rw [Nat.mod_eq_of_lt (by omega : off + 8 < 2 ^ 64), if_neg (by omega),
    Nat.mod_eq_of_lt (by omega : off + (8 + payload.length) < 2 ^ 64), if_neg (by omega),
    skippableFrame_length, skippableHeaderSize]

theorem scanPass_dataFrame (short : off < 2 ^ 63)
    (found : writeLE32 magicNumber <+: input.drop off) :
    scanPass 64 input off = .leave (some off) := by
  rcases found with ⟨after, found⟩
  have length := congrArg List.length found
  rw [List.length_append, writeLE32_length, List.length_drop] at length
  have magic := readLE32_writeLE32 magicNumber after
  rw [found, Nat.mod_eq_of_lt (by decide)] at magic
  rw [scanPass, Nat.mod_eq_of_lt (by omega : off + 4 < 2 ^ 64), if_neg (by omega)]
  simp only [magic, isSkippableMagic_magicNumber, Bool.false_eq_true, if_false, if_true]

theorem scanPass_noMagic (short : off < 2 ^ 63) (enough : 4 ≤ (input.drop off).length)
    (noMagic : NoMagic (input.drop off)) : scanPass 64 input off = .again (off + 1) := by
  rw [List.length_drop] at enough
  rw [scanPass, Nat.mod_eq_of_lt (by omega : off + 4 < 2 ^ 64), if_neg (by omega)]
  simp only [noMagic.1, Bool.false_eq_true, if_false, if_neg noMagic.2]
  rw [Nat.mod_eq_of_lt (by omega : off + 1 < 2 ^ 64)]

theorem scanPass_end (short : off < 2 ^ 63) (few : input.length < off + 4) :
    scanPass 64 input off = .leave none := by
  rw [scanPass, Nat.mod_eq_of_lt (by omega : off + 4 < 2 ^ 64), if_pos (by omega)]

theorem scanPass_truncated (short : input.length < 2 ^ 63) (enough : off + 4 ≤ input.length)
    (skippable : isSkippableMagic (readLE32 (input.drop off)) = true)
    (few : input.length < off + 8 + readLE32 (input.drop (off + 4))) :
    scanPass 64 input off = .leave none := by
  have field := readLE32_lt (input.drop (off + 4))
  rw [scanPass, Nat.mod_eq_of_lt (by omega : off + 4 < 2 ^ 64), if_neg (by omega)]
  simp only [skippable, if_true]
  rw [Nat.mod_eq_of_lt (by omega : off + 8 < 2 ^ 64),
    Nat.mod_eq_of_lt (by omega : 8 + readLE32 (input.drop (off + 4)) < 2 ^ 64),
    Nat.mod_eq_of_lt (by omega : off + (8 + readLE32 (input.drop (off + 4))) < 2 ^ 64)]
  by_cases header : off + 8 > input.length
  · rw [if_pos header]
  · rw [if_neg header, if_pos (by omega)]

def StepsOver (input : Bytes) (off : Nat) : Prop :=
  ∃ part, part ≠ [] ∧ input.drop off = part ++ input.drop (off + part.length) ∧
    SteppedOver part (input.drop (off + part.length)) ∧
    scanPass 64 input off = .again (off + part.length)

theorem stepsOver_frame (short : input.length < 2 ^ 63)
    (skippable : isSkippableMagic (readLE32 (input.drop off)) = true)
    (whole : off + 8 + readLE32 (input.drop (off + 4)) ≤ input.length) :
    StepsOver input off := by
  have fits : skippableHeaderSize + readLE32 ((input.drop off).drop frameIdSize) ≤
      (input.drop off).length := by
    rw [List.drop_drop, List.length_drop, skippableHeaderSize, frameIdSize]
    omega
  rcases exists_skippableFrame skippable fits with
    ⟨variant, payload, rest, small, size, found⟩
  have payloadFits : payload.length < 2 ^ 32 := size ▸ readLE32_lt _
  have total := congrArg List.length found
  rw [List.length_append, List.length_drop, skippableFrame_length, skippableHeaderSize] at total
  have after : input.drop (off + (skippableFrame variant payload).length) = rest := by
    rw [← List.drop_drop, found, List.drop_left]
  refine ⟨skippableFrame variant payload, ?_, ?_, ?_, ?_⟩
  · rw [← List.length_pos_iff, skippableFrame_length, skippableHeaderSize]
    omega
  · rw [after, found]
  · have stepped := SteppedOver.frame small payloadFits
      (.nil (input.drop (off + (skippableFrame variant payload).length)))
    rwa [List.append_nil] at stepped
  · apply scanPass_skippableFrame small payloadFits _ found
    rw [skippableFrame_length, skippableHeaderSize]
    omega

theorem stepsOver_byte (short : input.length < 2 ^ 63) (enough : 4 ≤ (input.drop off).length)
    (noMagic : NoMagic (input.drop off)) : StepsOver input off := by
  have within := enough
  rw [List.length_drop] at within
  have again := scanPass_noMagic (by omega) enough noMagic
  have tail : (input.drop off).tail = input.drop (off + 1) := List.tail_drop
  cases first : input.drop off with
  | nil =>
      rw [first] at enough
      exact absurd enough (by decide)
  | cons byte rest =>
      rw [first, List.tail_cons] at tail
      rw [first] at enough noMagic
      subst tail
      exact ⟨[byte], List.cons_ne_nil _ _, first, .byte enough noMagic (.nil _), again⟩

theorem scanPass_cases (short : input.length < 2 ^ 63) (within : off ≤ input.length) :
    scanPass 64 input off = .leave none ∨
    (writeLE32 magicNumber <+: input.drop off ∧ scanPass 64 input off = .leave (some off)) ∨
    StepsOver input off := by
  by_cases enough : off + 4 ≤ input.length
  · have length : 4 ≤ (input.drop off).length := by
      rw [List.length_drop]
      omega
    cases skippable : isSkippableMagic (readLE32 (input.drop off)) with
    | true =>
        by_cases whole : off + 8 + readLE32 (input.drop (off + 4)) ≤ input.length
        · exact Or.inr (Or.inr (stepsOver_frame short skippable whole))
        · exact Or.inl (scanPass_truncated short enough skippable (by omega))
    | false =>
        by_cases magic : readLE32 (input.drop off) = magicNumber
        · have found : writeLE32 magicNumber <+: input.drop off := by
            rw [← magic, writeLE32_readLE32 length]
            exact List.take_prefix _ _
          exact Or.inr (Or.inl ⟨found, scanPass_dataFrame (by omega) found⟩)
        · exact Or.inr (Or.inr (stepsOver_byte short length ⟨skippable, magic⟩))
  · exact Or.inl (scanPass_end (by omega) (by omega))

end

/-! ## The whole scan -/

section

variable {input front rest : Bytes} {off : Nat} {result : Option Nat}

theorem SteppedOver.scan (stepped : SteppedOver front rest) (found : input.drop off = front ++ rest)
    (short : off + front.length < 2 ^ 63)
    (after : Settles (fun fuel => Loop.run (scanPass 64 input) fuel (off + front.length))
      result) :
    Settles (fun fuel => Loop.run (scanPass 64 input) fuel off) result := by
  induction stepped generalizing off with
  | nil => exact after
  | @frame variant payload front rest small fits stepped induction =>
      rw [List.append_assoc] at found
      rw [List.length_append, ← Nat.add_assoc] at after short
      apply Loop.settles_again (scanPass_skippableFrame small fits (by omega) found)
      apply induction _ short after
      rw [← List.drop_drop, found, List.drop_left]
  | @byte byte front rest enough noMagic stepped induction =>
      rw [List.cons_append] at found
      rw [List.length_cons, Nat.add_comm front.length 1, ← Nat.add_assoc] at after short
      rw [← found] at enough noMagic
      apply Loop.settles_again (scanPass_noMagic (by omega) enough noMagic)
      apply induction _ short after
      rw [← List.tail_drop, found, List.tail_cons]

theorem scan_settles (short : input.length < 2 ^ 63) :
    ∃ result, Settles (fun fuel => Loop.run (scanPass 64 input) fuel 0) result ∧
      ∀ found, result = some found → SteppedOver (input.take found) (input.drop found) ∧
        writeLE32 magicNumber <+: input.drop found := by
  apply Loop.settles_of_variant
    (fun off => off ≤ input.length ∧ SteppedOver (input.take off) (input.drop off)) _
    (fun off => input.length - off) _ 0 ⟨Nat.zero_le _, .nil _⟩
  rintro off ⟨within, stepped⟩
  rcases scanPass_cases short within with ended | ⟨found, ended⟩ | ⟨part, some, split, more, again⟩
  · rw [ended]
    simp
  · rw [ended]
    rintro found' ⟨⟩
    exact ⟨stepped, found⟩
  · have length := congrArg List.length split
    rw [List.length_append, List.length_drop, List.length_drop] at length
    have positive := List.length_pos_iff.mpr some
    rw [again]
    refine ⟨⟨by omega, ?_⟩, by omega⟩
    have part_eq : input.take (off + part.length) = input.take off ++ part := by
      rw [List.take_add, split, List.take_left]
    rw [part_eq]
    rw [split] at stepped
    exact stepped.append more

end

/-! ## The frame a call decodes -/

/-- Behind what is stepped over, the input goes on with the magic number of a data
frame: `rest` begins there. -/
def LeadsToFrame (input : Value) (rest : Bytes) : Prop :=
  ∃ front, input.stringValue = .ok (front ++ rest) ∧ SteppedOver front rest ∧
    writeLE32 magicNumber <+: rest

section

variable {input : Value} {bytes rest : Bytes} {fuel : Nat}

theorem LeadsToFrame.scan (leads : LeadsToFrame input rest)
    (given : input.stringValue = .ok bytes) (short : bytes.length < 2 ^ 63) :
    ∃ off, Settles (fun fuel => Loop.run (scanPass 64 bytes) fuel 0) (some off) ∧
      bytes.drop off = rest := by
  rcases leads with ⟨front, split, stepped, magic⟩
  cases given.symm.trans split
  rw [List.length_append] at short
  have after : (front ++ rest).drop front.length = rest := List.drop_left
  rw [← after] at magic
  refine ⟨front.length, stepped.scan List.drop_zero (by omega) ?_, after⟩
  rw [Nat.zero_add]
  exact Loop.settles_leave (scanPass_dataFrame (by omega) magic)

theorem leadsToFrame_of_scan (given : input.stringValue = .ok bytes)
    (short : bytes.length < 2 ^ 63) {off : Nat}
    (scanned : Loop.run (scanPass 64 bytes) fuel 0 = some (some off)) :
    LeadsToFrame input (bytes.drop off) := by
  rcases scan_settles short with ⟨result, settles, found⟩
  have same := settles.unique (Loop.settles_of_run scanned)
  rcases found off same with ⟨stepped, magic⟩
  refine ⟨bytes.take off, ?_, stepped, magic⟩
  rw [given, List.take_append_drop]

theorem LeadsToFrame.unique (leads : LeadsToFrame input rest)
    (given : input.stringValue = .ok bytes) (short : bytes.length < 2 ^ 63) {found : Option Nat}
    (scanned : Loop.run (scanPass 64 bytes) fuel 0 = some found) :
    ∃ off, found = some off ∧ bytes.drop off = rest := by
  rcases leads.scan given short with ⟨off, settles, rest_eq⟩
  exact ⟨off, (Loop.settles_of_run scanned).unique settles, rest_eq⟩

end

end ZstdRuby
