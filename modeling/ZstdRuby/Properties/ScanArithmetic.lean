import Mathlib.Tactic.IntervalCases
import ZstdRuby.Extension.Decompress

/-! # The offsets of the scan

The scan of `rb_decompress` adds an offset and a length from the input in
`size_t`, and then compares the sum with the size of the input. The results say
for which inputs the sums leave the scan in order, for `size_t` of any width from
32 bits on.
-/

namespace ZstdRuby

open Libzstd

/-! ## What a pass reads -/

def scanReads (width : Nat) (input : Bytes) (off : Nat) : List Nat :=
  if ¬(off + 4) % 2 ^ width ≤ input.length then []
  else
    let magic := [off, off + 1, off + 2, off + 3].map (· % 2 ^ width)
    if isSkippableMagic (readLE32 (input.drop off)) then
      if (off + 8) % 2 ^ width > input.length then magic
      else magic ++ [off + 4, off + 5, off + 6, off + 7].map (· % 2 ^ width)
    else magic

/-- At the offset stands the header of a skippable frame whose length takes the
sum of the offset and the frame's size to the range of `size_t` or beyond, where
the frame's size alone does not go beyond it. -/
def SkipWraps (width : Nat) (input : Bytes) (off : Nat) : Prop :=
  off + 8 ≤ input.length ∧ isSkippableMagic (readLE32 (input.drop off)) = true ∧
    8 + readLE32 (input.drop (off + 4)) ≤ 2 ^ width ∧
    2 ^ width ≤ off + (8 + readLE32 (input.drop (off + 4)))

/-- In every pass the scan reads inside the input, every pass that goes on moves
forward and not past the end, and the loop leaves within as many passes as the
input has bytes, not counting the one that finds the end. -/
structure ScanSafe (width : Nat) (input : Bytes) : Prop where
  reads : ∀ off, Loop.Reaches (scanPass width input) 0 off →
    ∀ index ∈ scanReads width input off, index < input.length
  advances : ∀ off next, Loop.Reaches (scanPass width input) 0 off →
    scanPass width input off = .again next → off < next ∧ next ≤ input.length
  leaves : ∃ result, Loop.run (scanPass width input) (input.length + 1) 0 = some result

/-! ## One pass -/

section

variable {width off next : Nat} {input : Bytes}

theorem mod_cases {number range : Nat} (small : number < 2 * range) :
    number < range ∧ number % range = number ∨
      range ≤ number ∧ number % range = number - range := by
  rcases lt_or_ge number range with inside | beyond
  · exact Or.inl ⟨inside, Nat.mod_eq_of_lt inside⟩
  · exact Or.inr ⟨beyond, by rw [Nat.mod_eq_sub_mod beyond, Nat.mod_eq_of_lt (by omega)]⟩

theorem range_facts (wide : 32 ≤ width) (short : input.length < 2 ^ (width - 1)) :
    2 ^ 32 ≤ 2 ^ width ∧ 2 * input.length + 2 ≤ 2 ^ width := by
  have double : 2 ^ width = 2 * 2 ^ (width - 1) := by
    rw [← Nat.pow_succ', Nat.succ_eq_add_one, Nat.sub_add_cancel (by omega)]
  exact ⟨Nat.pow_le_pow_right (by decide) wide, by omega⟩

theorem add_mod_range (wide : 32 ≤ width) (short : input.length < 2 ^ (width - 1))
    (within : off ≤ input.length) {more : Nat} (small : more ≤ 8) :
    (off + more) % 2 ^ width = off + more := by
  rcases range_facts wide short with ⟨large, room⟩
  exact Nat.mod_eq_of_lt (by omega)

theorem scanReads_lt (wide : 32 ≤ width) (short : input.length < 2 ^ (width - 1))
    (within : off ≤ input.length) :
    ∀ index ∈ scanReads width input off, index < input.length := by
  have noWrap : ∀ more ≤ 8, (off + more) % 2 ^ width = off + more := fun more small =>
    add_mod_range wide short within small
  have start : off % 2 ^ width = off := noWrap 0 (by decide)
  intro index member
  rw [scanReads, noWrap 4 (by decide), noWrap 8 (by decide)] at member
  simp only [List.map_cons, List.map_nil, start, noWrap 1 (by decide), noWrap 2 (by decide),
    noWrap 3 (by decide), noWrap 4 (by decide), noWrap 5 (by decide), noWrap 6 (by decide),
    noWrap 7 (by decide)] at member
  split at member
  · cases member
  · split at member
    · split at member <;> simp at member <;> omega
    · simp at member
      omega

theorem scanPass_again (wide : 32 ≤ width) (short : input.length < 2 ^ (width - 1))
    (within : off ≤ input.length) (again : scanPass width input off = .again next) :
    next ≤ input.length ∧ (off < next ↔ ¬SkipWraps width input off) := by
  rcases range_facts wide short with ⟨large, room⟩
  rw [scanPass, add_mod_range wide short within (by decide : 4 ≤ 8)] at again
  split at again
  · cases again
  · rename_i enough
    simp only at again
    split at again
    · rename_i skippable
      rw [add_mod_range wide short within (le_refl 8)] at again
      split at again
      · cases again
      · rename_i header
        have field := readLE32_lt (input.drop (off + 4))
        split at again
        · cases again
        · rename_i fits
          cases again
          refine ⟨not_lt.mp fits, ?_⟩
          have adds := @mod_cases (8 + readLE32 (input.drop (off + 4))) (2 ^ width) (by omega)
          have sums := @mod_cases (off + (8 + readLE32 (input.drop (off + 4))) % 2 ^ width)
            (2 ^ width) (by omega)
          simp only [SkipWraps, skippable, true_and]
          omega
    · rename_i other
      split at again
      · cases again
      · cases again
        rw [add_mod_range wide short within (by decide : 1 ≤ 8)]
        refine ⟨by omega, fun _ wraps => other wraps.2.1, fun _ => Nat.lt_succ_self off⟩

theorem scanPass_wraps (wide : 32 ≤ width) (short : input.length < 2 ^ (width - 1))
    (wraps : SkipWraps width input off) : ∃ next, scanPass width input off = .again next := by
  rcases wraps with ⟨header, skippable, small, large⟩
  have within : off ≤ input.length := by omega
  rcases range_facts wide short with ⟨-, room⟩
  have adds := @mod_cases (8 + readLE32 (input.drop (off + 4))) (2 ^ width) (by omega)
  have sums := @mod_cases (off + (8 + readLE32 (input.drop (off + 4))) % 2 ^ width)
    (2 ^ width) (by omega)
  refine ⟨(off + (8 + readLE32 (input.drop (off + 4))) % 2 ^ width) % 2 ^ width, ?_⟩
  rw [scanPass, add_mod_range wide short within (by decide : 4 ≤ 8), if_neg (by omega)]
  simp only [skippable, if_true]
  rw [add_mod_range wide short within (le_refl 8), if_neg (by omega), if_neg (by omega)]

end

/-! ## The whole scan -/

section

variable {width : Nat} {input : Bytes}

theorem scan_within (wide : 32 ≤ width) (short : input.length < 2 ^ (width - 1)) {off : Nat}
    (reaches : Loop.Reaches (scanPass width input) 0 off) : off ≤ input.length :=
  reaches.invariant (· ≤ input.length)
    (fun within again => (scanPass_again wide short within again).1) (Nat.zero_le _)

theorem scan_leaves (wide : 32 ≤ width) (short : input.length < 2 ^ (width - 1))
    (orderly : ∀ off, Loop.Reaches (scanPass width input) 0 off → ¬SkipWraps width input off) :
    ∃ result, Loop.run (scanPass width input) (input.length + 1) 0 = some result := by
  have pass : ∀ off, Loop.Reaches (scanPass width input) 0 off →
      (scanPass width input off).Ensures
        (fun next => Loop.Reaches (scanPass width input) 0 next ∧
          input.length - next < input.length - off) (fun _ => True) := by
    intro off reaches
    cases decided : scanPass width input off with
    | again next =>
        have moves := scanPass_again wide short (scan_within wide short reaches) decided
        have forward := moves.2.mpr (orderly off reaches)
        exact ⟨reaches.again decided, by omega⟩
    | leave result => trivial
  rcases Loop.run_of_variant _ _ _ pass .first (Nat.lt_succ_self _) with ⟨result, returned, -⟩
  exact ⟨result, returned⟩

/-- The scan is in order exactly if it meets no length that wraps the sum round.
With `size_t` of 34 bits or more no length does. -/
theorem scan_safe_iff (wide : 32 ≤ width) (short : input.length < 2 ^ (width - 1)) :
    (ScanSafe width input ↔
      ∀ off, Loop.Reaches (scanPass width input) 0 off → ¬SkipWraps width input off) ∧
    (34 ≤ width → ScanSafe width input) := by
  have safe : (∀ off, Loop.Reaches (scanPass width input) 0 off → ¬SkipWraps width input off) →
      ScanSafe width input := by
    intro orderly
    refine ⟨fun off reaches => scanReads_lt wide short (scan_within wide short reaches), ?_,
      scan_leaves wide short orderly⟩
    intro off next reaches again
    have moves := scanPass_again wide short (scan_within wide short reaches) again
    exact ⟨moves.2.mpr (orderly off reaches), moves.1⟩
  refine ⟨⟨fun scanned off reaches wraps => ?_, safe⟩, fun wider => safe ?_⟩
  · rcases scanPass_wraps wide short wraps with ⟨next, again⟩
    have moves := scanPass_again wide short (scan_within wide short reaches) again
    exact moves.2.mp (scanned.advances off next reaches again).1 wraps
  · rintro off reaches ⟨header, -, -, large⟩
    have field := readLE32_lt (input.drop (off + 4))
    have room : 2 ^ 34 ≤ 2 ^ width := Nat.pow_le_pow_right (by decide) wider
    have double := (range_facts wide short).2
    omega

end

theorem scan_safe_iff_oneByte :
    ScanSafe 32 [0x53, 0x2A, 0x4D, 0x18, 0x01, 0x00, 0x00, 0x00, 0x61] ∧
    ScanSafe 64 [0x53, 0x2A, 0x4D, 0x18, 0x01, 0x00, 0x00, 0x00, 0x61] := by
  refine ⟨(scan_safe_iff (by decide) (by decide)).1.mpr ?_,
    (scan_safe_iff (by decide) (by decide)).2 (by decide)⟩
  rintro off - ⟨header, -, -, large⟩
  have start : off ≤ 1 := by
    simp at header
    omega
  interval_cases off <;> revert large <;> decide +kernel

def endlessHeader : Bytes := [0x50, 0x2A, 0x4D, 0x18, 0xF8, 0xFF, 0xFF, 0xFF]

/-- On 32 bits such a frame has size zero, and the scan does not move. -/
theorem scan_repeats_endlessHeader :
    ¬∀ (width : Nat) (input : Bytes), width = 32 ∨ width = 64 → input.length < 2 ^ (width - 1) →
      ScanSafe width input := by
  intro promised
  have safe := promised 32 endlessHeader (Or.inl rfl) (by decide)
  have again : scanPass 32 endlessHeader 0 = .again 0 := rfl
  exact absurd (safe.advances 0 0 .first again).1 (lt_irrefl 0)

end ZstdRuby
