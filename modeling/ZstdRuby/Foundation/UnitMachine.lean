import Mathlib.Data.List.Infix
import Mathlib.Tactic.Common

/-! # Machines that read their input in units

A unit machine says for each of its states how many input elements make up the
next unit, and what reading that unit does. This file gives the machine two
semantics: element by element, which no choice of unit boundaries can affect,
and gulp by gulp, as a decoder reads that has only part of its input.
-/

namespace Streaming

universe u v w x

theorem bind_eq_ok {α : Type u} {β : Type u} {Error : Type v} {first : Except Error α}
    {next : α → Except Error β} {result : β} :
    first >>= next = .ok result ↔ ∃ value, first = .ok value ∧ next value = .ok result := by
  cases first with
  | error failure => simp [bind, Except.bind]
  | ok value => simp [bind, Except.bind]

/-- A machine that reads its input in units. A state that needs nothing is an
end state. In a streaming state any nonempty part of the unit may be fed, with
the same effect as feeding the whole. -/
structure UnitMachine (State : Type u) (α : Type v) (β : Type w) (Error : Type x) where
  need : State → Nat
  streams : State → Bool
  feed : State → List α → Except Error (State × List β)
  feed_append : ∀ {state : State} {left right : List α}, streams state = true →
    left ≠ [] → right ≠ [] → left.length + right.length ≤ need state →
    feed state (left ++ right) = (do
      let (middle, output) ← feed state left
      let (last, more) ← feed middle right
      return (last, output ++ more))
  feed_part : ∀ {state next : State} {part : List α} {output : List β},
    streams state = true → part ≠ [] → part.length < need state →
    feed state part = .ok (next, output) →
    streams next = true ∧ need next = need state - part.length

structure Cursor (State : Type u) (α : Type v) where
  state : State
  loaded : List α
  deriving DecidableEq

namespace UnitMachine

variable {State : Type u} {α : Type v} {β : Type w} {Error : Type x}
  (machine : UnitMachine State α β Error)

/-! ## Reading units -/

def feedUnit (state : State) (unit : List α) : Option (Cursor State α × List β) :=
  match machine.feed state unit with
  | .ok (next, output) => some (⟨next, []⟩, output)
  | .error _ => none

/-- A cursor is sound if its unit is not complete yet, and if nothing is kept
back that could have been fed. -/
structure Sound (cursor : Cursor State α) : Prop where
  short : machine.need cursor.state ≠ 0 → cursor.loaded.length < machine.need cursor.state
  ended : machine.need cursor.state = 0 → cursor.loaded = []
  streamed : machine.streams cursor.state = true → cursor.loaded = []

theorem sound_start (state : State) : machine.Sound ⟨state, []⟩ :=
  ⟨fun needed => Nat.pos_of_ne_zero needed, fun _ => rfl, fun _ => rfl⟩

/-! ## Element by element -/

def scan (cursor : Cursor State α) (element : α) : Option (Cursor State α × List β) :=
  if machine.need cursor.state = 0 then none
  else if machine.streams cursor.state ∨
      cursor.loaded.length + 1 = machine.need cursor.state then
    machine.feedUnit cursor.state (cursor.loaded ++ [element])
  else some (⟨cursor.state, cursor.loaded ++ [element]⟩, [])

def scanAll (cursor : Cursor State α) : List α → Option (Cursor State α × List β)
  | [] => some (cursor, [])
  | element :: rest =>
      match machine.scan cursor element with
      | none => none
      | some (next, output) =>
          match scanAll next rest with
          | none => none
          | some (last, more) => some (last, output ++ more)

@[simp] theorem scanAll_nil (cursor : Cursor State α) :
    machine.scanAll cursor [] = some (cursor, []) := rfl

theorem scanAll_singleton (cursor : Cursor State α) (element : α) :
    machine.scanAll cursor [element] = machine.scan cursor element := by
  rw [scanAll]
  cases machine.scan cursor element <;> simp

variable {machine}

theorem scanAll_append_some {cursor middle last : Cursor State α} {left right : List α}
    {output more : List β} (first : machine.scanAll cursor left = some (middle, output))
    (second : machine.scanAll middle right = some (last, more)) :
    machine.scanAll cursor (left ++ right) = some (last, output ++ more) := by
  induction left generalizing cursor output with
  | nil =>
      cases first
      exact second
  | cons element rest induction =>
      rw [scanAll] at first
      rw [List.cons_append, scanAll]
      cases scanned : machine.scan cursor element with
      | none => simp [scanned] at first
      | some reached =>
          rcases reached with ⟨next, head⟩
          simp only [scanned] at first
          cases scannedRest : machine.scanAll next rest with
          | none => simp [scannedRest] at first
          | some reached =>
              rcases reached with ⟨middle', tail⟩
              simp only [scannedRest, Option.some.injEq, Prod.mk.injEq] at first
              rcases first with ⟨rfl, rfl⟩
              simp only [induction scannedRest, List.append_assoc]

theorem scanAll_append_inv {cursor last : Cursor State α} {left right : List α}
    {output : List β} (scanned : machine.scanAll cursor (left ++ right) = some (last, output)) :
    ∃ middle first second, machine.scanAll cursor left = some (middle, first) ∧
      machine.scanAll middle right = some (last, second) ∧ output = first ++ second := by
  induction left generalizing cursor output with
  | nil => exact ⟨cursor, [], output, rfl, scanned, rfl⟩
  | cons element rest induction =>
      rw [List.cons_append, scanAll] at scanned
      cases head : machine.scan cursor element with
      | none => simp [head] at scanned
      | some reached =>
          rcases reached with ⟨next, headOutput⟩
          simp only [head] at scanned
          cases tail : machine.scanAll next (rest ++ right) with
          | none => simp [tail] at scanned
          | some reached =>
              rcases reached with ⟨last', tailOutput⟩
              simp only [tail, Option.some.injEq, Prod.mk.injEq] at scanned
              rcases scanned with ⟨rfl, rfl⟩
              rcases induction tail with ⟨middle, first, second, left, right, rfl⟩
              refine ⟨middle, headOutput ++ first, second, ?_, right,
                (List.append_assoc _ _ _).symm⟩
              simp only [scanAll, head, left]

theorem scanAll_ended {cursor : Cursor State α} {reached : Cursor State α × List β}
    (ended : machine.need cursor.state = 0) {elements : List α}
    (scanned : machine.scanAll cursor elements = some reached) :
    elements = [] ∧ reached = (cursor, []) := by
  cases elements with
  | nil => exact ⟨rfl, (Option.some.inj scanned).symm⟩
  | cons element rest => simp [scanAll, scan, ended] at scanned

/-! ## Gulp by gulp -/

variable (machine) in
def gulpSize (cursor : Cursor State α) (available : Nat) : Nat :=
  min (machine.need cursor.state - cursor.loaded.length) available

variable (machine) in
def gulp (cursor : Cursor State α) (source : List α) : Option (Cursor State α × List β) :=
  let part := source.take (machine.gulpSize cursor source.length)
  if machine.streams cursor.state ∨
      cursor.loaded.length + part.length = machine.need cursor.state then
    machine.feedUnit cursor.state (cursor.loaded ++ part)
  else some (⟨cursor.state, cursor.loaded ++ part⟩, [])

theorem scanAll_load {state : State} {loaded part : List α}
    (whole : machine.streams state = false)
    (short : loaded.length + part.length < machine.need state) :
    machine.scanAll ⟨state, loaded⟩ part = some (⟨state, loaded ++ part⟩, []) := by
  induction part generalizing loaded with
  | nil => simp
  | cons element rest induction =>
      simp only [List.length_cons] at short
      have next := @induction (loaded ++ [element]) (by simp; omega)
      have step : machine.scan ⟨state, loaded⟩ element =
          some (⟨state, loaded ++ [element]⟩, []) := by
        simp only [scan, whole, Bool.false_eq_true, false_or]
        rw [if_neg (by omega), if_neg (by omega)]
      simp only [scanAll, step, next, List.append_assoc, List.singleton_append, List.nil_append]

theorem scanAll_whole {state : State} {loaded part : List α}
    (whole : machine.streams state = false) (nonempty : part ≠ [])
    (complete : loaded.length + part.length = machine.need state) :
    machine.scanAll ⟨state, loaded⟩ part = machine.feedUnit state (loaded ++ part) := by
  rcases List.eq_nil_or_concat part with empty | ⟨front, element, rfl⟩
  · exact absurd empty nonempty
  · rw [List.concat_eq_append] at complete ⊢
    rw [List.length_append, List.length_singleton] at complete
    have loads : machine.scanAll ⟨state, loaded⟩ front = some (⟨state, loaded ++ front⟩, []) :=
      scanAll_load whole (by omega)
    have step : machine.scan ⟨state, loaded ++ front⟩ element =
        machine.feedUnit state (loaded ++ front ++ [element]) := by
      simp only [scan, List.length_append]
      rw [if_neg (by omega), if_pos (Or.inr (by omega))]
    rw [← List.append_assoc]
    cases fed : machine.feedUnit state (loaded ++ front ++ [element]) with
    | some reached =>
        rw [fed] at step
        have last := (machine.scanAll_singleton _ _).trans step
        simpa using scanAll_append_some loads last
    | none =>
        rw [fed] at step
        cases scanned : machine.scanAll ⟨state, loaded⟩ (front ++ [element]) with
        | none => rfl
        | some reached =>
            rcases scanAll_append_inv scanned with ⟨middle, first, second, left, right, -⟩
            rw [loads] at left
            cases left
            rw [scanAll_singleton, step] at right
            cases right

theorem scanAll_stream {state : State} {part : List α}
    (streams : machine.streams state = true) (nonempty : part ≠ [])
    (fits : part.length ≤ machine.need state) :
    machine.scanAll ⟨state, []⟩ part = machine.feedUnit state part := by
  induction part generalizing state with
  | nil => exact absurd rfl nonempty
  | cons element rest induction =>
      rw [List.length_cons] at fits
      have step : machine.scan ⟨state, []⟩ element = machine.feedUnit state [element] := by
        simp only [scan, streams, true_or, if_true, List.nil_append]
        rw [if_neg (by omega)]
      by_cases last : rest = []
      · rw [last, scanAll_singleton, step]
      · have splits := machine.feed_append streams (List.cons_ne_nil element []) last
          (by rw [List.length_singleton]; omega)
        rw [List.singleton_append] at splits
        have restPos := List.length_pos_iff.mpr last
        rw [scanAll, step, feedUnit, feedUnit, splits]
        cases fed : machine.feed state [element] with
        | error failure => simp [bind, Except.bind]
        | ok reached =>
            rcases reached with ⟨next, output⟩
            have part := machine.feed_part streams (List.cons_ne_nil element [])
              (by rw [List.length_singleton]; omega) fed
            have restScan := induction part.1 last
              (by rw [part.2, List.length_singleton]; omega)
            rw [feedUnit] at restScan
            simp only [restScan, bind, Except.bind, pure, Except.pure]
            cases machine.feed next rest <;> rfl

theorem take_gulpSize_length (cursor : Cursor State α) (source : List α) :
    (source.take (machine.gulpSize cursor source.length)).length =
      machine.gulpSize cursor source.length := by
  rw [List.length_take]
  exact min_eq_left (Nat.min_le_right _ _)

theorem gulpSize_pos {cursor : Cursor State α} {source : List α}
    (sound : machine.Sound cursor) (needed : machine.need cursor.state ≠ 0)
    (available : source ≠ []) : 0 < machine.gulpSize cursor source.length := by
  have short := sound.short needed
  have positive := List.length_pos_iff.mpr available
  rw [gulpSize]
  omega

/-- The two semantics agree: a gulp reads its elements one by one. -/
theorem scanAll_gulp {cursor : Cursor State α} {source : List α}
    (sound : machine.Sound cursor) (needed : machine.need cursor.state ≠ 0)
    (available : source ≠ []) :
    machine.scanAll cursor (source.take (machine.gulpSize cursor source.length)) =
      machine.gulp cursor source := by
  have short := sound.short needed
  have positive := gulpSize_pos sound needed available
  have size := machine.take_gulpSize_length cursor source
  have someRead : source.take (machine.gulpSize cursor source.length) ≠ [] := by
    rwa [← List.length_pos_iff, size]
  rcases cursor with ⟨state, loaded⟩
  simp only [gulp]
  cases streams : machine.streams state with
  | true =>
      have empty : loaded = [] := sound.streamed streams
      subst empty
      rw [if_pos (by simp), List.nil_append]
      apply scanAll_stream streams someRead
      rw [size, gulpSize]
      exact (Nat.min_le_left _ _).trans (Nat.sub_le _ _)
  | false =>
      simp only [Bool.false_eq_true, false_or]
      split
      · rename_i complete
        exact scanAll_whole streams someRead complete
      · rename_i incomplete
        apply scanAll_load streams
        rw [size] at incomplete ⊢
        simp only [gulpSize] at incomplete short ⊢
        omega

theorem sound_gulp {cursor next : Cursor State α} {source : List α} {output : List β}
    (sound : machine.Sound cursor) (needed : machine.need cursor.state ≠ 0)
    (gulped : machine.gulp cursor source = some (next, output)) : machine.Sound next := by
  simp only [gulp] at gulped
  split at gulped
  · rw [feedUnit] at gulped
    cases fed : machine.feed cursor.state
        (cursor.loaded ++ source.take (machine.gulpSize cursor source.length)) with
    | error failure => simp [fed] at gulped
    | ok reached =>
        simp only [fed, Option.some.injEq, Prod.mk.injEq] at gulped
        rw [← gulped.1]
        exact machine.sound_start _
  · rename_i incomplete
    cases gulped
    rw [not_or] at incomplete
    refine ⟨fun _ => ?_, fun ended => absurd ended needed,
      fun streams => absurd streams incomplete.1⟩
    have short := sound.short needed
    have incomplete := incomplete.2
    simp only [gulpSize, List.length_take, List.length_append] at incomplete ⊢
    omega

variable (machine) in
/-- `Gulps cursor source part next output`: gulp after gulp of the source, the
machine reads `part` of it. -/
inductive Gulps (cursor : Cursor State α) (source : List α) :
    List α → Cursor State α → List β → Prop
  | refl : Gulps cursor source [] cursor []
  | snoc {part : List α} {middle next : Cursor State α} {output more : List β}
      (gulps : Gulps cursor source part middle output)
      (needed : machine.need middle.state ≠ 0)
      (available : source.drop part.length ≠ [])
      (gulped : machine.gulp middle (source.drop part.length) = some (next, more)) :
      Gulps cursor source
        (part ++ (source.drop part.length).take
          (machine.gulpSize middle (source.drop part.length).length))
        next (output ++ more)

namespace Gulps

variable {cursor next : Cursor State α} {source part : List α} {output : List β}

theorem sound (gulps : machine.Gulps cursor source part next output)
    (start : machine.Sound cursor) : machine.Sound next := by
  induction gulps with
  | refl => exact start
  | snoc gulps needed available gulped induction => exact sound_gulp induction needed gulped

theorem isPrefix (gulps : machine.Gulps cursor source part next output) :
    part <+: source := by
  induction gulps with
  | refl => exact List.nil_prefix
  | snoc gulps needed available gulped induction =>
      rcases induction with ⟨rest, rfl⟩
      rw [List.drop_left, List.prefix_append_right_inj]
      exact List.take_prefix _ _

theorem scanAll_eq (gulps : machine.Gulps cursor source part next output)
    (start : machine.Sound cursor) :
    machine.scanAll cursor part = some (next, output) := by
  induction gulps with
  | refl => rfl
  | snoc gulps needed available gulped induction =>
      exact scanAll_append_some induction
        ((scanAll_gulp (gulps.sound start) needed available).trans gulped)

end Gulps

/-! ## What a machine reads -/

variable (machine) in
/-- From the cursor the machine reads exactly `elements` to an end state, and
its output is `content`. -/
def Reads (cursor : Cursor State α) (elements : List α) (content : List β) : Prop :=
  ∃ last, machine.scanAll cursor elements = some (last, content) ∧
    machine.need last.state = 0

theorem Reads.nonempty {cursor : Cursor State α} {elements : List α} {content : List β}
    (reads : machine.Reads cursor elements content)
    (needed : machine.need cursor.state ≠ 0) : elements ≠ [] := by
  rintro rfl
  rcases reads with ⟨last, scanned, ended⟩
  cases scanned
  exact needed ended

theorem Reads.unit_le {cursor : Cursor State α} {elements : List α} {content : List β}
    (reads : machine.Reads cursor elements content) (sound : machine.Sound cursor)
    (needed : machine.need cursor.state ≠ 0) :
    machine.need cursor.state - cursor.loaded.length ≤ elements.length := by
  rcases reads with ⟨last, scanned, ended⟩
  rcases cursor with ⟨state, loaded⟩
  by_contra short
  cases streams : machine.streams state with
  | false =>
      rw [scanAll_load streams (by simp only at short; omega)] at scanned
      cases scanned
      exact needed ended
  | true =>
      have empty : loaded = [] := sound.streamed streams
      subst empty
      by_cases nothing : elements = []
      · subst nothing
        cases scanned
        exact needed ended
      · have fits : elements.length < machine.need state := by
          simp only [List.length_nil, Nat.sub_zero] at short
          omega
        rw [scanAll_stream streams nothing fits.le, feedUnit] at scanned
        cases fed : machine.feed state elements with
        | error failure => simp [fed] at scanned
        | ok reached =>
            have part := machine.feed_part streams nothing fits fed
            simp only [fed, Option.some.injEq, Prod.mk.injEq] at scanned
            have rest : machine.need reached.1 = 0 := by
              rw [← ended, ← scanned.1]
            omega

theorem Reads.feeds {state : State} {loaded elements : List α} {content : List β}
    (reads : machine.Reads ⟨state, loaded⟩ elements content)
    (sound : machine.Sound ⟨state, loaded⟩) (needed : machine.need state ≠ 0)
    (whole : machine.streams state = false) :
    ∃ reached, machine.feedUnit state (loaded ++
      elements.take (machine.need state - loaded.length)) = some reached := by
  have enough := reads.unit_le sound needed
  have short := sound.short needed
  simp only at enough short
  rcases reads with ⟨last, scanned, ended⟩
  rw [← List.take_append_drop (machine.need state - loaded.length) elements] at scanned
  rcases scanAll_append_inv scanned with ⟨middle, first, second, left, -, -⟩
  have length : (elements.take (machine.need state - loaded.length)).length =
      machine.need state - loaded.length := by
    rw [List.length_take]
    omega
  rw [scanAll_whole whole (by rw [← List.length_pos_iff]; omega) (by omega)] at left
  exact ⟨_, left⟩

theorem Gulps.append_reads {cursor middle : Cursor State α} {source part rest : List α}
    {output content : List β} (gulps : machine.Gulps cursor source part middle output)
    (sound : machine.Sound cursor) (reads : machine.Reads middle rest content)
    (found : part ++ rest <+: source) :
    ∃ last, machine.Gulps cursor source (part ++ rest) last (output ++ content) ∧
      machine.need last.state = 0 := by
  induction size : rest.length using Nat.strong_induction_on generalizing part middle rest output
    content with
  | _ size induction =>
      by_cases ended : machine.need middle.state = 0
      · rcases reads with ⟨last, scanned, -⟩
        rcases scanAll_ended ended scanned with ⟨rfl, equal⟩
        cases equal
        rw [List.append_nil, List.append_nil]
        exact ⟨middle, gulps, ended⟩
      · have restFound : rest <+: source.drop part.length := by
          rcases found with ⟨after, rfl⟩
          rw [List.append_assoc, List.drop_left]
          exact List.prefix_append rest after
        have available : source.drop part.length ≠ [] := by
          intro empty
          rw [empty, List.prefix_nil] at restFound
          exact reads.nonempty ended restFound
        have enough := reads.unit_le (gulps.sound sound) ended
        have positive := gulpSize_pos (gulps.sound sound) ended available
        have longer := restFound.length_le
        have small : machine.gulpSize middle (source.drop part.length).length ≤ rest.length := by
          rw [gulpSize]
          omega
        have gulped := scanAll_gulp (gulps.sound sound) ended available
        -- The gulp is a part of what is still to be read.
        have taken : (source.drop part.length).take
            (machine.gulpSize middle (source.drop part.length).length) =
              rest.take (machine.gulpSize middle (source.drop part.length).length) := by
          rcases restFound with ⟨after, split⟩
          rw [← split, List.take_append_of_le_length (split ▸ small)]
        rw [taken] at gulped
        rcases reads with ⟨last, scanned, lastEnded⟩
        rw [← List.take_append_drop (machine.gulpSize middle (source.drop part.length).length)
          rest] at scanned
        rcases scanAll_append_inv scanned with ⟨next, first, second, left, right, rfl⟩
        rw [gulped] at left
        have longerGulps := gulps.snoc ended available left
        rw [taken] at longerGulps
        have split := List.take_append_drop
          (machine.gulpSize middle (source.drop part.length).length) rest
        rcases induction _ (by rw [List.length_drop]; omega) longerGulps ⟨last, right, lastEnded⟩
          (by rwa [List.append_assoc, split]) rfl with ⟨reached, all, reachedEnded⟩
        rw [List.append_assoc, split, List.append_assoc] at all
        exact ⟨reached, all, reachedEnded⟩

theorem Reads.disagrees {cursor : Cursor State α} {elements source : List α}
    {content : List β} (reads : machine.Reads cursor elements content)
    (sound : machine.Sound cursor) (needed : machine.need cursor.state ≠ 0)
    (available : source ≠ []) (refused : machine.gulp cursor source = none) :
    ¬elements <+: source ∧ ¬source <+: elements := by
  have enough := reads.unit_le sound needed
  have size : (source.take (machine.gulpSize cursor source.length)).length ≤
      elements.length := by
    rw [List.length_take]
    simp only [gulpSize]
    omega
  have refusal := (scanAll_gulp sound needed available).trans refused
  -- The gulp would be the beginning of what is read.
  have impossible : ¬source.take (machine.gulpSize cursor source.length) <+: elements := by
    rintro ⟨rest, rfl⟩
    rcases reads with ⟨last, scanned, -⟩
    rcases scanAll_append_inv scanned with ⟨middle, first, second, left, -, -⟩
    rw [refusal] at left
    cases left
  have found : source.take (machine.gulpSize cursor source.length) <+: source :=
    List.take_prefix _ _
  exact ⟨fun shorter => impossible (List.prefix_of_prefix_length_le found shorter size),
    fun longer => impossible (found.trans longer)⟩

theorem Reads.ended {state : State} (ended : machine.need state = 0) :
    machine.Reads ⟨state, []⟩ [] [] :=
  ⟨_, rfl, ended⟩

theorem Reads.eq_nil {state : State} {elements : List α} {content : List β}
    (reads : machine.Reads ⟨state, []⟩ elements content) (ended : machine.need state = 0) :
    elements = [] ∧ content = [] := by
  rcases reads with ⟨last, scanned, -⟩
  rcases scanAll_ended ended scanned with ⟨empty, equal⟩
  exact ⟨empty, (Prod.mk.inj equal).2⟩

theorem scanAll_unit {state next : State} {unit : List α} {output : List β}
    (needed : machine.need state ≠ 0) (size : unit.length = machine.need state)
    (fed : machine.feed state unit = .ok (next, output)) :
    machine.scanAll ⟨state, []⟩ unit = some (⟨next, []⟩, output) := by
  have nonempty : unit ≠ [] := by
    rw [← List.length_pos_iff]
    omega
  have fedUnit : machine.feedUnit state unit = some (⟨next, []⟩, output) := by
    simp only [feedUnit, fed]
  cases streams : machine.streams state with
  | true => exact (scanAll_stream streams nonempty size.le).trans fedUnit
  | false => exact (scanAll_whole streams nonempty (by simpa using size)).trans fedUnit

theorem Reads.of_unit {state next : State} {unit rest : List α} {output more : List β}
    (needed : machine.need state ≠ 0) (size : unit.length = machine.need state)
    (fed : machine.feed state unit = .ok (next, output))
    (reads : machine.Reads ⟨next, []⟩ rest more) :
    machine.Reads ⟨state, []⟩ (unit ++ rest) (output ++ more) := by
  rcases reads with ⟨last, scanned, ended⟩
  exact ⟨last, scanAll_append_some (scanAll_unit needed size fed) scanned, ended⟩

theorem Reads.unit {state : State} {elements : List α} {content : List β}
    (reads : machine.Reads ⟨state, []⟩ elements content) (needed : machine.need state ≠ 0) :
    ∃ unit rest next output more, elements = unit ++ rest ∧
      unit.length = machine.need state ∧ machine.feed state unit = .ok (next, output) ∧
      content = output ++ more ∧ machine.Reads ⟨next, []⟩ rest more := by
  have enough := reads.unit_le (machine.sound_start state) needed
  simp only [List.length_nil, Nat.sub_zero] at enough
  rcases reads with ⟨last, scanned, ended⟩
  rw [← List.take_append_drop (machine.need state) elements] at scanned ⊢
  rcases scanAll_append_inv scanned with ⟨middle, output, more, left, right, rfl⟩
  have size : (elements.take (machine.need state)).length = machine.need state := by
    rw [List.length_take, min_eq_left enough]
  have nonempty : elements.take (machine.need state) ≠ [] := by
    rw [← List.length_pos_iff]
    omega
  have whole : machine.scanAll ⟨state, []⟩ (elements.take (machine.need state)) =
      machine.feedUnit state (elements.take (machine.need state)) := by
    cases streams : machine.streams state with
    | true => exact scanAll_stream streams nonempty size.le
    | false => exact scanAll_whole streams nonempty (by simpa using size)
  rw [whole, feedUnit] at left
  cases fed : machine.feed state (elements.take (machine.need state)) with
  | error failure => simp [fed] at left
  | ok reached =>
      rcases reached with ⟨next, produced⟩
      simp only [fed, Option.some.injEq, Prod.mk.injEq] at left
      rcases left with ⟨rfl, rfl⟩
      exact ⟨_, _, next, produced, more, rfl, size, fed, rfl, last, right, ended⟩

theorem Reads.rest {cursor middle : Cursor State α} {part rest : List α}
    {content output : List β} (reads : machine.Reads cursor (part ++ rest) content)
    (scanned : machine.scanAll cursor part = some (middle, output)) :
    ∃ more, content = output ++ more ∧ machine.Reads middle rest more := by
  rcases reads with ⟨last, whole, ended⟩
  rcases scanAll_append_inv whole with ⟨middle', first, second, left, right, rfl⟩
  rw [scanned] at left
  cases left
  exact ⟨second, rfl, last, right, ended⟩

theorem Reads.unique {cursor : Cursor State α} {left right whole : List α}
    {leftContent rightContent : List β} (readsLeft : machine.Reads cursor left leftContent)
    (readsRight : machine.Reads cursor right rightContent)
    (leftPrefix : left <+: whole) (rightPrefix : right <+: whole) :
    left = right ∧ leftContent = rightContent := by
  wlog shorter : left.length ≤ right.length generalizing left right leftContent rightContent
  · have swapped := this readsRight readsLeft rightPrefix leftPrefix (by omega)
    exact ⟨swapped.1.symm, swapped.2.symm⟩
  rcases List.prefix_of_prefix_length_le leftPrefix rightPrefix shorter with ⟨rest, rfl⟩
  rcases readsLeft with ⟨last, scanned, ended⟩
  rcases readsRight.rest scanned with ⟨more, rfl, reads⟩
  rcases reads with ⟨reached, beyond, -⟩
  rcases scanAll_ended ended beyond with ⟨rfl, equal⟩
  cases equal
  simp

theorem Reads.longer {cursor middle : Cursor State α} {part elements whole : List α}
    {output content : List β} (reads : machine.Reads cursor elements content)
    (scanned : machine.scanAll cursor part = some (middle, output))
    (needed : machine.need middle.state ≠ 0)
    (elementsPrefix : elements <+: whole) (partPrefix : part <+: whole) :
    ∃ rest more, rest ≠ [] ∧ elements = part ++ rest ∧ content = output ++ more ∧
      machine.Reads middle rest more := by
  rcases le_total elements.length part.length with shorter | longer
  · rcases List.prefix_of_prefix_length_le elementsPrefix partPrefix shorter with ⟨rest, rfl⟩
    rcases reads with ⟨last, whole, ended⟩
    rcases scanAll_append_inv scanned with ⟨middle', first, second, left, right, rfl⟩
    rw [whole] at left
    cases left
    rcases scanAll_ended ended right with ⟨rfl, equal⟩
    cases equal
    exact absurd ended needed
  · rcases List.prefix_of_prefix_length_le partPrefix elementsPrefix longer with ⟨rest, rfl⟩
    rcases reads.rest scanned with ⟨more, rfl, readsRest⟩
    exact ⟨rest, more, readsRest.nonempty needed, rfl, rfl, readsRest⟩

/-! ## Other words -/

def refeed (machine : UnitMachine State α β Error)
    (feed : State → List α → Except Error (State × List β))
    (same : ∀ {state unit}, machine.streams state = true →
      feed state unit = machine.feed state unit) :
    UnitMachine State α β Error where
  need := machine.need
  streams := machine.streams
  feed := feed
  feed_append := by
    intro state left right streams leftNonempty rightNonempty within
    have positive := List.length_pos_iff.mpr rightNonempty
    rw [same streams, same streams,
      machine.feed_append streams leftNonempty rightNonempty within]
    cases fed : machine.feed state left with
    | error failure => rfl
    | ok reached =>
        have part := machine.feed_part streams leftNonempty (by omega) fed
        simp only [bind, Except.bind, same part.1]
  feed_part := by
    intro state next part output streams nonempty short fed
    rw [same streams] at fed
    exact machine.feed_part streams nonempty short fed

/-- What `words` reads, `machine` reads in the same way. -/
structure Restricts (words machine : UnitMachine State α β Error) : Prop where
  need : words.need = machine.need
  streams : words.streams = machine.streams
  feed : ∀ {state : State} {unit : List α} {reached : State × List β},
    words.feed state unit = .ok reached → machine.feed state unit = .ok reached

namespace Restricts

variable {words : UnitMachine State α β Error}

theorem refl (machine : UnitMachine State α β Error) : machine.Restricts machine :=
  ⟨rfl, rfl, fun fed => fed⟩

theorem feedUnit (restricts : words.Restricts machine) {state : State} {unit : List α}
    {reached : Cursor State α × List β} (fed : words.feedUnit state unit = some reached) :
    machine.feedUnit state unit = some reached := by
  rw [UnitMachine.feedUnit] at fed ⊢
  cases taken : words.feed state unit with
  | error failure => simp [taken] at fed
  | ok next =>
      rw [taken] at fed
      rw [restricts.feed taken]
      exact fed

theorem gulpSize (restricts : words.Restricts machine) (cursor : Cursor State α)
    (available : Nat) : words.gulpSize cursor available = machine.gulpSize cursor available := by
  rw [UnitMachine.gulpSize, restricts.need, UnitMachine.gulpSize]

theorem gulp (restricts : words.Restricts machine) {cursor : Cursor State α} {source : List α}
    {reached : Cursor State α × List β} (gulped : words.gulp cursor source = some reached) :
    machine.gulp cursor source = some reached := by
  simp only [UnitMachine.gulp, restricts.gulpSize, restricts.need, restricts.streams] at gulped
  simp only [UnitMachine.gulp]
  split at gulped
  · rename_i fills
    rw [if_pos fills]
    exact restricts.feedUnit gulped
  · rename_i fills
    rw [if_neg fills]
    exact gulped

theorem gulps (restricts : words.Restricts machine) {cursor next : Cursor State α}
    {source part : List α} {output : List β}
    (gulps : words.Gulps cursor source part next output) :
    machine.Gulps cursor source part next output := by
  induction gulps with
  | refl => exact .refl
  | snoc gulps needed available gulped induction =>
      rw [restricts.need] at needed
      rw [restricts.gulpSize]
      exact induction.snoc needed available (restricts.gulp gulped)

theorem scan (restricts : words.Restricts machine) {cursor : Cursor State α} {element : α}
    {reached : Cursor State α × List β} (scanned : words.scan cursor element = some reached) :
    machine.scan cursor element = some reached := by
  rw [UnitMachine.scan, restricts.need, restricts.streams] at scanned
  rw [UnitMachine.scan]
  split at scanned
  · cases scanned
  · rename_i needed
    rw [if_neg needed]
    split at scanned
    · rename_i fills
      rw [if_pos fills]
      exact restricts.feedUnit scanned
    · rename_i fills
      rw [if_neg fills]
      exact scanned

theorem scanAll (restricts : words.Restricts machine) {cursor last : Cursor State α}
    {elements : List α} {output : List β}
    (scanned : words.scanAll cursor elements = some (last, output)) :
    machine.scanAll cursor elements = some (last, output) := by
  induction elements generalizing cursor output with
  | nil => exact scanned
  | cons element rest induction =>
      rw [UnitMachine.scanAll] at scanned ⊢
      cases head : words.scan cursor element with
      | none => simp [head] at scanned
      | some reached =>
          rcases reached with ⟨next, first⟩
          simp only [head] at scanned
          simp only [restricts.scan head]
          cases tail : words.scanAll next rest with
          | none => simp [tail] at scanned
          | some reached =>
              rcases reached with ⟨last', more⟩
              simp only [tail, Option.some.injEq, Prod.mk.injEq] at scanned
              rcases scanned with ⟨rfl, rfl⟩
              simp only [induction tail]

theorem reads (restricts : words.Restricts machine) {cursor : Cursor State α}
    {elements : List α} {content : List β} (reads : words.Reads cursor elements content) :
    machine.Reads cursor elements content := by
  rcases reads with ⟨last, scanned, ended⟩
  exact ⟨last, restricts.scanAll scanned, by rwa [← restricts.need]⟩

theorem longer (restricts : words.Restricts machine) {cursor middle : Cursor State α}
    {part elements whole : List α} {output content : List β}
    (reads : words.Reads cursor elements content)
    (scanned : machine.scanAll cursor part = some (middle, output))
    (needed : machine.need middle.state ≠ 0)
    (elementsPrefix : elements <+: whole) (partPrefix : part <+: whole) :
    ∃ rest more, rest ≠ [] ∧ elements = part ++ rest ∧ content = output ++ more ∧
      words.Reads middle rest more := by
  rcases (restricts.reads reads).longer scanned needed elementsPrefix partPrefix with
    ⟨rest, more, nonempty, rfl, rfl, -⟩
  rcases reads with ⟨last, through, ended⟩
  rcases scanAll_append_inv through with ⟨middle', first, second, left, right, equal⟩
  have same := (restricts.scanAll left).symm.trans scanned
  cases same
  cases List.append_cancel_left equal
  exact ⟨rest, more, nonempty, rfl, rfl, last, right, ended⟩

end Restricts

end UnitMachine

end Streaming
