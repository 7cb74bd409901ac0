import ZstdRuby.Foundation.UnitDecoder

/-! # Frames back to back, through a bounded buffer

What a decoder over a unit machine has received, frame after frame, and when a
caller that calls it until its input is used up leaves no output behind.
-/

namespace Streaming

universe u v w x y

variable {Context : Type u} {State : Type v} {α : Type w} {β : Type x} {Error : Type y}

/-! ## Reading frames -/

namespace UnitMachine

section

variable (machine : UnitMachine State α β Error) (start : State)

/-- Read frames back to back, element by element: where one ends the next one
starts. -/
def scanFrames (cursor : Cursor State α) : List α → Option (Cursor State α × List β)
  | [] => some (cursor, [])
  | element :: rest =>
      match machine.scan cursor element with
      | none => none
      | some (next, output) =>
          match scanFrames (if machine.need next.state = 0 then ⟨start, []⟩ else next) rest with
          | none => none
          | some (last, more) => some (last, output ++ more)

end

variable {machine : UnitMachine State α β Error} {start : State}

theorem scanFrames_append {cursor middle last : Cursor State α} {left right : List α}
    {output more : List β} (first : machine.scanFrames start cursor left = some (middle, output))
    (second : machine.scanFrames start middle right = some (last, more)) :
    machine.scanFrames start cursor (left ++ right) = some (last, output ++ more) := by
  induction left generalizing cursor output with
  | nil =>
      cases first
      exact second
  | cons element rest induction =>
      rw [scanFrames] at first
      rw [List.cons_append, scanFrames]
      cases scanned : machine.scan cursor element with
      | none => simp [scanned] at first
      | some reached =>
          rcases reached with ⟨next, head⟩
          simp only [scanned] at first ⊢
          split at first
          · cases first
          · rename_i middle' tail scannedRest
            cases first
            simp only [induction scannedRest, List.append_assoc]

theorem scanFrames_inside {cursor next : Cursor State α} {elements : List α} {output : List β}
    (scanned : machine.scanAll cursor elements = some (next, output))
    (needed : machine.need next.state ≠ 0) :
    machine.scanFrames start cursor elements = some (next, output) := by
  induction elements generalizing cursor output with
  | nil => exact scanned
  | cons element rest induction =>
      rw [scanAll] at scanned
      rw [scanFrames]
      cases read : machine.scan cursor element with
      | none => simp [read] at scanned
      | some reached =>
          rcases reached with ⟨middle, head⟩
          simp only [read] at scanned ⊢
          cases readRest : machine.scanAll middle rest with
          | none => simp [readRest] at scanned
          | some reached =>
              rcases reached with ⟨last, tail⟩
              simp only [readRest, Option.some.injEq, Prod.mk.injEq] at scanned
              rcases scanned with ⟨rfl, rfl⟩
              have goesOn : machine.need middle.state ≠ 0 := by
                intro ended
                cases (scanAll_ended ended readRest).2
                exact needed ended
              rw [if_neg goesOn, induction readRest]

theorem scanFrames_frame {cursor : Cursor State α} {elements : List α} {content : List β}
    (reads : machine.Reads cursor elements content) (nonempty : elements ≠ []) :
    machine.scanFrames start cursor elements = some (⟨start, []⟩, content) := by
  rcases List.eq_nil_or_concat elements with empty | ⟨front, element, rfl⟩
  · exact absurd empty nonempty
  · rw [List.concat_eq_append] at reads ⊢
    rcases reads with ⟨last, scanned, ended⟩
    rcases scanAll_append_inv scanned with ⟨middle, first, second, left, right, rfl⟩
    have needed : machine.need middle.state ≠ 0 :=
      fun ended => List.cons_ne_nil _ _ (scanAll_ended ended right).1
    rw [scanAll_singleton] at right
    apply scanFrames_append (scanFrames_inside left needed)
    rw [scanFrames, right]
    simp only [ended, if_true, scanFrames, List.append_nil]

theorem scanFrames_frames (needed : machine.need start ≠ 0) {frames : List (List α × List β)}
    (valid : ∀ frame ∈ frames, machine.Reads ⟨start, []⟩ frame.1 frame.2) :
    machine.scanFrames start ⟨start, []⟩ (frameBytes frames) =
      some (⟨start, []⟩, frameContents frames) := by
  induction frames with
  | nil => rfl
  | cons frame rest induction =>
      have reads := valid frame List.mem_cons_self
      exact scanFrames_append (scanFrames_frame reads (reads.nonempty needed))
        (induction fun frame member => valid frame (List.mem_cons_of_mem _ member))

end UnitMachine

/-! ## A decoder in its frames -/

section

variable {machine words : UnitMachine State α β Error} {start : State} {capacity : Nat}
  {stream source received : List α} {returned : List β} {before after : Standing State α β}
  {reply : Reply Context β Error}

/-- Where a decoder stands after it has received and returned something, in
complete frames and in the current one. -/
def FollowsFrames (machine : UnitMachine State α β Error) (start : State)
    (stream received : List α) (returned : List β) (standing : Standing State α β) : Prop :=
  ∃ frames taken given, (∀ frame ∈ frames, machine.Reads ⟨start, []⟩ frame.1 frame.2) ∧
    received = frameBytes frames ++ taken ∧ returned = frameContents frames ++ given ∧
    Follows machine start (stream.drop (frameBytes frames).length) taken given standing

namespace FollowsFrames

theorem beginning (needed : machine.need start ≠ 0) (stream : List α) :
    FollowsFrames machine start stream [] [] (.start start) :=
  ⟨[], [], [], by simp, rfl, rfl, .beginning needed _⟩

variable (follows : FollowsFrames machine start stream received returned before)
include follows

theorem sound : machine.Sound before.cursor := by
  rcases follows with ⟨frames, taken, given, valid, -, -, follows⟩
  exact follows.sound

theorem needed (free : before.hostage = false) : machine.need before.cursor.state ≠ 0 := by
  rcases follows with ⟨frames, taken, given, valid, -, -, follows⟩
  exact (follows.free_scan free).2

theorem free_scan (startNeeded : machine.need start ≠ 0) (free : before.hostage = false) :
    machine.scanFrames start ⟨start, []⟩ received =
      some (before.cursor, returned ++ before.held) := by
  rcases follows with ⟨frames, taken, given, valid, rfl, rfl, follows⟩
  rcases follows.free_scan free with ⟨scanned, needed⟩
  rw [List.append_assoc]
  exact UnitMachine.scanFrames_append (UnitMachine.scanFrames_frames startNeeded valid)
    (UnitMachine.scanFrames_inside scanned needed)

theorem hostage_scan (startNeeded : machine.need start ≠ 0) (kept : before.hostage = true) :
    ∃ cursor content last next output,
      machine.scanFrames start ⟨start, []⟩ received = some (cursor, content) ∧
      machine.scan cursor last = some (next, output) ∧ machine.need next.state = 0 := by
  rcases follows with ⟨frames, taken, given, valid, rfl, rfl, follows⟩
  rcases follows.hostage_scan kept with ⟨last, -, scanned, ended⟩
  rcases UnitMachine.scanAll_append_inv scanned with ⟨middle, first, second, left, right, -⟩
  have needed : machine.need middle.state ≠ 0 :=
    fun ended => List.cons_ne_nil _ _ (UnitMachine.scanAll_ended ended right).1
  rw [UnitMachine.scanAll_singleton] at right
  exact ⟨middle, _, last, _, _, UnitMachine.scanFrames_append
    (UnitMachine.scanFrames_frames startNeeded valid) (UnitMachine.scanFrames_inside left needed),
    right, ended⟩

theorem call (startNeeded : machine.need start ≠ 0)
    (presented : source <+: stream.drop received.length)
    (answer : Answer machine words start capacity source before reply after) {status : Nat}
    (replied : reply.status = .ok status) :
    reply.consumed ≤ source.length ∧
      FollowsFrames machine start stream (received ++ source.take reply.consumed)
        (returned ++ reply.output) after := by
  rcases follows with ⟨frames, taken, given, valid, rfl, rfl, follows⟩
  rw [List.length_append, ← List.drop_drop] at presented
  cases status with
  | zero =>
      rcases follows.finish presented answer replied with ⟨rfl, bound, -, reads⟩
      refine ⟨bound, frames ++ [(taken ++ source.take reply.consumed, given ++ reply.output)],
        [], [], ?_, ?_, ?_, .beginning startNeeded _⟩
      · intro frame member
        rcases List.mem_append.mp member with member | member
        · exact valid frame member
        · rw [List.mem_singleton.mp member]
          exact reads
      · simp [frameBytes]
      · simp [frameContents]
  | succ hint =>
      rcases follows.step presented answer replied with ⟨bound, -, next⟩
      exact ⟨bound, frames, _, _, valid, List.append_assoc _ _ _, List.append_assoc _ _ _, next⟩

end FollowsFrames

end

/-! ## Keeping up with the input -/

def crosses (capacity total more : Nat) : Bool :=
  decide ((total - 1) / capacity < (total + more - 1) / capacity)

theorem crosses_of_lt {capacity total more : Nat} (room : 0 < capacity)
    (fits : total ≤ capacity) (exceeds : capacity < total + more) :
    crosses capacity total more = true := by
  have before : (total - 1) / capacity = 0 := Nat.div_eq_of_lt (by omega)
  have after : 0 < (total + more - 1) / capacity := Nat.div_pos (by omega) room
  rw [crosses, before]
  exact decide_eq_true after

theorem crosses_add (capacity : Nat) {total : Nat} (positive : 0 < total) (room : 0 < capacity)
    (more : Nat) : crosses capacity (total + capacity) more = crosses capacity total more := by
  have first : total + capacity - 1 = total - 1 + capacity := by omega
  have second : total + capacity + more - 1 = total + more - 1 + capacity := by omega
  rw [crosses, crosses, first, second, Nat.add_div_right _ room, Nat.add_div_right _ room]
  simp only [Nat.add_lt_add_iff_right]

section

variable (machine : UnitMachine State α β Error) (start : State) (Boundary : Cursor State α → Prop)
  (capacity : Nat)

/-- From the cursor, with `total` elements of output held or given, the source is
read without a frame that ends silently before something else, and at a boundary
the last gulp does not go past the end of a buffer. `waiting` says whether the
gulp before did. -/
inductive KeepsUp : Cursor State α → (total : Nat) → (waiting : Bool) → List α → Prop
  | done {cursor : Cursor State α} {total : Nat} {waiting : Bool}
      (ready : Boundary cursor → waiting = false) : KeepsUp cursor total waiting []
  | inside {cursor next : Cursor State α} {total : Nat} {waiting : Bool} {source : List α}
      {more : List β} (available : source ≠ [])
      (gulped : machine.gulp cursor source = some (next, more))
      (needed : machine.need next.state ≠ 0)
      (rest : KeepsUp next (total + more.length) (crosses capacity total more.length)
        (source.drop (machine.gulpSize cursor source.length))) :
      KeepsUp cursor total waiting source
  | atEnd {cursor next : Cursor State α} {total : Nat} {waiting : Bool} {source : List α}
      {more : List β} (available : source ≠ [])
      (gulped : machine.gulp cursor source = some (next, more))
      (ended : machine.need next.state = 0)
      (heard : total + more.length = 0 → source.drop (machine.gulpSize cursor source.length) = [])
      (rest : KeepsUp ⟨start, []⟩ 0 false
        (source.drop (machine.gulpSize cursor source.length))) :
      KeepsUp cursor total waiting source

def Standing.KeepsUp (before : Standing State α β) (source : List α) : Prop :=
  match before.hostage with
  | false => Streaming.KeepsUp machine start Boundary capacity before.cursor before.held.length
      (!before.held.isEmpty) source
  | true => ∀ last rest, source = last :: rest → (before.held = [] → rest = []) ∧
      Streaming.KeepsUp machine start Boundary capacity ⟨start, []⟩ 0 false rest

end

namespace KeepsUp

variable {machine words : UnitMachine State α β Error} {start : State}
  {Boundary : Cursor State α → Prop} {capacity : Nat} {cursor next : Cursor State α}
  {total : Nat} {waiting : Bool} {source part : List α} {output : List β}

theorem shift (room : 0 < capacity)
    (keepsUp : KeepsUp machine start Boundary capacity cursor (total + capacity) waiting source)
    (positive : 0 < total) :
    KeepsUp machine start Boundary capacity cursor total waiting source := by
  generalize shifted : total + capacity = all at keepsUp
  induction keepsUp generalizing total with
  | done ready => exact .done ready
  | @inside cursor next all waiting source more available gulped needed rest induction =>
      subst shifted
      have shiftedRest := @induction (total + more.length) (by omega) (by omega)
      rw [crosses_add capacity positive room] at shiftedRest
      exact .inside available gulped needed shiftedRest
  | @atEnd cursor next all waiting source more available gulped ended heard rest induction =>
      exact .atEnd available gulped ended (by omega) rest

theorem gulp_inside (keepsUp : KeepsUp machine start Boundary capacity cursor total waiting source)
    (available : source ≠ []) {more : List β}
    (gulped : machine.gulp cursor source = some (next, more))
    (needed : machine.need next.state ≠ 0) :
    KeepsUp machine start Boundary capacity next (total + more.length)
      (crosses capacity total more.length)
      (source.drop (machine.gulpSize cursor source.length)) := by
  cases keepsUp with
  | done => exact absurd rfl available
  | inside _ gulped' _ rest =>
      cases gulped.symm.trans gulped'
      exact rest
  | atEnd _ gulped' ended =>
      cases gulped.symm.trans gulped'
      exact absurd ended needed

theorem gulps (keepsUp : KeepsUp machine start Boundary capacity cursor total waiting source)
    (gulps : machine.Gulps cursor source part next output) (needed : machine.need next.state ≠ 0) :
    ∃ waiting', KeepsUp machine start Boundary capacity next (total + output.length) waiting'
      (source.drop part.length) := by
  induction gulps with
  | refl => exact ⟨waiting, keepsUp⟩
  | snoc gulps middleNeeded available gulped induction =>
      rcases induction middleNeeded with ⟨waiting', keepsUpMiddle⟩
      have rest := keepsUpMiddle.gulp_inside available gulped needed
      rw [List.length_append, ← Nat.add_assoc, List.length_append,
        UnitMachine.take_gulpSize_length, ← List.drop_drop]
      exact ⟨_, rest⟩

theorem gulp_atEnd (keepsUp : KeepsUp machine start Boundary capacity cursor total waiting source)
    (available : source ≠ []) {more : List β}
    (gulped : machine.gulp cursor source = some (next, more))
    (ended : machine.need next.state = 0) :
    (total + more.length = 0 → source.drop (machine.gulpSize cursor source.length) = []) ∧
      KeepsUp machine start Boundary capacity ⟨start, []⟩ 0 false
        (source.drop (machine.gulpSize cursor source.length)) := by
  cases keepsUp with
  | done => exact absurd rfl available
  | inside _ gulped' needed =>
      cases gulped.symm.trans gulped'
      exact absurd ended needed
  | atEnd _ gulped' _ heard rest =>
      cases gulped.symm.trans gulped'
      exact ⟨heard, rest⟩

theorem gulps_atEnd (keepsUp : KeepsUp machine start Boundary capacity cursor total waiting source)
    (gulps : machine.Gulps cursor source part next output) (needed : machine.need cursor.state ≠ 0)
    (ended : machine.need next.state = 0) :
    (total + output.length = 0 → source.drop part.length = []) ∧
      KeepsUp machine start Boundary capacity ⟨start, []⟩ 0 false (source.drop part.length) := by
  cases gulps with
  | refl => exact absurd ended needed
  | @snoc part middle _ output more gulps middleNeeded available gulped =>
      rcases keepsUp.gulps gulps middleNeeded with ⟨waiting', keepsUpMiddle⟩
      have rest := keepsUpMiddle.gulp_atEnd available gulped ended
      rwa [List.length_append, ← Nat.add_assoc, List.length_append,
        UnitMachine.take_gulpSize_length, ← List.drop_drop]

end KeepsUp

/-! ## One call -/

section

variable {machine : UnitMachine State α β Error} {start : State}
  {Boundary : Cursor State α → Prop} {capacity : Nat} {stream source received : List α}
  {returned : List β} {before after : Standing State α β} {reply : Reply Context β Error}

theorem Standing.keepsUp_of_free (free : before.hostage = false) :
    before.KeepsUp machine start Boundary capacity source ↔
      Streaming.KeepsUp machine start Boundary capacity before.cursor before.held.length
        (!before.held.isEmpty) source := by
  rw [Standing.KeepsUp, free]

theorem Standing.keepsUp_of_kept (kept : before.hostage = true) :
    before.KeepsUp machine start Boundary capacity source ↔
      ∀ last rest, source = last :: rest → (before.held = [] → rest = []) ∧
        Streaming.KeepsUp machine start Boundary capacity ⟨start, []⟩ 0 false rest := by
  rw [Standing.KeepsUp, kept]

theorem Standing.KeepsUp.clogged (room : 0 < capacity) (full : capacity < before.held.length)
    (keepsUp : before.KeepsUp machine start Boundary capacity source) :
    Standing.KeepsUp machine start Boundary capacity
      { before with held := before.held.drop capacity } source := by
  have left : before.held.drop capacity ≠ [] := by
    rw [Ne, List.drop_eq_nil_iff]
    omega
  cases kept : before.hostage with
  | false =>
      rw [Standing.keepsUp_of_free kept] at keepsUp
      apply (Standing.keepsUp_of_free rfl).mpr
      have some : before.held ≠ [] := by
        rintro none
        simp [none] at full
      rw [List.isEmpty_eq_false_iff.mpr some] at keepsUp
      simp only [List.isEmpty_eq_false_iff.mpr left]
      refine Streaming.KeepsUp.shift room ?_ (List.length_pos_iff.mpr left)
      rw [List.length_drop, Nat.sub_add_cancel full.le]
      exact keepsUp
  | true =>
      rw [Standing.keepsUp_of_kept kept] at keepsUp
      apply (Standing.keepsUp_of_kept rfl).mpr
      intro last rest split
      exact ⟨fun none => absurd none left, (keepsUp last rest split).2⟩

theorem Standing.KeepsUp.overflow (room : 0 < capacity) {part : List α} {next : Cursor State α}
    {output : List β} (free : before.hostage = false)
    (keepsUp : before.KeepsUp machine start Boundary capacity source)
    (overflow : Overflow machine capacity source before part next output) :
    (before.held ++ output).drop capacity ≠ [] ∧
    (machine.need next.state ≠ 0 → Streaming.KeepsUp machine start Boundary capacity next
      ((before.held ++ output).drop capacity).length true (source.drop part.length)) ∧
    (machine.need next.state = 0 →
      Streaming.KeepsUp machine start Boundary capacity ⟨start, []⟩ 0 false
        (source.drop part.length)) := by
  rw [Standing.keepsUp_of_free free] at keepsUp
  rcases overflow with ⟨sooner, middle, out, more, gulps, needed, available, gulped, rfl, rfl, fits,
    exceeds⟩
  rcases keepsUp.gulps gulps needed with ⟨waiting, keepsUpMiddle⟩
  have left : (before.held ++ (out ++ more)).drop capacity ≠ [] := by
    rw [Ne, List.drop_eq_nil_iff]
    omega
  rw [List.length_append, UnitMachine.take_gulpSize_length, ← List.drop_drop]
  simp only [List.length_append] at fits exceeds
  refine ⟨left, fun goesOn => ?_, fun ended => (keepsUpMiddle.gulp_atEnd available gulped ended).2⟩
  have rest := keepsUpMiddle.gulp_inside available gulped goesOn
  rw [crosses_of_lt room fits (by omega)] at rest
  refine Streaming.KeepsUp.shift room ?_ (List.length_pos_iff.mpr left)
  rw [List.length_drop, Nat.sub_add_cancel (by simp only [List.length_append]; omega),
    List.length_append, List.length_append, ← Nat.add_assoc]
  exact rest

theorem Standing.KeepsUp.call (room : 0 < capacity)
    (follows : FollowsFrames machine start stream received returned before)
    (keepsUp : before.KeepsUp machine start Boundary capacity source) (available : source ≠ [])
    (answer : Answer machine words start capacity source before reply after) {status : Nat}
    (replied : reply.status = .ok status) :
    after.KeepsUp machine start Boundary capacity (source.drop reply.consumed) ∧
      (status = 0 → reply.output = [] → source.drop reply.consumed = []) := by
  cases answer with
  | starved free gulps needed fits consumed delivered status stands =>
      rw [consumed, List.drop_length, stands]
      exact ⟨.done fun _ => rfl, fun _ _ => rfl⟩
  | clogged full consumed delivered status stands =>
      rw [consumed, List.drop_zero, stands]
      refine ⟨keepsUp.clogged room full, fun ended => ?_⟩
      rw [status, ended] at replied
      cases replied
  | overflowed free overflow needed consumed delivered status stands =>
      rcases keepsUp.overflow room free overflow with ⟨left, goesOn, -⟩
      rw [consumed, stands]
      refine ⟨(Standing.keepsUp_of_free rfl).mpr ?_, fun ended => ?_⟩
      · simp only [List.isEmpty_eq_false_iff.mpr left]
        exact goesOn needed
      · rw [status, ended] at replied
        cases replied
  | withheld free overflow ended consumed delivered status stands =>
      rcases keepsUp.overflow room free overflow with ⟨left, -, rest⟩
      rw [stands]
      refine ⟨(Standing.keepsUp_of_kept rfl).mpr fun last after split => ?_, fun drained => ?_⟩
      · have behind := congrArg List.tail split
        rw [List.tail_drop, List.tail_cons, consumed] at behind
        exact ⟨fun none => absurd none left, behind ▸ rest ended⟩
      · rw [status, drained] at replied
        cases replied
  | finished free gulps ended fits consumed delivered status stands =>
      rw [Standing.keepsUp_of_free free] at keepsUp
      have rest := keepsUp.gulps_atEnd gulps (follows.needed free) ended
      rw [consumed, stands, delivered]
      refine ⟨rest.2, fun _ silent => rest.1 ?_⟩
      rw [← List.length_append, silent, List.length_nil]
  | released kept available' fits consumed delivered status stands =>
      rw [Standing.keepsUp_of_kept kept] at keepsUp
      rw [consumed, stands, delivered]
      cases source with
      | nil => exact absurd rfl available
      | cons last rest => exact ⟨(keepsUp last rest rfl).2, fun _ => (keepsUp last rest rfl).1⟩
  | kept _ absent => exact absurd absent available
  | failed status =>
      rw [status] at replied
      cases replied

/-- At a boundary that no element turns into the end of a frame, a decoder that
has kept up has returned everything. -/
theorem Standing.KeepsUp.returned_eq (startNeeded : machine.need start ≠ 0)
    (goesOn : ∀ {cursor next : Cursor State α} {element : α} {output : List β}, Boundary cursor →
      machine.scan cursor element = some (next, output) → machine.need next.state ≠ 0)
    (follows : FollowsFrames machine start stream received returned before)
    (keepsUp : before.KeepsUp machine start Boundary capacity []) {cursor : Cursor State α}
    {content : List β}
    (scanned : machine.scanFrames start ⟨start, []⟩ received = some (cursor, content))
    (boundary : Boundary cursor) : returned = content := by
  cases kept : before.hostage with
  | false =>
      rw [follows.free_scan startNeeded kept] at scanned
      cases scanned
      rw [Standing.keepsUp_of_free kept] at keepsUp
      cases keepsUp with
      | done ready =>
          have none : before.held = [] := by simpa using ready boundary
          rw [none, List.append_nil]
      | inside available => exact absurd rfl available
      | atEnd available => exact absurd rfl available
  | true =>
      rcases follows.hostage_scan startNeeded kept with
        ⟨cursor', content', last, next, output, scanned', ends, ended⟩
      rw [scanned'] at scanned
      cases scanned
      exact absurd ended (goesOn boundary ends)

end

end Streaming
