import ZstdRuby.Foundation.StreamingDecoder
import ZstdRuby.Foundation.UnitMachine

/-! # Streaming decoders over unit machines

A decoder that reads its input with a unit machine and hands the machine's
output on through a bounded buffer. `Answer` lists everything one call of such
a decoder can do. Every decoder whose calls are answers satisfies the eager
contract for the words its machine reads.
-/

namespace Streaming

universe u v w x y

variable {Context : Type u} {State : Type v} {α : Type w} {β : Type x} {Error : Type y}

/-- Where a decoder stands between two calls: the machine's cursor, the output
not handed on yet, and whether the last element read has been reported as not
consumed. -/
structure Standing (State : Type v) (α : Type w) (β : Type x) where
  cursor : Cursor State α
  held : List β
  hostage : Bool

def Standing.start (state : State) : Standing State α β := ⟨⟨state, []⟩, [], false⟩

section

variable (machine words : UnitMachine State α β Error) (start : State) (capacity : Nat)
  (source : List α) (before : Standing State α β)

def Disagrees (cursor : Cursor State α) : Prop :=
  ∀ elements content, words.Reads cursor elements content →
    ¬elements <+: source ∧ ¬source <+: elements

def Overflow (part : List α) (next : Cursor State α) (output : List β) : Prop :=
  ∃ sooner middle out more, machine.Gulps before.cursor source sooner middle out ∧
    machine.need middle.state ≠ 0 ∧ source.drop sooner.length ≠ [] ∧
    machine.gulp middle (source.drop sooner.length) = some (next, more) ∧
    part = sooner ++ (source.drop sooner.length).take
      (machine.gulpSize middle (source.drop sooner.length).length) ∧
    output = out ++ more ∧ (before.held ++ out).length ≤ capacity ∧
    capacity < (before.held ++ output).length

variable {machine capacity source before} in
theorem Overflow.gulps {part : List α} {next : Cursor State α} {output : List β}
    (overflow : Overflow machine capacity source before part next output) :
    machine.Gulps before.cursor source part next output := by
  rcases overflow with ⟨sooner, middle, out, more, gulps, needed, available, gulped,
    rfl, rfl, -, -⟩
  exact .snoc gulps needed available gulped

inductive Answer (reply : Reply Context β Error) (after : Standing State α β) : Prop
  /-- The input is used up inside a frame and all output has been handed on. -/
  | starved {next : Cursor State α} {output : List β} {hint : Nat}
      (free : before.hostage = false)
      (gulps : machine.Gulps before.cursor source source next output)
      (needed : machine.need next.state ≠ 0)
      (fits : (before.held ++ output).length ≤ capacity)
      (consumed : reply.consumed = source.length)
      (delivered : reply.output = before.held ++ output)
      (status : reply.status = .ok (hint + 1))
      (stands : after = ⟨next, [], false⟩)
  /-- What was held already fills the output buffer. -/
  | clogged {hint : Nat} (full : capacity < before.held.length)
      (consumed : reply.consumed = 0)
      (delivered : reply.output = before.held.take capacity)
      (status : reply.status = .ok (hint + 1))
      (stands : after = { before with held := before.held.drop capacity })
  /-- The output buffer is full inside a frame. -/
  | overflowed {part : List α} {next : Cursor State α} {output : List β} {hint : Nat}
      (free : before.hostage = false)
      (overflow : Overflow machine capacity source before part next output)
      (needed : machine.need next.state ≠ 0)
      (consumed : reply.consumed = part.length)
      (delivered : reply.output = (before.held ++ output).take capacity)
      (status : reply.status = .ok (hint + 1))
      (stands : after = ⟨next, (before.held ++ output).drop capacity, false⟩)
  /-- The output buffer is full at the end of a frame, and the last element is
  taken hostage. -/
  | withheld {part : List α} {next : Cursor State α} {output : List β} {hint : Nat}
      (free : before.hostage = false)
      (overflow : Overflow machine capacity source before part next output)
      (ended : machine.need next.state = 0)
      (consumed : reply.consumed + 1 = part.length)
      (delivered : reply.output = (before.held ++ output).take capacity)
      (status : reply.status = .ok (hint + 1))
      (stands : after = ⟨next, (before.held ++ output).drop capacity, true⟩)
  /-- A frame ends and all output has been handed on. -/
  | finished {part : List α} {next : Cursor State α} {output : List β}
      (free : before.hostage = false)
      (gulps : machine.Gulps before.cursor source part next output)
      (ended : machine.need next.state = 0)
      (fits : (before.held ++ output).length ≤ capacity)
      (consumed : reply.consumed = part.length)
      (delivered : reply.output = before.held ++ output)
      (status : reply.status = .ok 0)
      (stands : after = .start start)
  /-- The rest of the output is handed on and the hostage released. -/
  | released (kept : before.hostage = true) (available : source ≠ [])
      (fits : before.held.length ≤ capacity)
      (consumed : reply.consumed = 1)
      (delivered : reply.output = before.held)
      (status : reply.status = .ok 0)
      (stands : after = .start start)
  /-- The hostage cannot be released because it is not presented. -/
  | kept {hint : Nat} (kept : before.hostage = true) (absent : source = [])
      (fits : before.held.length ≤ capacity)
      (consumed : reply.consumed = 0)
      (delivered : reply.output = before.held)
      (status : reply.status = .ok (hint + 1))
      (stands : after = { before with held := [] })
  /-- The input cannot be continued to a word, or the call had nothing to work
  with. -/
  | failed {error : Error} (status : reply.status = .error error)
      (reason : source = [] ∨ capacity = 0 ∨
        before.hostage = false ∧ Disagrees words source before.cursor)

/-- The call has reported the end of a frame without the machine, in a source that
no word agrees with. -/
structure Strays (reply : Reply Context β Error) : Prop where
  free : before.hostage = false
  status : reply.status = .ok 0
  consumed_pos : 0 < reply.consumed
  consumed_le : reply.consumed ≤ source.length
  output_le : reply.output.length ≤ capacity
  disagrees : Disagrees words source before.cursor

end

section

variable {machine words narrower : UnitMachine State α β Error} {start : State} {capacity : Nat}
  {source : List α} {before after : Standing State α β} {reply : Reply Context β Error}

theorem Disagrees.weaken {cursor : Cursor State α} (disagrees : Disagrees words source cursor)
    (restricts : narrower.Restricts words) : Disagrees narrower source cursor :=
  fun elements content reads => disagrees elements content (restricts.reads reads)

theorem Answer.weaken (answer : Answer machine words start capacity source before reply after)
    (restricts : narrower.Restricts words) :
    Answer machine narrower start capacity source before reply after := by
  cases answer with
  | starved free gulps needed fits consumed delivered status stands =>
      exact .starved free gulps needed fits consumed delivered status stands
  | clogged full consumed delivered status stands =>
      exact .clogged full consumed delivered status stands
  | overflowed free overflow needed consumed delivered status stands =>
      exact .overflowed free overflow needed consumed delivered status stands
  | withheld free overflow ended consumed delivered status stands =>
      exact .withheld free overflow ended consumed delivered status stands
  | finished free gulps ended fits consumed delivered status stands =>
      exact .finished free gulps ended fits consumed delivered status stands
  | released kept available fits consumed delivered status stands =>
      exact .released kept available fits consumed delivered status stands
  | kept kept absent fits consumed delivered status stands =>
      exact .kept kept absent fits consumed delivered status stands
  | failed status reason =>
      refine .failed status (reason.imp_right (Or.imp_right ?_))
      exact fun refused => ⟨refused.1, refused.2.weaken restricts⟩

theorem Overflow.widen {narrow : UnitMachine State α β Error} {part : List α}
    {next : Cursor State α} {output : List β} (restricts : narrow.Restricts machine)
    (overflow : Overflow narrow capacity source before part next output) :
    Overflow machine capacity source before part next output := by
  rcases overflow with ⟨sooner, middle, out, more, gulps, needed, available, gulped, split, rest⟩
  rw [restricts.need] at needed
  rw [restricts.gulpSize] at split
  exact ⟨sooner, middle, out, more, restricts.gulps gulps, needed, available,
    restricts.gulp gulped, split, rest⟩

theorem Answer.widen {narrow : UnitMachine State α β Error} (restricts : narrow.Restricts machine)
    (answer : Answer narrow words start capacity source before reply after) :
    Answer machine words start capacity source before reply after := by
  cases answer with
  | starved free gulps needed fits consumed delivered status stands =>
      exact .starved free (restricts.gulps gulps) (restricts.need ▸ needed) fits consumed delivered
        status stands
  | clogged full consumed delivered status stands =>
      exact .clogged full consumed delivered status stands
  | overflowed free overflow needed consumed delivered status stands =>
      exact .overflowed free (overflow.widen restricts) (restricts.need ▸ needed) consumed delivered
        status stands
  | withheld free overflow ended consumed delivered status stands =>
      exact .withheld free (overflow.widen restricts) (restricts.need ▸ ended) consumed delivered
        status stands
  | finished free gulps ended fits consumed delivered status stands =>
      exact .finished free (restricts.gulps gulps) (restricts.need ▸ ended) fits consumed delivered
        status stands
  | released kept available fits consumed delivered status stands =>
      exact .released kept available fits consumed delivered status stands
  | kept kept absent fits consumed delivered status stands =>
      exact .kept kept absent fits consumed delivered status stands
  | failed status reason => exact .failed status reason

theorem Answer.settled_of_unused
    (answer : Answer machine words start capacity source before reply after) {status : Nat}
    (replied : reply.status = .ok status) (unused : reply.consumed < source.length) :
    after = .start start ∨ after.held ≠ [] := by
  have exceeding : ∀ held : List β, capacity < held.length → held.drop capacity ≠ [] := by
    intro held exceeds
    rw [Ne, List.drop_eq_nil_iff]
    omega
  cases answer with
  | starved _ _ _ _ consumed => omega
  | clogged full consumed delivered status stands => exact Or.inr (stands ▸ exceeding _ full)
  | overflowed free overflow needed consumed delivered status stands =>
      rcases overflow with ⟨_, _, _, _, _, _, _, _, _, _, _, exceeds⟩
      exact Or.inr (stands ▸ exceeding _ exceeds)
  | withheld free overflow ended consumed delivered status stands =>
      rcases overflow with ⟨_, _, _, _, _, _, _, _, _, _, _, exceeds⟩
      exact Or.inr (stands ▸ exceeding _ exceeds)
  | finished _ _ _ _ _ _ _ stands => exact Or.inl stands
  | released _ _ _ _ _ _ stands => exact Or.inl stands
  | kept _ absent => simp [absent] at unused
  | failed status => rw [status] at replied; cases replied

end

/-! ## Getting on -/

def Standing.owed (standing : Standing State α β) : Nat := if standing.hostage then 1 else 0

section

variable {machine words : UnitMachine State α β Error} {start : State} {capacity : Nat}
  {source : List α} {before after : Standing State α β} {reply : Reply Context β Error}

theorem gulps_nil {part : List α} {cursor next : Cursor State α} {output : List β}
    (gulps : machine.Gulps cursor [] part next output) : next = cursor ∧ output = [] := by
  cases gulps with
  | refl => exact ⟨rfl, rfl⟩
  | snoc gulps needed available => simp at available

theorem Overflow.part_pos {part : List α} {next : Cursor State α} {output : List β}
    (overflow : Overflow machine capacity source before part next output)
    (sound : machine.Sound before.cursor) : 0 < part.length := by
  rcases overflow with ⟨sooner, middle, out, more, gulps, needed, available, -, rfl, -, -, -⟩
  have positive := UnitMachine.gulpSize_pos (gulps.sound sound) needed available
  have some := List.length_pos_iff.mpr available
  rw [List.length_append, List.length_take]
  omega

/-- A call that does not end a frame reads on, or hands on something that was held.
Without input and with nothing held, it stands still. -/
theorem Answer.advances (answer : Answer machine words start capacity source before reply after)
    (sound : machine.Sound before.cursor) (room : 0 < capacity) {hint : Nat}
    (unfinished : reply.status = .ok (hint + 1)) :
    source.length - reply.consumed - after.owed < source.length - before.owed ∨
    (reply.consumed = 0 ∧ after.owed = before.owed ∧ after.held.length < before.held.length) ∨
    (source = [] ∧ before.held = [] ∧ reply.consumed = 0 ∧ after = before) := by
  cases answer with
  | starved free gulps needed fits consumed delivered status stands =>
      have noneOwed : before.owed = 0 := by simp [Standing.owed, free]
      rw [consumed, stands, noneOwed]
      rcases List.eq_nil_or_concat source with rfl | ⟨front, last, rfl⟩
      · rcases gulps_nil gulps with ⟨rfl, -⟩
        right
        rcases before with ⟨cursor, held, hostage⟩
        simp only at free
        subst free
        cases held with
        | nil => exact Or.inr ⟨rfl, rfl, rfl, rfl⟩
        | cons first rest => exact Or.inl ⟨rfl, rfl, Nat.succ_pos _⟩
      · left
        simp [Standing.owed]
  | clogged full consumed delivered status stands =>
      right
      left
      rw [stands]
      refine ⟨consumed, rfl, ?_⟩
      rw [List.length_drop]
      omega
  | overflowed free overflow needed consumed delivered status stands =>
      left
      have positive := overflow.part_pos sound
      have within := overflow.gulps.isPrefix.length_le
      simp only [stands, Standing.owed, free, consumed, Bool.false_eq_true, if_false]
      omega
  | withheld free overflow ended consumed delivered status stands =>
      left
      have positive := overflow.part_pos sound
      have within := overflow.gulps.isPrefix.length_le
      simp only [stands, Standing.owed, free, Bool.false_eq_true, if_false, if_true]
      omega
  | kept kept absent fits consumed delivered status stands =>
      right
      rw [stands]
      by_cases empty : before.held = []
      · right
        refine ⟨absent, empty, consumed, ?_⟩
        rcases before with ⟨cursor, held, hostage⟩
        simp only at empty
        subst empty
        rfl
      · exact Or.inl ⟨consumed, rfl, List.length_pos_iff.mpr empty⟩
  | finished _ _ _ _ _ _ status => rw [status] at unfinished; cases unfinished
  | released _ _ _ _ _ status => rw [status] at unfinished; cases unfinished
  | failed status => rw [status] at unfinished; cases unfinished

theorem gulps_needed {part : List α} {cursor next : Cursor State α} {output : List β}
    (gulps : machine.Gulps cursor source part next output)
    (needed : machine.need cursor.state ≠ 0) (ended : machine.need next.state = 0)
    (sound : machine.Sound cursor) : 0 < part.length := by
  cases gulps with
  | refl => exact absurd ended needed
  | snoc gulps more available gulped =>
      have positive := UnitMachine.gulpSize_pos (gulps.sound sound) more available
      have some := List.length_pos_iff.mpr available
      rw [List.length_append, List.length_take]
      omega

theorem Answer.advances_of_available
    (answer : Answer machine words start capacity source before reply after)
    (sound : machine.Sound before.cursor) (room : 0 < capacity) (available : source ≠ [])
    (needed : before.hostage = false → machine.need before.cursor.state ≠ 0)
    {status : Nat} (accepted : reply.status = .ok status)
    (goes : ¬(status = 0 ∧ reply.output = [])) :
    source.length - reply.consumed - after.owed < source.length - before.owed ∨
    (source.length - reply.consumed - after.owed = source.length - before.owed ∧
      after.held.length < before.held.length) := by
  have positive := List.length_pos_iff.mpr available
  cases status with
  | succ hint =>
      rcases answer.advances sound room accepted with
        reads | ⟨consumed, owed, handsOn⟩ | ⟨absent, -⟩
      · exact Or.inl reads
      · right
        rw [consumed, owed]
        exact ⟨rfl, handsOn⟩
      · exact absurd absent available
  | zero =>
      cases answer with
      | finished free gulps ended fits consumed delivered status stands =>
          left
          have some := gulps_needed gulps (needed free) ended sound
          simp only [stands, Standing.start, Standing.owed, free, consumed, Bool.false_eq_true,
            if_false]
          omega
      | released kept some fits consumed delivered status stands =>
          right
          have held : before.held ≠ [] := fun empty => goes ⟨rfl, delivered.trans empty⟩
          simp only [stands, Standing.start, Standing.owed, kept, consumed, Bool.false_eq_true,
            if_false, if_true]
          exact ⟨Nat.sub_zero _, List.length_pos_iff.mpr held⟩
      | starved _ _ _ _ _ _ status => rw [status] at accepted; cases accepted
      | clogged _ _ _ status => rw [status] at accepted; cases accepted
      | overflowed _ _ _ _ _ status => rw [status] at accepted; cases accepted
      | withheld _ _ _ _ _ status => rw [status] at accepted; cases accepted
      | kept _ _ _ _ _ status => rw [status] at accepted; cases accepted
      | failed status => rw [status] at accepted; cases accepted

theorem Answer.sound (answer : Answer machine words start capacity source before reply after)
    (sound : machine.Sound before.cursor) {status : Nat} (accepted : reply.status = .ok status) :
    machine.Sound after.cursor := by
  cases answer with
  | starved free gulps needed fits consumed delivered status stands =>
      exact stands ▸ gulps.sound sound
  | clogged full consumed delivered status stands => exact stands ▸ sound
  | overflowed free overflow needed consumed delivered status stands =>
      exact stands ▸ overflow.gulps.sound sound
  | withheld free overflow ended consumed delivered status stands =>
      exact stands ▸ overflow.gulps.sound sound
  | finished free gulps ended fits consumed delivered status stands =>
      exact stands ▸ machine.sound_start start
  | released kept available fits consumed delivered status stands =>
      exact stands ▸ machine.sound_start start
  | kept kept absent fits consumed delivered status stands => exact stands ▸ sound
  | failed status => rw [status] at accepted; cases accepted

end

/-- A decoder whose calls are answers as long as its input can become a word, with
the relation between its contexts and where it stands. -/
structure UnitDecoder (decoder : Decoder Context α β Error) (initial : Context)
    (machine words : UnitMachine State α β Error) (start : State) where
  restricts : words.Restricts machine
  Stands : Context → Standing State α β → Prop
  needed : machine.need start ≠ 0
  initial : Stands initial (.start start)
  call : ∀ {context before} (capacity source), Stands context before →
    machine.Sound before.cursor →
    (∃ after, Answer machine words start capacity source before
        (decoder context capacity source) after ∧
      ∀ status, (decoder context capacity source).status = .ok status →
        Stands (decoder context capacity source).context after) ∨
    Strays words capacity source before (decoder context capacity source) ∧
      Stands (decoder context capacity source).context (.start start)

/-! ## Sessions -/

section

variable {machine words : UnitMachine State α β Error} {start : State} {capacity : Nat}
  {stream source taken : List α} {given : List β} {before after : Standing State α β}
  {reply : Reply Context β Error}

/-- How where a decoder stands accounts for what it has taken and given. -/
inductive Account (machine : UnitMachine State α β Error) (start : State)
    (stream taken : List α) (given : List β) : Standing State α β → Prop
  | reading {cursor : Cursor State α} {held : List β}
      (scanned : machine.scanAll ⟨start, []⟩ taken = some (cursor, given ++ held))
      (needed : machine.need cursor.state ≠ 0) :
      Account machine start stream taken given ⟨cursor, held, false⟩
  | withholding {cursor : Cursor State α} {held : List β} (last : α)
      (next : taken ++ [last] <+: stream)
      (scanned : machine.scanAll ⟨start, []⟩ (taken ++ [last]) = some (cursor, given ++ held))
      (ended : machine.need cursor.state = 0) :
      Account machine start stream taken given ⟨cursor, held, true⟩

structure Follows (machine : UnitMachine State α β Error) (start : State)
    (stream taken : List α) (given : List β) (standing : Standing State α β) : Prop where
  takenPrefix : taken <+: stream
  sound : machine.Sound standing.cursor
  account : Account machine start stream taken given standing

theorem Follows.beginning (needed : machine.need start ≠ 0) (stream : List α) :
    Follows machine start stream [] [] (.start start) :=
  ⟨List.nil_prefix, machine.sound_start start, .reading rfl needed⟩

theorem append_isPrefix {part : List α} (takenPrefix : taken <+: stream)
    (presented : source <+: stream.drop taken.length) (found : part <+: source) :
    taken ++ part <+: stream := by
  rcases takenPrefix with ⟨rest, rfl⟩
  rw [List.drop_left] at presented
  exact (List.prefix_append_right_inj taken).mpr (found.trans presented)

theorem take_length_of_prefix {part : List α} (found : part <+: source) :
    source.take part.length = part := by
  rcases found with ⟨rest, rfl⟩
  exact List.take_left

variable (follows : Follows machine start stream taken given before)
  (presented : source <+: stream.drop taken.length)
include follows

theorem Follows.free_scan (free : before.hostage = false) :
    machine.scanAll ⟨start, []⟩ taken = some (before.cursor, given ++ before.held) ∧
      machine.need before.cursor.state ≠ 0 := by
  cases follows.account with
  | reading scanned needed => exact ⟨scanned, needed⟩
  | withholding => cases free

theorem Follows.hostage_scan (kept : before.hostage = true) :
    ∃ last, taken ++ [last] <+: stream ∧
      machine.scanAll ⟨start, []⟩ (taken ++ [last]) =
        some (before.cursor, given ++ before.held) ∧
      machine.need before.cursor.state = 0 := by
  cases follows.account with
  | reading => cases kept
  | withholding last next scanned ended => exact ⟨last, next, scanned, ended⟩

theorem Follows.gulps_scan {part : List α} {next : Cursor State α} {output : List β}
    (free : before.hostage = false)
    (gulps : machine.Gulps before.cursor source part next output) :
    machine.scanAll ⟨start, []⟩ (taken ++ part) =
      some (next, given ++ before.held ++ output) :=
  UnitMachine.scanAll_append_some (follows.free_scan free).1
    (gulps.scanAll_eq follows.sound)

include presented

theorem Follows.finish (answer : Answer machine words start capacity source before reply after)
    (finished : reply.status = .ok 0) :
    after = .start start ∧ reply.consumed ≤ source.length ∧
      reply.output.length ≤ capacity ∧
      machine.Reads ⟨start, []⟩ (taken ++ source.take reply.consumed)
        (given ++ reply.output) := by
  cases answer with
  | finished free gulps ended fits consumed delivered status stands =>
      rw [consumed, delivered, take_length_of_prefix gulps.isPrefix,
        ← List.append_assoc]
      exact ⟨stands, gulps.isPrefix.length_le, fits, _, follows.gulps_scan free gulps, ended⟩
  | released kept available fits consumed delivered status stands =>
      rcases follows.hostage_scan kept with ⟨last, next, scanned, ended⟩
      cases source with
      | nil => exact absurd rfl available
      | cons head rest =>
          have heads : taken ++ [head] <+: stream :=
            append_isPrefix follows.takenPrefix presented (by simp)
          have equal : taken ++ [head] = taken ++ [last] :=
            (List.prefix_of_prefix_length_le heads next (by simp)).eq_of_length (by simp)
          rw [consumed, delivered]
          refine ⟨stands, by simp, fits, before.cursor, ?_, ended⟩
          rw [List.take_succ_cons, List.take_zero, equal]
          exact scanned
  | starved _ _ _ _ _ _ status => rw [status] at finished; cases finished
  | clogged _ _ _ status => rw [status] at finished; cases finished
  | overflowed _ _ _ _ _ status => rw [status] at finished; cases finished
  | withheld _ _ _ _ _ status => rw [status] at finished; cases finished
  | kept _ _ _ _ _ status => rw [status] at finished; cases finished
  | failed status => rw [status] at finished; cases finished

theorem Follows.step (answer : Answer machine words start capacity source before reply after)
    {hint : Nat} (unfinished : reply.status = .ok (hint + 1)) :
    reply.consumed ≤ source.length ∧ reply.output.length ≤ capacity ∧
      Follows machine start stream (taken ++ source.take reply.consumed)
        (given ++ reply.output) after := by
  cases answer with
  | starved free gulps needed fits consumed delivered status stands =>
      rw [consumed, delivered, List.take_length, stands]
      refine ⟨le_refl _, fits,
        append_isPrefix follows.takenPrefix presented (List.prefix_refl source),
        gulps.sound follows.sound, .reading ?_ needed⟩
      rw [List.append_nil, ← List.append_assoc]
      exact follows.gulps_scan free gulps
  | clogged full consumed delivered status stands =>
      rw [consumed, delivered, List.take_zero, List.append_nil, stands]
      refine ⟨Nat.zero_le _, List.length_take_le _ _, follows.takenPrefix,
        follows.sound, ?_⟩
      have split : given ++ before.held.take capacity ++ before.held.drop capacity =
          given ++ before.held := by
        rw [List.append_assoc, List.take_append_drop]
      cases follows.account with
      | reading scanned needed => exact .reading (by rw [split]; exact scanned) needed
      | withholding last next scanned ended =>
          exact .withholding last next (by rw [split]; exact scanned) ended
  | @overflowed part next output _ free overflow needed consumed delivered status stands =>
      rw [consumed, delivered, take_length_of_prefix overflow.gulps.isPrefix, stands]
      refine ⟨overflow.gulps.isPrefix.length_le, List.length_take_le _ _,
        append_isPrefix follows.takenPrefix presented overflow.gulps.isPrefix,
        overflow.gulps.sound follows.sound, .reading ?_ needed⟩
      rw [List.append_assoc, List.take_append_drop, ← List.append_assoc]
      exact follows.gulps_scan free overflow.gulps
  | @withheld part next output _ free overflow ended consumed delivered status stands =>
      have partPrefix := overflow.gulps.isPrefix
      have nonempty : part ≠ [] := by
        rintro rfl
        simp at consumed
      have front : source.take reply.consumed = part.dropLast := by
        rw [List.dropLast_eq_take, ← consumed, Nat.add_sub_cancel]
        rcases partPrefix with ⟨rest, rfl⟩
        exact List.take_append_of_le_length (by omega)
      have whole : taken ++ source.take reply.consumed ++ [part.getLast nonempty] =
          taken ++ part := by
        rw [front, List.append_assoc, List.dropLast_append_getLast]
      rw [delivered, stands]
      refine ⟨by have := partPrefix.length_le; omega, List.length_take_le _ _,
        append_isPrefix follows.takenPrefix presented (List.take_prefix _ _),
        overflow.gulps.sound follows.sound,
        .withholding (part.getLast nonempty) ?_ ?_ ended⟩
      · rw [whole]
        exact append_isPrefix follows.takenPrefix presented partPrefix
      · rw [whole, List.append_assoc, List.take_append_drop, ← List.append_assoc]
        exact follows.gulps_scan free overflow.gulps
  | kept kept absent fits consumed delivered status stands =>
      rw [consumed, delivered, List.take_zero, List.append_nil, stands]
      refine ⟨Nat.zero_le _, fits, follows.takenPrefix, follows.sound, ?_⟩
      cases follows.account with
      | reading => cases kept
      | withholding last next scanned ended =>
          exact .withholding last next (by rw [List.append_nil]; exact scanned) ended
  | finished _ _ _ _ _ _ status => rw [status] at unfinished; cases unfinished
  | released _ _ _ _ _ status => rw [status] at unfinished; cases unfinished
  | failed status => rw [status] at unfinished; cases unfinished

end

section

variable {decoder : Decoder Context α β Error} {initial context : Context}
  {machine words : UnitMachine State α β Error} {start : State}
  {stream taken : List α} {given : List β}

theorem UnitDecoder.follows (unit : UnitDecoder decoder initial machine words start)
    (session : DecodingSession decoder initial stream context taken given) :
    ∃ standing, unit.Stands context standing ∧
      Follows machine start stream taken given standing := by
  induction session with
  | initial stream => exact ⟨_, unit.initial, .beginning unit.needed stream⟩
  | @inside stream context taken given capacity source hint session presented unfinished
      induction =>
      rcases induction with ⟨before, stands, follows⟩
      rcases unit.call capacity source stands follows.sound with ⟨after, answer, kept⟩ | ⟨strays, -⟩
      · exact ⟨after, kept _ unfinished, (follows.step presented answer unfinished).2.2⟩
      · rw [strays.status] at unfinished
        cases unfinished
  | @boundary stream context taken given capacity source next session presented finished
      induction =>
      rcases induction with ⟨before, stands, follows⟩
      rcases unit.call capacity source stands follows.sound with
        ⟨after, answer, kept⟩ | ⟨strays, starts⟩
      · have ends := follows.finish presented answer finished
        exact ⟨.start start, ends.1 ▸ kept _ finished, .beginning unit.needed next⟩
      · exact ⟨.start start, starts, .beginning unit.needed next⟩

end

/-! ## The contract -/

section

variable {machine words : UnitMachine State α β Error} {start : State} {capacity : Nat}
  {stream source taken frame : List α} {given content : List β}
  {before after : Standing State α β} {reply : Reply Context β Error}

/-- What a call achieves in a word of the machine, with what the eager contract
adds. -/
structure EagerProgress (frame : List α) (content : List β) (taken : List α)
    (given : List β) (capacity : Nat) (source : List α) (reply : Reply Context β Error)
    (status : Nat) : Prop extends
    FrameProgress frame content taken given reply status where
  eager : status ≠ 0 → reply.consumed = source.length ∨
    reply.output.length = capacity ∧ given ++ reply.output ≠ content

theorem eagerProgress_of_full {produced : List β} {hint : Nat} (more : List β)
    (room : 0 < capacity)
    (exceeds : capacity < produced.length)
    (delivered : reply.output = produced.take capacity)
    (isContent : content = given ++ produced ++ more)
    (short : taken.length + reply.consumed < frame.length) :
    EagerProgress frame content taken given capacity source reply (hint + 1) := by
  have length : reply.output.length = capacity := by
    rw [delivered, List.length_take]
    omega
  have longer : (given ++ reply.output).length < content.length := by
    rw [isContent, List.length_append, List.length_append, List.length_append]
    omega
  refine ⟨⟨short.le, ?_, ?_, fun _ => Or.inr (by omega)⟩, fun _ => Or.inr ⟨length, ?_⟩⟩
  · rw [isContent, delivered, List.append_assoc, List.prefix_append_right_inj]
    exact (List.take_prefix _ _).trans (List.prefix_append _ _)
  · constructor
    · intro finished
      cases finished
    · intro finished
      omega
  · intro equal
    rw [equal] at longer
    exact lt_irrefl _ longer

theorem eagerProgress_of_whole (consumed : taken.length + reply.consumed = frame.length)
    (delivered : given ++ reply.output = content) :
    EagerProgress frame content taken given capacity source reply 0 := by
  refine ⟨⟨consumed.le, ?_, ?_, fun absurd => (absurd rfl).elim⟩,
    fun absurd => (absurd rfl).elim⟩
  · rw [delivered]
  · simp only [consumed, delivered, and_self]

theorem Follows.word_rest (restricts : words.Restricts machine)
    (follows : Follows machine start stream taken given before) (kept : before.hostage = false)
    {word whole : List α} {total : List β} (reads : words.Reads ⟨start, []⟩ word total)
    (heads : word <+: whole) (takenHeads : taken <+: whole) :
    ∃ left more, left ≠ [] ∧ word = taken ++ left ∧ total = given ++ before.held ++ more ∧
      words.Reads before.cursor left more := by
  have scanned := follows.free_scan kept
  exact restricts.longer reads scanned.1 scanned.2 heads takenHeads

theorem Follows.not_strays (restricts : words.Restricts machine)
    (follows : Follows machine start stream taken given before) {word whole : List α}
    {total : List β} (reads : words.Reads ⟨start, []⟩ word total) (heads : word <+: whole)
    (takenHeads : taken <+: whole) (presented : source <+: whole.drop taken.length) :
    ¬Strays words capacity source before reply := by
  intro strays
  rcases follows.word_rest restricts strays.free reads heads takenHeads with
    ⟨left, more, -, rfl, -, readsLeft⟩
  have impossible := strays.disagrees _ _ readsLeft
  rcases List.prefix_or_prefix_of_prefix (prefix_drop_of_append heads) presented with
    first | second
  · exact impossible.1 first
  · exact impossible.2 second

theorem Follows.progress_free (restricts : words.Restricts machine)
    (follows : Follows machine start stream taken given before)
    (kept : before.hostage = false)
    (presented : source <+: stream.drop taken.length)
    (wordReads : words.Reads ⟨start, []⟩ frame content) (heads : frame <+: stream)
    (room : 0 < capacity) (input : source ≠ [] ∨ taken.length = frame.length)
    (answer : Answer machine words start capacity source before reply after) :
    ∃ status, reply.status = .ok status ∧
      EagerProgress frame content taken given capacity source reply status := by
  rcases follows.word_rest restricts kept wordReads heads follows.takenPrefix with
    ⟨left, more, nonempty, rfl, rfl, wordLeft⟩
  have readsLeft := restricts.reads wordLeft
  have positive := List.length_pos_iff.mpr nonempty
  have leftPrefix : left <+: stream.drop taken.length := prefix_drop_of_append heads
  cases answer with
  | starved free gulps needed fits consumed delivered status stands =>
      rcases readsLeft.longer (gulps.scanAll_eq follows.sound) needed leftPrefix presented
        with ⟨rest, later, restNonempty, rfl, rfl, -⟩
      have restPositive := List.length_pos_iff.mpr restNonempty
      have short : taken.length + reply.consumed < (taken ++ (source ++ rest)).length := by
        simp only [List.length_append, consumed]
        omega
      refine ⟨_, status, ⟨⟨short.le, ?_, ?_, fun _ => Or.inl ?_⟩,
        fun _ => Or.inl consumed⟩⟩
      · rw [delivered]
        exact ⟨later, by simp only [List.append_assoc]⟩
      · constructor
        · intro finished
          cases finished
        · intro finished
          omega
      · rcases input with available | taken
        · rw [consumed]
          exact List.length_pos_iff.mpr available
        · simp only [List.length_append] at taken
          omega
  | clogged full consumed delivered status stands =>
      refine ⟨_, status, eagerProgress_of_full more room full delivered rfl ?_⟩
      rw [consumed, List.length_append]
      omega
  | @overflowed part next output hint free overflow needed consumed delivered status stands =>
      rcases readsLeft.longer (overflow.gulps.scanAll_eq follows.sound) needed leftPrefix
        (overflow.gulps.isPrefix.trans presented) with ⟨rest, later, restNonempty, rfl, rfl, -⟩
      have restPositive := List.length_pos_iff.mpr restNonempty
      rcases overflow with ⟨_, _, _, _, _, _, _, _, _, _, _, exceeds⟩
      refine ⟨_, status, eagerProgress_of_full later room exceeds delivered
        (by simp only [List.append_assoc]) ?_⟩
      simp only [List.length_append, consumed]
      omega
  | @withheld part next output hint free overflow ended consumed delivered status stands =>
      have readsPart : machine.Reads before.cursor part output :=
        ⟨next, overflow.gulps.scanAll_eq follows.sound, ended⟩
      rcases readsPart.unique readsLeft (overflow.gulps.isPrefix.trans presented)
        leftPrefix with ⟨rfl, rfl⟩
      rcases overflow with ⟨_, _, _, _, _, _, _, _, _, _, _, exceeds⟩
      refine ⟨_, status, eagerProgress_of_full [] room exceeds delivered
        (by simp only [List.append_assoc, List.append_nil]) ?_⟩
      simp only [List.length_append]
      omega
  | @finished part next output free gulps ended fits consumed delivered status stands =>
      have readsPart : machine.Reads before.cursor part output :=
        ⟨next, gulps.scanAll_eq follows.sound, ended⟩
      rcases readsPart.unique readsLeft (gulps.isPrefix.trans presented) leftPrefix with
        ⟨rfl, rfl⟩
      refine ⟨0, status, eagerProgress_of_whole ?_ ?_⟩
      · rw [consumed, List.length_append]
      · rw [delivered, List.append_assoc]
  | released wasKept => rw [kept] at wasKept; cases wasKept
  | kept wasKept => rw [kept] at wasKept; cases wasKept
  | failed status reason =>
      rcases reason with absent | full | reason
      · rcases input with available | taken
        · exact absurd absent available
        · rw [List.length_append] at taken
          omega
      · omega
      · have impossible := reason.2 _ _ wordLeft
        rcases List.prefix_or_prefix_of_prefix leftPrefix presented with first | second
        · exact absurd first impossible.1
        · exact absurd second impossible.2

theorem Follows.progress_hostage (follows : Follows machine start stream taken given before)
    (kept : before.hostage = true)
    (reads : machine.Reads ⟨start, []⟩ frame content) (heads : frame <+: stream)
    (room : 0 < capacity) (input : source ≠ [] ∨ taken.length = frame.length)
    (answer : Answer machine words start capacity source before reply after) :
    ∃ status, reply.status = .ok status ∧
      EagerProgress frame content taken given capacity source reply status := by
  rcases follows.hostage_scan kept with ⟨last, next, scanned, ended⟩
  have readsNext : machine.Reads ⟨start, []⟩ (taken ++ [last]) (given ++ before.held) :=
    ⟨before.cursor, scanned, ended⟩
  rcases readsNext.unique reads next heads with ⟨rfl, rfl⟩
  have available : source ≠ [] := by
    rcases input with available | taken
    · exact available
    · simp at taken
  cases answer with
  | clogged full consumed delivered status stands =>
      refine ⟨_, status, eagerProgress_of_full [] room full delivered
        (by rw [List.append_nil]) ?_⟩
      rw [consumed, List.length_append, List.length_singleton]
      omega
  | released _ _ fits consumed delivered status stands =>
      refine ⟨0, status, eagerProgress_of_whole ?_ ?_⟩
      · rw [consumed, List.length_append, List.length_singleton]
      · rw [delivered]
  | starved free => rw [kept] at free; cases free
  | overflowed free => rw [kept] at free; cases free
  | withheld free => rw [kept] at free; cases free
  | finished free => rw [kept] at free; cases free
  | kept _ absent => exact absurd absent available
  | failed status reason =>
      rcases reason with absent | full | reason
      · exact absurd absent available
      · omega
      · rw [kept] at reason
        cases reason.1

theorem Follows.progress (restricts : words.Restricts machine)
    (follows : Follows machine start stream taken given before)
    (presented : source <+: stream.drop taken.length)
    (reads : words.Reads ⟨start, []⟩ frame content) (heads : frame <+: stream)
    (room : 0 < capacity) (input : source ≠ [] ∨ taken.length = frame.length)
    (answer : Answer machine words start capacity source before reply after) :
    ∃ status, reply.status = .ok status ∧
      EagerProgress frame content taken given capacity source reply status := by
  cases kept : before.hostage with
  | false => exact follows.progress_free restricts kept presented reads heads room input answer
  | true => exact follows.progress_hostage kept (restricts.reads reads) heads room input answer

theorem Follows.withholds (follows : Follows machine start stream taken given before)
    (presented : source <+: stream.drop taken.length)
    (reads : machine.Reads ⟨start, []⟩ frame content) (heads : frame <+: stream)
    (answer : Answer machine words start capacity source before reply after) {hint : Nat}
    (unfinished : reply.status = .ok (hint + 1)) :
    taken.length + reply.consumed < frame.length := by
  have stepped := follows.step presented answer unfinished
  have length : (taken ++ source.take reply.consumed).length =
      taken.length + reply.consumed := by
    rw [List.length_append, List.length_take, min_eq_left stepped.1]
  rw [← length]
  cases kept : after.hostage with
  | false =>
      have scanned := stepped.2.2.free_scan kept
      rcases reads.longer scanned.1 scanned.2 heads stepped.2.2.takenPrefix with
        ⟨left, more, nonempty, rfl, -, -⟩
      have positive := List.length_pos_iff.mpr nonempty
      have longer : (taken ++ source.take reply.consumed ++ left).length =
          (taken ++ source.take reply.consumed).length + left.length := List.length_append
      omega
  | true =>
      rcases stepped.2.2.hostage_scan kept with ⟨last, next, scanned, ended⟩
      have readsNext : machine.Reads ⟨start, []⟩ _ _ := ⟨after.cursor, scanned, ended⟩
      rcases readsNext.unique reads next heads with ⟨rfl, -⟩
      simp

end

section

variable {decoder : Decoder Context α β Error} {initial : Context}
  {machine words : UnitMachine State α β Error} {start : State}

/-- Inside a word, every call is an answer. -/
theorem UnitDecoder.answers (unit : UnitDecoder decoder initial machine words start)
    {context : Context} {stream source taken frame : List α} {given content : List β}
    (capacity : Nat) (session : DecodingSession decoder initial stream context taken given)
    (reads : words.Reads ⟨start, []⟩ frame content) (heads : frame <+: stream)
    (presented : source <+: stream.drop taken.length) :
    ∃ before after, Follows machine start stream taken given before ∧
      Answer machine words start capacity source before (decoder context capacity source)
        after := by
  rcases unit.follows session with ⟨before, stands, follows⟩
  rcases unit.call capacity source stands follows.sound with ⟨after, answer, -⟩ | ⟨strays, -⟩
  · exact ⟨before, after, follows, answer⟩
  · exact absurd strays
      (follows.not_strays unit.restricts reads heads follows.takenPrefix presented)

/-- Such a decoder satisfies the eager contract for the words. -/
theorem UnitDecoder.eagerContract (unit : UnitDecoder decoder initial machine words start) :
    EagerContract decoder initial (words.Reads ⟨start, []⟩) where
  frame_nonempty := fun reads => (unit.restricts.reads reads).nonempty unit.needed
  bounded := by
    intro stream context taken given capacity source status session presented replied
    rcases unit.follows session with ⟨before, stands, follows⟩
    rcases unit.call capacity source stands follows.sound with ⟨after, answer, -⟩ | ⟨strays, -⟩
    · cases status with
      | zero => exact ⟨(follows.finish presented answer replied).2.1,
          (follows.finish presented answer replied).2.2.1⟩
      | succ hint => exact ⟨(follows.step presented answer replied).1,
          (follows.step presented answer replied).2.1⟩
    · exact ⟨strays.consumed_le, strays.output_le⟩
  complete := by
    intro stream context taken given capacity source frame content session reads heads
      within presented room input
    rcases unit.answers capacity session reads heads presented with
      ⟨before, after, follows, answer⟩
    rcases follows.progress unit.restricts presented reads heads room input answer with
      ⟨status, replied, made⟩
    exact ⟨status, replied, made.toFrameProgress⟩
  withholds := by
    intro stream context taken given capacity source frame content hint session reads heads
      within presented unfinished
    rcases unit.answers capacity session reads heads presented with
      ⟨before, after, follows, answer⟩
    exact follows.withholds presented (unit.restricts.reads reads) heads answer unfinished
  eager := by
    intro stream context taken given capacity source frame content hint session reads heads
      within presented room available unfinished
    rcases unit.answers capacity session reads heads presented with
      ⟨before, after, follows, answer⟩
    rcases follows.progress unit.restricts presented reads heads room (Or.inl available) answer
      with ⟨status, replied, made⟩
    rw [unfinished] at replied
    cases replied
    exact made.eager (Nat.succ_ne_zero hint)

end

end Streaming
