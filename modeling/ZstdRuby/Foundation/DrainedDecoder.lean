import ZstdRuby.Foundation.UnitDecoder

/-! # Drained decoders

What a decoder has given when it has taken all of a part of a frame and the last
call has left room in its output buffer: everything the part says about the
frame's content.
-/

namespace Streaming

universe u v w x y

section

variable {State : Type v} {α : Type w} {β : Type x} {Error : Type y}

namespace UnitMachine

/-- From the start the machine reads `elements` as a proper part of a word, and
its output is `content`. -/
def ReadsPart (machine : UnitMachine State α β Error) (start : State) (elements : List α)
    (content : List β) : Prop :=
  ∃ cursor, machine.scanAll ⟨start, []⟩ elements = some (cursor, content) ∧
    machine.need cursor.state ≠ 0

variable {machine : UnitMachine State α β Error} {start : State} {elements : List α}
  {content content' : List β}

theorem ReadsPart.unique (reads : machine.ReadsPart start elements content)
    (reads' : machine.ReadsPart start elements content') : content = content' := by
  rcases reads with ⟨cursor, scanned, -⟩
  rcases reads' with ⟨cursor', scanned', -⟩
  rw [scanned] at scanned'
  cases scanned'
  rfl

theorem ReadsPart.scanned_of_prefix (reads : machine.ReadsPart start elements content)
    {part : List α} (found : part <+: elements) {next : Cursor State α} {output : List β}
    (scanned : machine.scanAll ⟨start, []⟩ part = some (next, output)) :
    machine.need next.state ≠ 0 ∧ output <+: content := by
  rcases found with ⟨rest, rfl⟩
  rcases reads with ⟨cursor, whole, needed⟩
  rcases scanAll_append_inv whole with ⟨middle, first, second, left, right, rfl⟩
  rw [scanned] at left
  cases left
  refine ⟨fun ended => needed ?_, List.prefix_append _ _⟩
  rcases scanAll_ended ended right with ⟨-, equal⟩
  cases equal
  exact ended

end UnitMachine

end

section

variable {Context : Type u} {State : Type v} {α : Type w} {β : Type x} {Error : Type y}

/-- Some calls on the initial context, each presenting a slice of `elements` from
where the previous one stopped, take all of `elements` and give `content`, and
the last of them succeeds and leaves room in its output buffer. -/
def DrainsTo (decoder : Decoder Context α β Error) (initial : Context) (elements : List α)
    (content : List β) : Prop :=
  ∃ context taken given capacity source status,
    DecodingSession decoder initial elements context taken given ∧
    source <+: elements.drop taken.length ∧
    (decoder context capacity source).status = .ok status ∧
    taken ++ source.take (decoder context capacity source).consumed = elements ∧
    given ++ (decoder context capacity source).output = content ∧
    (decoder context capacity source).output.length < capacity

variable {machine words : UnitMachine State α β Error} {start : State} {capacity : Nat}
  {stream source taken : List α} {given : List β} {before after : Standing State α β}
  {reply : Reply Context β Error}

theorem Answer.held_eq_nil (answer : Answer machine words start capacity source before reply after)
    {hint : Nat} (unfinished : reply.status = .ok (hint + 1))
    (room : reply.output.length < capacity) : after.held = [] := by
  cases answer with
  | starved _ _ _ _ _ _ _ stands => rw [stands]
  | clogged full _ delivered =>
      rw [delivered, List.length_take, min_eq_left full.le] at room
      exact absurd room (lt_irrefl _)
  | overflowed _ overflow _ _ delivered =>
      rcases overflow with ⟨_, _, _, _, _, _, _, _, _, _, _, exceeds⟩
      rw [delivered, List.length_take, min_eq_left exceeds.le] at room
      exact absurd room (lt_irrefl _)
  | withheld _ overflow _ _ delivered =>
      rcases overflow with ⟨_, _, _, _, _, _, _, _, _, _, _, exceeds⟩
      rw [delivered, List.length_take, min_eq_left exceeds.le] at room
      exact absurd room (lt_irrefl _)
  | kept _ _ _ _ _ _ stands => rw [stands]
  | finished _ _ _ _ _ _ status => rw [status] at unfinished; cases unfinished
  | released _ _ _ _ _ status => rw [status] at unfinished; cases unfinished
  | failed status => rw [status] at unfinished; cases unfinished

theorem Follows.drained {content : List β}
    (follows : Follows machine start stream taken given before)
    (presented : source <+: stream.drop taken.length)
    (answer : Answer machine words start capacity source before reply after) {status : Nat}
    (replied : reply.status = .ok status) (whole : taken ++ source.take reply.consumed = stream)
    (room : reply.output.length < capacity) (reads : machine.ReadsPart start stream content) :
    given ++ reply.output = content := by
  cases status with
  | zero =>
      have readsWhole := (follows.finish presented answer replied).2.2.2
      rw [whole] at readsWhole
      rcases readsWhole with ⟨last, scanned, ended⟩
      exact absurd ended (reads.scanned_of_prefix (List.prefix_refl _) scanned).1
  | succ hint =>
      have next := (follows.step presented answer replied).2.2
      have nothing := answer.held_eq_nil replied room
      rw [whole] at next
      cases kept : after.hostage with
      | false =>
          rcases next.free_scan kept with ⟨scanned, needed⟩
          rw [nothing, List.append_nil] at scanned
          exact UnitMachine.ReadsPart.unique ⟨_, scanned, needed⟩ reads
      | true =>
          rcases next.hostage_scan kept with ⟨last, beyond, -⟩
          have length := beyond.length_le
          rw [List.length_append, List.length_singleton] at length
          omega

theorem Answer.takes_part {content more : List β} {word : List α}
    (answer : Answer machine words start capacity source (.start start) reply after)
    (reads : machine.ReadsPart start source content) (nonempty : source ≠ [])
    (readsWord : words.Reads ⟨start, []⟩ word more) (begins : source <+: word)
    (room : content.length < capacity) :
    ∃ hint, reply.status = .ok (hint + 1) ∧ reply.consumed = source.length ∧
      reply.output = content := by
  have sound := machine.sound_start start
  cases answer with
  | @starved next output hint free gulps needed fits consumed delivered status stands =>
      refine ⟨hint, status, consumed, delivered.trans ?_⟩
      exact UnitMachine.ReadsPart.unique ⟨next, gulps.scanAll_eq sound, needed⟩ reads
  | clogged full => exact absurd full (Nat.not_lt_zero _)
  | overflowed free overflow =>
      have short := (reads.scanned_of_prefix overflow.gulps.isPrefix
        (overflow.gulps.scanAll_eq sound)).2.length_le
      rcases overflow with ⟨_, _, _, _, _, _, _, _, _, _, _, exceeds⟩
      simp only [Standing.start, List.nil_append] at exceeds
      omega
  | withheld free overflow ended =>
      exact absurd ended (reads.scanned_of_prefix overflow.gulps.isPrefix
        (overflow.gulps.scanAll_eq sound)).1
  | finished free gulps ended =>
      exact absurd ended (reads.scanned_of_prefix gulps.isPrefix (gulps.scanAll_eq sound)).1
  | released kept => cases kept
  | kept kept => cases kept
  | failed status reason =>
      rcases reason with absent | none | reason
      · exact absurd absent nonempty
      · omega
      · exact absurd begins (reason.2 _ _ readsWord).2

variable {decoder : Decoder Context α β Error} {initial : Context} {elements : List α}
  {content : List β}

theorem UnitDecoder.content_of_drainsTo
    (unit : UnitDecoder decoder initial machine words start)
    (reads : machine.ReadsPart start elements content) {word : List α} {more : List β}
    (readsWord : words.Reads ⟨start, []⟩ word more) (begins : elements <+: word) {given : List β}
    (drains : DrainsTo decoder initial elements given) : given = content := by
  rcases drains with
    ⟨context, taken, before, capacity, source, status, session, presented, replied, whole,
      rfl, room⟩
  rcases unit.follows session with ⟨standing, stands, follows⟩
  rcases unit.call capacity source stands follows.sound with ⟨after, answer, -⟩ | ⟨strays, -⟩
  · exact follows.drained presented answer replied whole room reads
  · refine absurd strays (follows.not_strays unit.restricts readsWord (List.prefix_refl _)
      (follows.takenPrefix.trans begins) (presented.trans ?_))
    exact begins.drop taken.length

theorem UnitDecoder.drainsTo (unit : UnitDecoder decoder initial machine words start)
    (reads : machine.ReadsPart start elements content) (nonempty : elements ≠ [])
    {word : List α} {more : List β} (readsWord : words.Reads ⟨start, []⟩ word more)
    (begins : elements <+: word) : DrainsTo decoder initial elements content := by
  have starts := Follows.beginning unit.needed word
  rcases unit.call (content.length + 1) elements unit.initial (machine.sound_start start) with
    ⟨after, answer, -⟩ | ⟨strays, -⟩
  · rcases answer.takes_part reads nonempty readsWord begins (Nat.lt_succ_self _) with
      ⟨hint, replied, consumed, delivered⟩
    refine ⟨initial, [], [], content.length + 1, elements, _, .initial elements,
      List.prefix_refl _, replied, ?_, delivered, ?_⟩
    · rw [consumed, List.nil_append, List.take_length]
    · rw [delivered]
      exact Nat.lt_succ_self _
  · exact absurd strays (starts.not_strays unit.restricts readsWord (List.prefix_refl _)
      List.nil_prefix begins)

end

end Streaming
