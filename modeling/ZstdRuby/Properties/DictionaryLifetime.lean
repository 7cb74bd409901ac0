import ZstdRuby.Extension.ObjectLifetime
import ZstdRuby.Foundation.Run

/-! # What streams keep alive

A stream marks its buffers, and no dictionary. So its buffers stay where it looks
for them, while its dictionary lives only as long as the program holds the
dictionary object as well.
-/

namespace ZstdRuby

open ManagedHeap

variable {haveRbGcMarkMovable : Bool} {before after memory : Memory} {action : MemoryAction}

/-! ## The properties -/

/-- An operation on the stream uses nothing that has been freed or has moved
away. -/
def UsesAlive (memory : Memory) (stream : RubyObject) : Prop :=
  (∀ data, stream.usesDictionary = some data → memory.native data = true) ∧
    ∀ reference ∈ stream.usesStrings, memory.heap.Valid reference

def StreamsUseAlive (haveRbGcMarkMovable : Bool) (memory : Memory) : Prop :=
  ∀ address object, memory.heap.Reachable (callbacks haveRbGcMarkMovable) address →
    memory.heap.objects address = some object → UsesAlive memory object.body

/-- The condition on a collection: of every stream the program can reach, it can
also reach the dictionary object. -/
def ReachesDictionaries (haveRbGcMarkMovable : Bool) (memory : Memory) : Prop :=
  ∀ address object data, memory.heap.Reachable (callbacks haveRbGcMarkMovable) address →
    memory.heap.objects address = some object → object.body.usesDictionary = some data →
    ∃ owner dictionary, memory.heap.Reachable (callbacks haveRbGcMarkMovable) owner ∧
      memory.heap.objects owner = some dictionary ∧ dictionary.body.frees = some data

/-! ## What every action keeps -/

/-- The heap is consistent, and the native dictionaries are those of the
dictionary objects. -/
structure Sound (haveRbGcMarkMovable : Bool) (memory : Memory) : Prop where
  consistent : Heap.Consistent (callbacks haveRbGcMarkMovable) memory.heap
  numbered : ∀ {address object data}, memory.heap.objects address = some object →
    object.body.frees = some data → data = object.identity
  owned : ∀ data, memory.native data = true ↔ ∃ address object,
    memory.heap.objects address = some object ∧ object.body.frees = some data

def HasDictionaries (memory : Memory) : Prop :=
  ∀ address object data, memory.heap.objects address = some object →
    object.body.usesDictionary = some data → memory.native data = true

theorem usesStrings_mark (object : RubyObject) : object.usesStrings = object.mark := by
  cases object <;> rfl

theorem Sound.usesStrings_valid {address : Nat} {object : Object RubyObject}
    (sound : Sound haveRbGcMarkMovable memory)
    (found : memory.heap.objects address = some object) :
    ∀ reference ∈ object.body.usesStrings, memory.heap.Valid reference := by
  rw [usesStrings_mark]
  exact sound.consistent.marked found

theorem Sound.streamsUseAlive (sound : Sound haveRbGcMarkMovable memory)
    (has : HasDictionaries memory) : StreamsUseAlive haveRbGcMarkMovable memory :=
  fun address object _ found =>
    ⟨fun data uses => has address object data found uses, sound.usesStrings_valid found⟩

section

variable {address : Nat} {object : RubyObject}

theorem Sound.empty : Sound haveRbGcMarkMovable .empty where
  consistent := .empty
  numbered := fun absurd => by cases absurd
  owned := by simp [Memory.empty, Heap.empty]

theorem HasDictionaries.empty : HasDictionaries .empty :=
  fun _ _ _ absurd => by cases absurd

theorem Sound.allocate (sound : Sound haveRbGcMarkMovable memory)
    (free : memory.heap.objects address = none) (other : object.frees = none)
    (valid : ∀ reference ∈ object.mark, memory.heap.Valid reference) :
    Sound haveRbGcMarkMovable { memory with heap := memory.heap.allocate address object } where
  consistent := sound.consistent.allocate free valid
  numbered := by
    intro place found data was frees
    rcases Heap.allocate_cases was with ⟨-, rfl⟩ | was
    · rw [other] at frees
      cases frees
    · exact sound.numbered was frees
  owned := by
    intro data
    rw [sound.owned]
    constructor
    · rintro ⟨place, found, was, frees⟩
      refine ⟨place, found, ?_, frees⟩
      rw [Heap.allocate_other, was]
      rintro rfl
      rw [free] at was
      cases was
    · rintro ⟨place, found, was, frees⟩
      rcases Heap.allocate_cases was with ⟨-, rfl⟩ | was
      · rw [other] at frees
        cases frees
      · exact ⟨place, found, was, frees⟩

theorem Sound.createString (sound : Sound haveRbGcMarkMovable memory)
    (free : memory.heap.objects address = none) :
    Sound haveRbGcMarkMovable (memory.createString address) :=
  sound.allocate free rfl (by simp [RubyObject.mark])

theorem HasDictionaries.allocate (has : HasDictionaries memory)
    (alive : ∀ data, object.usesDictionary = some data → memory.native data = true) :
    HasDictionaries { memory with heap := memory.heap.allocate address object } := by
  intro place found data was uses
  rcases Heap.allocate_cases was with ⟨-, rfl⟩ | was
  · exact alive data uses
  · exact has place found data was uses

theorem Sound.hold {reference : Reference} (sound : Sound haveRbGcMarkMovable memory)
    (valid : memory.heap.Valid reference) :
    Sound haveRbGcMarkMovable { memory with heap := memory.heap.hold reference } :=
  ⟨sound.consistent.hold valid, sound.numbered, sound.owned⟩

theorem Sound.create (sound : Sound haveRbGcMarkMovable memory)
    (free : memory.heap.objects address = none) (other : object.frees = none)
    (valid : ∀ reference ∈ object.mark, memory.heap.Valid reference) :
    Sound haveRbGcMarkMovable (memory.create address object) :=
  (sound.allocate free other valid).hold (Heap.allocate_valid _ _ _)

theorem Sound.createDictionary {dictionary : Nat → RubyObject}
    (sound : Sound haveRbGcMarkMovable memory) (free : memory.heap.objects address = none)
    (frees : ∀ data, (dictionary data).frees = some data)
    (marks : ∀ data, (dictionary data).mark = []) :
    Sound haveRbGcMarkMovable (memory.createDictionary address dictionary) where
  consistent := by
    refine (sound.consistent.allocate free fun reference member => ?_).hold
      (Heap.allocate_valid _ _ _)
    rw [show (callbacks haveRbGcMarkMovable).marks (dictionary memory.heap.fresh) = [] from
      marks _] at member
    cases member
  numbered := by
    intro place found data was freed
    rcases Heap.allocate_cases was with ⟨-, rfl⟩ | was
    · exact Option.some.inj (freed.symm.trans (frees _))
    · exact sound.numbered was freed
  owned := by
    intro data
    by_cases new : data = memory.heap.fresh
    · subst new
      refine ⟨fun _ => ⟨address, _, Heap.allocate_self _ _ _, frees _⟩, fun _ => ?_⟩
      exact Function.update_self _ _ _
    · rw [show (memory.createDictionary address dictionary).native data = memory.native data from
        Function.update_of_ne new _ _, sound.owned]
      constructor
      · rintro ⟨place, found, was, freed⟩
        refine ⟨place, found, (Heap.allocate_other ?_).trans was, freed⟩
        rintro rfl
        rw [free] at was
        cases was
      · rintro ⟨place, found, was, freed⟩
        rcases Heap.allocate_cases was with ⟨-, rfl⟩ | was
        · exact absurd (Option.some.inj (freed.symm.trans (frees _))) new
        · exact ⟨place, found, was, freed⟩

theorem HasDictionaries.createDictionary {dictionary : Nat → RubyObject}
    (has : HasDictionaries memory) (none : ∀ data, (dictionary data).usesDictionary = none) :
    HasDictionaries (memory.createDictionary address dictionary) := by
  intro place found data was uses
  rcases Heap.allocate_cases was with ⟨-, rfl⟩ | was
  · rw [none] at uses
    cases uses
  · have alive := has place found data was uses
    by_cases new : data = memory.heap.fresh
    · subst new
      exact Function.update_self _ _ _
    · exact (Function.update_of_ne new _ _).trans alive

end

/-! ## Collections and compactions -/

theorem callbacks_compact_frees (location : Nat → Nat) (object : RubyObject) :
    ((callbacks haveRbGcMarkMovable).compact location object).frees = object.frees := by
  cases haveRbGcMarkMovable <;> cases object <;> rfl

theorem callbacks_compact_usesDictionary (location : Nat → Nat) (object : RubyObject) :
    ((callbacks haveRbGcMarkMovable).compact location object).usesDictionary =
      object.usesDictionary := by
  cases haveRbGcMarkMovable <;> cases object <;> rfl

theorem Sound.collect_native (sound : Sound haveRbGcMarkMovable before)
    (frees : ∀ data, after.native data = true ↔ before.native data = true ∧
      ∀ address object, before.heap.objects address = some object →
        object.body.frees = some data →
        before.heap.Reachable (callbacks haveRbGcMarkMovable) address) (data : Nat) :
    after.native data = true ↔ ∃ address object,
      before.heap.Reachable (callbacks haveRbGcMarkMovable) address ∧
      before.heap.objects address = some object ∧ object.body.frees = some data := by
  rw [frees, sound.owned]
  constructor
  · rintro ⟨⟨address, object, found, freed⟩, reached⟩
    exact ⟨address, object, reached address object found freed, found, freed⟩
  · rintro ⟨address, object, reachable, found, freed⟩
    refine ⟨⟨address, object, found, freed⟩, fun other dictionary found' freed' => ?_⟩
    have same := (sound.numbered found freed).symm.trans (sound.numbered found' freed')
    rwa [sound.consistent.unique found' found same.symm]

theorem Sound.collect (sound : Sound haveRbGcMarkMovable before)
    (collects : Heap.Collects (callbacks haveRbGcMarkMovable) before.heap after.heap)
    (frees : ∀ data, after.native data = true ↔ before.native data = true ∧
      ∀ address object, before.heap.objects address = some object →
        object.body.frees = some data →
        before.heap.Reachable (callbacks haveRbGcMarkMovable) address) :
    Sound haveRbGcMarkMovable after where
  consistent := sound.consistent.collect collects
  numbered := fun found freed => sound.numbered (collects.found found).2 freed
  owned := by
    intro data
    rw [sound.collect_native frees]
    constructor
    · rintro ⟨address, object, reachable, found, freed⟩
      exact ⟨address, object, (collects.keeps reachable).trans found, freed⟩
    · rintro ⟨address, object, found, freed⟩
      rcases collects.found found with ⟨reachable, was⟩
      exact ⟨address, object, reachable, was, freed⟩

theorem Sound.compact {location : Nat → Nat} (sound : Sound haveRbGcMarkMovable before)
    (compacts : Heap.Compacts (callbacks haveRbGcMarkMovable) location before.heap after.heap)
    (native : after.native = before.native) : Sound haveRbGcMarkMovable after where
  consistent := sound.consistent.compact compacts
  numbered := by
    intro address object data found freed
    rcases compacts.nothingElse found with ⟨source, original, was, -, rfl⟩
    rw [callbacks_compact_frees] at freed
    have numbered := sound.numbered was freed
    exact numbered
  owned := by
    intro data
    rw [native, sound.owned]
    constructor
    · rintro ⟨address, object, found, freed⟩
      exact ⟨_, _, compacts.moves found, (callbacks_compact_frees _ _).trans freed⟩
    · rintro ⟨address, object, found, freed⟩
      rcases compacts.nothingElse found with ⟨source, original, was, -, rfl⟩
      exact ⟨source, original, was, (callbacks_compact_frees _ _).symm.trans freed⟩

theorem Memory.exists_collect (haveRbGcMarkMovable : Bool) (before : Memory) :
    ∃ after, Memory.Step haveRbGcMarkMovable before .collect after := by
  classical
  rcases Heap.exists_collects (callbacks haveRbGcMarkMovable) before.heap with ⟨heap, collects⟩
  refine ⟨⟨heap, fun data => decide (before.native data = true ∧ ∀ address object,
    before.heap.objects address = some object → object.body.frees = some data →
    before.heap.Reachable (callbacks haveRbGcMarkMovable) address)⟩, .collect collects ?_⟩
  intro data
  exact decide_eq_true_iff

/-! ## Actions -/

theorem Sound.dictionaryPointer (sound : Sound haveRbGcMarkMovable memory) {dict : DictArgument}
    {pointer : Option Nat} (accepted : compressDictionaryPointer memory.heap dict = some pointer ∨
      decompressDictionaryPointer memory.heap dict = some pointer) :
    ∀ data, pointer = some data → memory.native data = true := by
  rintro data rfl
  cases dict with
  | nil => simp [compressDictionaryPointer, decompressDictionaryPointer] at accepted
  | string => simp [compressDictionaryPointer, decompressDictionaryPointer] at accepted
  | object reference =>
      rw [sound.owned]
      rcases accepted with accepted | accepted
      · simp only [compressDictionaryPointer] at accepted
        split at accepted
        · rename_i found
          cases accepted
          exact ⟨_, _, found, rfl⟩
        · cases accepted
        · cases accepted
      · simp only [decompressDictionaryPointer] at accepted
        split at accepted
        · rename_i found
          cases accepted
          exact ⟨_, _, found, rfl⟩
        · cases accepted
        · cases accepted

theorem Sound.step (sound : Sound haveRbGcMarkMovable before)
    (step : Memory.Step haveRbGcMarkMovable before action after) :
    Sound haveRbGcMarkMovable after := by
  cases step with
  | createCDict free => exact sound.createDictionary free (fun _ => rfl) (fun _ => rfl)
  | createDDict free => exact sound.createDictionary free (fun _ => rfl) (fun _ => rfl)
  | createStreamingCompress held accepted freeBuf freePending free =>
      have withBuf := sound.createString freeBuf
      have withPending := withBuf.createString freePending
      apply withPending.create free rfl
      intro reference member
      rcases List.mem_pair.mp member with rfl | rfl
      · exact (Heap.allocate_valid _ _ _).allocate freePending
      · exact Heap.allocate_valid _ _ _
  | createStreamingDecompress held accepted freeBuf free =>
      have withBuf := sound.createString freeBuf
      apply withBuf.create free rfl
      intro reference member
      rw [List.mem_singleton.mp member]
      exact Heap.allocate_valid _ _ _
  | operate held found isStream free => exact sound.create free rfl (by simp [RubyObject.mark])
  | operateWrite held found isStream => exact sound
  | drop reference => exact ⟨sound.consistent.drop reference, sound.numbered, sound.owned⟩
  | collect collects frees => exact sound.collect collects frees
  | compact compacts native => exact sound.compact compacts native

theorem HasDictionaries.step (sound : Sound haveRbGcMarkMovable before)
    (has : HasDictionaries before)
    (step : Memory.Step haveRbGcMarkMovable before action after)
    (reaches : action = .collect → ReachesDictionaries haveRbGcMarkMovable before) :
    HasDictionaries after := by
  cases step with
  | createCDict free => exact has.createDictionary fun _ => rfl
  | createDDict free => exact has.createDictionary fun _ => rfl
  | createStreamingCompress held accepted freeBuf freePending free =>
      have alive := sound.dictionaryPointer (.inl accepted)
      exact ((has.allocate (by simp [RubyObject.usesDictionary])).allocate
        (by simp [RubyObject.usesDictionary])).allocate alive
  | createStreamingDecompress held accepted freeBuf free =>
      have alive := sound.dictionaryPointer (.inr accepted)
      exact (has.allocate (by simp [RubyObject.usesDictionary])).allocate alive
  | operate held found isStream free => exact has.allocate (by simp [RubyObject.usesDictionary])
  | operateWrite held found isStream => exact has
  | drop reference => exact has
  | collect collects frees =>
      intro address object data found uses
      rcases collects.found found with ⟨reachable, was⟩
      rw [sound.collect_native frees]
      exact reaches rfl address object data reachable was uses
  | compact compacts native =>
      intro address object data found uses
      rcases compacts.nothingElse found with ⟨source, original, was, -, rfl⟩
      rw [callbacks_compact_usesDictionary] at uses
      rw [native]
      exact has source original data was uses

theorem reachesDictionaries_of_collect (sound : Sound haveRbGcMarkMovable before)
    (step : Memory.Step haveRbGcMarkMovable before .collect after)
    (alive : StreamsUseAlive haveRbGcMarkMovable after) :
    ReachesDictionaries haveRbGcMarkMovable before := by
  cases step with
  | collect collects frees =>
      intro address object data reachable found uses
      rw [← sound.collect_native frees]
      exact (alive address object (collects.reachable reachable)
        ((collects.keeps reachable).trans found)).1 data uses

/-! ## Runs -/

theorem Sound.of_run {actions : List MemoryAction}
    (run : Run (Memory.Step haveRbGcMarkMovable) .empty actions memory) :
    Sound haveRbGcMarkMovable memory :=
  run.invariant (Sound haveRbGcMarkMovable) (fun sound step => sound.step step) .empty

theorem streamsKeepStrings {actions : List MemoryAction}
    (run : Run (Memory.Step haveRbGcMarkMovable) .empty actions memory) {address : Nat}
    {object : Object RubyObject} (found : memory.heap.objects address = some object) :
    ∀ reference ∈ object.body.usesStrings, memory.heap.Valid reference :=
  (Sound.of_run run).usesStrings_valid found

/-- In a run the operations on streams never use anything freed or moved away,
exactly if every collection reaches the dictionary objects of the streams it
reaches. -/
theorem streamsUseAlive_run_iff {actions : List MemoryAction}
    (run : Run (Memory.Step haveRbGcMarkMovable) .empty actions memory) :
    Run (fun before action after => Memory.Step haveRbGcMarkMovable before action after ∧
        StreamsUseAlive haveRbGcMarkMovable after) .empty actions memory ↔
      Run (fun before action after => Memory.Step haveRbGcMarkMovable before action after ∧
        (action = .collect → ReachesDictionaries haveRbGcMarkMovable before))
        .empty actions memory := by
  constructor
  · intro safe
    induction safe with
    | nil => exact .nil
    | snoc earlier taken induction =>
        have before : Run (Memory.Step haveRbGcMarkMovable) .empty _ _ :=
          earlier.mono fun taken => taken.1
        refine (induction before).snoc ⟨taken.1, ?_⟩
        rintro rfl
        exact reachesDictionaries_of_collect (Sound.of_run before) taken.1 taken.2
  · intro reaching
    have kept : Run (fun before action after =>
        Memory.Step haveRbGcMarkMovable before action after ∧
          StreamsUseAlive haveRbGcMarkMovable after) .empty actions memory ∧
        HasDictionaries memory := by
      clear run
      induction reaching with
      | nil => exact ⟨.nil, .empty⟩
      | snoc run taken induction =>
          have sound : Sound haveRbGcMarkMovable _ := Sound.of_run (run.mono fun taken => taken.1)
          have has := HasDictionaries.step sound induction.2 taken.1 taken.2
          exact ⟨induction.1.snoc ⟨taken.1, (sound.step taken.1).streamsUseAlive has⟩, has⟩
    exact kept.1

/-! ## A stream with a dictionary -/

def streamWithDictionary : Memory :=
  (((Memory.empty.createDictionary 0 .cdict).createString 1).createString 2).create 3
    (.streamingCompress ⟨some 0, ⟨1, 1⟩, ⟨2, 2⟩⟩)

theorem streamWithDictionary_run :
    Run (fun before action after => Memory.Step true before action after ∧
        (action = .collect → ReachesDictionaries true before)) .empty
      [.createCDict, .createStreamingCompress (.object ⟨0, 0⟩)] streamWithDictionary := by
  have createCDict :
      Memory.Step true .empty .createCDict (Memory.empty.createDictionary 0 .cdict) :=
    .createCDict rfl
  refine (Run.singleton ⟨createCDict, nofun⟩).snoc
    ⟨.createStreamingCompress ?_ rfl rfl rfl rfl, nofun⟩
  rintro reference ⟨rfl⟩
  exact .head _

theorem streamWithDictionary_cases {address : Nat} {object : Object RubyObject}
    (found : streamWithDictionary.heap.objects address = some object) :
    object.body = .streamingCompress ⟨some 0, ⟨1, 1⟩, ⟨2, 2⟩⟩ ∨
      object.body.mark = [] ∧ object.body.usesDictionary = none := by
  rcases Heap.allocate_cases found with ⟨-, rfl⟩ | found
  · exact .inl rfl
  rcases Heap.allocate_cases found with ⟨-, rfl⟩ | found
  · exact .inr ⟨rfl, rfl⟩
  rcases Heap.allocate_cases found with ⟨-, rfl⟩ | found
  · exact .inr ⟨rfl, rfl⟩
  rcases Heap.allocate_cases found with ⟨-, rfl⟩ | found
  · exact .inr ⟨rfl, rfl⟩
  · cases found

theorem streamWithDictionary_reaches : ReachesDictionaries true streamWithDictionary := by
  intro address object data reachable found uses
  have held : (⟨0, 0⟩ : Reference) ∈ streamWithDictionary.heap.references := .tail _ (.head _)
  refine ⟨0, ⟨0, .cdict 0⟩, .held held, rfl, ?_⟩
  rcases streamWithDictionary_cases found with stream | ⟨-, none⟩
  · rw [stream] at uses
    exact uses
  · rw [none] at uses
    cases uses

theorem streamsUseAlive_run_iff_held :
    ∃ memory, Run (fun before action after => Memory.Step true before action after ∧
        StreamsUseAlive true after) .empty
      [.createCDict, .createStreamingCompress (.object ⟨0, 0⟩), .collect, .operate ⟨3, 3⟩]
      memory := by
  rcases Memory.exists_collect true streamWithDictionary with ⟨after, step⟩
  have run := streamWithDictionary_run.snoc ⟨step, fun _ => streamWithDictionary_reaches⟩
  cases step with
  | collect collects frees =>
      have held : (⟨3, 3⟩ : Reference) ∈ streamWithDictionary.heap.references := .head _
      have operate : Memory.Step true after (.operate ⟨3, 3⟩) after :=
        .operateWrite (collects.references ▸ held) ((collects.keeps (.held held)).trans rfl) rfl
      have reaching := run.snoc ⟨operate, nofun⟩
      exact ⟨after, (streamsUseAlive_run_iff (reaching.mono fun taken => taken.1)).mpr reaching⟩

def streamWithoutDictionary : Memory :=
  { streamWithDictionary with heap := streamWithDictionary.heap.drop ⟨0, 0⟩ }

theorem streamWithoutDictionary_reachable {address : Nat}
    (reachable : streamWithoutDictionary.heap.Reachable (callbacks true) address) :
    address ≠ 0 := by
  cases reachable with
  | held member =>
      rw [show streamWithoutDictionary.heap.references = [⟨3, 3⟩] from rfl,
        List.mem_singleton] at member
      subst member
      decide
  | marked reachable found member =>
      change _ ∈ RubyObject.mark _ at member
      rcases streamWithDictionary_cases found with stream | ⟨none, -⟩
      · rw [stream] at member
        rcases List.mem_pair.mp member with rfl | rfl <;> decide
      · rw [none] at member
        cases member

/-- Then a collection frees the dictionary that the stream still uses. -/
theorem stream_usesFreedDictionary :
    ∃ memory, Run (Memory.Step true) .empty
      [.createCDict, .createStreamingCompress (.object ⟨0, 0⟩), .drop ⟨0, 0⟩, .collect,
        .operate ⟨3, 3⟩] memory ∧ ¬StreamsUseAlive true memory := by
  rcases Memory.exists_collect true streamWithoutDictionary with ⟨after, step⟩
  have created : Run (Memory.Step true) .empty _ streamWithDictionary :=
    streamWithDictionary_run.mono fun taken => taken.1
  have run := (created.snoc (.drop ⟨0, 0⟩)).snoc step
  cases step with
  | collect collects frees =>
      have held : (⟨3, 3⟩ : Reference) ∈ streamWithoutDictionary.heap.references := .head _
      have stream := (collects.keeps (.held held)).trans rfl
      have operate : Memory.Step true after (.operate ⟨3, 3⟩) after :=
        .operateWrite (collects.references ▸ held) stream rfl
      refine ⟨after, run.snoc operate, fun alive => ?_⟩
      have dictionary := (alive 3 _ (collects.reachable (.held held)) stream).1 0 rfl
      have reachable := ((frees 0).mp dictionary).2 0 ⟨0, .cdict 0⟩ rfl rfl
      exact streamWithoutDictionary_reachable reachable rfl

end ZstdRuby
