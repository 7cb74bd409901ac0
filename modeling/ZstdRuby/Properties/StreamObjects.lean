import ZstdRuby.Extension.StreamObjects
import ZstdRuby.Properties.ErrorProtocol
import ZstdRuby.Properties.StreamCalls

/-! # Calls on the objects of a program

What `initialize` sets, no call unsets, so calls on objects that `new` has made
return or raise what is meant to be raised. `allocate` and `dup` make stream
objects that crash in the first call that does anything, and `StreamReader#close`
fails on every reader. A libzstd whose calls fail changes nothing about that, as long
as its loops of calls come to an end.
-/

namespace ZstdRuby

open Libzstd Streaming

variable {CCtx DCtx : Type}

/-! ## Objects that have only been allocated -/

/-- The call returns, or raises on purpose. -/
def EndsWell {ρ : Type} (result : Except Stop ρ) : Prop :=
  ∀ stop, result = .error stop → stop.Deliberate

theorem EndsWell.returned {ρ : Type} (value : ρ) : EndsWell (.ok value) := by
  intro stop stopped
  cases stopped

theorem EndsWell.raised {ρ : Type} (raised : RubyError) :
    EndsWell (.error (.raised raised) : Except Stop ρ) := by
  rintro stop ⟨⟩
  trivial

theorem EndsWell.mapError {ρ : Type} (result : Except RubyError ρ) :
    EndsWell (result.mapError .raised) := by
  cases result with
  | ok value => exact .returned value
  | error raised => exact .raised raised

theorem not_endsWell_crashed {ρ : Type} : ¬EndsWell (.error .crashed : Except Stop ρ) :=
  fun ends => ends .crashed rfl

theorem not_endsWell_undefined {ρ : Type} (name : String) :
    ¬EndsWell (.error (.undefinedMethod name) : Except Stop ρ) :=
  fun ends => ends (.undefinedMethod name) rfl

theorem writeAllocated_endsWell_iff (argv : List Value) :
    EndsWell (writeAllocated argv) ↔ writesNothing argv = true := by
  induction argv with
  | nil => exact iff_of_true (.returned _) rfl
  | cons str argv induction =>
      cases converted : str.stringValue with
      | error raised =>
          simp only [writeAllocated, writesNothing, converted]
          exact iff_of_true (.raised raised) trivial
      | ok input =>
          simp only [writeAllocated, writesNothing, converted]
          by_cases empty : input = []
          · simp [empty, induction]
          · simp only [empty, if_false]
            exact iff_of_false not_endsWell_crashed (by simp [empty])

theorem CompressCall.onAllocated_endsWell_iff (call : CompressCall) :
    EndsWell call.onAllocated ↔ call.quiet = true := by
  cases call with
  | compress src =>
      have same : (compress src).onAllocated = writeAllocated [src] := by
        simp only [onAllocated, writeAllocated]
      rw [same]
      exact writeAllocated_endsWell_iff [src]
  | write argv => exact writeAllocated_endsWell_iff argv
  | flush => exact iff_of_false not_endsWell_crashed Bool.false_ne_true
  | finish => exact iff_of_false not_endsWell_crashed Bool.false_ne_true

theorem DecompressCall.onAllocated_endsWell_iff (call : DecompressCall) :
    EndsWell call.onAllocated ↔ call.quiet = true := by
  cases call with
  | decompress src =>
      cases converted : src.stringValue with
      | error raised =>
          simp only [onAllocated, quiet, writesNothing, converted]
          exact iff_of_true (.raised raised) trivial
      | ok input =>
          simp only [onAllocated, quiet, writesNothing, converted]
          by_cases empty : input = []
          · simp only [empty, if_true]
            exact iff_of_true (.returned _) rfl
          · simp only [empty, if_false]
            exact iff_of_false not_endsWell_crashed (by simp [empty])
  | decompressWithPos src =>
      cases converted : src.stringValue with
      | error raised =>
          simp only [onAllocated, quiet, converted]
          exact iff_of_true (.raised raised) trivial
      | ok input =>
          simp only [onAllocated, quiet, converted]
          exact iff_of_false not_endsWell_crashed Bool.false_ne_true

/-! ## Lists of objects -/

section

variable {α : Type} {list : List (Option α)} {i j : Nat} {value : α}

def Initialized (list : List (Option α)) (i : Nat) : Prop := ∃ value, list[i]? = some (some value)

theorem Initialized.not_allocated (initialized : Initialized list i) : list[i]? ≠ some none := by
  rcases initialized with ⟨value, found⟩
  rw [found]
  simp

theorem Initialized.append (initialized : Initialized list i) (more : List (Option α)) :
    Initialized (list ++ more) i := by
  rcases initialized with ⟨value, found⟩
  exact ⟨value, (List.getElem?_append_left (List.getElem?_eq_some_iff.mp found).1).trans found⟩

theorem initialized_concat (list : List (Option α)) (value : α) :
    Initialized (list ++ [some value]) list.length :=
  ⟨value, List.getElem?_concat_length⟩

theorem Initialized.set (initialized : Initialized list i) (j : Nat) (value : α) :
    Initialized (list.set j (some value)) i := by
  rcases initialized with ⟨old, found⟩
  have within := (List.getElem?_eq_some_iff.mp found).1
  by_cases same : j = i
  · subst same
    exact ⟨value, List.getElem?_set_self within⟩
  · exact ⟨old, (List.getElem?_set_ne same).trans found⟩

theorem of_getElem?_set {found : α} (set : (list.set j (some value))[i]? = some (some found)) :
    list[i]? = some (some found) ∨ found = value := by
  by_cases same : j = i
  · subst same
    right
    have within : j < list.length := by
      have within := (List.getElem?_eq_some_iff.mp set).1
      rwa [List.length_set] at within
    rw [List.getElem?_set_self within] at set
    exact (Option.some.inj (Option.some.inj set)).symm
  · rw [List.getElem?_set_ne same] at set
    exact Or.inl set

theorem of_getElem?_concat {new : Option α} {found : α}
    (appended : (list ++ [new])[i]? = some (some found)) :
    list[i]? = some (some found) ∨ new = some found := by
  rcases Nat.lt_or_ge i list.length with inside | outside
  · rw [List.getElem?_append_left inside] at appended
    exact Or.inl appended
  · rw [List.getElem?_append_right outside] at appended
    have member := List.mem_of_getElem? appended
    exact Or.inr (List.mem_singleton.mp member).symm

end

/-! ## What every operation keeps -/

section

variable {cLibrary : CompressLibrary CCtx} {dLibrary : DecompressLibrary DCtx}

/-- Whatever has been called before, the loops of calls come to an end. -/
structure CallsEnd (cLibrary : CompressLibrary CCtx) (dLibrary : DecompressLibrary DCtx) :
    Prop where
  encodes : ∀ {dictionary initial}, cLibrary.Prepared dictionary initial →
    cLibrary.compressStream2.Terminates cStreamOutSize initial
  decodes : ∀ {dictionary initial}, dLibrary.Prepared dictionary initial →
    dLibrary.decompressStream.Terminates dStreamOutSize initial

def Encodes (cLibrary : CompressLibrary CCtx) (stream : StreamingCompress CCtx) : Prop :=
  ∃ dictionary initial, cLibrary.Prepared dictionary initial ∧
    cLibrary.compressStream2.Reaches cStreamOutSize initial stream.ctx none

def Decodes (dLibrary : DecompressLibrary DCtx) (dctx : DCtx) : Prop :=
  ∃ dictionary initial, dLibrary.Prepared dictionary initial ∧
    dLibrary.decompressStream.Reaches initial dctx

/-- What holds of the objects between two operations: the streams can be called, and
readers and writers have streams that have been initialized. -/
structure WellFormed (cLibrary : CompressLibrary CCtx) (dLibrary : DecompressLibrary DCtx)
    (objects : Objects CCtx DCtx) : Prop where
  compressors : ∀ {id : Nat} {stream}, objects.compressors[id]? = some (some stream) →
    Encodes cLibrary stream
  decompressors : ∀ {id : Nat} {dctx}, objects.decompressors[id]? = some (some dctx) →
    Decodes dLibrary dctx
  writers : ∀ {id : Nat} {fields}, objects.writers[id]? = some (some fields) →
    (∀ io ∈ fields.io, io < objects.ios.length) ∧ Initialized objects.compressors fields.stream
  readers : ∀ {id : Nat} {fields}, objects.readers[id]? = some (some fields) →
    (∀ io ∈ fields.io, io < objects.ios.length) ∧ Initialized objects.decompressors fields.stream

theorem WellFormed.empty :
    WellFormed cLibrary dLibrary (Objects.empty : Objects CCtx DCtx) where
  compressors := by simp [Objects.empty]
  decompressors := by simp [Objects.empty]
  writers := by simp [Objects.empty]
  readers := by simp [Objects.empty]

namespace WellFormed

variable {objects : Objects CCtx DCtx}
  (wellFormed : WellFormed cLibrary dLibrary objects)
include wellFormed

theorem setIo (id : Nat) (object : IoObject) :
    WellFormed cLibrary dLibrary (objects.setIo id object) where
  compressors := wellFormed.compressors
  decompressors := wellFormed.decompressors
  writers := by
    simp only [Objects.setIo, List.length_set]
    exact wellFormed.writers
  readers := by
    simp only [Objects.setIo, List.length_set]
    exact wellFormed.readers

theorem setCompressor {next : StreamingCompress CCtx} (encodes : Encodes cLibrary next)
    (id : Nat) : WellFormed cLibrary dLibrary (objects.setCompressor id next) where
  compressors := by
    intro id stream found
    rcases of_getElem?_set found with old | rfl
    · exact wellFormed.compressors old
    · exact encodes
  decompressors := wellFormed.decompressors
  writers := fun found => (wellFormed.writers found).imp_right fun old => old.set _ _
  readers := wellFormed.readers

theorem setDecompressor {next : DCtx} (decodes : Decodes dLibrary next) (id : Nat) :
    WellFormed cLibrary dLibrary (objects.setDecompressor id next) where
  compressors := wellFormed.compressors
  decompressors := by
    intro id dctx found
    rcases of_getElem?_set found with old | rfl
    · exact wellFormed.decompressors old
    · exact decodes
  writers := wellFormed.writers
  readers := fun found => (wellFormed.readers found).imp_right fun old => old.set _ _

theorem openIo (content : Bytes) : WellFormed cLibrary dLibrary
    { objects with ios := objects.ios ++ [⟨⟨content, 0⟩, false⟩] } where
  compressors := wellFormed.compressors
  decompressors := wellFormed.decompressors
  writers := fun found => (wellFormed.writers found).imp_left fun within io has => by
    rw [List.length_append]
    exact Nat.lt_add_right _ (within io has)
  readers := fun found => (wellFormed.readers found).imp_left fun within io has => by
    rw [List.length_append]
    exact Nat.lt_add_right _ (within io has)

theorem closeIo (id : Nat) : WellFormed cLibrary dLibrary (objects.closeIo id) := by
  rw [Objects.closeIo]
  split
  · exact wellFormed
  · exact wellFormed.setIo id _

theorem addCompressor {new : Option (StreamingCompress CCtx)}
    (encodes : ∀ stream, new = some stream → Encodes cLibrary stream) :
    WellFormed cLibrary dLibrary { objects with compressors := objects.compressors ++ [new] } where
  compressors := by
    intro id stream found
    rcases of_getElem?_concat found with old | new
    · exact wellFormed.compressors old
    · exact encodes stream new
  decompressors := wellFormed.decompressors
  writers := fun found => (wellFormed.writers found).imp_right fun old => old.append _
  readers := wellFormed.readers

theorem addDecompressor {new : Option DCtx}
    (decodes : ∀ dctx, new = some dctx → Decodes dLibrary dctx) :
    WellFormed cLibrary dLibrary
      { objects with decompressors := objects.decompressors ++ [new] } where
  compressors := wellFormed.compressors
  decompressors := by
    intro id dctx found
    rcases of_getElem?_concat found with old | new
    · exact wellFormed.decompressors old
    · exact decodes dctx new
  writers := wellFormed.writers
  readers := fun found => (wellFormed.readers found).imp_right fun old => old.append _

theorem addWriter {new : Option StreamFields}
    (valid : ∀ fields, new = some fields → (∀ io ∈ fields.io, io < objects.ios.length) ∧
      Initialized objects.compressors fields.stream) :
    WellFormed cLibrary dLibrary { objects with writers := objects.writers ++ [new] } where
  compressors := wellFormed.compressors
  decompressors := wellFormed.decompressors
  writers := by
    intro id fields found
    rcases of_getElem?_concat found with old | new
    · exact wellFormed.writers old
    · exact valid fields new
  readers := wellFormed.readers

theorem addReader {new : Option StreamFields}
    (valid : ∀ fields, new = some fields → (∀ io ∈ fields.io, io < objects.ios.length) ∧
      Initialized objects.decompressors fields.stream) :
    WellFormed cLibrary dLibrary { objects with readers := objects.readers ++ [new] } where
  compressors := wellFormed.compressors
  decompressors := wellFormed.decompressors
  writers := wellFormed.writers
  readers := by
    intro id fields found
    rcases of_getElem?_concat found with old | new
    · exact wellFormed.readers old
    · exact valid fields new

end WellFormed

/-! ## The conditions on readers and writers -/

/-- If there is such a reader or writer, `initialize` has set its fields, with an
`IO`. -/
def HasIo (list : List (Option StreamFields)) (id : Nat) : Prop :=
  ∀ object, list[id]? = some object → ∃ io stream, object = some ⟨some io, stream⟩

def Objects.EndsFrame (cLibrary : CompressLibrary CCtx) (objects : Objects CCtx DCtx)
    (id : Nat) : Prop :=
  ∀ stream, objects.compressors[id]? = some (some stream) →
    cLibrary.compressStream2.Carries cStreamOutSize .finish stream.ctx

def Objects.Closed (objects : Objects CCtx DCtx) (io : Nat) : Prop :=
  ∃ object, objects.ios[io]? = some object ∧ object.closed = true

theorem closed_closeIo {objects : Objects CCtx DCtx} {io : Nat}
    (within : io < objects.ios.length) :
    (objects.closeIo io).Closed io := by
  simp only [Objects.Closed, Objects.closeIo, List.getElem?_eq_getElem within]
  exact ⟨_, List.getElem?_set_self within, rfl⟩

/-! ## Calls that go on -/

section

variable {ρ τ : Type} {first : Nat → Option (Ended CCtx DCtx ρ)}
  {next : Nat → ρ → Objects CCtx DCtx → Option (Ended CCtx DCtx τ)}
  {after : Objects CCtx DCtx}

theorem andThen_returned {value : ρ} {ended : Ended CCtx DCtx τ}
    (returned : Settles first (.ok value, after))
    (goes : Settles (fun fuel => next fuel value after) ended) :
    Settles (fun fuel => Objects.andThen (first fuel) (next fuel)) ended :=
  returned.bind goes

theorem andThen_stopped {stop : Stop} (stopped : Settles first (.error stop, after)) :
    Settles (fun fuel => Objects.andThen (first fuel) (next fuel)) (.error stop, after) :=
  stopped.bind (Settles.of_const _)

end

/-! ## Calls on the objects -/

/-- A call on the objects comes to an end that keeps them well-formed. It makes no
reader or writer and leaves those there are what they are. -/
def Succeeds {ρ : Type} (cLibrary : CompressLibrary CCtx)
    (dLibrary : DecompressLibrary DCtx) (objects : Objects CCtx DCtx)
    (computation : Nat → Option (Ended CCtx DCtx ρ)) : Prop :=
  ∃ result after, Settles computation (result, after) ∧ EndsWell result ∧
    WellFormed cLibrary dLibrary after ∧ after.writers = objects.writers ∧
    after.readers = objects.readers

theorem Succeeds.andThen {ρ τ : Type} {objects : Objects CCtx DCtx}
    {first : Nat → Option (Ended CCtx DCtx ρ)}
    {next : Nat → ρ → Objects CCtx DCtx →
      Option (Ended CCtx DCtx τ)}
    (succeeds : Succeeds cLibrary dLibrary objects first)
    (goes : ∀ value {after}, WellFormed cLibrary dLibrary after →
      after.writers = objects.writers → after.readers = objects.readers →
      Succeeds cLibrary dLibrary after fun fuel => next fuel value after) :
    Succeeds cLibrary dLibrary objects fun fuel => Objects.andThen (first fuel) (next fuel) := by
  rcases succeeds with ⟨result, after, settles, ends, wellFormed, writers, readers⟩
  cases result with
  | ok value =>
      rcases goes value wellFormed writers readers with
        ⟨result, last, goes, ends, wellFormed, lastWriters, lastReaders⟩
      exact ⟨result, last, andThen_returned settles goes, ends, wellFormed,
        lastWriters.trans writers, lastReaders.trans readers⟩
  | error stop =>
      refine ⟨.error stop, after, andThen_stopped settles, ?_, wellFormed, writers, readers⟩
      rintro stop ⟨⟩
      exact ends _ rfl

namespace WellFormed

variable {objects : Objects CCtx DCtx}
  (wellFormed : WellFormed cLibrary dLibrary objects)
include wellFormed

theorem succeeds {ρ : Type} {result : Except Stop ρ} (ends : EndsWell result) :
    Succeeds cLibrary dLibrary objects fun _ => some (result, objects) :=
  ⟨result, objects, Settles.of_const _, ends, wellFormed, rfl, rfl⟩

theorem succeeds_setIo {ρ : Type} {result : Except Stop ρ} (ends : EndsWell result) (id : Nat)
    (object : IoObject) :
    Succeeds cLibrary dLibrary objects fun _ => some (result, objects.setIo id object) :=
  ⟨result, _, Settles.of_const _, ends, wellFormed.setIo id object, rfl, rfl⟩

theorem callCompressor (ends : CallsEnd cLibrary dLibrary) {id : Nat} {call : CompressCall}
    (allowed : objects.compressors[id]? = some none → call.quiet = true) :
    Succeeds cLibrary dLibrary objects fun fuel =>
      objects.callCompressor cLibrary fuel id call := by
  simp only [Objects.callCompressor]
  cases found : objects.compressors[id]? with
  | none => exact wellFormed.succeeds (.returned _)
  | some object =>
      cases object with
      | none =>
          exact wellFormed.succeeds (call.onAllocated_endsWell_iff.mpr (allowed found))
      | some stream =>
          rcases wellFormed.compressors found with ⟨dictionary, initial, prepared, reaches⟩
          rcases call.run_ends (ends.encodes prepared) reaches with ⟨outcome, settles, reaches⟩
          exact ⟨_, _, settles.map _, .mapError outcome.result,
            wellFormed.setCompressor ⟨dictionary, initial, prepared, reaches⟩ id, rfl, rfl⟩

theorem callDecompressor (ends : CallsEnd cLibrary dLibrary) {id : Nat} {call : DecompressCall}
    (allowed : objects.decompressors[id]? = some none → call.quiet = true) :
    Succeeds cLibrary dLibrary objects fun fuel =>
      objects.callDecompressor dLibrary fuel id call := by
  simp only [Objects.callDecompressor]
  cases found : objects.decompressors[id]? with
  | none => exact wellFormed.succeeds (.returned _)
  | some object =>
      cases object with
      | none =>
          exact wellFormed.succeeds (call.onAllocated_endsWell_iff.mpr (allowed found))
      | some dctx =>
          rcases wellFormed.decompressors found with ⟨dictionary, initial, prepared, reaches⟩
          rcases call.run_ends (ends.decodes prepared) reaches with ⟨ended, settles, reaches⟩
          exact ⟨_, _, settles.map _, .mapError ended.1,
            wellFormed.setDecompressor ⟨dictionary, initial, prepared, reaches⟩ id, rfl, rfl⟩

theorem writeIo (id : Nat) (data : Bytes) :
    Succeeds cLibrary dLibrary objects fun _ => some (objects.writeIo id data) := by
  simp only [Objects.writeIo]
  cases found : objects.ios[id]? with
  | none => exact wellFormed.succeeds (.returned _)
  | some object =>
      simp only
      split
      · exact wellFormed.succeeds (by rintro stop ⟨⟩; trivial)
      · exact wellFormed.succeeds_setIo (.returned _) id _

theorem eofIo (id : Nat) :
    Succeeds cLibrary dLibrary objects fun _ => some (objects.eofIo id) := by
  simp only [Objects.eofIo]
  cases found : objects.ios[id]? with
  | none => exact wellFormed.succeeds (.returned _)
  | some object =>
      simp only
      split
      · exact wellFormed.succeeds (by rintro stop ⟨⟩; trivial)
      · exact wellFormed.succeeds (.returned _)

theorem readIo (id : Nat) (length : Value) :
    Succeeds cLibrary dLibrary objects fun _ => some (objects.readIo id length) := by
  simp only [Objects.readIo]
  cases found : objects.ios[id]? with
  | none => exact wellFormed.succeeds (.returned _)
  | some object =>
      simp only
      split
      · exact wellFormed.succeeds (by rintro stop ⟨⟩; trivial)
      · split
        · exact wellFormed.succeeds_setIo (.returned _) id _
        · split
          · exact wellFormed.succeeds (.raised _)
          · split
            · exact wellFormed.succeeds (.raised _)
            · exact wellFormed.succeeds_setIo (.returned _) id _

/-! ### Readers and writers -/

theorem writeFinished (ends : CallsEnd cLibrary dLibrary) {io stream : Nat}
    (initialized : Initialized objects.compressors stream) :
    Succeeds cLibrary dLibrary objects fun fuel =>
      objects.writeFinished cLibrary fuel ⟨some io, stream⟩ := by
  refine (wellFormed.callCompressor ends ?_).andThen
    fun bytes _ wellFormed _ _ => wellFormed.writeIo io bytes
  exact fun allocated => absurd allocated initialized.not_allocated

theorem writeWriter (ends : CallsEnd cLibrary dLibrary) {id : Nat} {data : List Value}
    (works : HasIo objects.writers id) :
    Succeeds cLibrary dLibrary objects fun fuel => objects.writeWriter cLibrary fuel id data := by
  simp only [Objects.writeWriter]
  cases found : objects.writers[id]? with
  | none => exact wellFormed.succeeds (.returned _)
  | some object =>
      rcases works object found with ⟨io, stream, rfl⟩
      have initialized := (wellFormed.writers found).2
      refine (wellFormed.callCompressor ends
        fun allocated => absurd allocated initialized.not_allocated).andThen
          fun _ after wellFormed writers _ => ?_
      have initialized := (wellFormed.writers (writers ▸ found)).2
      exact (wellFormed.callCompressor ends
        fun allocated => absurd allocated initialized.not_allocated).andThen
          fun bytes _ wellFormed _ _ => wellFormed.writeIo io bytes

theorem finishWriter (ends : CallsEnd cLibrary dLibrary) {id : Nat}
    (works : HasIo objects.writers id) :
    Succeeds cLibrary dLibrary objects fun fuel => objects.finishWriter cLibrary fuel id := by
  simp only [Objects.finishWriter]
  cases found : objects.writers[id]? with
  | none => exact wellFormed.succeeds (.returned _)
  | some object =>
      rcases works object found with ⟨io, stream, rfl⟩
      exact wellFormed.writeFinished ends (wellFormed.writers found).2

theorem closeWriter (ends : CallsEnd cLibrary dLibrary) {id io stream : Nat}
    (found : objects.writers[id]? = some (some ⟨some io, stream⟩))
    (ended : objects.EndsFrame cLibrary stream ∨ objects.Closed io) :
    ∃ result after, Settles (fun fuel => objects.closeWriter cLibrary fuel id) (result, after) ∧
      EndsWell result ∧ WellFormed cLibrary dLibrary after ∧ after.Closed io := by
  rcases wellFormed.writers found with ⟨within, object, present⟩
  have within := within io rfl
  rcases wellFormed.compressors present with ⟨dictionary, initial, prepared, reaches⟩
  rcases CompressCall.finish.run_ends (ends.encodes prepared) reaches with
    ⟨outcome, settles, reaches⟩
  have kept := wellFormed.setCompressor ⟨dictionary, initial, prepared, reaches⟩ stream
  have called : Settles (fun fuel => objects.callCompressor cLibrary fuel stream .finish)
      (outcome.result.mapError .raised, objects.setCompressor stream outcome.stream) := by
    simp only [Objects.callCompressor, present]
    exact settles.map _
  simp only [Objects.closeWriter, found]
  rcases outcome with ⟨raised | bytes, next⟩
  · have closed : objects.Closed io := by
      apply ended.resolve_left
      intro endsFrame
      rcases finish_returns (endsFrame object present) with ⟨bytes, next, returned⟩
      cases settles.unique returned
    exact ⟨_, _, andThen_stopped (andThen_stopped called), .raised raised, kept, closed⟩
  · have finished : Settles (fun fuel => objects.writeFinished cLibrary fuel ⟨some io, stream⟩)
        ((objects.setCompressor stream next).writeIo io bytes) :=
      andThen_returned called (Settles.of_const _)
    have file : (objects.setCompressor stream next).ios[io]? = some objects.ios[io] :=
      List.getElem?_eq_getElem within
    cases closed : objects.ios[io].closed with
    | true =>
        simp only [Objects.writeIo, file, closed, if_true] at finished
        exact ⟨_, _, andThen_stopped finished, by rintro stop ⟨⟩; trivial, kept, _, file, closed⟩
    | false =>
        simp only [Objects.writeIo, file, closed, Bool.false_eq_true, if_false] at finished
        have written := kept.setIo io
          { objects.ios[io] with io := objects.ios[io].io.write bytes, closed := false }
        refine ⟨_, _, andThen_returned finished (Settles.of_const _), .returned _, ?_, ?_⟩
        · exact written.closeIo io
        · apply closed_closeIo
          rw [Objects.setIo, List.length_set]
          exact within

theorem readReader (ends : CallsEnd cLibrary dLibrary) {id : Nat} {length : Value}
    (works : HasIo objects.readers id) :
    Succeeds cLibrary dLibrary objects fun fuel =>
      objects.readReader dLibrary fuel id length := by
  simp only [Objects.readReader]
  cases found : objects.readers[id]? with
  | none => exact wellFormed.succeeds (.returned _)
  | some object =>
      rcases works object found with ⟨io, stream, rfl⟩
      apply (wellFormed.eofIo io).andThen
      intro eof after wellFormed _ readers
      cases eof with
      | true => exact wellFormed.succeeds (.raised _)
      | false =>
          simp only [Bool.false_eq_true, if_false]
          apply (wellFormed.readIo io length).andThen
          intro data last wellFormed _ lastReaders
          have initialized := (wellFormed.readers ((lastReaders.trans readers) ▸ found)).2
          exact wellFormed.callDecompressor ends
            fun allocated => absurd allocated initialized.not_allocated

end WellFormed

end

end ZstdRuby
