import ZstdRuby.Properties.StoredEncoder
import ZstdRuby.Properties.StreamFailure
import ZstdRuby.Properties.StreamObjects

/-! # What a program can do with stream objects

A program whose calls go to objects made by `new`, with an `IO` where one is taken,
and that never calls `StreamReader#close`, gets from each call a result or an exception
that is meant.
-/

namespace ZstdRuby

open Libzstd Streaming

variable {CCtx DCtx : Type}

/-! ## Operations -/

def Objects.Closes (objects : Objects CCtx DCtx) (operation : StreamOperation) (io : Nat) : Prop :=
  ∃ id stream, operation = .closeWriter id ∧ objects.writers[id]? = some (some ⟨some io, stream⟩) ∨
    operation = .closeReader id ∧ objects.readers[id]? = some (some ⟨some io, stream⟩)

/-- The condition on an operation. A call on a stream that has only been allocated does
nothing; a reader or writer that is called has been given an `IO`; a writer is closed
where libzstd can end the frame, or its `IO` is closed already; no reader is closed. -/
def Objects.Allows (cLibrary : CompressLibrary CCtx) (objects : Objects CCtx DCtx) :
    StreamOperation → Prop
  | .callCompressor id call => objects.compressors[id]? = some none → call.quiet = true
  | .callDecompressor id call => objects.decompressors[id]? = some none → call.quiet = true
  | .writeWriter id _ | .finishWriter id => HasIo objects.writers id
  | .closeWriter id => HasIo objects.writers id ∧
      ∀ io stream, objects.writers[id]? = some (some ⟨some io, stream⟩) →
        objects.EndsFrame cLibrary stream ∨ objects.Closed io
  | .readReader id _ => HasIo objects.readers id
  | .closeReader id => objects.readers[id]? = none
  | _ => True

section

variable (cLibrary : CompressLibrary CCtx) (dLibrary : DecompressLibrary DCtx)

def Performs (before : Objects CCtx DCtx) (operation : StreamOperation)
    (after : Objects CCtx DCtx) : Prop :=
  ∃ result, Settles (fun fuel => before.perform cLibrary dLibrary fuel operation) (result, after)

/-- The operation returns or raises on purpose, and where it closes a reader or a
writer, the `IO` is closed. -/
def PerformsSafely (before : Objects CCtx DCtx) (operation : StreamOperation)
    (after : Objects CCtx DCtx) : Prop :=
  ∃ result, Settles (fun fuel => before.perform cLibrary dLibrary fuel operation)
      (result, after) ∧ EndsWell result ∧
    ∀ io, before.Closes operation io → after.Closed io

end

section

variable {cLibrary : CompressLibrary CCtx} {dLibrary : DecompressLibrary DCtx}
  {before after : Objects CCtx DCtx} {operation : StreamOperation}

theorem PerformsSafely.performs (safely : PerformsSafely cLibrary dLibrary before operation after) :
    Performs cLibrary dLibrary before operation after := by
  rcases safely with ⟨result, settles, -⟩
  exact ⟨result, settles⟩

theorem Performs.unique {after' : Objects CCtx DCtx}
    (left : Performs cLibrary dLibrary before operation after)
    (right : Performs cLibrary dLibrary before operation after') : after = after' := by
  rcases left with ⟨result, left⟩
  rcases right with ⟨result', right⟩
  cases left.unique right
  rfl

theorem PerformsSafely.endsWell (safely : PerformsSafely cLibrary dLibrary before operation after)
    {result : Except Stop Unit}
    (ends : ∀ fuel, before.perform cLibrary dLibrary fuel operation =
      some (result, before)) : EndsWell result := by
  rcases safely with ⟨result', settles, endsWell, -⟩
  cases settles.unique ⟨0, fun fuel _ => ends fuel⟩
  exact endsWell

theorem performsSafely_of_settles {result : Except Stop Unit}
    (settles : Settles (fun fuel =>
      before.perform cLibrary dLibrary fuel operation) (result, after))
    (ends : EndsWell result) (wellFormed : WellFormed cLibrary dLibrary after)
    (closesNothing : ∀ id, operation ≠ .closeWriter id ∧ operation ≠ .closeReader id) :
    ∃ after, PerformsSafely cLibrary dLibrary before operation after ∧
      WellFormed cLibrary dLibrary after := by
  refine ⟨after, ⟨result, settles, ends, ?_⟩, wellFormed⟩
  rintro io ⟨id, stream, ⟨closes, -⟩ | ⟨closes, -⟩⟩
  · exact absurd closes (closesNothing id).1
  · exact absurd closes (closesNothing id).2

theorem performsSafely_of_eq {result : Except Stop Unit}
    (performs : ∀ fuel, before.perform cLibrary dLibrary fuel operation =
      some (result, after))
    (ends : EndsWell result) (wellFormed : WellFormed cLibrary dLibrary after)
    (closesNothing : ∀ id, operation ≠ .closeWriter id ∧ operation ≠ .closeReader id) :
    ∃ after, PerformsSafely cLibrary dLibrary before operation after ∧
      WellFormed cLibrary dLibrary after :=
  performsSafely_of_settles ⟨0, fun fuel _ => performs fuel⟩ ends wellFormed closesNothing

theorem Succeeds.performsSafely (succeeds : Succeeds cLibrary dLibrary before fun fuel =>
      before.perform cLibrary dLibrary fuel operation)
    (closesNothing : ∀ id, operation ≠ .closeWriter id ∧ operation ≠ .closeReader id) :
    ∃ after, PerformsSafely cLibrary dLibrary before operation after ∧
      WellFormed cLibrary dLibrary after := by
  rcases succeeds with ⟨result, after, settles, ends, wellFormed, -⟩
  exact performsSafely_of_settles settles ends wellFormed closesNothing

theorem encodes_of_initialize {kwargs : Kwargs} {stream : StreamingCompress CCtx}
    (initialized : rbStreamingCompressInitialize cLibrary kwargs = .ok stream) :
    Encodes cLibrary stream :=
  ⟨_, stream.ctx, (rbStreamingCompressInitialize_prepared initialized).1, .initial⟩

theorem decodes_of_initialize {kwargs : Kwargs} {dctx : DCtx}
    (initialized : rbStreamingDecompressInitialize dLibrary kwargs = .ok dctx) :
    Decodes dLibrary dctx :=
  ⟨_, dctx, rbStreamingDecompressInitialize_prepared initialized, .initial⟩

theorem WellFormed.newCompressor (wellFormed : WellFormed cLibrary dLibrary before)
    (kwargs : Kwargs) :
    ∃ after, PerformsSafely cLibrary dLibrary before (.newCompressor kwargs) after ∧
      WellFormed cLibrary dLibrary after := by
  cases initialized : rbStreamingCompressInitialize cLibrary kwargs with
  | error raised =>
      refine performsSafely_of_eq (fun fuel => ?_) (.raised raised) wellFormed (by simp)
      simp only [Objects.perform, initialized]
  | ok stream =>
      have kept : WellFormed cLibrary dLibrary
          { before with compressors := before.compressors ++ [some stream] } := by
        apply wellFormed.addCompressor
        rintro stream ⟨⟩
        exact encodes_of_initialize initialized
      refine performsSafely_of_eq (fun fuel => ?_) (.returned ()) kept (by simp)
      simp only [Objects.perform, initialized]

theorem WellFormed.newDecompressor (wellFormed : WellFormed cLibrary dLibrary before)
    (kwargs : Kwargs) :
    ∃ after, PerformsSafely cLibrary dLibrary before (.newDecompressor kwargs) after ∧
      WellFormed cLibrary dLibrary after := by
  cases initialized : rbStreamingDecompressInitialize dLibrary kwargs with
  | error raised =>
      refine performsSafely_of_eq (fun fuel => ?_) (.raised raised) wellFormed (by simp)
      simp only [Objects.perform, initialized]
  | ok dctx =>
      have kept : WellFormed cLibrary dLibrary
          { before with decompressors := before.decompressors ++ [some dctx] } := by
        apply wellFormed.addDecompressor
        rintro dctx ⟨⟩
        exact decodes_of_initialize initialized
      refine performsSafely_of_eq (fun fuel => ?_) (.returned ()) kept (by simp)
      simp only [Objects.perform, initialized]

theorem WellFormed.newWriter (wellFormed : WellFormed cLibrary dLibrary before)
    (io : Option Nat) (level : Value) :
    ∃ after, PerformsSafely cLibrary dLibrary before (.newWriter io level) after ∧
      WellFormed cLibrary dLibrary after := by
  by_cases absent : ∃ id ∈ io, before.ios.length ≤ id
  · refine performsSafely_of_eq (fun fuel => ?_) (.returned ()) wellFormed (by simp)
    simp only [Objects.perform, Objects.newWriter, absent, if_true]
  · cases initialized : rbStreamingCompressInitialize cLibrary [("level", level)] with
    | error raised =>
        refine performsSafely_of_eq (fun fuel => ?_) (.raised raised) wellFormed (by simp)
        simp only [Objects.perform, Objects.newWriter, absent, if_false, initialized]
    | ok stream =>
        have kept : WellFormed cLibrary dLibrary
            { before with compressors := before.compressors ++ [some stream] } := by
          apply wellFormed.addCompressor
          rintro stream ⟨⟩
          exact encodes_of_initialize initialized
        have made : WellFormed cLibrary dLibrary { before with
            compressors := before.compressors ++ [some stream]
            writers := before.writers ++ [some ⟨io, before.compressors.length⟩] } := by
          apply kept.addWriter
          rintro fields ⟨⟩
          exact ⟨fun id has => not_le.mp fun outside => absent ⟨id, has, outside⟩,
            initialized_concat _ _⟩
        refine performsSafely_of_eq (fun fuel => ?_) (.returned ()) made (by simp)
        simp only [Objects.perform, Objects.newWriter, absent, if_false, initialized]

theorem WellFormed.newReader (wellFormed : WellFormed cLibrary dLibrary before)
    (io : Option Nat) :
    ∃ after, PerformsSafely cLibrary dLibrary before (.newReader io) after ∧
      WellFormed cLibrary dLibrary after := by
  by_cases absent : ∃ id ∈ io, before.ios.length ≤ id
  · refine performsSafely_of_eq (fun fuel => ?_) (.returned ()) wellFormed (by simp)
    simp only [Objects.perform, Objects.newReader, absent, if_true]
  · cases initialized : rbStreamingDecompressInitialize dLibrary [] with
    | error raised =>
        refine performsSafely_of_eq (fun fuel => ?_) (.raised raised) wellFormed (by simp)
        simp only [Objects.perform, Objects.newReader, absent, if_false, initialized]
    | ok dctx =>
        have kept : WellFormed cLibrary dLibrary
            { before with decompressors := before.decompressors ++ [some dctx] } := by
          apply wellFormed.addDecompressor
          rintro dctx ⟨⟩
          exact decodes_of_initialize initialized
        have made : WellFormed cLibrary dLibrary { before with
            decompressors := before.decompressors ++ [some dctx]
            readers := before.readers ++ [some ⟨io, before.decompressors.length⟩] } := by
          apply kept.addReader
          rintro fields ⟨⟩
          exact ⟨fun id has => not_le.mp fun outside => absent ⟨id, has, outside⟩,
            initialized_concat _ _⟩
        refine performsSafely_of_eq (fun fuel => ?_) (.returned ()) made (by simp)
        simp only [Objects.perform, Objects.newReader, absent, if_false, initialized]

theorem WellFormed.dupCompressor (wellFormed : WellFormed cLibrary dLibrary before) (id : Nat) :
    ∃ after, PerformsSafely cLibrary dLibrary before (.dupCompressor id) after ∧
      WellFormed cLibrary dLibrary after := by
  cases found : before.compressors[id]? with
  | none =>
      refine performsSafely_of_eq (fun fuel => ?_) (.returned ()) wellFormed (by simp)
      simp only [Objects.perform, found]
  | some object =>
      have kept : WellFormed cLibrary dLibrary
          { before with compressors := before.compressors ++ [none] } :=
        wellFormed.addCompressor (by simp)
      refine performsSafely_of_eq (fun fuel => ?_) (.returned ()) kept (by simp)
      simp only [Objects.perform, found]

theorem WellFormed.dupDecompressor (wellFormed : WellFormed cLibrary dLibrary before) (id : Nat) :
    ∃ after, PerformsSafely cLibrary dLibrary before (.dupDecompressor id) after ∧
      WellFormed cLibrary dLibrary after := by
  cases found : before.decompressors[id]? with
  | none =>
      refine performsSafely_of_eq (fun fuel => ?_) (.returned ()) wellFormed (by simp)
      simp only [Objects.perform, found]
  | some object =>
      have kept : WellFormed cLibrary dLibrary
          { before with decompressors := before.decompressors ++ [none] } :=
        wellFormed.addDecompressor (by simp)
      refine performsSafely_of_eq (fun fuel => ?_) (.returned ()) kept (by simp)
      simp only [Objects.perform, found]

theorem WellFormed.dupWriter (wellFormed : WellFormed cLibrary dLibrary before) (id : Nat) :
    ∃ after, PerformsSafely cLibrary dLibrary before (.dupWriter id) after ∧
      WellFormed cLibrary dLibrary after := by
  cases found : before.writers[id]? with
  | none =>
      refine performsSafely_of_eq (fun fuel => ?_) (.returned ()) wellFormed (by simp)
      simp only [Objects.perform, found]
  | some object =>
      have kept : WellFormed cLibrary dLibrary
          { before with writers := before.writers ++ [object] } := by
        apply wellFormed.addWriter
        rintro fields rfl
        exact wellFormed.writers found
      refine performsSafely_of_eq (fun fuel => ?_) (.returned ()) kept (by simp)
      simp only [Objects.perform, found]

theorem WellFormed.dupReader (wellFormed : WellFormed cLibrary dLibrary before) (id : Nat) :
    ∃ after, PerformsSafely cLibrary dLibrary before (.dupReader id) after ∧
      WellFormed cLibrary dLibrary after := by
  cases found : before.readers[id]? with
  | none =>
      refine performsSafely_of_eq (fun fuel => ?_) (.returned ()) wellFormed (by simp)
      simp only [Objects.perform, found]
  | some object =>
      have kept : WellFormed cLibrary dLibrary
          { before with readers := before.readers ++ [object] } := by
        apply wellFormed.addReader
        rintro fields rfl
        exact wellFormed.readers found
      refine performsSafely_of_eq (fun fuel => ?_) (.returned ()) kept (by simp)
      simp only [Objects.perform, found]

theorem WellFormed.closeWriterSafely (ends : CallsEnd cLibrary dLibrary)
    (wellFormed : WellFormed cLibrary dLibrary before) {id : Nat}
    (allows : before.Allows cLibrary (.closeWriter id)) :
    ∃ after, PerformsSafely cLibrary dLibrary before (.closeWriter id) after ∧
      WellFormed cLibrary dLibrary after := by
  rcases allows with ⟨works, ended⟩
  cases found : before.writers[id]? with
  | none =>
      refine ⟨before, ⟨.ok (), ⟨0, fun fuel _ => ?_⟩, .returned (), ?_⟩, wellFormed⟩
      · simp only [Objects.perform, Objects.closeWriter, found]
      · rintro io ⟨other, stream, ⟨⟨⟩, present⟩ | ⟨⟨⟩, -⟩⟩
        cases found.symm.trans present
  | some object =>
      rcases works object found with ⟨io, stream, rfl⟩
      rcases wellFormed.closeWriter ends found (ended io stream found) with
        ⟨result, after, settles, ends, wellFormed, closed⟩
      refine ⟨after, ⟨result, settles, ends, ?_⟩, wellFormed⟩
      rintro other ⟨_, _, ⟨⟨⟩, present⟩ | ⟨⟨⟩, -⟩⟩
      cases found.symm.trans present
      exact closed

theorem WellFormed.performs (ends : CallsEnd cLibrary dLibrary)
    (wellFormed : WellFormed cLibrary dLibrary before) (allows : before.Allows cLibrary operation) :
    ∃ after, PerformsSafely cLibrary dLibrary before operation after ∧
      WellFormed cLibrary dLibrary after := by
  cases operation with
  | openIo content =>
      exact performsSafely_of_settles (Settles.of_const _) (.returned _)
        (wellFormed.openIo content) (by simp)
  | allocateCompressor =>
      exact performsSafely_of_settles (Settles.of_const _) (.returned _)
        (wellFormed.addCompressor (by simp)) (by simp)
  | newCompressor kwargs => exact wellFormed.newCompressor kwargs
  | dupCompressor id => exact wellFormed.dupCompressor id
  | callCompressor id call =>
      exact ((wellFormed.callCompressor ends allows).andThen
        fun _ _ wellFormed _ _ => wellFormed.succeeds (.returned _)).performsSafely (by simp)
  | allocateDecompressor =>
      exact performsSafely_of_settles (Settles.of_const _) (.returned _)
        (wellFormed.addDecompressor (by simp)) (by simp)
  | newDecompressor kwargs => exact wellFormed.newDecompressor kwargs
  | dupDecompressor id => exact wellFormed.dupDecompressor id
  | callDecompressor id call =>
      exact (wellFormed.callDecompressor ends allows).performsSafely (by simp)
  | allocateWriter =>
      exact performsSafely_of_settles (Settles.of_const _) (.returned _)
        (wellFormed.addWriter (by simp)) (by simp)
  | newWriter io level => exact wellFormed.newWriter io level
  | dupWriter id => exact wellFormed.dupWriter id
  | writeWriter id data => exact (wellFormed.writeWriter ends allows).performsSafely (by simp)
  | finishWriter id => exact (wellFormed.finishWriter ends allows).performsSafely (by simp)
  | closeWriter id => exact wellFormed.closeWriterSafely ends allows
  | allocateReader =>
      exact performsSafely_of_settles (Settles.of_const _) (.returned _)
        (wellFormed.addReader (by simp)) (by simp)
  | newReader io => exact wellFormed.newReader io
  | dupReader id => exact wellFormed.dupReader id
  | readReader id length => exact (wellFormed.readReader ends allows).performsSafely (by simp)
  | closeReader id =>
      have absent : before.readers[id]? = none := allows
      refine ⟨before, ⟨.ok (), ⟨0, fun fuel _ => ?_⟩, .returned (), ?_⟩, wellFormed⟩
      · simp only [Objects.perform, Objects.closeReader, absent]
      · rintro io ⟨other, stream, ⟨⟨⟩, -⟩ | ⟨⟨⟩, present⟩⟩
        cases absent.symm.trans present

/-! ## Programs -/

/-- A program gets from all its operations a result or an exception that is meant, and
what it closes is closed, if each operation meets the condition where the program has
come to it. -/
theorem streamObjects_safe (ends : CallsEnd cLibrary dLibrary)
    (operations : List StreamOperation)
    (allowed : ∀ first operation rest reached, operations = first ++ operation :: rest →
      Run (Performs cLibrary dLibrary) Objects.empty first reached →
      reached.Allows cLibrary operation) :
    ∃ last, Run (PerformsSafely cLibrary dLibrary) Objects.empty operations last := by
  have kept : ∃ last, Run (PerformsSafely cLibrary dLibrary) Objects.empty operations last ∧
      WellFormed cLibrary dLibrary last := by
    induction operations using List.reverseRecOn with
    | nil => exact ⟨_, .nil, .empty⟩
    | append_singleton front operation induction =>
        have sooner : ∃ last, Run (PerformsSafely cLibrary dLibrary) Objects.empty front last ∧
            WellFormed cLibrary dLibrary last := by
          apply induction
          rintro first sooner rest reached rfl came
          exact allowed first sooner (rest ++ [operation]) reached (by simp) came
        rcases sooner with ⟨reached, run, wellFormed⟩
        have allows := allowed front operation [] reached rfl (run.mono PerformsSafely.performs)
        rcases wellFormed.performs ends allows with ⟨after, safely, wellFormed⟩
        exact ⟨after, run.snoc safely, wellFormed⟩
  rcases kept with ⟨last, run, -⟩
  exact ⟨last, run⟩

end

/-- An encoder with its own blocks and the stream decoder of libzstd. -/
theorem callsEnd_storedLibrary :
    CallsEnd (storedLibrary 4) (streamLibrary storedBlocks) where
  encodes := by
    intro dictionary initial prepared
    rw [storedLibrary_prepared prepared]
    exact (storedStream_contract (by decide) (by decide) dictionary).terminates (by decide)
  decodes := fun prepared => decompressStream_terminates (prepared_init prepared).1 (by decide)

theorem streamObjects_safe_writer :
    ∃ last, Run (PerformsSafely (storedLibrary 4) (streamLibrary storedBlocks)) Objects.empty
      [.openIo [], .newWriter (some 0) .nil, .closeWriter 0] last := by
  apply streamObjects_safe callsEnd_storedLibrary
  intro first operation rest reached split came
  match first, split with
  | [], split =>
      cases split
      trivial
  | [_], split =>
      cases split
      trivial
  | [_, _], split =>
      cases split
      have opened : Performs (storedLibrary 4) (streamLibrary storedBlocks) Objects.empty
          (.openIo []) ⟨[⟨⟨[], 0⟩, false⟩], [], [], [], []⟩ := ⟨.ok (), Settles.of_const _⟩
      have made : Run (Performs (storedLibrary 4) (streamLibrary storedBlocks)) Objects.empty
          [.openIo [], .newWriter (some 0) .nil]
          ⟨[⟨⟨[], 0⟩, false⟩], [some ⟨.fresh, []⟩], [], [some ⟨some 0, 0⟩], []⟩ :=
        (Run.singleton opened).snoc ⟨.ok (), Settles.of_const _⟩
      rw [came.unique made Performs.unique]
      refine ⟨?_, ?_⟩
      · rintro object ⟨⟩
        exact ⟨0, 0, rfl⟩
      · rintro io stream ⟨⟩
        left
        rintro stream ⟨⟩
        exact (storedStream_contract (by decide : 0 < 4) (by decide) none).carries (by decide)
          (by decide) (Or.inl rfl) .initial
  | _ :: _ :: _ :: _, split => simp at split

/-- A stream that has only been allocated crashes, and no reader can be closed. -/
theorem streamObjects_not_safe :
    (¬∃ last, Run (PerformsSafely (storedLibrary 4) (streamLibrary storedBlocks)) Objects.empty
      [.allocateCompressor, .callCompressor 0 .flush] last) ∧
    ¬∃ last, Run (PerformsSafely (storedLibrary 4) (streamLibrary storedBlocks)) Objects.empty
      [.openIo [], .newReader (some 0), .closeReader 0] last := by
  constructor
  · rintro ⟨last, run⟩
    have allocated : Performs (storedLibrary 4) (streamLibrary storedBlocks) Objects.empty
        .allocateCompressor ⟨[], [none], [], [], []⟩ := ⟨.ok (), Settles.of_const _⟩
    rcases @Run.snoc_inv _ StreamOperation _ _ _ [.allocateCompressor] _ run with
      ⟨state, came, flushed⟩
    cases (came.mono PerformsSafely.performs).unique (.singleton allocated) Performs.unique
    exact not_endsWell_crashed (flushed.endsWell fun fuel => rfl)
  · rintro ⟨last, run⟩
    have opened : Performs (storedLibrary 4) (streamLibrary storedBlocks) Objects.empty
        (.openIo []) ⟨[⟨⟨[], 0⟩, false⟩], [], [], [], []⟩ := ⟨.ok (), Settles.of_const _⟩
    have made : Run (Performs (storedLibrary 4) (streamLibrary storedBlocks)) Objects.empty
        [.openIo [], .newReader (some 0)]
        ⟨[⟨⟨[], 0⟩, false⟩], [], [some (.create Unit)], [], [some ⟨some 0, 0⟩]⟩ :=
      (Run.singleton opened).snoc ⟨.ok (), Settles.of_const _⟩
    rcases @Run.snoc_inv _ StreamOperation _ _ _ [.openIo [], .newReader (some 0)] _ run with
      ⟨state, came, closed⟩
    cases (came.mono PerformsSafely.performs).unique made Performs.unique
    exact not_endsWell_undefined "finish" (closed.endsWell fun fuel => rfl)

end ZstdRuby
