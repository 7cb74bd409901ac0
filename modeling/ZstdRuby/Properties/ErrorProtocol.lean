import ZstdRuby.Properties.ByteOrder
import ZstdRuby.Properties.StreamingDecompress

/-! # The error protocol of libzstd

After a call that has returned an error, a context must not be used before it
is reset. The stream objects neither reset their context nor remember an error,
so a program that rescues and goes on breaks the rule with its next call that
has something to do.
-/

namespace ZstdRuby

open Libzstd Streaming

variable {CCtx DCtx : Type}

/-! ## Calls on a decompressing stream -/

namespace DecompressCall

/-- Whether a call makes no library call. `decompress_with_pos` makes one for
every string, also for the empty one. -/
def quiet : DecompressCall → Bool
  | decompress src => writesNothing [src]
  | decompressWithPos src =>
      match src.stringValue with
      | .error _ => true
      | .ok _ => false

end DecompressCall

section

variable {library : DecompressLibrary DCtx} {fuel : Nat}
  {dctx : DCtx × List (Response UInt8 ErrorCode)}

theorem decompressLoop_records {input : Bytes}
    {outcome : StreamingOutcome (DCtx × List (Response UInt8 ErrorCode)) Bytes}
    (returned : Loop.run (decompressPass library.recording input) fuel ⟨dctx, 0, []⟩ =
      some outcome) :
    ∃ added, outcome.dctx.2 = dctx.2 ++ added ∧ NoCallAfterError added ∧
      (added = [] ↔ input = []) := by
  refine Loop.run_ensures
    (fun state => ∃ added, state.dctx.2 = dctx.2 ++ added ∧ AllSucceed added ∧
      (added = [] → state.pos = 0) ∧ (added ≠ [] → input ≠ []))
    (fun outcome => ∃ added, outcome.dctx.2 = dctx.2 ++ added ∧ NoCallAfterError added ∧
      (added = [] ↔ input = [])) ?_
    ⟨[], by simp, allSucceed_nil, fun _ => rfl, fun some => absurd rfl some⟩ returned
  rintro state ⟨added, appended, succeeded, start, called⟩
  by_cases available : state.pos < input.length
  · have nonempty : input ≠ [] := by
      rintro rfl
      simp at available
    have recorded : (decompressReply library.recording input state).context.2 =
        dctx.2 ++ (added ++ [(decompressReply library.recording input state).response]) := by
      rw [← List.append_assoc, ← appended]
      rfl
    have some : added ++ [(decompressReply library.recording input state).response] = [] ↔
        input = [] := ⟨fun absurd => by simp at absurd, fun empty => absurd empty nonempty⟩
    cases replied : (decompressReply library.recording input state).status with
    | error code =>
        rw [decompressPass_failed available replied]
        exact ⟨_, recorded, noCallAfterError_snoc.mpr succeeded, some⟩
    | ok status =>
        have all : AllSucceed
            (added ++ [(decompressReply library.recording input state).response]) :=
          succeeded.snoc ⟨status, replied⟩
        rw [decompressPass_replied available replied]
        split
        · exact ⟨_, recorded, all.noCallAfterError, some⟩
        · exact ⟨_, recorded, all, fun absurd => by simp at absurd, fun _ => nonempty⟩
  · rw [decompressPass_exhausted available]
    refine ⟨added, appended, succeeded.noCallAfterError, fun none => ?_, fun empty => ?_⟩
    · rw [start none] at available
      exact List.length_eq_zero_iff.mp (by omega)
    · by_contra some
      exact called some empty

theorem decompressCall_records {call : DecompressCall}
    {outcome : Except RubyError Unit × (DCtx × List (Response UInt8 ErrorCode))}
    (returned : call.run library.recording fuel dctx = some outcome) :
    ∃ added, outcome.2.2 = dctx.2 ++ added ∧ NoCallAfterError added ∧
      (added = [] ↔ call.quiet = true) := by
  cases call with
  | decompress src =>
      rcases Option.map_eq_some_iff.mp returned with ⟨reached, decompressed, rfl⟩
      rw [rbStreamingDecompressDecompress] at decompressed
      cases converted : src.stringValue with
      | error raised =>
          simp only [converted, Option.some.injEq] at decompressed
          subst decompressed
          exact ⟨[], by simp, allSucceed_nil.noCallAfterError,
            by simp [DecompressCall.quiet, writesNothing, converted]⟩
      | ok input =>
          simp only [converted] at decompressed
          rcases decompressLoop_records decompressed with ⟨added, appended, orderly, silent⟩
          exact ⟨added, appended, orderly,
            by simp [DecompressCall.quiet, writesNothing, converted, silent]⟩
  | decompressWithPos src =>
      have equal := Option.some.inj returned
      subst equal
      rw [rbStreamingDecompressDecompressWithPos]
      cases converted : src.stringValue with
      | error raised =>
          exact ⟨[], by simp, allSucceed_nil.noCallAfterError,
            by simp [DecompressCall.quiet, converted]⟩
      | ok input =>
          refine ⟨[(library.recording.decompressStream dctx dStreamOutSize input).response], ?_, ?_,
            by simp [DecompressCall.quiet, converted]⟩
          · simp only
            split <;> rfl
          · exact @noCallAfterError_snoc UInt8 ErrorCode [] _ |>.mpr allSucceed_nil

end

/-! ## Runs -/

def CompressStep (library : CompressLibrary CCtx) (before : StreamingCompress CCtx)
    (call : CompressCall) (after : StreamingCompress CCtx) : Prop :=
  ∃ fuel result, call.run library fuel before = some ⟨result, after⟩

def DecompressStep (library : DecompressLibrary DCtx) (before : DCtx) (call : DecompressCall)
    (after : DCtx) : Prop :=
  ∃ fuel result, call.run library fuel before = some (result, after)

/-- Whatever libzstd does, no stream makes a call after an error exactly if,
after an error, all further method calls are quiet. -/
theorem streaming_noCallAfterError_iff (cLibrary : CompressLibrary CCtx)
    (dLibrary : DecompressLibrary DCtx) :
    (∀ {kwargs stream calls last},
      rbStreamingCompressInitialize cLibrary.recording kwargs = .ok stream →
      Run (CompressStep cLibrary.recording) stream calls last →
      (NoCallAfterError last.ctx.2 ↔
        Run (fun before call after => CompressStep cLibrary.recording before call after ∧
          (AllSucceed before.ctx.2 ∨ call.quiet = true)) stream calls last)) ∧
    (∀ {kwargs dctx calls last},
      rbStreamingDecompressInitialize dLibrary.recording kwargs = .ok dctx →
      Run (DecompressStep dLibrary.recording) dctx calls last →
      (NoCallAfterError last.2 ↔
        Run (fun before call after => DecompressStep dLibrary.recording before call after ∧
          (AllSucceed before.2 ∨ call.quiet = true)) dctx calls last)) := by
  constructor
  · intro kwargs stream calls last initialized run
    have fresh := (rbStreamingCompressInitialize_prepared initialized).1.of_recording.2
    refine @noCallAfterError_run_iff _ _ _ _ _ (fun stream => stream.ctx.2) _ ?_ _ _ _ fresh run
    rintro before call after ⟨fuel, result, returned⟩
    rcases call_records returned with ⟨added, appended, orderly, silent, -⟩
    exact ⟨added, appended, orderly, silent⟩
  · intro kwargs dctx calls last initialized run
    have fresh := (rbStreamingDecompressInitialize_prepared initialized).recording_nil
    refine noCallAfterError_run_iff ?_ fresh run
    rintro before call after ⟨fuel, result, returned⟩
    exact decompressCall_records returned

/-! ## A call after an error -/

def noFrame : Bytes := [0, 0, 0, 0, 0]

theorem streaming_noCallAfterError_iff_noFrame : ∃ finished last,
    Run (CompressStep smallBlocks.recording) ⟨(.fresh, []), []⟩
      [.write [.string [0x61, 0x62, 0x63]], .finish] finished ∧
    Run (DecompressStep (streamLibrary storedBlocks).recording) (.create Unit, [])
      [.decompress (.string noFrame), .decompress (.string [])] last ∧
    NoCallAfterError finished.ctx.2 ∧ NoCallAfterError last.2 ∧ ¬AllSucceed last.2 := by
  have evaluated : ∃ written finished total bytes output status,
      (CompressCall.write [.string [0x61, 0x62, 0x63]]).run smallBlocks.recording 2
        ⟨(.fresh, []), []⟩ = some ⟨.ok total, written⟩ ∧
      CompressCall.finish.run smallBlocks.recording 2 written = some ⟨.ok bytes, finished⟩ ∧
      written.ctx.2 = [⟨output, .ok status⟩] :=
    ⟨_, _, _, _, _, _, rfl, rfl, rfl⟩
  have evaluatedError : ∃ failed last raised bytes code,
      (DecompressCall.decompress (.string noFrame)).run (streamLibrary storedBlocks).recording 2
        (.create Unit, []) = some (.error raised, failed) ∧
      (DecompressCall.decompress (.string [])).run (streamLibrary storedBlocks).recording 2
        failed = some (.ok bytes, last) ∧
      last.2 = [⟨[], .error code⟩] :=
    ⟨_, _, _, _, _, rfl, rfl, rfl⟩
  rcases evaluated with ⟨written, finished, total, bytes, output, status, write, finish, ok⟩
  rcases evaluatedError with ⟨failed, last, raised, rest, code, garbage, empty, error⟩
  have writes : CompressStep smallBlocks.recording _ _ _ := ⟨2, _, write⟩
  have finishes : CompressStep smallBlocks.recording _ _ _ := ⟨2, _, finish⟩
  have fails : DecompressStep (streamLibrary storedBlocks).recording _ _ _ := ⟨2, _, garbage⟩
  have passes : DecompressStep (streamLibrary storedBlocks).recording _ _ _ := ⟨2, _, empty⟩
  have guarded := @streaming_noCallAfterError_iff _ _ smallBlocks (streamLibrary storedBlocks)
  have clean : AllSucceed written.ctx.2 := by
    rw [ok]
    exact allSucceed_nil.snoc ⟨status, rfl⟩
  refine ⟨finished, last, (Run.singleton writes).snoc finishes,
    (Run.singleton fails).snoc passes, ?_, ?_, ?_⟩
  · exact (@guarded.1 [] _ _ _ rfl ((Run.singleton writes).snoc finishes)).mpr
      ((Run.singleton ⟨writes, .inl allSucceed_nil⟩).snoc ⟨finishes, .inl clean⟩)
  · exact (@guarded.2 [] _ _ _ rfl ((Run.singleton fails).snoc passes)).mpr
      ((Run.singleton ⟨fails, .inl allSucceed_nil⟩).snoc ⟨passes, .inr rfl⟩)
  · rw [error]
    intro succeeded
    rcases succeeded _ (List.mem_singleton.mpr rfl) with ⟨status, absurd⟩
    cases absurd

/-- The second call is made in spite of the error of the first. -/
theorem decompress_calls_after_error :
    ¬∀ dctx calls last,
      rbStreamingDecompressInitialize (streamLibrary storedBlocks).recording [] = .ok dctx →
      Run (DecompressStep (streamLibrary storedBlocks).recording) dctx calls last →
      NoCallAfterError last.2 := by
  intro promised
  have evaluated : ∃ first second raised raised' response response',
      (DecompressCall.decompress (.string noFrame)).run (streamLibrary storedBlocks).recording 2
        (.create Unit, []) = some (.error raised, first) ∧
      (DecompressCall.decompress (.string noFrame)).run (streamLibrary storedBlocks).recording 2
        first = some (.error raised', second) ∧
      second.2 = [⟨[], .error response⟩, ⟨[], .error response'⟩] :=
    ⟨_, _, _, _, _, _, rfl, rfl, rfl⟩
  rcases evaluated with ⟨first, second, raised, raised', code, code', failed, again, recorded⟩
  have orderly := promised (.create Unit, []) _ _ rfl
    ((Run.singleton ⟨2, _, failed⟩).snoc ⟨2, _, again⟩)
  rw [recorded] at orderly
  rcases orderly _ (List.mem_singleton.mpr rfl) with ⟨status, absurd⟩
  cases absurd

end ZstdRuby
