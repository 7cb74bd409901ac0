import ZstdRuby.Extension.StreamingDecompress
import ZstdRuby.Foundation.CallLoops
import ZstdRuby.Properties.StreamingCompress

/-! # Calls with a libzstd that may fail

A call on a stream comes to an end if the loops of libzstd calls do, whether these
calls fail or not. It leaves a stream that can be called again.
-/

namespace ZstdRuby

open Libzstd Streaming

/-! ## Compressing streams -/

section

variable {CCtx : Type} {library : CompressLibrary CCtx} {initial : CCtx} {ctx : CCtx}
  {endOp : Directive}

def DrainReaches (library : CompressLibrary CCtx) (initial : CCtx) (endOp : Directive)
    (state : NoCompressState CCtx) : Prop :=
  ∃ phase, library.compressStream2.Reaches cStreamOutSize initial state.ctx phase ∧
    (phase = none ∨ phase = some endOp)

theorem noCompressPass_reaches (drains : endOp ≠ .proceed) (state : NoCompressState CCtx)
    (reached : DrainReaches library initial endOp state) :
    (noCompressPass library endOp state).Ensures
      (fun next => DrainReaches library initial endOp next ∧
        library.compressStream2.DrainRound cStreamOutSize endOp next.ctx state.ctx)
      (fun left => library.compressStream2.Reaches cStreamOutSize initial left.2 none) := by
  rcases reached with ⟨phase, reaches, allowed⟩
  cases replied : (noCompressReply library endOp state).status with
  | error code =>
      rw [noCompressPass_failed replied]
      apply reaches.left drains allowed
      intro status unfinished
      cases replied.symm.trans unfinished
  | ok status =>
      cases status with
      | zero =>
          rw [noCompressPass_finished replied]
          apply reaches.left drains allowed
          intro status unfinished
          cases replied.symm.trans unfinished
      | succ status =>
          rw [noCompressPass_unfinished replied]
          exact ⟨⟨_, reaches.unfinished drains allowed replied, Or.inr rfl⟩, .call replied⟩

theorem noCompress_ends (terminates : library.compressStream2.Terminates cStreamOutSize initial)
    (reaches : library.compressStream2.Reaches cStreamOutSize initial ctx none)
    (drains : endOp ≠ .proceed) :
    ∃ left, Settles (fun fuel => noCompress library endOp fuel ctx) left ∧
      library.compressStream2.Reaches cStreamOutSize initial left.2 none :=
  Loop.settles_of_acc (DrainReaches library initial endOp) _ NoCompressState.ctx
    (noCompressPass_reaches drains) (terminates.drain reaches drains)
    ⟨none, reaches, Or.inl rfl⟩

theorem noCompress_returns (carries : library.compressStream2.Carries cStreamOutSize endOp ctx)
    (result : Bytes) :
    ∃ bytes next, Settles (fun fuel => Loop.run (noCompressPass library endOp) fuel ⟨ctx, result⟩)
      (.ok bytes, next) := by
  induction carries generalizing result with
  | @finished context finished =>
      have replied : (noCompressReply library endOp ⟨context, result⟩).status = .ok 0 := finished
      exact ⟨_, _, Loop.settles_leave (noCompressPass_finished replied)⟩
  | @unfinished context status unfinished carries induction =>
      have replied : (noCompressReply library endOp ⟨context, result⟩).status =
        .ok (status + 1) := unfinished
      rcases induction (result ++ (noCompressReply library endOp ⟨context, result⟩).output) with
        ⟨bytes, next, settles⟩
      exact ⟨bytes, next, Loop.settles_again (noCompressPass_unfinished replied) settles⟩

theorem feedPass_reaches (input : Bytes) (state : FeedState CCtx)
    (reaches : library.compressStream2.Reaches cStreamOutSize initial state.ctx none) :
    (feedPass library input state).Ensures
      (fun next => library.compressStream2.Reaches cStreamOutSize initial next.ctx none ∧
        library.compressStream2.FeedRound cStreamOutSize (next.ctx, input.drop next.pos)
          (state.ctx, input.drop state.pos))
      (fun fed => library.compressStream2.Reaches cStreamOutSize initial fed.2.ctx none) := by
  by_cases left : state.pos < input.length
  · have available : input.drop state.pos ≠ [] := by
      rw [Ne, List.drop_eq_nil_iff]
      omega
    cases replied : (feedReply library input state).status with
    | error code =>
        rw [feedPass_failed left replied]
        exact reaches.proceed available
    | ok status =>
        rw [feedPass_replied left replied]
        have round := Encoder.FeedRound.call available replied
        rw [List.drop_drop] at round
        exact ⟨reaches.proceed available, round⟩
  · rw [feedPass_exhausted left]
    exact reaches

theorem feed_ends (terminates : library.compressStream2.Terminates cStreamOutSize initial)
    (reaches : library.compressStream2.Reaches cStreamOutSize initial ctx none)
    (input out : Bytes) :
    ∃ fed, Settles (fun fuel => feed library input fuel ctx out) fed ∧
      library.compressStream2.Reaches cStreamOutSize initial fed.2.ctx none :=
  Loop.settles_of_acc
    (fun state => library.compressStream2.Reaches cStreamOutSize initial state.ctx none) _
    (fun state => (state.ctx, input.drop state.pos)) (feedPass_reaches input)
    (terminates.feed reaches input) reaches

theorem writeLoop_ends (terminates : library.compressStream2.Terminates cStreamOutSize initial)
    (argv : List Value) :
    ∀ {stream : StreamingCompress CCtx} (total : Nat),
      library.compressStream2.Reaches cStreamOutSize initial stream.ctx none →
      ∃ outcome, Settles (fun fuel => writeLoop library fuel stream total argv) outcome ∧
        library.compressStream2.Reaches cStreamOutSize initial outcome.stream.ctx none := by
  induction argv with
  | nil => exact fun total reaches => ⟨_, Settles.of_const _, reaches⟩
  | cons str argv induction =>
      intro stream total reaches
      cases converted : str.stringValue with
      | error raised =>
          simp only [writeLoop, converted]
          exact ⟨_, Settles.of_const _, reaches⟩
      | ok input =>
          simp only [writeLoop, converted]
          rcases feed_ends terminates reaches input stream.pending with ⟨fed, settles, reaches⟩
          rcases fed with ⟨raised | done, state⟩
          · exact ⟨_, settles.bind (Settles.of_const _), reaches⟩
          · rcases @induction ⟨state.ctx, state.out⟩ (total + input.length) reaches with
              ⟨outcome, rest, reaches⟩
            exact ⟨outcome, settles.bind rest, reaches⟩

theorem drainPending_ends (terminates : library.compressStream2.Terminates cStreamOutSize initial)
    {stream : StreamingCompress CCtx}
    (reaches : library.compressStream2.Reaches cStreamOutSize initial stream.ctx none)
    (drains : endOp ≠ .proceed) :
    ∃ outcome, Settles (fun fuel => drainPending library endOp fuel stream) outcome ∧
      library.compressStream2.Reaches cStreamOutSize initial outcome.stream.ctx none := by
  rcases noCompress_ends terminates reaches drains with ⟨⟨raised | bytes, next⟩, settles, reaches⟩
  · exact ⟨_, settles.map _, reaches⟩
  · exact ⟨_, settles.map _, reaches⟩

theorem CompressCall.run_ends
    (terminates : library.compressStream2.Terminates cStreamOutSize initial)
    {stream : StreamingCompress CCtx}
    (reaches : library.compressStream2.Reaches cStreamOutSize initial stream.ctx none)
    (call : CompressCall) :
    ∃ outcome, Settles (fun fuel => call.run library fuel stream) outcome ∧
      library.compressStream2.Reaches cStreamOutSize initial outcome.stream.ctx none := by
  cases call with
  | compress src =>
      cases converted : src.stringValue with
      | error raised =>
          simp only [run, rbStreamingCompressCompress, converted]
          exact ⟨_, Settles.of_const _, reaches⟩
      | ok input =>
          simp only [run, rbStreamingCompressCompress, converted]
          rcases feed_ends terminates reaches input [] with ⟨fed, settles, reaches⟩
          exact ⟨_, settles.map _, reaches⟩
  | write argv =>
      rcases writeLoop_ends terminates argv 0 reaches with ⟨outcome, settles, reaches⟩
      exact ⟨_, settles.map _, reaches⟩
  | flush => exact drainPending_ends terminates reaches (by decide)
  | finish => exact drainPending_ends terminates reaches (by decide)

theorem finish_returns {stream : StreamingCompress CCtx}
    (carries : library.compressStream2.Carries cStreamOutSize .finish stream.ctx) :
    ∃ bytes next, Settles (fun fuel => CompressCall.finish.run library fuel stream)
      ⟨.ok bytes, next⟩ := by
  rcases noCompress_returns carries [] with ⟨bytes, next, settles⟩
  have drained : Settles (fun fuel => noCompress library .finish fuel stream.ctx)
    (.ok bytes, next) := settles
  exact ⟨_, _, drained.map _⟩

end

/-! ## Decompressing streams -/

section

variable {DCtx : Type} {library : DecompressLibrary DCtx} {initial dctx : DCtx}

theorem decompressPass_reaches (input : Bytes) (state : DrainState DCtx)
    (reaches : library.decompressStream.Reaches initial state.dctx) :
    (decompressPass library input state).Ensures
      (fun next => library.decompressStream.Reaches initial next.dctx ∧
        library.decompressStream.Round dStreamOutSize (next.dctx, input.drop next.pos)
          (state.dctx, input.drop state.pos))
      (fun outcome => library.decompressStream.Reaches initial outcome.dctx) := by
  by_cases left : state.pos < input.length
  · have available : input.drop state.pos ≠ [] := by
      rw [Ne, List.drop_eq_nil_iff]
      omega
    have called := reaches.call dStreamOutSize (input.drop state.pos)
    cases replied : (decompressReply library input state).status with
    | error code =>
        rw [decompressPass_failed left replied]
        exact called
    | ok status =>
        rw [decompressPass_replied left replied]
        split
        · exact called
        · rename_i goesOn
          have round := Decoder.Round.call available replied goesOn
          rw [List.drop_drop] at round
          exact ⟨called, round⟩
  · rw [decompressPass_exhausted left]
    exact reaches

theorem DecompressCall.run_ends
    (terminates : library.decompressStream.Terminates dStreamOutSize initial)
    (reaches : library.decompressStream.Reaches initial dctx) (call : DecompressCall) :
    ∃ ended, Settles (fun fuel => call.run library fuel dctx) ended ∧
      library.decompressStream.Reaches initial ended.2 := by
  cases call with
  | decompress src =>
      cases converted : src.stringValue with
      | error raised =>
          simp only [run, rbStreamingDecompressDecompress, converted]
          exact ⟨_, Settles.of_const _, reaches⟩
      | ok input =>
          simp only [run, rbStreamingDecompressDecompress, converted]
          have ends : ∃ outcome, Settles (fun fuel => Loop.run (decompressPass library input) fuel
              ⟨dctx, 0, []⟩) outcome ∧ library.decompressStream.Reaches initial outcome.dctx :=
            Loop.settles_of_acc
              (fun state => library.decompressStream.Reaches initial state.dctx) _
              (fun state => (state.dctx, input.drop state.pos)) (decompressPass_reaches input)
              (terminates reaches input) reaches
          rcases ends with ⟨outcome, settles, reaches⟩
          exact ⟨_, settles.map _, reaches⟩
  | decompressWithPos src =>
      refine ⟨_, Settles.of_const _, ?_⟩
      rw [rbStreamingDecompressDecompressWithPos]
      cases converted : src.stringValue with
      | error raised => exact reaches
      | ok input =>
          simp only
          split <;> exact reaches.call dStreamOutSize input

end

end ZstdRuby
