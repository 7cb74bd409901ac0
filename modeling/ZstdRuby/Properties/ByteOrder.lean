import ZstdRuby.Properties.RawBlocks
import ZstdRuby.Properties.StoredEncoder
import ZstdRuby.Properties.StreamingCompress

/-! # The order of a stream's bytes

A `StreamingCompress` returns what `compress` receives at once and parks what
`write` receives in `pending`, so a `compress` behind a `write` returns later
bytes first. As long as `compress` finds nothing pending, the bytes stay in
order.
-/

namespace ZstdRuby

open Libzstd Streaming

variable {CCtx : Type} {library : CompressLibrary CCtx}

/-! ## Runs of calls -/

structure CompressProgress (CCtx : Type) where
  stream : StreamingCompress CCtx
  returned : Bytes
  handed : Bytes

def Calls (library : CompressLibrary CCtx) (before : CompressProgress CCtx) (call : CompressCall)
    (after : CompressProgress CCtx) : Prop :=
  ∃ result, Settles (fun fuel => call.run library fuel before.stream) ⟨result, after.stream⟩ ∧
    after.returned = before.returned ++ returnedString result ∧
    after.handed = before.handed ++ call.handed

/-- The condition on a call: `compress` is called with the empty string, or
finds nothing pending. -/
def FindsNothingPending (before : CompressProgress CCtx) (call : CompressCall) : Prop :=
  ∀ src input, call = .compress src → src.stringValue = .ok input →
    input = [] ∨ before.stream.pending = []

/-- Everything the encoder has emitted has been returned, in order, or is
pending. -/
def InOrder (progress : CompressProgress (CCtx × List (Response UInt8 ErrorCode))) : Prop :=
  progress.returned ++ progress.stream.pending = emitted progress.stream.ctx.2

/-! ## One call -/

section

variable {before after : CompressProgress (CCtx × List (Response UInt8 ErrorCode))}
  {call : CompressCall}

theorem Calls.emitted (calls : Calls library.recording before call after)
    (succeeded : AllSucceed after.stream.ctx.2) :
    ∃ received bytes, emitted after.stream.ctx.2 =
        Streaming.emitted before.stream.ctx.2 ++ received ∧
      call.Delivers before.stream.pending received bytes after.stream.pending ∧
      after.returned = before.returned ++ bytes ∧ (call.quiet = true → received = []) := by
  rcases calls with ⟨result, ⟨enough, settles⟩, returned, -⟩
  rcases call_records (settles enough (le_refl enough)) with ⟨added, appended, -, silent, delivers⟩
  simp only at appended delivers
  rw [appended, allSucceed_append] at succeeded
  refine ⟨Streaming.emitted added, _, ?_, delivers succeeded.2, returned, fun quiet => ?_⟩
  · rw [appended, emitted_append]
  · rw [silent.mpr quiet, emitted_nil]

theorem Calls.inOrder (inOrder : InOrder before) (calls : Calls library.recording before call after)
    (succeeded : AllSucceed after.stream.ctx.2) (finds : FindsNothingPending before call) :
    InOrder after := by
  rcases calls.emitted succeeded with ⟨received, bytes, emits, delivers, returned, silent⟩
  rw [InOrder] at inOrder ⊢
  rw [emits, ← inOrder, returned]
  cases call with
  | compress src =>
      rcases delivers with ⟨rfl, pending⟩
      rw [pending]
      cases converted : src.stringValue with
      | error raised =>
          rw [silent (by simp [CompressCall.quiet, writesNothing, converted])]
          simp
      | ok input =>
          rcases finds src input rfl converted with rfl | none
          · rw [silent (by simp [CompressCall.quiet, writesNothing, converted])]
            simp
          · rw [none]
            simp
  | write argv =>
      rcases delivers with ⟨rfl, pending⟩
      rw [pending, List.append_nil, List.append_assoc]
  | flush =>
      rcases delivers with ⟨rfl, pending⟩
      simp [pending]
  | finish =>
      rcases delivers with ⟨rfl, pending⟩
      simp [pending]

theorem Calls.encoded {initial : CCtx × List (Response UInt8 ErrorCode)}
    {Frame : Bytes → Bytes → Prop}
    (contract : EncoderContract library.recording.compressStream2 initial Frame)
    (fresh : AllSucceed initial.2)
    (encoded : Encoded library.recording initial Frame before.stream.ctx before.handed
      (Streaming.emitted before.stream.ctx.2))
    (calls : Calls library.recording before call after) :
    AllSucceed after.stream.ctx.2 ∧
      Encoded library.recording initial Frame after.stream.ctx after.handed
        (Streaming.emitted after.stream.ctx.2) ∧
      (call = .finish → after.stream.pending = [] ∧
        AreFrames Frame (Streaming.emitted after.stream.ctx.2) after.handed) := by
  rcases call_settles contract encoded call with
    ⟨result', next, received', settles', delivers', encoded', finishes, -⟩
  -- The call has one outcome, and what it has received can be read off from it.
  have outcome := calls
  rcases outcome with ⟨result, settles, returned, handed⟩
  have same := settles.unique settles'
  simp only [CompressOutcome.mk.injEq] at same
  rcases same with ⟨rfl, rfl⟩
  have succeeded : AllSucceed after.stream.ctx.2 := by
    rcases encoded' with ⟨_, _, _, _, -, session, -, -⟩
    exact session.allSucceed fresh
  rcases calls.emitted succeeded with ⟨received, bytes, emits, delivers, returned', -⟩
  cases List.append_cancel_left (returned'.symm.trans returned)
  have sameReceived := delivers.unique delivers'
  subst sameReceived
  rw [emits, handed]
  refine ⟨succeeded, encoded', fun isFinish => ⟨?_, finishes isFinish⟩⟩
  subst isFinish
  exact delivers.2

end

/-! ## Runs -/

def CompressProgress.start (stream : StreamingCompress CCtx) : CompressProgress CCtx :=
  ⟨stream, [], []⟩

/-- In every run in which `compress` finds nothing pending, the returned strings
and `pending` are what the encoder has emitted. After a `finish` the returned
strings are frames of what the calls were handed. Every further call ends, and
returns normally if its arguments can be converted. -/
theorem streamingCompress_inOrder {format : FrameFormat} {kwargs : Kwargs}
    {stream : StreamingCompress (CCtx × List (Response UInt8 ErrorCode))}
    {calls : List CompressCall}
    {progress : CompressProgress (CCtx × List (Response UInt8 ErrorCode))}
    (contract : EncoderContract library.compressStream2 stream.ctx.1
      (format.DataFrame (compressDictionary kwargs)))
    (initialized : rbStreamingCompressInitialize library.recording kwargs = .ok stream)
    (run : Run (fun before call after =>
      Calls library.recording before call after ∧ FindsNothingPending before call)
      (.start stream) calls progress) :
    InOrder progress ∧
      (calls.getLast? = some .finish →
        AreFrames (format.DataFrame (compressDictionary kwargs)) progress.returned
          progress.handed) ∧
      ∀ call, ∃ after, Calls library.recording progress call after ∧
        (call.Converts → ∃ bytes,
          Settles (fun fuel => call.run library.recording fuel progress.stream)
            ⟨.ok bytes, after.stream⟩) := by
  rcases rbStreamingCompressInitialize_prepared initialized with ⟨prepared, nothing⟩
  have encodes := contract.recording stream.ctx.2
  have unused : stream.ctx.2 = [] := prepared.of_recording.2
  have facts : InOrder progress ∧
      Encoded library.recording stream.ctx (format.DataFrame (compressDictionary kwargs))
        progress.stream.ctx progress.handed (emitted progress.stream.ctx.2) ∧
      (calls.getLast? = some .finish → progress.stream.pending = [] ∧
        AreFrames (format.DataFrame (compressDictionary kwargs))
          (emitted progress.stream.ctx.2) progress.handed) := by
    induction run with
    | nil =>
        refine ⟨?_, ⟨[], [], [], [], .nil, .initial, rfl, ?_⟩, fun absurd => by simp at absurd⟩
        · rw [InOrder]
          simp [CompressProgress.start, nothing, unused]
        · rw [CompressProgress.start, unused]
          rfl
    | snoc run taken induction =>
        rcases taken with ⟨calls, finds⟩
        rcases calls.encoded encodes (unused ▸ allSucceed_nil) induction.2.1 with
          ⟨succeeded, encoded, finishes⟩
        refine ⟨calls.inOrder induction.1 succeeded finds, encoded, fun isFinish => finishes ?_⟩
        simpa using isFinish
  refine ⟨facts.1, fun isFinish => ?_, fun call => ?_⟩
  · rcases facts.2.2 isFinish with ⟨none, frames⟩
    have inOrder := facts.1
    rw [InOrder, none, List.append_nil] at inOrder
    rwa [inOrder]
  · rcases call_settles encodes facts.2.1 call with ⟨result, next, -, settles, -, -, -, converts⟩
    refine ⟨⟨next, progress.returned ++ returnedString result, progress.handed ++ call.handed⟩,
      ⟨result, settles, rfl, rfl⟩, fun argumentsConvert => ?_⟩
    rcases converts argumentsConvert with ⟨bytes, rfl⟩
    exact ⟨bytes, settles⟩

/-! ## A call that overtakes another -/

def smallBlocks : CompressLibrary StoredEncoder := storedLibrary 4

theorem calls_of_run {before : CompressProgress CCtx} {call : CompressCall} {fuel : Nat}
    {result : Except RubyError Bytes} {next : StreamingCompress CCtx}
    (returned : call.run library fuel before.stream = some ⟨result, next⟩) :
    Calls library before call
      ⟨next, before.returned ++ returnedString result, before.handed ++ call.handed⟩ :=
  ⟨result, CompressCall.settles_of_run returned, rfl, rfl⟩

theorem drainPending_empties {endOp : Directive} {stream next : StreamingCompress CCtx}
    {bytes : Bytes}
    (settles : Settles (fun fuel => drainPending library endOp fuel stream) ⟨.ok bytes, next⟩) :
    next.pending = [] := by
  rcases settles with ⟨enough, settles⟩
  rcases Option.map_eq_some_iff.mp (settles enough le_rfl) with ⟨⟨raised | drained, ctx⟩, -, same⟩
  · cases same
  · cases same
    rfl

theorem streamingCompress_inOrder_flushed : ∃ progress,
    Run (fun before call after => Calls (compressLibrary storedWriter).recording before call after ∧
        FindsNothingPending before call)
      (.start ⟨(.create Unit, []), []⟩)
      [.write ([[0x61, 0x62, 0x63, 0x64]].map .string), .flush,
        .compress (.string [0x65, 0x66, 0x67, 0x68]), .finish] progress ∧
    progress.handed = [0x61, 0x62, 0x63, 0x64, 0x65, 0x66, 0x67, 0x68] ∧
    InOrder progress ∧
    AreFrames ((streamFormat storedBlocks).DataFrame none) progress.returned progress.handed := by
  have contract : EncoderContract (compressLibrary storedWriter).compressStream2 (.create Unit)
      ((streamFormat storedBlocks).DataFrame none) :=
    storedWriter_encoderContract (by simp) (.create rfl)
  have facts := fun calls progress => @streamingCompress_inOrder (CStream Unit)
    (compressLibrary storedWriter) (streamFormat storedBlocks) [] ⟨(.create Unit, []), []⟩ calls
    progress contract rfl
  have start : Run (fun before call after =>
      Calls (compressLibrary storedWriter).recording before call after ∧
        FindsNothingPending before call) (.start ⟨(.create Unit, []), []⟩) []
      (.start ⟨(.create Unit, []), []⟩) := .nil
  -- Each call returns; of what it returns only the flush matters.
  rcases (facts _ _ start).2.2 (.write ([[0x61, 0x62, 0x63, 0x64]].map .string)) with
    ⟨written, first, -⟩
  have run := start.snoc ⟨first, fun src input absurd => by cases absurd⟩
  rcases (facts _ _ run).2.2 .flush with ⟨flushed, second, converts⟩
  have run := run.snoc ⟨second, fun src input absurd => by cases absurd⟩
  rcases converts trivial with ⟨bytes, settles⟩
  have none : flushed.stream.pending = [] := drainPending_empties settles
  rcases (facts _ _ run).2.2 (.compress (.string [0x65, 0x66, 0x67, 0x68])) with
    ⟨compressed, third, -⟩
  have run := run.snoc ⟨third, fun src input _ _ => Or.inr none⟩
  rcases (facts _ _ run).2.2 .finish with ⟨finished, fourth, -⟩
  have run := run.snoc ⟨fourth, fun src input absurd => by cases absurd⟩
  refine ⟨finished, run, ?_, (facts _ _ run).1, (facts _ _ run).2.1 rfl⟩
  rcases first with ⟨-, -, -, first⟩
  rcases second with ⟨-, -, -, second⟩
  rcases third with ⟨-, -, -, third⟩
  rcases fourth with ⟨-, -, -, fourth⟩
  rw [fourth, third, second, first]
  rfl

/-- Without it, `compress` returns the second block while the first one is still
pending. -/
theorem compress_overtakes_write :
    ¬∀ stream calls progress, rbStreamingCompressInitialize smallBlocks.recording [] = .ok stream →
      Run (Calls smallBlocks.recording) (.start stream) calls progress → InOrder progress := by
  intro promised
  have evaluated : ∃ written compressed,
      (CompressCall.write ([[0x61, 0x62, 0x63, 0x64]].map .string)).run smallBlocks.recording 2
        ⟨(.fresh, []), []⟩ = some ⟨.ok [], written⟩ ∧
      (CompressCall.compress (.string [0x65, 0x66, 0x67, 0x68])).run smallBlocks.recording 2
        written = some ⟨.ok (storedBlock false [0x65, 0x66, 0x67, 0x68]), compressed⟩ ∧
      compressed.pending = storedHeader ++ storedBlock false [0x61, 0x62, 0x63, 0x64] ∧
      emitted compressed.ctx.2 = storedHeader ++ (storedBlock false [0x61, 0x62, 0x63, 0x64] ++
        storedBlock false [0x65, 0x66, 0x67, 0x68]) :=
    ⟨_, _, rfl, rfl, rfl, rfl⟩
  rcases evaluated with ⟨written, compressed, first, second, pending, emits⟩
  have start : Run (Calls smallBlocks.recording) (.start ⟨(.fresh, []), []⟩) []
      (.start ⟨(.fresh, []), []⟩) := .nil
  have run := (start.snoc (calls_of_run first)).snoc (calls_of_run second)
  have inOrder := promised ⟨(.fresh, []), []⟩ _ _ rfl run
  rw [InOrder, pending, emits] at inOrder
  have swapped : storedBlock false [0x65, 0x66, 0x67, 0x68] ++
      (storedHeader ++ storedBlock false [0x61, 0x62, 0x63, 0x64]) ≠
        storedHeader ++ (storedBlock false [0x61, 0x62, 0x63, 0x64] ++
          storedBlock false [0x65, 0x66, 0x67, 0x68]) := by
    decide
  exact swapped inOrder

end ZstdRuby
