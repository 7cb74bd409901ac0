import ZstdRuby.Extension.StreamIo
import ZstdRuby.Properties.ErrorProtocol

/-! # Writes with an argument that is not a string

`write` converts each argument right before it feeds it. An argument that cannot
be converted ends the call, and what the arguments before it have done to the
stream stays.
-/

namespace ZstdRuby

open Libzstd Streaming

variable {CCtx : Type} {library : CompressLibrary CCtx} {stream : StreamingCompress CCtx}
  {argv : List Value}

/-! ## Arguments one after another -/

theorem writeLoop_append (fuel : Nat) (first rest : List Value) :
    ∀ (stream : StreamingCompress CCtx) (total : Nat),
      writeLoop library fuel stream total (first ++ rest) =
        (writeLoop library fuel stream total first).bind fun written =>
          match written.result with
          | .error raised => some ⟨.error raised, written.stream⟩
          | .ok total => writeLoop library fuel written.stream total rest := by
  induction first with
  | nil =>
      intro stream total
      rfl
  | cons str first induction =>
      intro stream total
      rw [List.cons_append, writeLoop, writeLoop]
      cases converted : str.stringValue with
      | error raised => rfl
      | ok input =>
          simp only [Option.bind_assoc]
          apply congrArg
          funext fed
          rcases fed with ⟨raised | done, state⟩
          · rfl
          · exact induction _ _

theorem rbStreamingCompressWrite_rejected {fuel total : Nat} {next : StreamingCompress CCtx}
    {bad : Value} {raised : RubyError} {first : List Value} (rest : List Value)
    (returned : rbStreamingCompressWrite library fuel stream first = some ⟨.ok total, next⟩)
    (unconvertible : bad.stringValue = .error raised) :
    rbStreamingCompressWrite library fuel stream (first ++ bad :: rest) =
      some ⟨.error raised, next⟩ := by
  rw [rbStreamingCompressWrite] at returned ⊢
  rw [writeLoop_append, returned]
  simp only [Option.bind_some, writeLoop, unconvertible]

/-- A rejected `StreamWriter#write` writes nothing to its `IO`, also where the
stream has taken the arguments before the rejected one. -/
theorem streamWriterWrite_rejected {fuel total : Nat} {writer : StreamWriter CCtx}
    {next : StreamingCompress CCtx} {bad : Value} {raised : RubyError} {first : List Value}
    (rest : List Value)
    (returned : rbStreamingCompressWrite library fuel writer.stream first =
      some ⟨.ok total, next⟩)
    (unconvertible : bad.stringValue = .error raised) :
    streamWriterWrite library fuel writer (first ++ bad :: rest) =
      some ⟨.error raised, ⟨writer.io, next⟩⟩ := by
  rw [streamWriterWrite, rbStreamingCompressWrite_rejected rest returned unconvertible]
  rfl

theorem exists_unconvertible {raised : RubyError} :
    ∀ {argv : List Value}, argv.mapM Value.stringValue = .error raised →
      ∃ first bad rest data, argv = first ++ bad :: rest ∧
        first.mapM Value.stringValue = .ok data ∧ bad.stringValue = .error raised
  | [], converted => by cases converted
  | str :: argv, converted => by
      rw [List.mapM_cons] at converted
      cases this : str.stringValue with
      | error code =>
          simp only [this, bind, Except.bind, Except.error.injEq] at converted
          exact ⟨[], str, argv, [], rfl, rfl, by rw [this, converted]⟩
      | ok input =>
          cases others : argv.mapM Value.stringValue with
          | ok data => simp [this, others, bind, Except.bind, pure, Except.pure] at converted
          | error code =>
              simp only [this, others, bind, Except.bind, Except.error.injEq] at converted
              subst converted
              rcases exists_unconvertible others with
                ⟨first, bad, rest, data, rfl, strings, unconvertible⟩
              refine ⟨str :: first, bad, rest, input :: data, rfl, ?_, unconvertible⟩
              simp [List.mapM_cons, this, strings, bind, Except.bind, pure, Except.pure]

theorem writeLoop_empty :
    ∀ {argv : List Value} {data : List Bytes}, argv.mapM Value.stringValue = .ok data →
      data.flatten = [] → ∀ (stream : StreamingCompress CCtx) (total : Nat),
      Settles (fun fuel => writeLoop library fuel stream total argv) ⟨.ok total, stream⟩
  | [], _, _, _, stream, total => Settles.of_const _
  | str :: argv, data, converted, empty, stream, total => by
      rw [List.mapM_cons] at converted
      cases this : str.stringValue with
      | error code => simp [this, bind, Except.bind] at converted
      | ok input =>
          cases rest : argv.mapM Value.stringValue with
          | error code => simp [this, rest, bind, Except.bind] at converted
          | ok more =>
              simp only [this, rest, bind, Except.bind, pure, Except.pure,
                Except.ok.injEq] at converted
              subst converted
              rw [List.flatten_cons, List.append_eq_nil_iff] at empty
              rcases empty with ⟨rfl, empty⟩
              have fed : Settles (fun fuel => feed library [] fuel stream.ctx stream.pending)
                  (.ok (), ⟨stream.ctx, 0, stream.pending⟩) :=
                Loop.settles_leave (feedPass_exhausted (lt_irrefl 0))
              simp only [writeLoop, this]
              exact fed.bind (writeLoop_empty rest empty stream total)

/-! ## Reachable streams -/

section

variable {initial : CCtx} {Frame : Bytes → Bytes → Prop} {content bytes : Bytes}
  {next : StreamingCompress CCtx} {call : CompressCall}

theorem CompressStep.encoded (contract : EncoderContract library.compressStream2 initial Frame)
    (encoded : Encoded library initial Frame stream.ctx content bytes)
    (step : CompressStep library stream call next) :
    ∃ received, Encoded library initial Frame next.ctx (content ++ call.handed)
      (bytes ++ received) := by
  rcases step with ⟨fuel, result, returned⟩
  rcases call_settles contract encoded call with
    ⟨result', next', received, settles, -, encoded, -, -⟩
  cases (CompressCall.settles_of_run returned).unique settles
  exact ⟨received, encoded⟩

theorem encoded_of_run (contract : EncoderContract library.compressStream2 stream.ctx Frame)
    {calls : List CompressCall} (run : Run (CompressStep library) stream calls next) :
    ∃ bytes, Encoded library stream.ctx Frame next.ctx (calls.map CompressCall.handed).flatten
      bytes := by
  induction run with
  | nil => exact ⟨[], [], [], [], [], .nil, .initial, rfl, rfl⟩
  | snoc run taken induction =>
      rcases induction with ⟨bytes, encoded⟩
      rcases CompressStep.encoded contract encoded taken with ⟨received, encoded⟩
      refine ⟨bytes ++ received, ?_⟩
      simpa using encoded

end

/-! ## A rejected write -/

/-- A `write` of arguments that can all be converted feeds all of them in order
and returns the sum of their lengths. Otherwise it raises at the first argument
that cannot be converted, with the stream that a `write` of the arguments
before it leaves. -/
theorem rbStreamingCompressWrite_settles {format : FrameFormat} {kwargs : Kwargs}
    {initial : StreamingCompress CCtx} {calls : List CompressCall}
    (contract : EncoderContract library.compressStream2 initial.ctx
      (format.DataFrame (compressDictionary kwargs)))
    (_initialized : rbStreamingCompressInitialize library kwargs = .ok initial)
    (run : Run (CompressStep library) initial calls stream) (argv : List Value) :
    ∃ bytes, Encoded library initial.ctx (format.DataFrame (compressDictionary kwargs)) stream.ctx
        (calls.map CompressCall.handed).flatten bytes ∧
      (∀ data, argv.mapM Value.stringValue = .ok data → ∃ next output,
        Settles (fun fuel => rbStreamingCompressWrite library fuel stream argv)
          ⟨.ok (data.map List.length).sum, ⟨next, stream.pending ++ output⟩⟩ ∧
        Encoded library initial.ctx (format.DataFrame (compressDictionary kwargs)) next
          ((calls.map CompressCall.handed).flatten ++ data.flatten) (bytes ++ output)) ∧
      ∀ raised, argv.mapM Value.stringValue = .error raised →
        ∃ first bad rest data next, argv = first ++ bad :: rest ∧
          first.mapM Value.stringValue = .ok data ∧ bad.stringValue = .error raised ∧
          Settles (fun fuel => rbStreamingCompressWrite library fuel stream first)
            ⟨.ok (data.map List.length).sum, next⟩ ∧
          Settles (fun fuel => rbStreamingCompressWrite library fuel stream argv)
            ⟨.error raised, next⟩ ∧
          (data.flatten = [] → next = stream) := by
  rcases encoded_of_run contract run with ⟨bytes, encoded⟩
  refine ⟨bytes, encoded, ?_, ?_⟩
  · intro data converted
    rcases write_encoded contract encoded argv with ⟨next, output, settles, encoded⟩
    rw [leadingStrings_of_mapM converted] at encoded
    rw [converted] at settles
    exact ⟨next, output, settles, encoded⟩
  · intro raised converted
    rcases exists_unconvertible converted with
      ⟨first, bad, rest, data, rfl, strings, unconvertible⟩
    rcases write_encoded contract encoded first with ⟨next, output, settles, -⟩
    rw [strings] at settles
    refine ⟨first, bad, rest, data, _, rfl, strings, unconvertible, settles, ?_, ?_⟩
    · rcases settles with ⟨enough, settles⟩
      exact ⟨enough, fun fuel large =>
        rbStreamingCompressWrite_rejected rest (settles fuel large) unconvertible⟩
    · intro empty
      exact congrArg CompressOutcome.stream
        (settles.unique (writeLoop_empty strings empty stream 0))

theorem rbStreamingCompressWrite_settles_nil : ∃ stream next,
    Run (CompressStep (compressLibrary storedWriter)) ⟨.create Unit, []⟩ [.write [.string [0x61]]]
      stream ∧
    Settles (fun fuel => rbStreamingCompressWrite (compressLibrary storedWriter) fuel stream
      [.string [0x62, 0x63], .nil, .string [0x64]])
      ⟨.error (.typeError "no implicit conversion of nil into String"), next⟩ := by
  have contract := @storedWriter_encoderContract none (.create Unit) (by simp) (.create rfl)
  have facts := fun calls stream => @rbStreamingCompressWrite_settles (CStream Unit)
    (compressLibrary storedWriter) stream (streamFormat storedBlocks) [] ⟨.create Unit, []⟩ calls
    contract rfl
  rcases facts [] _ .nil [.string [0x61]] with ⟨_, -, takes, -⟩
  rcases takes [[0x61]] rfl with ⟨ctx, output, ⟨enough, settles⟩, -⟩
  have run : Run (CompressStep (compressLibrary storedWriter)) ⟨.create Unit, []⟩
      [.write [.string [0x61]]] ⟨ctx, [] ++ output⟩ := by
    have returned : rbStreamingCompressWrite (compressLibrary storedWriter) enough
        ⟨.create Unit, []⟩ [.string [0x61]] = some ⟨.ok 1, ⟨ctx, [] ++ output⟩⟩ :=
      settles enough (le_refl enough)
    exact Run.singleton ⟨enough, .ok [], by rw [CompressCall.run, returned]; rfl⟩
  rcases facts _ _ run [.string [0x62, 0x63], .nil, .string [0x64]] with ⟨_, -, -, rejected⟩
  rcases rejected (.typeError "no implicit conversion of nil into String") rfl with
    ⟨first, bad, rest, data, next, -, -, -, -, raises, -⟩
  exact ⟨_, next, run, raises⟩

/-- What the string before the rejected argument has brought into the encoder
comes out of the `finish`. -/
theorem rejectedWrite_changes_finish :
    ¬∀ kwargs initial calls stream argv raised next bytes bytes' last last',
      rbStreamingCompressInitialize smallBlocks kwargs = .ok initial →
      Run (CompressStep smallBlocks) initial calls stream →
      Settles (fun fuel => rbStreamingCompressWrite smallBlocks fuel stream argv)
        ⟨.error raised, next⟩ →
      Settles (fun fuel => rbStreamingCompressFinish smallBlocks fuel stream)
        ⟨.ok bytes, last⟩ →
      Settles (fun fuel => rbStreamingCompressFinish smallBlocks fuel next)
        ⟨.ok bytes', last'⟩ →
      bytes = bytes' := by
  intro promised
  have evaluated : ∃ next bytes bytes' last last',
      rbStreamingCompressWrite smallBlocks 2 ⟨.fresh, []⟩ [.string [0x61, 0x62, 0x63], .nil] =
        some ⟨.error (.typeError "no implicit conversion of nil into String"), next⟩ ∧
      CompressCall.finish.run smallBlocks 2 ⟨.fresh, []⟩ = some ⟨.ok bytes, last⟩ ∧
      CompressCall.finish.run smallBlocks 2 next = some ⟨.ok bytes', last'⟩ ∧
      bytes.length = 9 ∧ bytes'.length = 15 :=
    ⟨_, _, _, _, _, rfl, rfl, rfl, rfl, rfl⟩
  rcases evaluated with ⟨next, bytes, bytes', last, last', write, finish, finish', short, long⟩
  have equal := promised [] ⟨.fresh, []⟩ [] ⟨.fresh, []⟩ _ _ next bytes bytes' last last' rfl .nil
    ⟨2, fun fuel large => CompressCall.writeLoop_mono large write⟩
    (CompressCall.settles_of_run finish) (CompressCall.settles_of_run finish')
  have lengths := congrArg List.length equal
  omega

end ZstdRuby
