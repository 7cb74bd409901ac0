import ZstdRuby.Extension.StreamingCompress

/-! # The loops of a compressing stream

What the methods of a `StreamingCompress` do to the encoder's session, and what
they make of the encoder's output.
-/

namespace ZstdRuby

open Libzstd Streaming

variable {CCtx : Type} {library : CompressLibrary CCtx} {initial : CCtx}
  {Frame : Bytes → Bytes → Prop}

/-! ## Passes -/

section

variable {input : Bytes} {endOp : Directive} {status : Nat}

theorem feedPass_exhausted {state : FeedState CCtx} (exhausted : ¬state.pos < input.length) :
    feedPass library input state = .leave (.ok (), state) := by
  rw [feedPass, if_pos exhausted]

theorem feedPass_replied {state : FeedState CCtx} (left : state.pos < input.length)
    (replied : (feedReply library input state).status = .ok status) :
    feedPass library input state = .again ⟨(feedReply library input state).context,
      state.pos + (feedReply library input state).consumed,
      state.out ++ (feedReply library input state).output⟩ := by
  rw [feedPass, if_neg (not_not.mpr left)]
  simp only [replied]

theorem feedPass_failed {state : FeedState CCtx} {code : ErrorCode}
    (left : state.pos < input.length)
    (failed : (feedReply library input state).status = .error code) :
    feedPass library input state = .leave (.error (.runtimeError
      ("compress error error code: " ++ code.getErrorName)),
      ⟨(feedReply library input state).context,
        state.pos + (feedReply library input state).consumed, state.out⟩) := by
  rw [feedPass, if_neg (not_not.mpr left)]
  simp only [failed]

theorem noCompressPass_finished {state : NoCompressState CCtx}
    (finished : (noCompressReply library endOp state).status = .ok 0) :
    noCompressPass library endOp state =
      .leave (.ok (state.result ++ (noCompressReply library endOp state).output),
        (noCompressReply library endOp state).context) := by
  simp only [noCompressPass, finished]

theorem noCompressPass_unfinished {state : NoCompressState CCtx}
    (unfinished : (noCompressReply library endOp state).status = .ok (status + 1)) :
    noCompressPass library endOp state = .again ⟨(noCompressReply library endOp state).context,
      state.result ++ (noCompressReply library endOp state).output⟩ := by
  simp only [noCompressPass, unfinished]

theorem noCompressPass_failed {state : NoCompressState CCtx} {code : ErrorCode}
    (failed : (noCompressReply library endOp state).status = .error code) :
    noCompressPass library endOp state = .leave (.error (.runtimeError
      ("flush error error code: " ++ code.getErrorName)),
      (noCompressReply library endOp state).context) := by
  simp only [noCompressPass, failed]

end

/-! ## Loops in a session -/

section

variable {ctx : CCtx} {taken given : Bytes}

theorem wellFounded_lex : WellFounded (Prod.Lex Nat.lt Nat.lt) :=
  (Prod.lex Nat.lt_wfRel Nat.lt_wfRel).wf

theorem feed_settles (contract : EncoderContract library.compressStream2 initial Frame)
    (session : EncodingSession library.compressStream2 initial ctx none taken given)
    (input out : Bytes) :
    ∃ next output, Settles (fun fuel => feed library input fuel ctx out)
        (.ok (), ⟨next, input.length, out ++ output⟩) ∧
      EncodingSession library.compressStream2 initial next none (taken ++ input)
        (given ++ output) := by
  rcases contract.progress with ⟨held, drains⟩
  have settles : ∃ result, Settles (fun fuel => feed library input fuel ctx out) result ∧
      ∃ next output, result = (.ok (), ⟨next, input.length, out ++ output⟩) ∧
        EncodingSession library.compressStream2 initial next none (taken ++ input)
          (given ++ output) := by
    refine Loop.settles_of_wellFounded wellFounded_lex
      (fun state : FeedState CCtx => state.pos ≤ input.length ∧ ∃ output,
        state.out = out ++ output ∧ EncodingSession library.compressStream2 initial state.ctx none
          (taken ++ input.take state.pos) (given ++ output)) _
      (fun state => (input.length - state.pos, held state.ctx)) ?_ ⟨ctx, 0, out⟩
      ⟨Nat.zero_le _, [], by simp, by simpa using session⟩
    rintro state ⟨within, output, equal, session⟩
    by_cases available : state.pos < input.length
    · have nonempty : input.drop state.pos ≠ [] := by
        rw [Ne, List.drop_eq_nil_iff]
        omega
      have room : 0 < cStreamOutSize := by decide
      rcases contract.proceeds session room nonempty with ⟨status, replied, bound, -⟩
      have progress := drains.proceed session room nonempty replied
      have moved := EncodingSession.proceed session replied
      rw [List.append_assoc, List.append_assoc, ← List.take_add] at moved
      rw [List.length_drop] at bound
      rw [feedPass_replied available replied]
      refine ⟨⟨?_, output ++ (feedReply library input state).output, ?_, moved⟩, ?_⟩
      · simp only [feedReply]
        omega
      · rw [equal, List.append_assoc]
      · by_cases takes : 0 < (feedReply library input state).consumed
        · have shorter : input.length - (state.pos + (feedReply library input state).consumed) <
              input.length - state.pos := by
            simp only [feedReply] at takes ⊢
            omega
          exact Prod.Lex.left _ _ shorter
        · have none : (feedReply library input state).consumed = 0 := by omega
          have lowers := progress.resolve_left takes
          rw [none]
          exact Prod.Lex.right _ lowers
    · have whole : state.pos = input.length := by omega
      rw [whole, List.take_length] at session
      rw [feedPass_exhausted available]
      exact ⟨state.ctx, output, by rw [← whole, ← equal], session⟩
  rcases settles with ⟨result, settles, next, output, rfl, session⟩
  exact ⟨next, output, settles, session⟩

theorem noCompress_carriesOut (contract : EncoderContract library.compressStream2 initial Frame)
    (session : EncodingSession library.compressStream2 initial ctx none taken given)
    {endOp : Directive} (drain : endOp ≠ .proceed) :
    ∃ state phase, (phase = none ∨ phase = some endOp) ∧
      EncodingSession library.compressStream2 initial state.ctx phase taken
        (given ++ state.result) ∧
      (noCompressReply library endOp state).status = .ok 0 ∧
      Settles (fun fuel => noCompress library endOp fuel ctx)
        (.ok (state.result ++ (noCompressReply library endOp state).output),
          (noCompressReply library endOp state).context) := by
  rcases contract.progress with ⟨held, drains⟩
  have settles : ∃ result, Settles (fun fuel => noCompress library endOp fuel ctx) result ∧
      ∃ state phase, (phase = none ∨ phase = some endOp) ∧
        EncodingSession library.compressStream2 initial state.ctx phase taken
          (given ++ state.result) ∧
        (noCompressReply library endOp state).status = .ok 0 ∧
        result = (.ok (state.result ++ (noCompressReply library endOp state).output),
          (noCompressReply library endOp state).context) := by
    refine Loop.settles_of_variant
      (fun state : NoCompressState CCtx => ∃ phase, (phase = none ∨ phase = some endOp) ∧
        EncodingSession library.compressStream2 initial state.ctx phase taken
          (given ++ state.result)) _ (fun state => held state.ctx) ?_ ⟨ctx, []⟩
      ⟨none, Or.inl rfl, by simpa using session⟩
    rintro state ⟨phase, allowed, session⟩
    have room : 0 < cStreamOutSize := by decide
    rcases contract.drains session drain allowed room with ⟨status, replied, -⟩
    cases status with
    | zero =>
        rw [noCompressPass_finished replied]
        exact ⟨state, phase, allowed, session, replied, rfl⟩
    | succ status =>
        rw [noCompressPass_unfinished replied]
        refine ⟨⟨some endOp, Or.inr rfl, ?_⟩, drains.unfinished session drain allowed room replied⟩
        rw [← List.append_assoc]
        exact .unfinished session drain allowed replied
  rcases settles with ⟨result, settles, state, phase, allowed, session, finished, rfl⟩
  exact ⟨state, phase, allowed, session, finished, settles⟩

theorem noCompress_settles (contract : EncoderContract library.compressStream2 initial Frame)
    (session : EncodingSession library.compressStream2 initial ctx none taken given)
    {endOp : Directive} (drain : endOp ≠ .proceed) :
    ∃ next bytes, Settles (fun fuel => noCompress library endOp fuel ctx) (.ok bytes, next) ∧
      (endOp = .flush → EncodingSession library.compressStream2 initial next none taken
        (given ++ bytes)) ∧
      (endOp = .finish → EncodingSession library.compressStream2 initial next none [] [] ∧
        Frame (given ++ bytes) taken) := by
  rcases noCompress_carriesOut contract session drain with
    ⟨state, phase, allowed, session, finished, settles⟩
  refine ⟨_, _, settles, ?_, ?_⟩
  · rintro rfl
    rw [← List.append_assoc]
    exact .flushed session allowed finished
  · rintro rfl
    rw [← List.append_assoc]
    exact ⟨.finished session allowed finished, contract.frames session allowed finished⟩

end

/-! ## What the loops record -/

section

variable {fuel : Nat} {ctx : CCtx × List (Response UInt8 ErrorCode)}

theorem feed_records {input out : Bytes}
    {fed : Except RubyError Unit × FeedState (CCtx × List (Response UInt8 ErrorCode))}
    (returned : feed library.recording input fuel ctx out = some fed) :
    ∃ added, fed.2.ctx.2 = ctx.2 ++ added ∧ NoCallAfterError added ∧
      (added = [] ↔ input = []) ∧ (fed.1 = .ok () ↔ AllSucceed added) ∧
      (fed.1 = .ok () → fed.2.out = out ++ emitted added) := by
  refine Loop.run_ensures
    (fun state => ∃ added, state.ctx.2 = ctx.2 ++ added ∧ AllSucceed added ∧
      (added = [] → state.pos = 0) ∧ (added ≠ [] → input ≠ []) ∧
      state.out = out ++ emitted added)
    (fun fed => ∃ added, fed.2.ctx.2 = ctx.2 ++ added ∧ NoCallAfterError added ∧
      (added = [] ↔ input = []) ∧ (fed.1 = .ok () ↔ AllSucceed added) ∧
      (fed.1 = .ok () → fed.2.out = out ++ emitted added)) ?_
    ⟨[], by simp, allSucceed_nil, fun _ => rfl, fun some => absurd rfl some, by simp⟩ returned
  rintro state ⟨added, appended, succeeded, start, called, received⟩
  by_cases available : state.pos < input.length
  · have nonempty : input ≠ [] := by
      rintro rfl
      simp at available
    have recorded : (feedReply library.recording input state).context.2 =
        ctx.2 ++ (added ++ [(feedReply library.recording input state).response]) := by
      rw [← List.append_assoc, ← appended]
      rfl
    cases replied : (feedReply library.recording input state).status with
    | error code =>
        rw [feedPass_failed available replied]
        refine ⟨_, recorded, noCallAfterError_snoc.mpr succeeded,
          ⟨fun absurd => by simp at absurd, fun empty => absurd empty nonempty⟩,
          ⟨fun absurd => (nomatch absurd), fun all => ?_⟩, fun absurd => by cases absurd⟩
        rcases all _ (List.mem_append_right _ List.mem_cons_self) with ⟨status, succeeded⟩
        cases replied.symm.trans succeeded
    | ok status =>
        rw [feedPass_replied available replied]
        refine ⟨_, recorded, succeeded.snoc ⟨status, replied⟩, fun absurd => by simp at absurd,
          fun _ => nonempty, ?_⟩
        rw [received, emitted_append, emitted_singleton, List.append_assoc]
        rfl
  · rw [feedPass_exhausted available]
    refine ⟨added, appended, succeeded.noCallAfterError, ⟨fun none => ?_, fun empty => ?_⟩,
      ⟨fun _ => succeeded, fun _ => rfl⟩, fun _ => received⟩
    · rw [start none] at available
      exact List.length_eq_zero_iff.mp (by omega)
    · by_contra some
      exact called some empty

theorem noCompress_records {endOp : Directive}
    {drained : Except RubyError Bytes × (CCtx × List (Response UInt8 ErrorCode))}
    (returned : noCompress library.recording endOp fuel ctx = some drained) :
    ∃ added, drained.2.2 = ctx.2 ++ added ∧ NoCallAfterError added ∧ added ≠ [] ∧
      (AllSucceed added → ∃ bytes, drained.1 = .ok bytes) ∧
      ∀ bytes, drained.1 = .ok bytes → bytes = emitted added := by
  refine Loop.run_ensures
    (fun state => ∃ added, state.ctx.2 = ctx.2 ++ added ∧ AllSucceed added ∧
      state.result = emitted added)
    (fun drained => ∃ added, drained.2.2 = ctx.2 ++ added ∧ NoCallAfterError added ∧ added ≠ [] ∧
      (AllSucceed added → ∃ bytes, drained.1 = .ok bytes) ∧
      ∀ bytes, drained.1 = .ok bytes → bytes = emitted added) ?_
    ⟨[], by simp, allSucceed_nil, rfl⟩ returned
  rintro state ⟨added, appended, succeeded, received⟩
  have recorded : (noCompressReply library.recording endOp state).context.2 =
      ctx.2 ++ (added ++ [(noCompressReply library.recording endOp state).response]) := by
    rw [← List.append_assoc, ← appended]
    rfl
  have gathered : state.result ++ (noCompressReply library.recording endOp state).output =
      emitted (added ++ [(noCompressReply library.recording endOp state).response]) := by
    rw [received, emitted_append, emitted_singleton]
    rfl
  cases replied : (noCompressReply library.recording endOp state).status with
  | error code =>
      rw [noCompressPass_failed replied]
      refine ⟨_, recorded, noCallAfterError_snoc.mpr succeeded, by simp, fun all => ?_,
        fun bytes absurd => by cases absurd⟩
      rcases all _ (List.mem_append_right _ List.mem_cons_self) with ⟨status, succeeded⟩
      cases replied.symm.trans succeeded
  | ok status =>
      cases status with
      | zero =>
          rw [noCompressPass_finished replied]
          have all : AllSucceed
              (added ++ [(noCompressReply library.recording endOp state).response]) :=
            succeeded.snoc ⟨0, replied⟩
          refine ⟨_, recorded, all.noCallAfterError, by simp, fun _ => ⟨_, rfl⟩,
            fun bytes equal => ?_⟩
          rw [← gathered]
          exact (Except.ok.inj equal).symm
      | succ status =>
          rw [noCompressPass_unfinished replied]
          exact ⟨_, recorded, succeeded.snoc ⟨_, replied⟩, gathered⟩

end

/-! ## Calls -/

def returnedString : Except RubyError Bytes → Bytes
  | .ok bytes => bytes
  | .error _ => []

def leadingStrings : List Value → List Bytes
  | [] => []
  | str :: argv =>
      match str.stringValue with
      | .error _ => []
      | .ok input => input :: leadingStrings argv

theorem leadingStrings_of_mapM :
    ∀ {argv : List Value} {data : List Bytes},
      argv.mapM Value.stringValue = .ok data → leadingStrings argv = data
  | [], data, converted => by
      cases converted
      rfl
  | str :: argv, data, converted => by
      rw [List.mapM_cons] at converted
      cases first : str.stringValue with
      | error raised => simp [first, bind, Except.bind] at converted
      | ok input =>
          cases rest : argv.mapM Value.stringValue with
          | error raised => simp [first, rest, bind, Except.bind] at converted
          | ok more =>
              simp only [first, rest, bind, Except.bind, pure, Except.pure,
                Except.ok.injEq] at converted
              simp only [leadingStrings, first, leadingStrings_of_mapM rest]
              exact converted

namespace CompressCall

theorem writeLoop_mono {fuel more : Nat} (within : fuel ≤ more) :
    ∀ {argv : List Value} {stream : StreamingCompress CCtx} {total : Nat}
      {outcome : CompressOutcome CCtx Nat},
      writeLoop library fuel stream total argv = some outcome →
      writeLoop library more stream total argv = some outcome
  | [], _, _, _, returned => returned
  | str :: argv, stream, total, outcome, returned => by
      rw [writeLoop] at returned ⊢
      cases converted : str.stringValue with
      | error raised =>
          simp only [converted] at returned ⊢
          exact returned
      | ok input =>
          simp only [converted] at returned ⊢
          rcases Option.bind_eq_some_iff.mp returned with ⟨⟨result, state⟩, fed, returned⟩
          refine Option.bind_eq_some_iff.mpr ⟨_, Loop.run_mono within fed, ?_⟩
          cases result with
          | error raised => exact returned
          | ok done => exact writeLoop_mono within returned

theorem settles_of_run {fuel : Nat} {stream : StreamingCompress CCtx} {call : CompressCall}
    {outcome : CompressOutcome CCtx Bytes}
    (returned : call.run library fuel stream = some outcome) :
    Settles (fun fuel => call.run library fuel stream) outcome := by
  refine ⟨fuel, fun more within => ?_⟩
  change call.run library more stream = some outcome
  cases call with
  | compress src =>
      rw [run, rbStreamingCompressCompress] at returned ⊢
      cases converted : src.stringValue with
      | error raised =>
          simp only [converted] at returned ⊢
          exact returned
      | ok input =>
          simp only [converted] at returned ⊢
          rcases Option.map_eq_some_iff.mp returned with ⟨fed, feeds, rfl⟩
          exact Option.map_eq_some_iff.mpr ⟨fed, Loop.run_mono within feeds, rfl⟩
  | write argv =>
      rcases Option.map_eq_some_iff.mp returned with ⟨written, writes, rfl⟩
      exact Option.map_eq_some_iff.mpr ⟨written, writeLoop_mono within writes, rfl⟩
  | flush =>
      rcases Option.map_eq_some_iff.mp returned with ⟨drained, drains, rfl⟩
      exact Option.map_eq_some_iff.mpr ⟨drained, Loop.run_mono within drains, rfl⟩
  | finish =>
      rcases Option.map_eq_some_iff.mp returned with ⟨drained, drains, rfl⟩
      exact Option.map_eq_some_iff.mpr ⟨drained, Loop.run_mono within drains, rfl⟩

def handed : CompressCall → Bytes
  | compress src => (leadingStrings [src]).flatten
  | write argv => (leadingStrings argv).flatten
  | flush | finish => []

def Converts : CompressCall → Prop
  | compress src => ∃ input, src.stringValue = .ok input
  | write argv => ∃ data, argv.mapM Value.stringValue = .ok data
  | flush | finish => True

/-- Where the bytes `received` from the encoder go: `write` appends them to
`pending`, `flush` and `finish` return them behind `pending`, and `compress`
returns them and leaves `pending` where it is. -/
def Delivers (call : CompressCall) (pending received bytes pending' : Bytes) : Prop :=
  match call with
  | compress _ => bytes = received ∧ pending' = pending
  | write _ => bytes = [] ∧ pending' = pending ++ received
  | flush | finish => bytes = pending ++ received ∧ pending' = []

theorem Delivers.unique {call : CompressCall}
    {pending received received' bytes pending' : Bytes}
    (left : call.Delivers pending received bytes pending')
    (right : call.Delivers pending received' bytes pending') : received = received' := by
  cases call with
  | compress src => exact left.1.symm.trans right.1
  | write argv => exact List.append_cancel_left (left.2.symm.trans right.2)
  | flush => exact List.append_cancel_left (left.1.symm.trans right.1)
  | finish => exact List.append_cancel_left (left.1.symm.trans right.1)

end CompressCall

/-! ## Calls in a session -/

def AreFrames (Frame : Bytes → Bytes → Prop) (bytes content : Bytes) : Prop :=
  ∃ frames, (∀ frame ∈ frames, Frame frame.1 frame.2) ∧ bytes = frameBytes frames ∧
    content = frameContents frames

/-- In all its frames together the encoder has taken `content` and given
`bytes`. -/
def Encoded (library : CompressLibrary CCtx) (initial : CCtx) (Frame : Bytes → Bytes → Prop)
    (ctx : CCtx) (content bytes : Bytes) : Prop :=
  ∃ frameContent frameBytes taken given, AreFrames Frame frameBytes frameContent ∧
    EncodingSession library.compressStream2 initial ctx none taken given ∧
    content = frameContent ++ taken ∧ bytes = frameBytes ++ given

theorem AreFrames.nil : AreFrames Frame [] [] := ⟨[], by simp, rfl, rfl⟩

theorem AreFrames.snoc {bytes content frame frameContent : Bytes}
    (frames : AreFrames Frame bytes content) (isFrame : Frame frame frameContent) :
    AreFrames Frame (bytes ++ frame) (content ++ frameContent) := by
  rcases frames with ⟨frames, valid, rfl, rfl⟩
  refine ⟨frames ++ [(frame, frameContent)], ?_, by simp [frameBytes], by simp [frameContents]⟩
  intro found member
  rcases List.mem_append.mp member with member | member
  · exact valid found member
  · rw [List.mem_singleton.mp member]
    exact isFrame

section

variable {stream : StreamingCompress CCtx} {taken given content bytes input : Bytes}
  {call : CompressCall}

theorem compress_settles (contract : EncoderContract library.compressStream2 initial Frame)
    (session : EncodingSession library.compressStream2 initial stream.ctx none taken given)
    {src : Value} (converted : src.stringValue = .ok input) :
    ∃ next output, Settles (fun fuel => rbStreamingCompressCompress library fuel stream src)
        ⟨.ok output, ⟨next, stream.pending⟩⟩ ∧
      EncodingSession library.compressStream2 initial next none (taken ++ input)
        (given ++ output) := by
  rcases feed_settles contract session input [] with ⟨next, output, settles, session⟩
  simp only [rbStreamingCompressCompress, converted]
  exact ⟨next, output, settles.map _, session⟩

theorem writeLoop_settles (contract : EncoderContract library.compressStream2 initial Frame) :
    ∀ {argv : List Value} {stream : StreamingCompress CCtx} {taken given : Bytes} {total : Nat},
      EncodingSession library.compressStream2 initial stream.ctx none taken given →
      ∃ next output, Settles (fun fuel => writeLoop library fuel stream total argv)
          ⟨(argv.mapM Value.stringValue).map fun data => total + (data.map List.length).sum,
            ⟨next, stream.pending ++ output⟩⟩ ∧
        EncodingSession library.compressStream2 initial next none
          (taken ++ (leadingStrings argv).flatten) (given ++ output)
  | [], stream, taken, given, total, session => by
      refine ⟨stream.ctx, [], ?_, by simpa [leadingStrings] using session⟩
      rw [List.append_nil]
      exact Settles.of_const _
  | str :: argv, stream, taken, given, total, session => by
      rw [List.mapM_cons]
      cases converted : str.stringValue with
      | error raised =>
          refine ⟨stream.ctx, [], ?_, by simpa [leadingStrings, converted] using session⟩
          simp only [writeLoop, converted, List.append_nil]
          exact Settles.of_const _
      | ok input =>
          rcases feed_settles contract session input stream.pending with
            ⟨next, output, fed, session⟩
          rcases @writeLoop_settles contract argv ⟨next, stream.pending ++ output⟩ _ _
            (total + input.length) session with ⟨last, more, written, session⟩
          refine ⟨last, output ++ more, ?_, ?_⟩
          · have sum : ∀ rest : Except RubyError (List Bytes),
                (rest.map fun data => total + input.length + (data.map List.length).sum) =
                  (rest.bind fun data => .ok (input :: data)).map
                    fun data => total + (data.map List.length).sum := by
              rintro (raised | data)
              · rfl
              · simp [Except.map, Except.bind, Nat.add_assoc]
            rw [← List.append_assoc]
            simp only [writeLoop, converted]
            exact (sum _) ▸ fed.bind written
          · simp only [leadingStrings, converted]
            rw [List.flatten_cons, ← List.append_assoc, ← List.append_assoc]
            exact session

theorem mapM_stringValue_string (data : List Bytes) :
    (data.map Value.string).mapM Value.stringValue = .ok data := by
  induction data with
  | nil => rfl
  | cons input data induction =>
      rw [List.map_cons, List.mapM_cons, induction]
      rfl

theorem writeStrings_settles (contract : EncoderContract library.compressStream2 initial Frame)
    (session : EncodingSession library.compressStream2 initial stream.ctx none taken given)
    (data : List Bytes) :
    ∃ next output, Settles (fun fuel => rbStreamingCompressWrite library fuel stream
          (data.map .string)) ⟨.ok (data.map List.length).sum,
            ⟨next, stream.pending ++ output⟩⟩ ∧
      EncodingSession library.compressStream2 initial next none (taken ++ data.flatten)
        (given ++ output) := by
  have strings := mapM_stringValue_string data
  rcases @writeLoop_settles _ _ _ _ contract (data.map .string) stream _ _ 0 session with
    ⟨next, output, settles, session⟩
  rw [leadingStrings_of_mapM strings] at session
  rw [strings, Except.map] at settles
  simp only [Nat.zero_add] at settles
  exact ⟨next, output, settles, session⟩

theorem drainPending_settles (contract : EncoderContract library.compressStream2 initial Frame)
    (session : EncodingSession library.compressStream2 initial stream.ctx none taken given)
    {endOp : Directive} (drain : endOp ≠ .proceed) :
    ∃ next output, Settles (fun fuel => drainPending library endOp fuel stream)
        ⟨.ok (stream.pending ++ output), ⟨next, []⟩⟩ ∧
      (endOp = .flush → EncodingSession library.compressStream2 initial next none taken
        (given ++ output)) ∧
      (endOp = .finish → EncodingSession library.compressStream2 initial next none [] [] ∧
        Frame (given ++ output) taken) := by
  rcases noCompress_settles contract session drain with ⟨next, output, settles, facts⟩
  exact ⟨next, output, settles.map _, facts⟩

theorem write_encoded (contract : EncoderContract library.compressStream2 initial Frame)
    (encoded : Encoded library initial Frame stream.ctx content bytes) (argv : List Value) :
    ∃ next output, Settles (fun fuel => rbStreamingCompressWrite library fuel stream argv)
        ⟨(argv.mapM Value.stringValue).map fun data => (data.map List.length).sum,
          ⟨next, stream.pending ++ output⟩⟩ ∧
      Encoded library initial Frame next (content ++ (leadingStrings argv).flatten)
        (bytes ++ output) := by
  rcases encoded with ⟨frameContent, frameBytes, taken, given, frames, session, rfl, rfl⟩
  rcases @writeLoop_settles _ _ _ _ contract argv stream _ _ 0 session with
    ⟨next, output, settles, session⟩
  simp only [Nat.zero_add] at settles
  exact ⟨next, output, settles,
    ⟨_, _, _, _, frames, session, List.append_assoc _ _ _, List.append_assoc _ _ _⟩⟩

/-- Every call on a stream in a session settles, whatever its arguments, and its input
and its output are the encoder's. -/
theorem call_settles (contract : EncoderContract library.compressStream2 initial Frame)
    (encoded : Encoded library initial Frame stream.ctx content bytes) (call : CompressCall) :
    ∃ result next received, Settles (fun fuel => call.run library fuel stream)
        ⟨result, next⟩ ∧
      call.Delivers stream.pending received (returnedString result) next.pending ∧
      Encoded library initial Frame next.ctx (content ++ call.handed) (bytes ++ received) ∧
      (call = .finish → AreFrames Frame (bytes ++ received) (content ++ call.handed)) ∧
      (call.Converts → ∃ returned, result = .ok returned) := by
  cases call with
  | compress src =>
      rcases encoded with ⟨frameContent, frameBytes, taken, given, frames, session, rfl, rfl⟩
      cases converted : src.stringValue with
      | error raised =>
          refine ⟨.error raised, stream, [], ⟨0, fun fuel _ => ?_⟩, ⟨rfl, rfl⟩,
            ⟨_, _, _, _, frames, session, ?_, List.append_nil _⟩,
            (by intro absurd; cases absurd), ?_⟩
          · simp only [CompressCall.run, rbStreamingCompressCompress, converted]
          · simp [CompressCall.handed, leadingStrings, converted]
          · rintro ⟨input, converts⟩
            cases converted.symm.trans converts
      | ok input =>
          rcases compress_settles contract session converted with ⟨next, output, settles, session⟩
          refine ⟨.ok output, ⟨next, stream.pending⟩, output, settles, ⟨rfl, rfl⟩,
            ⟨_, _, _, _, frames, session, ?_, List.append_assoc _ _ _⟩,
            (by intro absurd; cases absurd), fun _ => ⟨output, rfl⟩⟩
          simp [CompressCall.handed, leadingStrings, converted]
  | write argv =>
      rcases write_encoded contract encoded argv with ⟨next, output, settles, encoded⟩
      refine ⟨_, ⟨next, stream.pending ++ output⟩, output, settles.map _, ⟨?_, rfl⟩, encoded,
        (by intro absurd; cases absurd), ?_⟩
      · cases argv.mapM Value.stringValue <;> rfl
      · rintro ⟨data, converts⟩
        rw [converts]
        exact ⟨[], rfl⟩
  | flush =>
      rcases encoded with ⟨frameContent, frameBytes, taken, given, frames, session, rfl, rfl⟩
      rcases drainPending_settles contract session (by decide : Directive.flush ≠ .proceed) with
        ⟨next, output, settles, flushed, -⟩
      rw [CompressCall.handed, List.append_nil]
      exact ⟨_, ⟨next, []⟩, output, settles, ⟨rfl, rfl⟩,
        ⟨_, _, _, _, frames, flushed rfl, rfl, List.append_assoc _ _ _⟩,
        (by intro absurd; cases absurd), fun _ => ⟨_, rfl⟩⟩
  | finish =>
      rcases encoded with ⟨frameContent, frameBytes, taken, given, frames, session, rfl, rfl⟩
      rcases drainPending_settles contract session (by decide : Directive.finish ≠ .proceed) with
        ⟨next, output, settles, -, finished⟩
      rcases finished rfl with ⟨session, isFrame⟩
      have complete := frames.snoc isFrame
      rw [← List.append_assoc] at complete
      rw [CompressCall.handed, List.append_nil]
      exact ⟨_, ⟨next, []⟩, output, settles, ⟨rfl, rfl⟩,
        ⟨_, _, [], [], complete, session, (List.append_nil _).symm, (List.append_nil _).symm⟩,
        fun _ => complete, fun _ => ⟨_, rfl⟩⟩

end

/-! ## What calls record -/

section

variable {fuel : Nat} {stream : StreamingCompress (CCtx × List (Response UInt8 ErrorCode))}

/-- Whether the arguments hold no bytes, up to the first that cannot be
converted. -/
def writesNothing : List Value → Bool
  | [] => true
  | str :: argv =>
      match str.stringValue with
      | .error _ => true
      | .ok input => input.isEmpty && writesNothing argv

def CompressCall.quiet : CompressCall → Bool
  | compress src => writesNothing [src]
  | write argv => writesNothing argv
  | flush | finish => false

theorem writeLoop_records :
    ∀ {argv : List Value} {stream : StreamingCompress (CCtx × List (Response UInt8 ErrorCode))}
      {total : Nat} {outcome : CompressOutcome (CCtx × List (Response UInt8 ErrorCode)) Nat},
      writeLoop library.recording fuel stream total argv = some outcome →
      ∃ added, outcome.stream.ctx.2 = stream.ctx.2 ++ added ∧ NoCallAfterError added ∧
        (added = [] ↔ writesNothing argv = true) ∧
        ((∃ total, outcome.result = .ok total) → AllSucceed added) ∧
        (AllSucceed added → outcome.stream.pending = stream.pending ++ emitted added)
  | [], stream, total, outcome, returned => by
      cases returned
      exact ⟨[], by simp, allSucceed_nil.noCallAfterError, by simp [writesNothing],
        fun _ => allSucceed_nil, by simp⟩
  | str :: argv, stream, total, outcome, returned => by
      rw [writeLoop] at returned
      cases converted : str.stringValue with
      | error raised =>
          simp only [converted, Option.some.injEq] at returned
          subst returned
          exact ⟨[], by simp, allSucceed_nil.noCallAfterError,
            by simp [writesNothing, converted], fun _ => allSucceed_nil, by simp⟩
      | ok input =>
          simp only [converted] at returned
          rcases Option.bind_eq_some_iff.mp returned with ⟨⟨result, state⟩, fed, returned⟩
          rcases feed_records fed with ⟨added, appended, orderly, silent, succeeds, received⟩
          cases result with
          | error raised =>
              simp only [Option.some.injEq] at returned
              subst returned
              have failed : ¬AllSucceed added := fun all => by simpa using succeeds.mpr all
              have called : added ≠ [] := fun none => failed (none ▸ allSucceed_nil)
              have nonempty : input ≠ [] := fun empty => called (silent.mpr empty)
              refine ⟨added, appended, orderly, ?_, fun absurd => by simp at absurd,
                fun all => absurd all failed⟩
              simp [writesNothing, converted, called, nonempty]
          | ok done =>
              have succeeded := succeeds.mp rfl
              rcases writeLoop_records returned with
                ⟨more, appendedMore, orderlyMore, silentMore, succeedsMore, receivedMore⟩
              refine ⟨added ++ more, ?_, succeeded.append_noCallAfterError orderlyMore, ?_,
                fun normal => allSucceed_append.mpr ⟨succeeded, succeedsMore normal⟩, fun all => ?_⟩
              · rw [appendedMore, appended, List.append_assoc]
              · simp [writesNothing, converted, silent, silentMore]
              · rw [receivedMore (allSucceed_append.mp all).2, received rfl, emitted_append,
                  List.append_assoc]

theorem drainPending_records {endOp : Directive}
    {outcome : CompressOutcome (CCtx × List (Response UInt8 ErrorCode)) Bytes}
    (returned : drainPending library.recording endOp fuel stream = some outcome) :
    ∃ added, outcome.stream.ctx.2 = stream.ctx.2 ++ added ∧ NoCallAfterError added ∧
      (added = [] ↔ false = true) ∧
      (AllSucceed added → returnedString outcome.result = stream.pending ++ emitted added ∧
        outcome.stream.pending = []) := by
  rcases Option.map_eq_some_iff.mp returned with ⟨⟨result, ctx⟩, drains, rfl⟩
  rcases noCompress_records drains with ⟨added, appended, orderly, called, succeeds, received⟩
  cases result with
  | error raised =>
      refine ⟨added, appended, orderly, by simpa using called, fun all => ?_⟩
      rcases succeeds all with ⟨bytes, absurd⟩
      cases absurd
  | ok drained =>
      refine ⟨added, appended, orderly, by simpa using called, fun _ => ⟨?_, rfl⟩⟩
      rw [← received drained rfl]
      rfl

theorem call_records {call : CompressCall}
    {outcome : CompressOutcome (CCtx × List (Response UInt8 ErrorCode)) Bytes}
    (returned : call.run library.recording fuel stream = some outcome) :
    ∃ added, outcome.stream.ctx.2 = stream.ctx.2 ++ added ∧ NoCallAfterError added ∧
      (added = [] ↔ call.quiet = true) ∧
      (AllSucceed added → call.Delivers stream.pending (emitted added)
        (returnedString outcome.result) outcome.stream.pending) := by
  cases call with
  | compress src =>
      rw [CompressCall.run, rbStreamingCompressCompress] at returned
      cases converted : src.stringValue with
      | error raised =>
          simp only [converted, Option.some.injEq] at returned
          subst returned
          exact ⟨[], by simp, allSucceed_nil.noCallAfterError,
            by simp [CompressCall.quiet, writesNothing, converted], fun _ => ⟨rfl, rfl⟩⟩
      | ok input =>
          simp only [converted] at returned
          rcases Option.map_eq_some_iff.mp returned with ⟨⟨result, state⟩, feeds, rfl⟩
          rcases feed_records feeds with ⟨added, appended, orderly, silent, succeeds, received⟩
          refine ⟨added, appended, orderly, ?_, fun all => ?_⟩
          · simp [CompressCall.quiet, writesNothing, converted, silent]
          · have normal := succeeds.mpr all
            have gathered := received normal
            simp only at normal
            subst normal
            exact ⟨gathered, rfl⟩
  | write argv =>
      rcases Option.map_eq_some_iff.mp returned with ⟨⟨result, next⟩, writes, rfl⟩
      rcases writeLoop_records writes with ⟨added, appended, orderly, silent, -, received⟩
      refine ⟨added, appended, orderly, silent, fun all => ⟨?_, received all⟩⟩
      cases result <;> rfl
  | flush => exact drainPending_records returned
  | finish => exact drainPending_records returned

end

end ZstdRuby
