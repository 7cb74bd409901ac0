import ZstdRuby.Foundation.CallRecord

/-! # Bounded-buffer streaming encoders

A streaming encoder is called with a directive, a slice of its input and a
bounded output buffer. This file says what a caller may rely on, for any input
and output alphabet and any grammar of frames.
-/

namespace Streaming

universe u v w x

section

variable {Context : Type u} {α : Type x} {β : Type v} {Error : Type w}

/-! ## Sessions -/

/-- `EncodingSession encoder initial context phase taken given`: some sequence
of calls on the initial context leads to `context`, and since the last end of a
frame the calls have taken `taken` and given `given`. A flush or an end is
called without input, and is called again until it has been carried out; in the
meantime it is the session's phase. -/
inductive EncodingSession (encoder : Encoder Context α β Error) (initial : Context) :
    Context → Option Directive → List α → List β → Prop
  | initial : EncodingSession encoder initial initial none [] []
  | proceed {context : Context} {taken : List α} {given : List β} {capacity : Nat}
      {source : List α} {status : Nat}
      (session : EncodingSession encoder initial context none taken given)
      (accepted : (encoder context .proceed capacity source).status = .ok status) :
      EncodingSession encoder initial (encoder context .proceed capacity source).context none
        (taken ++ source.take (encoder context .proceed capacity source).consumed)
        (given ++ (encoder context .proceed capacity source).output)
  | unfinished {context : Context} {phase : Option Directive} {directive : Directive}
      {taken : List α} {given : List β} {capacity : Nat} {status : Nat}
      (session : EncodingSession encoder initial context phase taken given)
      (drains : directive ≠ .proceed) (allowed : phase = none ∨ phase = some directive)
      (unfinished : (encoder context directive capacity []).status = .ok (status + 1)) :
      EncodingSession encoder initial (encoder context directive capacity []).context
        (some directive) taken (given ++ (encoder context directive capacity []).output)
  | flushed {context : Context} {phase : Option Directive} {taken : List α} {given : List β}
      {capacity : Nat}
      (session : EncodingSession encoder initial context phase taken given)
      (allowed : phase = none ∨ phase = some .flush)
      (finished : (encoder context .flush capacity []).status = .ok 0) :
      EncodingSession encoder initial (encoder context .flush capacity []).context none taken
        (given ++ (encoder context .flush capacity []).output)
  | finished {context : Context} {phase : Option Directive} {taken : List α} {given : List β}
      {capacity : Nat}
      (session : EncodingSession encoder initial context phase taken given)
      (allowed : phase = none ∨ phase = some .finish)
      (finished : (encoder context .finish capacity []).status = .ok 0) :
      EncodingSession encoder initial (encoder context .finish capacity []).context none [] []

/-- What an encoder still holds, as far as its calls can be seen to lower it: a
call that does not carry out its directive lowers it, and so does a call that
takes nothing of its input. -/
structure Drains (encoder : Encoder Context α β Error) (initial : Context)
    (held : Context → Nat) : Prop where
  proceed : ∀ {context taken given capacity source status},
    EncodingSession encoder initial context none taken given → 0 < capacity → source ≠ [] →
    (encoder context .proceed capacity source).status = .ok status →
    0 < (encoder context .proceed capacity source).consumed ∨
      held (encoder context .proceed capacity source).context < held context
  unfinished : ∀ {context phase directive taken given capacity status},
    EncodingSession encoder initial context phase taken given → directive ≠ .proceed →
    phase = none ∨ phase = some directive → 0 < capacity →
    (encoder context directive capacity []).status = .ok (status + 1) →
    held (encoder context directive capacity []).context < held context

/-- The contract of a streaming encoder for a grammar of frames: legal calls do
not fail and stay within their buffers, they make progress, and when an end has
been carried out, what has been given is a frame of what has been taken. When an
encoder gives what is left open. -/
structure EncoderContract (encoder : Encoder Context α β Error) (initial : Context)
    (Frame : List β → List α → Prop) : Prop where
  proceeds : ∀ {context taken given capacity source},
    EncodingSession encoder initial context none taken given → 0 < capacity → source ≠ [] →
    ∃ status, (encoder context .proceed capacity source).status = .ok status ∧
      (encoder context .proceed capacity source).consumed ≤ source.length ∧
      (encoder context .proceed capacity source).output.length ≤ capacity
  drains : ∀ {context phase directive taken given capacity},
    EncodingSession encoder initial context phase taken given → directive ≠ .proceed →
    phase = none ∨ phase = some directive → 0 < capacity →
    ∃ status, (encoder context directive capacity []).status = .ok status ∧
      (encoder context directive capacity []).output.length ≤ capacity
  frames : ∀ {context phase taken given capacity},
    EncodingSession encoder initial context phase taken given →
    phase = none ∨ phase = some .finish →
    (encoder context .finish capacity []).status = .ok 0 →
    Frame (given ++ (encoder context .finish capacity []).output) taken
  progress : ∃ held, Drains encoder initial held

theorem EncoderContract.mono {encoder : Encoder Context α β Error} {initial : Context}
    {Frame Frame' : List β → List α → Prop} (contract : EncoderContract encoder initial Frame)
    (weaker : ∀ {frame content}, Frame frame content → Frame' frame content) :
    EncoderContract encoder initial Frame' where
  proceeds := contract.proceeds
  drains := contract.drains
  frames := fun session allowed finished => weaker (contract.frames session allowed finished)
  progress := contract.progress

/-- What a flush promises: when it has been carried out, what has been given
stands in the relation `Part` to what has been taken. -/
structure FlushContract (encoder : Encoder Context α β Error) (initial : Context)
    (Part : List β → List α → Prop) : Prop where
  flushes : ∀ {context phase taken given capacity},
    EncodingSession encoder initial context phase taken given →
    phase = none ∨ phase = some .flush →
    (encoder context .flush capacity []).status = .ok 0 →
    Part (given ++ (encoder context .flush capacity []).output) taken

/-! ## Recording -/

section

variable {encoder : Encoder Context α β Error} {initial : Context}
  {calls : List (Response β Error)}

theorem EncodingSession.of_recording {context : Context × List (Response β Error)}
    {phase : Option Directive} {taken : List α} {given : List β}
    (session : EncodingSession encoder.recording (initial, calls) context phase taken given) :
    EncodingSession encoder initial context.1 phase taken given := by
  induction session with
  | initial => exact .initial
  | proceed session accepted induction => exact .proceed induction accepted
  | unfinished session drains allowed unfinished induction =>
      exact .unfinished induction drains allowed unfinished
  | flushed session allowed finished induction => exact .flushed induction allowed finished
  | finished session allowed finished induction => exact .finished induction allowed finished

theorem EncodingSession.allSucceed {start context : Context × List (Response β Error)}
    {phase : Option Directive} {taken : List α} {given : List β}
    (session : EncodingSession encoder.recording start context phase taken given)
    (succeeded : AllSucceed start.2) : AllSucceed context.2 := by
  induction session with
  | initial => exact succeeded
  | proceed session accepted induction => exact induction.snoc ⟨_, accepted⟩
  | unfinished session drains allowed unfinished induction => exact induction.snoc ⟨_, unfinished⟩
  | flushed session allowed finished induction => exact induction.snoc ⟨_, finished⟩
  | finished session allowed finished induction => exact induction.snoc ⟨_, finished⟩

theorem EncoderContract.recording {Frame : List β → List α → Prop}
    (contract : EncoderContract encoder initial Frame) (calls : List (Response β Error)) :
    EncoderContract encoder.recording (initial, calls) Frame where
  proceeds := fun session => contract.proceeds session.of_recording
  drains := fun session => contract.drains session.of_recording
  frames := fun session => contract.frames session.of_recording
  progress := by
    rcases contract.progress with ⟨held, drains⟩
    exact ⟨fun context => held context.1, fun session => drains.proceed session.of_recording,
      fun session => drains.unfinished session.of_recording⟩

theorem FlushContract.recording {Part : List β → List α → Prop}
    (contract : FlushContract encoder initial Part) (calls : List (Response β Error)) :
    FlushContract encoder.recording (initial, calls) Part where
  flushes := fun session => contract.flushes session.of_recording

end

end

end Streaming
