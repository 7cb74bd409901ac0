import ZstdRuby.Foundation.StreamingEncoder

/-! # Loops of calls

A caller repeats its calls until an input is used up or a directive is carried out,
and gives up where a call fails. Of a streaming function this file asks no more than
that such loops come to an end: its calls may fail, and may be made again after that.
-/

namespace Streaming

universe u v w x

section

variable {Context : Type u} {α : Type x} {β : Type v} {Error : Type w}

/-! ## Decoders -/

namespace Decoder

variable (decoder : Decoder Context α β Error)

inductive Reaches (initial : Context) : Context → Prop
  | initial : Reaches initial initial
  | call {context : Context} (reaches : Reaches initial context) (capacity : Nat)
      (source : List α) : Reaches initial (decoder context capacity source).context

/-- One round of a loop that decodes a source: from a context and what is left of the
source to the next. The end of a frame that gives nothing ends the loop. -/
inductive Round (capacity : Nat) : Context × List α → Context × List α → Prop
  | call {context : Context} {source : List α} {status : Nat} (available : source ≠ [])
      (accepted : (decoder context capacity source).status = .ok status)
      (goesOn : ¬(status = 0 ∧ (decoder context capacity source).output = [])) :
      Round capacity ((decoder context capacity source).context,
        source.drop (decoder context capacity source).consumed) (context, source)

/-- Whatever calls have been made before, the loop ends. -/
def Terminates (capacity : Nat) (initial : Context) : Prop :=
  ∀ {context : Context}, decoder.Reaches initial context →
    ∀ source, Acc (decoder.Round capacity) (context, source)

end Decoder

/-! ## Encoders -/

namespace Encoder

variable (encoder : Encoder Context α β Error) (capacity : Nat)

/-- The contexts that calls lead to, failed ones included. A flush or an end is called
again until it has been carried out or has failed. -/
inductive Reaches (initial : Context) : Context → Option Directive → Prop
  | initial : Reaches initial initial none
  | proceed {context : Context} {source : List α} (reaches : Reaches initial context none)
      (available : source ≠ []) :
      Reaches initial (encoder context .proceed capacity source).context none
  | unfinished {context : Context} {phase : Option Directive} {directive : Directive}
      {status : Nat} (reaches : Reaches initial context phase) (drains : directive ≠ .proceed)
      (allowed : phase = none ∨ phase = some directive)
      (unfinished : (encoder context directive capacity []).status = .ok (status + 1)) :
      Reaches initial (encoder context directive capacity []).context (some directive)
  | left {context : Context} {phase : Option Directive} {directive : Directive}
      (reaches : Reaches initial context phase) (drains : directive ≠ .proceed)
      (allowed : phase = none ∨ phase = some directive)
      (left : ∀ status, (encoder context directive capacity []).status ≠ .ok (status + 1)) :
      Reaches initial (encoder context directive capacity []).context none

inductive FeedRound : Context × List α → Context × List α → Prop
  | call {context : Context} {source : List α} {status : Nat} (available : source ≠ [])
      (accepted : (encoder context .proceed capacity source).status = .ok status) :
      FeedRound ((encoder context .proceed capacity source).context,
        source.drop (encoder context .proceed capacity source).consumed) (context, source)

inductive DrainRound (directive : Directive) : Context → Context → Prop
  | call {context : Context} {status : Nat}
      (unfinished : (encoder context directive capacity []).status = .ok (status + 1)) :
      DrainRound directive (encoder context directive capacity []).context context

/-- Whatever calls have been made before, the loops end. -/
structure Terminates (initial : Context) : Prop where
  feed : ∀ {context : Context}, encoder.Reaches capacity initial context none →
    ∀ source, Acc (encoder.FeedRound capacity) (context, source)
  drain : ∀ {context : Context} {directive : Directive},
    encoder.Reaches capacity initial context none → directive ≠ .proceed →
    Acc (encoder.DrainRound capacity directive) context

inductive Carries (directive : Directive) : Context → Prop
  | finished {context : Context}
      (finished : (encoder context directive capacity []).status = .ok 0) :
      Carries directive context
  | unfinished {context : Context} {status : Nat}
      (unfinished : (encoder context directive capacity []).status = .ok (status + 1))
      (carries : Carries directive (encoder context directive capacity []).context) :
      Carries directive context

end Encoder

/-! ## Encoders whose calls do not fail -/

section

variable {encoder : Encoder Context α β Error} {capacity : Nat} {initial context : Context}
  {phase : Option Directive} {directive : Directive} {Frame : List β → List α → Prop}

theorem EncoderContract.session_of_reaches (contract : EncoderContract encoder initial Frame)
    (room : 0 < capacity) (reaches : encoder.Reaches capacity initial context phase) :
    ∃ taken given, EncodingSession encoder initial context phase taken given := by
  induction reaches with
  | initial => exact ⟨[], [], .initial⟩
  | proceed reaches available induction =>
      rcases induction with ⟨taken, given, session⟩
      rcases contract.proceeds session room available with ⟨status, accepted, -⟩
      exact ⟨_, _, .proceed session accepted⟩
  | unfinished reaches drains allowed unfinished induction =>
      rcases induction with ⟨taken, given, session⟩
      exact ⟨_, _, .unfinished session drains allowed unfinished⟩
  | @left context phase directive reaches drains allowed left induction =>
      rcases induction with ⟨taken, given, session⟩
      rcases contract.drains session drains allowed room with ⟨status, accepted, -⟩
      cases status with
      | succ status => exact absurd accepted (left status)
      | zero =>
          cases directive with
          | proceed => exact absurd rfl drains
          | flush => exact ⟨_, _, .flushed session allowed accepted⟩
          | finish => exact ⟨_, _, .finished session allowed accepted⟩

theorem EncoderContract.drain_acc (contract : EncoderContract encoder initial Frame)
    (room : 0 < capacity) (drains : directive ≠ .proceed)
    (allowed : phase = none ∨ phase = some directive)
    {taken : List α} {given : List β}
    (session : EncodingSession encoder initial context phase taken given) :
    Acc (encoder.DrainRound capacity directive) context := by
  rcases contract.progress with ⟨held, progress⟩
  generalize bound_eq : held context = bound
  induction bound using Nat.strongRecOn generalizing context phase taken given with
  | ind bound induction =>
      apply Acc.intro _
      intro next round
      cases round with
      | call unfinished =>
          have lower := progress.unfinished session drains allowed room unfinished
          rw [bound_eq] at lower
          exact induction _ lower (Or.inr rfl) (.unfinished session drains allowed unfinished) rfl

theorem EncoderContract.feed_acc (contract : EncoderContract encoder initial Frame)
    (room : 0 < capacity) {taken : List α} {given : List β}
    (session : EncodingSession encoder initial context none taken given) (source : List α) :
    Acc (encoder.FeedRound capacity) (context, source) := by
  rcases contract.progress with ⟨held, progress⟩
  -- A call takes some of the source, or lowers what the encoder holds.
  generalize length_eq : source.length = length
  induction length using Nat.strongRecOn generalizing context source taken given with
  | ind length shorter =>
      generalize bound_eq : held context = bound
      induction bound using Nat.strongRecOn generalizing context source taken given with
      | ind bound lower =>
          apply Acc.intro _
          intro next round
          cases round with
          | @call _ _ status available accepted =>
              have goesOn := session.proceed accepted
              by_cases takes : 0 < (encoder context .proceed capacity source).consumed
              · refine shorter _ ?_ goesOn _ rfl
                have positive := List.length_pos_iff.mpr available
                rw [List.length_drop]
                omega
              · have none : (encoder context .proceed capacity source).consumed = 0 := by omega
                have less := (progress.proceed session room available accepted).resolve_left takes
                rw [bound_eq] at less
                exact lower _ less goesOn _ (by rw [none, List.drop_zero, length_eq]) rfl

/-- The contract promises that the loops end. -/
theorem EncoderContract.terminates (contract : EncoderContract encoder initial Frame)
    (room : 0 < capacity) : encoder.Terminates capacity initial where
  feed := by
    intro context reaches source
    rcases contract.session_of_reaches room reaches with ⟨taken, given, session⟩
    exact contract.feed_acc room session source
  drain := by
    intro context directive reaches drains
    rcases contract.session_of_reaches room reaches with ⟨taken, given, session⟩
    exact contract.drain_acc room drains (Or.inl rfl) session

theorem EncoderContract.carries (contract : EncoderContract encoder initial Frame)
    (room : 0 < capacity) (drains : directive ≠ .proceed)
    (allowed : phase = none ∨ phase = some directive)
    {taken : List α} {given : List β}
    (session : EncodingSession encoder initial context phase taken given) :
    encoder.Carries capacity directive context := by
  have accessible := contract.drain_acc room drains allowed session
  induction accessible generalizing phase taken given with
  | intro context _ induction =>
      rcases contract.drains session drains allowed room with ⟨status, accepted, -⟩
      cases status with
      | zero => exact .finished accepted
      | succ status =>
          exact .unfinished accepted (induction _ (.call accepted) (Or.inr rfl)
            (.unfinished session drains allowed accepted))

end

end

end Streaming
