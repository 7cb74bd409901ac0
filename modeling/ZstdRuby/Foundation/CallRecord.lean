import ZstdRuby.Foundation.Run
import ZstdRuby.Foundation.StreamingDecoder

/-! # Records of calls

Encoders and decoders are instrumented with a record of their calls, so that a
result can speak about everything a program has received from them, and about
the calls it has made at all.
-/

namespace Streaming

universe u v w x

/-- What a call asks for: to take input, to flush what has been taken, or to
finish the frame. -/
inductive Directive
  | proceed
  | flush
  | finish
  deriving DecidableEq, Repr

/-- An encoder call takes the context, a directive, the room in the output
buffer and the input presented to it. Status zero reports that the directive
has been carried out. -/
abbrev Encoder (Context : Type u) (α : Type x) (β : Type v) (Error : Type w) :=
  Context → Directive → (capacity : Nat) → (source : List α) → Reply Context β Error

section

variable {Context : Type u} {α : Type x} {β : Type v} {Error : Type w}

structure Response (β : Type v) (Error : Type w) where
  output : List β
  status : Except Error Nat

def Reply.response (reply : Reply Context β Error) : Response β Error :=
  ⟨reply.output, reply.status⟩

def Encoder.recording (encoder : Encoder Context α β Error) :
    Encoder (Context × List (Response β Error)) α β Error :=
  fun context directive capacity source =>
    let reply := encoder context.1 directive capacity source
    { reply with context := (reply.context, context.2 ++ [reply.response]) }

def Decoder.recording (decoder : Decoder Context α β Error) :
    Decoder (Context × List (Response β Error)) α β Error :=
  fun context capacity source =>
    let reply := decoder context.1 capacity source
    { reply with context := (reply.context, context.2 ++ [reply.response]) }

/-! ## What has been received -/

def emitted (calls : List (Response β Error)) : List β :=
  (calls.map Response.output).flatten

@[simp] theorem emitted_nil : emitted ([] : List (Response β Error)) = [] := rfl

@[simp] theorem emitted_singleton (call : Response β Error) : emitted [call] = call.output := by
  simp [emitted]

@[simp] theorem emitted_append (left right : List (Response β Error)) :
    emitted (left ++ right) = emitted left ++ emitted right := by
  simp [emitted]

/-! ## Failed calls -/

def Response.Succeeded (call : Response β Error) : Prop := ∃ status, call.status = .ok status

def AllSucceed (calls : List (Response β Error)) : Prop := ∀ call ∈ calls, call.Succeeded

/-- After a call that has failed no call has been made. -/
def NoCallAfterError (calls : List (Response β Error)) : Prop := AllSucceed calls.dropLast

theorem allSucceed_nil : AllSucceed ([] : List (Response β Error)) := by
  simp [AllSucceed]

theorem allSucceed_append {left right : List (Response β Error)} :
    AllSucceed (left ++ right) ↔ AllSucceed left ∧ AllSucceed right := by
  simp [AllSucceed, or_imp, forall_and]

theorem AllSucceed.snoc {calls : List (Response β Error)} {call : Response β Error}
    (allSucceed : AllSucceed calls) (succeeded : call.Succeeded) :
    AllSucceed (calls ++ [call]) :=
  allSucceed_append.mpr ⟨allSucceed, by simpa [AllSucceed] using succeeded⟩

theorem AllSucceed.noCallAfterError {calls : List (Response β Error)}
    (allSucceed : AllSucceed calls) : NoCallAfterError calls :=
  fun call member => allSucceed call (List.mem_of_mem_dropLast member)

theorem noCallAfterError_snoc {calls : List (Response β Error)} {call : Response β Error} :
    NoCallAfterError (calls ++ [call]) ↔ AllSucceed calls := by
  rw [NoCallAfterError, List.dropLast_concat]

theorem noCallAfterError_append {left right : List (Response β Error)} (some : right ≠ []) :
    NoCallAfterError (left ++ right) ↔ AllSucceed left ∧ NoCallAfterError right := by
  rw [NoCallAfterError, List.dropLast_append_of_ne_nil some, allSucceed_append, NoCallAfterError]

theorem AllSucceed.append_noCallAfterError {left right : List (Response β Error)}
    (allSucceed : AllSucceed left) (orderly : NoCallAfterError right) :
    NoCallAfterError (left ++ right) := by
  by_cases none : right = []
  · rw [none, List.append_nil]
    exact allSucceed.noCallAfterError
  · exact (noCallAfterError_append none).mpr ⟨allSucceed, orderly⟩

/-! ## Runs -/

/-- A program whose steps each stop at a failed call makes no call after an
error exactly if, after an error, it takes only steps without calls. -/
theorem noCallAfterError_run_iff {State Label : Type*} {step : State → Label → State → Prop}
    {record : State → List (Response β Error)} {Quiet : Label → Prop}
    (records : ∀ {state label next}, step state label next →
      ∃ added, record next = record state ++ added ∧ NoCallAfterError added ∧
        (added = [] ↔ Quiet label))
    {first last : State} {labels : List Label} (fresh : record first = [])
    (run : Run step first labels last) :
    NoCallAfterError (record last) ↔
      Run (fun state label next => step state label next ∧
        (AllSucceed (record state) ∨ Quiet label)) first labels last := by
  constructor
  · intro orderly
    induction run with
    | nil => exact .nil
    | @snoc state next labels label run taken induction =>
        rcases records taken with ⟨added, appended, -, silent⟩
        rw [appended] at orderly
        by_cases none : added = []
        · rw [none, List.append_nil] at orderly
          exact (induction orderly).snoc ⟨taken, Or.inr (silent.mp none)⟩
        · have succeeded := ((noCallAfterError_append none).mp orderly).1
          exact (induction succeeded.noCallAfterError).snoc ⟨taken, Or.inl succeeded⟩
  · intro guarded
    refine guarded.invariant (fun state => NoCallAfterError (record state)) ?_ ?_
    · rintro state label next orderly ⟨taken, allowed⟩
      rcases records taken with ⟨added, appended, orderlyAdded, silent⟩
      rw [appended]
      rcases allowed with succeeded | quiet
      · exact succeeded.append_noCallAfterError orderlyAdded
      · rwa [silent.mpr quiet, List.append_nil]
    · rw [fresh]
      exact allSucceed_nil.noCallAfterError

end

end Streaming
