import Mathlib.Data.List.Basic

/-! # Computations with a record

A computation that may raise an exception, and a record of what it did before it
ended: memory it accessed, resources it acquired. The record survives the
exception.
-/

structure Recorded (ε κ ρ : Type) where
  record : List ε
  result : Except κ ρ

namespace Recorded

variable {ε κ ρ τ : Type}

def lift (result : Except κ ρ) : Recorded ε κ ρ := ⟨[], result⟩

def note (entry : ε) : Recorded ε κ Unit := ⟨[entry], .ok ()⟩

/-- A second computation follows where the first has not raised. -/
protected def bind (first : Recorded ε κ ρ) (second : ρ → Recorded ε κ τ) :
    Recorded ε κ τ :=
  match first.result with
  | .error raised => ⟨first.record, .error raised⟩
  | .ok value => ⟨first.record ++ (second value).record, (second value).result⟩

instance : Monad (Recorded ε κ) where
  pure value := lift (.ok value)
  bind := Recorded.bind

/-! ## Rules for computing -/

variable {first : Recorded ε κ ρ} {second : ρ → Recorded ε κ τ}

theorem bind_of_ok {value : ρ} (returned : first.result = .ok value) :
    first >>= second = ⟨first.record ++ (second value).record, (second value).result⟩ := by
  simp only [Bind.bind, Recorded.bind, returned]

theorem bind_of_error {raised : κ} (ended : first.result = .error raised) :
    first >>= second = ⟨first.record, .error raised⟩ := by
  simp only [Bind.bind, Recorded.bind, ended]

@[simp] theorem bind_result :
    (first >>= second).result = first.result >>= fun value => (second value).result := by
  cases returned : first.result with
  | error raised =>
      rw [bind_of_error returned]
      rfl
  | ok value =>
      rw [bind_of_ok returned]
      rfl

@[simp] theorem except_ok_bind (value : ρ) (next : ρ → Except κ τ) :
    Except.ok value >>= next = next value := rfl

@[simp] theorem except_error_bind (raised : κ) (next : ρ → Except κ τ) :
    Except.error raised >>= next = .error raised := rfl

@[simp] theorem lift_result (result : Except κ ρ) :
    (lift result : Recorded ε κ ρ).result = result := rfl

@[simp] theorem pure_eq (value : ρ) : (pure value : Recorded ε κ ρ) = lift (.ok value) := rfl

@[simp] theorem lift_ok_bind (value : ρ) : lift (.ok value) >>= second = second value := rfl

@[simp] theorem lift_error_bind (raised : κ) :
    (lift (.error raised) : Recorded ε κ ρ) >>= second = lift (.error raised) := rfl

@[simp] theorem note_bind (entry : ε) (next : Unit → Recorded ε κ τ) :
    note entry >>= next = ⟨entry :: (next ()).record, (next ()).result⟩ := rfl

/-! ## What holds of every entry -/

def Only (allowed : ε → Prop) (computation : Recorded ε κ ρ) : Prop :=
  ∀ entry ∈ computation.record, allowed entry

variable {allowed : ε → Prop}

theorem only_lift (result : Except κ ρ) : (lift result : Recorded ε κ ρ).Only allowed := by
  intro entry member
  cases member

theorem only_note_bind {entry : ε} {next : Unit → Recorded ε κ τ} :
    (note entry >>= next).Only allowed ↔ allowed entry ∧ (next ()).Only allowed := by
  rw [note_bind]
  exact List.forall_mem_cons

theorem Only.bind (firstOnly : first.Only allowed)
    (secondOnly : ∀ value, first.result = .ok value → (second value).Only allowed) :
    (first >>= second).Only allowed := by
  cases ended : first.result with
  | error raised =>
      rw [bind_of_error ended]
      exact firstOnly
  | ok value =>
      rw [bind_of_ok ended]
      intro entry member
      rcases List.mem_append.mp member with member | member
      · exact firstOnly entry member
      · exact secondOnly value ended entry member

theorem Only.of_bind (only : (first >>= second).Only allowed) : first.Only allowed := by
  cases ended : first.result with
  | error raised => rwa [bind_of_error ended] at only
  | ok value =>
      rw [bind_of_ok ended] at only
      exact fun entry member => only entry (List.mem_append_left _ member)

end Recorded
