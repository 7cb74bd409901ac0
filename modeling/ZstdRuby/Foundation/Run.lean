import Mathlib.Data.List.Basic
import Mathlib.Data.List.Induction

/-! # Runs of a labelled step relation -/

universe u v

section

variable {State : Type u} {Label : Type v}

/-- `Run step first labels last`: steps with these labels lead from the first
state to the last one. -/
inductive Run (step : State → Label → State → Prop) (first : State) :
    List Label → State → Prop
  | nil : Run step first [] first
  | snoc {state next : State} {labels : List Label} {label : Label}
      (run : Run step first labels state) (taken : step state label next) :
      Run step first (labels ++ [label]) next

namespace Run

variable {step : State → Label → State → Prop} {first last : State} {labels : List Label}

theorem singleton {label : Label} (taken : step first label last) :
    Run step first [label] last :=
  .snoc .nil taken

theorem invariant (run : Run step first labels last) (Invariant : State → Prop)
    (kept : ∀ {state label next}, Invariant state → step state label next → Invariant next)
    (holds : Invariant first) : Invariant last := by
  induction run with
  | nil => exact holds
  | snoc run taken induction => exact kept induction taken

theorem mono {step' : State → Label → State → Prop} (run : Run step first labels last)
    (includes : ∀ {state label next}, step state label next → step' state label next) :
    Run step' first labels last := by
  induction run with
  | nil => exact .nil
  | snoc run taken induction => exact .snoc induction (includes taken)

theorem snoc_inv {label : Label} (run : Run step first (labels ++ [label]) last) :
    ∃ state, Run step first labels state ∧ step state label last := by
  generalize equal : labels ++ [label] = all at run
  cases run with
  | nil => simp at equal
  | snoc run taken =>
      rcases List.append_inj' equal rfl with ⟨rfl, same⟩
      cases same
      exact ⟨_, run, taken⟩

theorem split {front rest : List Label} {label : Label}
    (run : Run step first (front ++ label :: rest) last) :
    ∃ state next, Run step first front state ∧ step state label next := by
  induction rest using List.reverseRecOn generalizing last with
  | nil =>
      rcases snoc_inv run with ⟨state, run, taken⟩
      exact ⟨state, last, run, taken⟩
  | append_singleton rest final induction =>
      rw [← List.cons_append, ← List.append_assoc] at run
      rcases snoc_inv run with ⟨state, run, -⟩
      exact induction run

theorem unique {last' : State} (run : Run step first labels last)
    (run' : Run step first labels last')
    (deterministic : ∀ {state label next next'}, step state label next →
      step state label next' → next = next') : last = last' := by
  induction run generalizing last' with
  | nil =>
      generalize none : ([] : List Label) = labels at run'
      cases run' with
      | nil => rfl
      | snoc run taken => simp at none
  | snoc run taken induction =>
      rcases snoc_inv run' with ⟨state, run', taken'⟩
      cases induction run'
      exact deterministic taken taken'

theorem length_le (run : Run step first labels last) (Invariant : State → Prop)
    (variant : State → Nat)
    (lowers : ∀ {state label next}, Invariant state → step state label next →
      Invariant next ∧ variant next < variant state)
    (holds : Invariant first) : labels.length + variant last ≤ variant first := by
  have both : Invariant last ∧ labels.length + variant last ≤ variant first := by
    induction run with
    | nil => exact ⟨holds, Nat.le_of_eq (Nat.zero_add _)⟩
    | snoc run taken induction =>
        rcases lowers induction.1 taken with ⟨kept, lower⟩
        rw [List.length_append, List.length_singleton]
        exact ⟨kept, by omega⟩
  exact both.2

theorem reaches (run : Run step first labels last) (Invariant Goal : State → Prop)
    (variant : State → Nat)
    (progress : ∀ {state}, Invariant state → ¬Goal state →
      ∃ label next, step state label next ∧ Invariant next ∧ variant next < variant state)
    (holds : Invariant last) :
    ∃ more reached, Run step first more reached ∧ Invariant reached ∧ Goal reached := by
  generalize size : variant last = bound
  induction bound using Nat.strongRecOn generalizing labels last with
  | _ bound induction =>
      by_cases goal : Goal last
      · exact ⟨labels, last, run, holds, goal⟩
      · rcases progress holds goal with ⟨label, next, taken, kept, lower⟩
        exact induction _ (size ▸ lower) (run.snoc taken) kept rfl

end Run

end
