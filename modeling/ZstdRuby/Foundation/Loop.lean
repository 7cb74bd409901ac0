import Mathlib.Logic.Basic

/-! # Fuelled computations and loops

A loop of the source is a body that is iterated until it leaves. Lean runs it
with a fuel argument; the relation `Settles` forgets the fuel again. The two
rules at the end are the ones every loop of a verified program is proved with:
an invariant for what holds if the loop leaves, and an invariant together with
a variant for that it leaves.
-/

universe u v w

/-! ## Fuelled computations -/

/-- A fuelled computation settles on a result when every large enough amount of
fuel yields that result. -/
def Settles {ρ : Type u} (computation : Nat → Option ρ) (result : ρ) : Prop :=
  ∃ enough, ∀ fuel, enough ≤ fuel → computation fuel = some result

namespace Settles

variable {ρ : Type u} {τ : Type v}

theorem unique {computation : Nat → Option ρ} {left right : ρ}
    (settlesLeft : Settles computation left)
    (settlesRight : Settles computation right) : left = right := by
  rcases settlesLeft with ⟨enoughLeft, leftHolds⟩
  rcases settlesRight with ⟨enoughRight, rightHolds⟩
  have agree := (leftHolds (max enoughLeft enoughRight) (Nat.le_max_left _ _)).symm.trans
    (rightHolds (max enoughLeft enoughRight) (Nat.le_max_right _ _))
  exact Option.some.inj agree

theorem of_const (result : ρ) : Settles (fun _ => some result) result :=
  ⟨0, fun _ _ => rfl⟩

theorem map {computation : Nat → Option ρ} {result : ρ} (transform : ρ → τ)
    (settles : Settles computation result) :
    Settles (fun fuel => (computation fuel).map transform) (transform result) := by
  rcases settles with ⟨enough, holds⟩
  refine ⟨enough, fun fuel large => ?_⟩
  simp only [holds fuel large, Option.map_some]

theorem bind {first : Nat → Option ρ} {result : ρ}
    {second : Nat → ρ → Option τ} {final : τ}
    (settlesFirst : Settles first result)
    (settlesSecond : Settles (fun fuel => second fuel result) final) :
    Settles (fun fuel => (first fuel).bind (second fuel)) final := by
  rcases settlesFirst with ⟨enoughFirst, firstHolds⟩
  rcases settlesSecond with ⟨enoughSecond, secondHolds⟩
  refine ⟨max enoughFirst enoughSecond, fun fuel large => ?_⟩
  simp only [firstHolds fuel (Nat.le_trans (Nat.le_max_left _ _) large), Option.bind_some]
  exact secondHolds fuel (Nat.le_trans (Nat.le_max_right _ _) large)

theorem bind_iff {first : Nat → Option ρ} {result : ρ}
    {second : Nat → ρ → Option τ} (settlesFirst : Settles first result) (final : τ) :
    Settles (fun fuel => (first fuel).bind (second fuel)) final ↔
      Settles (fun fuel => second fuel result) final := by
  constructor
  · rintro ⟨enough, holds⟩
    rcases settlesFirst with ⟨enoughFirst, firstHolds⟩
    refine ⟨max enoughFirst enough, fun fuel large => ?_⟩
    have both := holds fuel (Nat.le_trans (Nat.le_max_right _ _) large)
    simpa only [firstHolds fuel (Nat.le_trans (Nat.le_max_left _ _) large), Option.bind_some]
      using both
  · exact settlesFirst.bind

end Settles

/-! ## Loops -/

/-- What one pass through a loop body decides: go round again from a new
state, or leave with a result. -/
inductive Pass (σ : Type u) (ρ : Type v)
  | again (state : σ)
  | leave (result : ρ)

namespace Pass

variable {σ : Type u} {ρ : Type v}

/-- The pass goes round in a state satisfying `Again`, or leaves with a result
satisfying `Leave`. -/
def Ensures (Again : σ → Prop) (Leave : ρ → Prop) : Pass σ ρ → Prop
  | .again state => Again state
  | .leave result => Leave result

@[simp] theorem ensures_again (Again : σ → Prop) (Leave : ρ → Prop) (state : σ) :
    (Pass.again state).Ensures Again Leave ↔ Again state := Iff.rfl

@[simp] theorem ensures_leave (Again : σ → Prop) (Leave : ρ → Prop) (result : ρ) :
    (Pass.leave result).Ensures Again Leave ↔ Leave result := Iff.rfl

theorem Ensures.mono {pass : Pass σ ρ} {Again Again' : σ → Prop} {Leave Leave' : ρ → Prop}
    (holds : pass.Ensures Again Leave) (again : ∀ state, Again state → Again' state)
    (leave : ∀ result, Leave result → Leave' result) : pass.Ensures Again' Leave' := by
  cases pass with
  | again state => exact again state holds
  | leave result => exact leave result holds

end Pass

namespace Loop

variable {σ : Type u} {ρ : Type v}

def run (body : σ → Pass σ ρ) : Nat → σ → Option ρ
  | 0, _ => none
  | fuel + 1, state =>
      match body state with
      | .again next => run body fuel next
      | .leave result => some result

theorem run_again {body : σ → Pass σ ρ} {state next : σ} (fuel : Nat)
    (again : body state = .again next) :
    run body (fuel + 1) state = run body fuel next := by
  simp [run, again]

theorem run_leave {body : σ → Pass σ ρ} {state : σ} {result : ρ} (fuel : Nat)
    (leave : body state = .leave result) :
    run body (fuel + 1) state = some result := by
  simp [run, leave]

inductive Reaches (body : σ → Pass σ ρ) (first : σ) : σ → Prop
  | first : Reaches body first first
  | again {state next : σ} (reaches : Reaches body first state)
      (again : body state = .again next) : Reaches body first next

theorem Reaches.invariant {body : σ → Pass σ ρ} {first state : σ}
    (reaches : Reaches body first state) (Invariant : σ → Prop)
    (kept : ∀ {state next}, Invariant state → body state = .again next → Invariant next)
    (holds : Invariant first) : Invariant state := by
  induction reaches with
  | first => exact holds
  | again reaches again induction => exact kept induction again

theorem run_mono {body : σ → Pass σ ρ} {result : ρ} :
    ∀ {fuel more : Nat} {state : σ}, fuel ≤ more →
      run body fuel state = some result → run body more state = some result
  | 0, _, _, _, returned => by simp [run] at returned
  | fuel + 1, 0, _, within, _ => by omega
  | fuel + 1, more + 1, state, within, returned => by
      cases pass : body state with
      | again next =>
          rw [run_again fuel pass] at returned
          rw [run_again more pass]
          exact run_mono (by omega) returned
      | leave left =>
          rw [run_leave fuel pass] at returned
          rw [run_leave more pass, returned]

theorem settles_of_run {body : σ → Pass σ ρ} {state : σ} {result : ρ} {fuel : Nat}
    (returned : run body fuel state = some result) :
    Settles (fun fuel => run body fuel state) result :=
  ⟨fuel, fun _ large => run_mono large returned⟩

theorem settles_leave {body : σ → Pass σ ρ} {state : σ} {result : ρ}
    (leave : body state = .leave result) :
    Settles (fun fuel => run body fuel state) result :=
  settles_of_run (run_leave 0 leave)

theorem settles_again {body : σ → Pass σ ρ} {state next : σ} {result : ρ}
    (again : body state = .again next)
    (rest : Settles (fun fuel => run body fuel next) result) :
    Settles (fun fuel => run body fuel state) result := by
  rcases rest with ⟨enough, holds⟩
  exact settles_of_run ((run_again enough again).trans (holds enough (Nat.le_refl enough)))

/-- Invariant rule: if every pass keeps the invariant and leaves only with a
result satisfying `Post`, then so does the whole loop, if it leaves. -/
theorem run_ensures {body : σ → Pass σ ρ} (Invariant : σ → Prop) (Post : ρ → Prop)
    (pass : ∀ state, Invariant state → (body state).Ensures Invariant Post) :
    ∀ {fuel : Nat} {state : σ} {result : ρ}, Invariant state →
      run body fuel state = some result → Post result
  | 0, _, _, _, returned => by simp [run] at returned
  | fuel + 1, state, result, holds, returned => by
      have kept := pass state holds
      cases decided : body state with
      | again next =>
          rw [decided] at kept
          rw [run_again fuel decided] at returned
          exact run_ensures Invariant Post pass kept returned
      | leave left =>
          rw [decided] at kept
          rw [run_leave fuel decided] at returned
          exact Option.some.inj returned ▸ kept

/-- Invariant and variant: a loop whose passes keep the invariant and lower a
measure leaves within as many passes, and with a result satisfying `Post`. -/
theorem run_of_variant {body : σ → Pass σ ρ} (Invariant : σ → Prop)
    (Post : ρ → Prop) (variant : σ → Nat)
    (pass : ∀ state, Invariant state → (body state).Ensures
      (fun next => Invariant next ∧ variant next < variant state) Post) :
    ∀ {fuel : Nat} {state : σ}, Invariant state → variant state < fuel →
      ∃ result, run body fuel state = some result ∧ Post result
  | 0, _, _, within => by omega
  | fuel + 1, state, holds, within => by
      have kept := pass state holds
      cases decided : body state with
      | again next =>
          rw [decided] at kept
          rw [run_again fuel decided]
          exact run_of_variant Invariant Post variant pass kept.1
            (Nat.lt_of_lt_of_le kept.2 (Nat.le_of_lt_succ within))
      | leave result =>
          rw [decided] at kept
          exact ⟨result, run_leave fuel decided, kept⟩

theorem settles_of_variant {body : σ → Pass σ ρ} (Invariant : σ → Prop)
    (Post : ρ → Prop) (variant : σ → Nat)
    (pass : ∀ state, Invariant state → (body state).Ensures
      (fun next => Invariant next ∧ variant next < variant state) Post) :
    ∀ state, Invariant state →
      ∃ result, Settles (fun fuel => run body fuel state) result ∧ Post result := by
  intro state holds
  rcases run_of_variant Invariant Post variant pass holds (Nat.lt_succ_self _) with
    ⟨result, returned, post⟩
  exact ⟨result, settles_of_run returned, post⟩

/-- The rule for a variant in any order that goes down only finitely often from where
the loop starts. -/
theorem settles_of_acc {body : σ → Pass σ ρ} {ν : Type w} {less : ν → ν → Prop}
    (Invariant : σ → Prop) (Post : ρ → Prop) (variant : σ → ν)
    (pass : ∀ state, Invariant state → (body state).Ensures
      (fun next => Invariant next ∧ less (variant next) (variant state)) Post)
    {state : σ} (accessible : Acc less (variant state)) (holds : Invariant state) :
    ∃ result, Settles (fun fuel => run body fuel state) result ∧ Post result := by
  generalize from_eq : variant state = start at accessible
  induction accessible generalizing state with
  | intro start _ induction =>
      subst from_eq
      have kept := pass state holds
      cases decided : body state with
      | again next =>
          rw [decided] at kept
          rcases induction (variant next) kept.2 kept.1 rfl with ⟨result, settles, post⟩
          exact ⟨result, settles_again decided settles, post⟩
      | leave result =>
          rw [decided] at kept
          exact ⟨result, settles_leave decided, kept⟩

theorem settles_of_wellFounded {body : σ → Pass σ ρ} {ν : Type w} {less : ν → ν → Prop}
    (wellFounded : WellFounded less) (Invariant : σ → Prop) (Post : ρ → Prop) (variant : σ → ν)
    (pass : ∀ state, Invariant state → (body state).Ensures
      (fun next => Invariant next ∧ less (variant next) (variant state)) Post) :
    ∀ state, Invariant state →
      ∃ result, Settles (fun fuel => run body fuel state) result ∧ Post result :=
  fun state => settles_of_acc Invariant Post variant pass (wellFounded.apply (variant state))

theorem settles_to {body : σ → Pass σ ρ} (Invariant : σ → Prop) (variant : σ → Nat)
    {result : ρ} (pass : ∀ state, Invariant state → (body state).Ensures
      (fun next => Invariant next ∧ variant next < variant state) (· = result))
    {state : σ} (holds : Invariant state) :
    Settles (fun fuel => run body fuel state) result := by
  rcases settles_of_variant Invariant (· = result) variant pass state holds with
    ⟨reached, settles, rfl⟩
  exact settles

end Loop
