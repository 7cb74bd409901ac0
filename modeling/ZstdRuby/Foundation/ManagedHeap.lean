import Mathlib.Logic.Function.Basic

/-! # Heaps with a moving garbage collector

A heap of objects that a collector frees and moves. The collector knows of an
object what the callbacks of its type report. This file says which references
stay valid, for any kind of object.
-/

namespace ManagedHeap

universe u

/-- A reference to an object: its address, and its identity. An object that is
moved gets a new address and keeps its identity. -/
structure Reference where
  address : Nat
  identity : Nat
  deriving DecidableEq

def Reference.moved (location : Nat → Nat) (reference : Reference) : Reference :=
  { reference with address := location reference.address }

structure Object (Body : Type u) where
  identity : Nat
  body : Body

/-- The heap: the objects by their addresses, the references the program holds,
and the next identity. -/
structure Heap (Body : Type u) where
  objects : Nat → Option (Object Body)
  references : List Reference
  fresh : Nat

/-- What types of objects tell the collector: the references an object marks,
whether these keep their place, and how it is updated when objects have been
moved. -/
structure Callbacks (Body : Type u) where
  marks : Body → List Reference
  pins : Bool
  compact : (Nat → Nat) → Body → Body
  marks_compact : ∀ {location : Nat → Nat} {body : Body},
    (pins = true → ∀ reference ∈ marks body, location reference.address = reference.address) →
    marks (compact location body) = (marks body).map (Reference.moved location)

namespace Heap

variable {Body : Type u}

/-! ## Operations -/

def empty : Heap Body := ⟨fun _ => none, [], 0⟩

def allocate (heap : Heap Body) (address : Nat) (body : Body) : Heap Body :=
  { heap with
    objects := Function.update heap.objects address (some ⟨heap.fresh, body⟩)
    fresh := heap.fresh + 1 }

def hold (heap : Heap Body) (reference : Reference) : Heap Body :=
  { heap with references := reference :: heap.references }

def drop (heap : Heap Body) (reference : Reference) : Heap Body :=
  { heap with references := heap.references.erase reference }

def Valid (heap : Heap Body) (reference : Reference) : Prop :=
  ∃ body, heap.objects reference.address = some ⟨reference.identity, body⟩

section

variable (callbacks : Callbacks Body)

inductive Reachable (heap : Heap Body) : Nat → Prop
  | held {reference : Reference} (member : reference ∈ heap.references) :
      Reachable heap reference.address
  | marked {address : Nat} {object : Object Body} {reference : Reference}
      (reachable : Reachable heap address) (found : heap.objects address = some object)
      (member : reference ∈ callbacks.marks object.body) : Reachable heap reference.address

/-- A garbage collection frees exactly what cannot be reached. -/
structure Collects (before after : Heap Body) : Prop where
  references : after.references = before.references
  fresh : after.fresh = before.fresh
  keeps : ∀ {address}, before.Reachable callbacks address →
    after.objects address = before.objects address
  frees : ∀ {address}, ¬before.Reachable callbacks address → after.objects address = none

structure Compacts (location : Nat → Nat) (before after : Heap Body) : Prop where
  references : after.references = before.references.map (Reference.moved location)
  fresh : after.fresh = before.fresh
  apart : ∀ {left right object other}, before.objects left = some object →
    before.objects right = some other → location left = location right → left = right
  pinned : callbacks.pins = true → ∀ {address object}, before.objects address = some object →
    ∀ reference ∈ callbacks.marks object.body, location reference.address = reference.address
  moves : ∀ {address object}, before.objects address = some object →
    after.objects (location address) =
      some { object with body := callbacks.compact location object.body }
  nothingElse : ∀ {address object}, after.objects address = some object →
    ∃ source original, before.objects source = some original ∧ address = location source ∧
      object = { original with body := callbacks.compact location original.body }

/-- Everything the program holds and everything objects mark is where the
references say, and identities are unique. -/
structure Consistent (heap : Heap Body) : Prop where
  held : ∀ reference ∈ heap.references, heap.Valid reference
  marked : ∀ {address object}, heap.objects address = some object →
    ∀ reference ∈ callbacks.marks object.body, heap.Valid reference
  below : ∀ {address object}, heap.objects address = some object → object.identity < heap.fresh
  unique : ∀ {left right object other}, heap.objects left = some object →
    heap.objects right = some other → object.identity = other.identity → left = right

end

/-! ## Validity -/

section

variable {callbacks : Callbacks Body} {heap before after : Heap Body} {address : Nat} {body : Body}
  {reference : Reference}

theorem allocate_self (heap : Heap Body) (address : Nat) (body : Body) :
    (heap.allocate address body).objects address = some ⟨heap.fresh, body⟩ :=
  Function.update_self _ _ _

theorem allocate_other {other : Nat} (different : other ≠ address) :
    (heap.allocate address body).objects other = heap.objects other :=
  Function.update_of_ne different _ _

theorem allocate_cases {other : Nat} {object : Object Body}
    (found : (heap.allocate address body).objects other = some object) :
    other = address ∧ object = ⟨heap.fresh, body⟩ ∨ heap.objects other = some object := by
  by_cases same : other = address
  · subst same
    rw [allocate_self] at found
    exact .inl ⟨rfl, (Option.some.inj found).symm⟩
  · rw [allocate_other same] at found
    exact .inr found

theorem Valid.allocate (valid : heap.Valid reference) (free : heap.objects address = none) :
    (heap.allocate address body).Valid reference := by
  rcases valid with ⟨body', found⟩
  refine ⟨body', ?_⟩
  rw [allocate_other, found]
  rintro rfl
  rw [free] at found
  cases found

theorem allocate_valid (heap : Heap Body) (address : Nat) (body : Body) :
    (heap.allocate address body).Valid ⟨address, heap.fresh⟩ :=
  ⟨body, allocate_self heap address body⟩

theorem Valid.collect (valid : before.Valid reference) (collects : Collects callbacks before after)
    (reachable : before.Reachable callbacks reference.address) : after.Valid reference := by
  rcases valid with ⟨body, found⟩
  exact ⟨body, (collects.keeps reachable).trans found⟩

theorem Valid.compact {location : Nat → Nat} (valid : before.Valid reference)
    (compacts : Compacts callbacks location before after) :
    after.Valid (reference.moved location) := by
  rcases valid with ⟨body, found⟩
  exact ⟨_, compacts.moves found⟩

/-! ## Collections -/

theorem exists_collects (callbacks : Callbacks Body) (before : Heap Body) :
    ∃ after, Collects callbacks before after := by
  classical
  refine ⟨{ before with
    objects := fun address =>
      if Reachable callbacks before address then before.objects address else none },
    rfl, rfl, ?_, ?_⟩
  · intro address reachable
    exact if_pos reachable
  · intro address unreachable
    exact if_neg unreachable

theorem Collects.found (collects : Collects callbacks before after) {object : Object Body}
    (found : after.objects address = some object) :
    before.Reachable callbacks address ∧ before.objects address = some object := by
  by_cases reachable : before.Reachable callbacks address
  · exact ⟨reachable, (collects.keeps reachable).symm.trans found⟩
  · rw [collects.frees reachable] at found
    cases found

theorem Collects.reachable (collects : Collects callbacks before after)
    (reachable : before.Reachable callbacks address) : after.Reachable callbacks address := by
  induction reachable with
  | held member => exact .held (collects.references ▸ member)
  | marked reachable found member induction =>
      exact .marked induction ((collects.keeps reachable).trans found) member

/-! ## Consistency -/

namespace Consistent

theorem empty : Consistent callbacks (Heap.empty : Heap Body) where
  held := by simp [Heap.empty]
  marked := fun absurd => by cases absurd
  below := fun absurd => by cases absurd
  unique := fun absurd => by cases absurd

theorem allocate (consistent : Consistent callbacks heap) (free : heap.objects address = none)
    (valid : ∀ reference ∈ callbacks.marks body, heap.Valid reference) :
    Consistent callbacks (heap.allocate address body) where
  held := fun reference member => (consistent.held reference member).allocate free
  marked := by
    intro other object found reference member
    rcases allocate_cases found with ⟨-, rfl⟩ | old
    · exact (valid reference member).allocate free
    · exact (consistent.marked old reference member).allocate free
  below := by
    intro other object found
    rcases allocate_cases found with ⟨-, rfl⟩ | old
    · exact Nat.lt_succ_self _
    · exact Nat.lt_succ_of_lt (consistent.below old)
  unique := by
    intro left right object other foundLeft foundRight same
    rcases allocate_cases foundLeft with ⟨rfl, rfl⟩ | oldLeft
    · rcases allocate_cases foundRight with ⟨rfl, -⟩ | oldRight
      · rfl
      · exact absurd (same ▸ consistent.below oldRight) (Nat.lt_irrefl _)
    · rcases allocate_cases foundRight with ⟨rfl, rfl⟩ | oldRight
      · exact absurd (same ▸ consistent.below oldLeft) (Nat.lt_irrefl _)
      · exact consistent.unique oldLeft oldRight same

theorem hold (consistent : Consistent callbacks heap) (valid : heap.Valid reference) :
    Consistent callbacks (heap.hold reference) where
  held := by
    intro other member
    rcases List.mem_cons.mp member with rfl | member
    · exact valid
    · exact consistent.held other member
  marked := consistent.marked
  below := consistent.below
  unique := consistent.unique

theorem drop (consistent : Consistent callbacks heap) (reference : Reference) :
    Consistent callbacks (heap.drop reference) where
  held := fun other member => consistent.held other (List.mem_of_mem_erase member)
  marked := consistent.marked
  below := consistent.below
  unique := consistent.unique

theorem collect (consistent : Consistent callbacks before)
    (collects : Collects callbacks before after) : Consistent callbacks after where
  held := by
    intro reference member
    rw [collects.references] at member
    exact (consistent.held reference member).collect collects (.held member)
  marked := by
    intro address object found reference member
    rcases collects.found found with ⟨reachable, found⟩
    exact (consistent.marked found reference member).collect collects
      (.marked reachable found member)
  below := by
    intro address object found
    rw [collects.fresh]
    exact consistent.below (collects.found found).2
  unique := fun left right same =>
    consistent.unique (collects.found left).2 (collects.found right).2 same

theorem compact {location : Nat → Nat} (consistent : Consistent callbacks before)
    (compacts : Compacts callbacks location before after) : Consistent callbacks after where
  held := by
    intro reference member
    rw [compacts.references] at member
    rcases List.mem_map.mp member with ⟨original, held, rfl⟩
    exact (consistent.held original held).compact compacts
  marked := by
    intro address object found reference member
    rcases compacts.nothingElse found with ⟨source, original, was, -, rfl⟩
    rw [callbacks.marks_compact fun pins => compacts.pinned pins was] at member
    rcases List.mem_map.mp member with ⟨mark, marked, rfl⟩
    exact (consistent.marked was mark marked).compact compacts
  below := by
    intro address object found
    rcases compacts.nothingElse found with ⟨source, original, was, -, rfl⟩
    have bound := consistent.below was
    rw [compacts.fresh]
    exact bound
  unique := by
    intro left right object other foundLeft foundRight same
    rcases compacts.nothingElse foundLeft with ⟨source, original, wasLeft, rfl, rfl⟩
    rcases compacts.nothingElse foundRight with ⟨source', original', wasRight, rfl, rfl⟩
    rw [consistent.unique wasLeft wasRight same]

end Consistent

end

end Heap

end ManagedHeap
