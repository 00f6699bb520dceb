/-
Module: DocQuery.Proofs.ConditionParts
Purpose: The references of a condition are all that it reads, and all that its check looks up.
Main exports: Condition.children, Condition.byChildren, Condition.PartOf, Condition.mem_refs_iff,
  Condition.eval_congr, Condition.check_eq_ok_iff, Condition.refs_cover
-/
import DocQuery.Proofs.Evaluation

namespace DocQuery

open Outcome

/-- The references of a list pass their check if each of them can be located. -/
theorem Scope.checkRefs_eq_ok_iff {scope : Scope} {clause : String} {refs : List String} :
    scope.checkRefs clause refs = .ok () ↔
      ∀ ref ∈ refs, ∃ l, scope.locate clause ref = .ok l := by
  induction refs with
  | nil => simp [checkRefs]
  | cons ref refs ih => simp [checkRefs, bind_eq_ok, ih]

theorem Operand.mem_refs_iff {o : Operand} {ref : String} : ref ∈ o.refs ↔ .field ref = o := by
  cases o <;> simp [refs]

/-- An operand reads nothing but the field that it refers to. -/
theorem Operand.valueIn_congr {o : Operand} {scope : Scope} {r s : Record}
    (h : ∀ ref ∈ o.refs, scope.resolve r ref = scope.resolve s ref) :
    o.valueIn scope r = o.valueIn scope s := by
  cases o with
  | field name => exact h name (List.mem_singleton_self name)
  | literal v => rfl

namespace Condition

/-! ### The parts of a condition

The references, the reading and the check of a condition are all defined by recursion on the tree.
One induction over the children serves them all: a property is shown of a condition from that of its
children, whatever the kind of the condition. -/

/-- The conditions that a condition is directly made of. -/
def children : Condition → List Condition
  | .and children | .or children => children
  | .not child => [child]
  | _ => []

/-- The operands that stand in a condition itself, outside of its children. -/
def operands : Condition → List Operand
  | .compare left _ right => [left, right]
  | .isNull operand _ | .inList operand _ _ | .like operand _ _ _ => [operand]
  | _ => []

/-- The condition itself is of a kind that can be carried out: if it is a comparison, it is one of
the six.  Its children may be of any kind. -/
def isKnown : Condition → Bool
  | .compare _ comparator _ => comparator.isSupported
  | .other _ => false
  | _ => true

/-- A part of a condition at any depth: the condition itself, or a part of one of its children. -/
inductive PartOf (part : Condition) : Condition → Prop where
  | whole : PartOf part part
  | inside {c child : Condition} (member : child ∈ c.children) (below : PartOf part child) :
      PartOf part c

theorem sizeOf_lt_of_mem_children {c child : Condition} (h : child ∈ c.children) :
    sizeOf child < sizeOf c := by
  cases c with
  | and cs | or cs =>
      have smaller : sizeOf child < sizeOf cs := List.sizeOf_lt_of_mem h
      simp only [and.sizeOf_spec, or.sizeOf_spec]
      omega
  | not c =>
      obtain rfl := List.mem_singleton.1 h
      simp
  | _ => cases h

/-- What a condition has as soon as all its children have it, every condition has. -/
theorem byChildren {motive : Condition → Prop}
    (step : ∀ c, (∀ child ∈ c.children, motive child) → motive c) (c : Condition) : motive c :=
  step c fun child _ => byChildren step child
termination_by sizeOf c
decreasing_by exact sizeOf_lt_of_mem_children ‹_›

/-- A property of all parts is one of the condition itself and of all parts of its children. -/
theorem forall_partOf_iff {P : Condition → Prop} {c : Condition} :
    (∀ part, PartOf part c → P part) ↔
      P c ∧ ∀ child ∈ c.children, ∀ part, PartOf part child → P part := by
  constructor
  · intro all
    exact ⟨all c .whole, fun child member part inside => all part (.inside member inside)⟩
  · rintro ⟨here, below⟩ part (_ | ⟨member, inside⟩)
    · exact here
    · exact below _ member part inside

/-! ### References -/

theorem mem_refsOfAll_iff {ref : String} {cs : List Condition} :
    ref ∈ refsOfAll cs ↔ ∃ c ∈ cs, ref ∈ c.refs := by
  induction cs with
  | nil => simp [refsOfAll]
  | cons c cs ih => simp [refsOfAll, ih]

/-- The references of a condition are those of its own operands and those of its children. -/
theorem mem_refs_step {ref : String} {c : Condition} :
    ref ∈ c.refs ↔ .field ref ∈ c.operands ∨ ∃ child ∈ c.children, ref ∈ child.refs := by
  cases c <;> simp [refs, operands, children, Operand.mem_refs_iff, mem_refsOfAll_iff]

/-- A condition refers to the fields that are operands of its parts. -/
theorem mem_refs_iff {ref : String} {c : Condition} :
    ref ∈ c.refs ↔ ∃ part, PartOf part c ∧ .field ref ∈ part.operands := by
  rw [← not_iff_not]
  simp only [not_exists, not_and]
  induction c using byChildren with
  | step c ih =>
      rw [forall_partOf_iff, mem_refs_step]
      simp only [not_or, not_exists, not_and]
      exact and_congr_right fun _ => forall₂_congr ih

/-! ### Reading -/

section Reading

variable {scope : Scope} {r s : Record}

theorem evalAll_congr {cs : List Condition} (h : ∀ c ∈ cs, c.eval scope r = c.eval scope s) :
    evalAll scope r cs = evalAll scope s cs := by
  induction cs with
  | nil => rfl
  | cons c cs ih =>
      obtain ⟨first, rest⟩ := List.forall_mem_cons.1 h
      rw [evalAll, evalAll, first, ih rest]

theorem evalAny_congr {cs : List Condition} (h : ∀ c ∈ cs, c.eval scope r = c.eval scope s) :
    evalAny scope r cs = evalAny scope s cs := by
  induction cs with
  | nil => rfl
  | cons c cs ih =>
      obtain ⟨first, rest⟩ := List.forall_mem_cons.1 h
      rw [evalAny, evalAny, first, ih rest]

/-- On records with the same values for its references a condition has the same outcome, be it a
truth value or an error. -/
theorem eval_congr (c : Condition)
    (h : ∀ ref ∈ c.refs, scope.resolve r ref = scope.resolve s ref) :
    c.eval scope r = c.eval scope s := by
  induction c using byChildren with
  | step c ih =>
      have own (o : Operand) (ho : o ∈ c.operands) : o.valueIn scope r = o.valueIn scope s :=
        Operand.valueIn_congr fun ref hr => h ref (mem_refs_step.2 (.inl (by
          rwa [Operand.mem_refs_iff.1 hr])))
      have below (child : Condition) (member : child ∈ c.children) :
          child.eval scope r = child.eval scope s :=
        ih child member fun ref hr => h ref (mem_refs_step.2 (.inr ⟨child, member, hr⟩))
      cases c with
      | compare left comparator right =>
          rw [eval, eval, own left (by simp [operands]), own right (by simp [operands])]
      | and cs => exact evalAll_congr below
      | or cs => exact evalAny_congr below
      | not child => rw [eval, eval, below child (by simp [children])]
      | isNull operand negated => rw [eval, eval, own operand (by simp [operands])]
      | inList operand values negated => rw [eval, eval, own operand (by simp [operands])]
      | like operand pattern ignoreCase negated =>
          rw [eval, eval, own operand (by simp [operands])]
      | other name => rfl

end Reading

/-! ### Checking

A check goes through the tree and stops at the first fault.  That it passes if there is none, and
only then, is shown a step at a time: a condition passes if it has no fault of its own and all its
children pass. -/

section Checking

variable {scope : Scope} {clause : String}

theorem checkAll_eq_ok_iff {cs : List Condition} :
    checkAll scope clause cs = .ok () ↔ ∀ c ∈ cs, c.check scope clause = .ok () := by
  induction cs with
  | nil => simp [checkAll]
  | cons c cs ih =>
      rw [checkAll, bind_eq_ok, List.forall_mem_cons, ← ih]
      exact ⟨fun ⟨_, first, rest⟩ => ⟨first, rest⟩, fun ⟨first, rest⟩ => ⟨(), first, rest⟩⟩

/-- Nothing is wrong with a condition itself, whatever its children are: its kind is known, and the
fields among its operands can be located. -/
def Passes (scope : Scope) (clause : String) (c : Condition) : Prop :=
  c.isKnown = true ∧ ∀ ref, .field ref ∈ c.operands → ∃ l, scope.locate clause ref = .ok l

/-- The check of a condition looks at the condition itself and at all its children. -/
theorem check_step {c : Condition} :
    c.check scope clause = .ok () ↔
      c.Passes scope clause ∧ ∀ child ∈ c.children, child.check scope clause = .ok () := by
  cases c with
  | compare left comparator right =>
      cases comparator <;>
        simp [check, Passes, isKnown, operands, children, Comparator.isSupported,
          Scope.checkRefs_eq_ok_iff, Operand.mem_refs_iff]
  | _ =>
      simp [check, Passes, isKnown, operands, children, Scope.checkRefs_eq_ok_iff,
        Operand.mem_refs_iff, checkAll_eq_ok_iff]

/-- A condition passes its check exactly if nothing is wrong with any of its parts. -/
theorem check_eq_ok_iff {c : Condition} :
    c.check scope clause = .ok () ↔ ∀ part, PartOf part c → part.Passes scope clause := by
  induction c using byChildren with
  | step c ih =>
      rw [check_step, forall_partOf_iff]
      exact and_congr_right fun _ => forall₂_congr ih

/-- A condition fails its check exactly if some part of it is of an unknown kind or compares in an
unknown way, or if some reference of it cannot be located. -/
theorem check_eq_error_iff {c : Condition} :
    (∃ e, c.check scope clause = .error e) ↔
      (∃ part, PartOf part c ∧ part.isKnown = false) ∨
        ∃ ref ∈ c.refs, ∃ e, scope.locate clause ref = .error e := by
  have failed : (∃ e, c.check scope clause = .error e) ↔ ¬ c.check scope clause = .ok () := by
    rw [exists_eq_error_iff]
    exact not_congr ⟨fun ⟨_, passed⟩ => passed, fun passed => ⟨(), passed⟩⟩
  rw [failed, check_eq_ok_iff]
  simp only [Passes, mem_refs_iff, exists_eq_error_iff]
  grind

theorem isKnown_eq_false_iff {c : Condition} :
    c.isKnown = false ↔
      (∃ name, c = .other name) ∨
        ∃ left comparator right, c = .compare left comparator right ∧
          comparator.isSupported = false := by
  cases c <;> simp [isKnown]

end Checking

/-- The references of a condition cover what it reads and what its check looks up.  Two records with
the same values for all of them are alike to the condition.  Its check fails exactly if it has, at
any depth, a part of unknown kind or an unknown comparison, or if one of its references cannot be
located; it does not matter whether that part would be reached on any record.  And its references
are exactly the fields among the operands of its parts. -/
theorem refs_cover (c : Condition) (scope : Scope) :
    (∀ r s : Record, (∀ ref ∈ c.refs, scope.resolve r ref = scope.resolve s ref) →
      c.eval scope r = c.eval scope s) ∧
    (∀ clause, (∃ e, c.check scope clause = .error e) ↔
      (∃ name, PartOf (.other name) c) ∨
      (∃ left comparator right, PartOf (.compare left comparator right) c ∧
        comparator.isSupported = false) ∨
      ∃ ref ∈ c.refs, ∃ e, scope.locate clause ref = .error e) ∧
    ∀ ref, ref ∈ c.refs ↔ ∃ part, PartOf part c ∧ .field ref ∈ part.operands := by
  refine ⟨fun r s => eval_congr c, fun clause => ?_, fun ref => mem_refs_iff⟩
  rw [check_eq_error_iff, ← or_assoc]
  refine or_congr_left ?_
  simp only [isKnown_eq_false_iff]
  constructor
  · rintro ⟨part, inside, ⟨name, rfl⟩ | ⟨left, comparator, right, rfl, unknown⟩⟩
    · exact .inl ⟨name, inside⟩
    · exact .inr ⟨left, comparator, right, inside, unknown⟩
  · rintro (⟨name, inside⟩ | ⟨left, comparator, right, inside, unknown⟩)
    · exact ⟨_, inside, .inl ⟨name, rfl⟩⟩
    · exact ⟨_, inside, .inr ⟨left, comparator, right, rfl, unknown⟩⟩

/-- Large orders, or those without an `id`. -/
def largeOrUnmarked : Condition :=
  .or [.compare (.field "o.qty") .gt (.literal (.int 1)), .isNull (.field "id") false]

/-- Both tables have an `id`.  A large order passes before this is noticed, whatever its `id` is;
the check notices it. -/
theorem refs_cover_largeOrUnmarked :
    let scope : Scope := ⟨[("o", ["id", "qty"]), ("p", ["id"])]⟩
    let r : Record := ⟨[("o.id", .int 1), ("o.qty", .int 5), ("p.id", .int 1)], none⟩
    let s : Record := ⟨[("o.qty", .int 5), ("p.id", .string "W")], none⟩
    (∀ ref ∈ largeOrUnmarked.refs, scope.resolve r ref = scope.resolve s ref) ∧
      largeOrUnmarked.eval scope r = .ok true ∧
      largeOrUnmarked.eval scope r = largeOrUnmarked.eval scope s ∧
      ∃ e, largeOrUnmarked.check scope "WHERE" = .error e := by
  intro scope r s
  have agree : ∀ ref ∈ largeOrUnmarked.refs, scope.resolve r ref = scope.resolve s ref :=
    List.forall_mem_cons.2 ⟨rfl, List.forall_mem_cons.2 ⟨rfl, fun _ h => absurd h List.not_mem_nil⟩⟩
  obtain ⟨alike, checked, -⟩ := refs_cover largeOrUnmarked scope
  refine ⟨agree, rfl, alike r s agree, (checked "WHERE").2 (.inr (.inr ?_))⟩
  exact ⟨"id", by decide, .ambiguousField "id" ["o", "p"], rfl⟩

end Condition

end DocQuery
