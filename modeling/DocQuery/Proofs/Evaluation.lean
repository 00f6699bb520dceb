/-
Module: DocQuery.Proofs.Evaluation
Purpose: A condition that was checked holds of a record or does not; only an index of digits that
  are not decimal can stop it.
Main exports: IsOddIndex, Value.descend_eq_error_iff, Scope.Locates, Scope.Misindexes, Reads,
  Condition.visited, Condition.eval_reads, Condition.eval_total, Condition.eval_not_total
-/
import DocQuery.Condition.Check
import DocQuery.Condition.Eval
import DocQuery.Proofs.Scopes

namespace DocQuery

open Outcome

/-! ### Array indexes

A part of a path is taken for an index if it consists of digits, but only decimal digits can be
converted.  The parts on which this differs are the only ones that stop a path. -/

/-- A part of a path that consists of digits without being a decimal numeral, such as a superscript
two. -/
def IsOddIndex (part : String) : Prop :=
  part.toList.isEmpty = false ∧ part.toList.all Text.isDigit = true ∧
    part.toList.all Text.isDecimalDigit = false

instance (part : String) : Decidable (IsOddIndex part) :=
  inferInstanceAs (Decidable (_ ∧ _))

theorem arrayIndex?_eq_error_iff {part : String} {e : QueryError} :
    arrayIndex? part = .error e ↔ IsOddIndex part ∧ e = .arrayIndex part := by
  simp only [arrayIndex?, Text.natOfText?, IsOddIndex]
  cases part.toList.isEmpty <;> cases part.toList.all Text.isDigit <;>
    cases part.toList.all Text.isDecimalDigit <;> simp [eq_comm]

namespace Value

/-- On its way down from a value a path comes to an array with such a part. -/
def Misindexed (v : Value) (path : List String) (part : String) : Prop :=
  ∃ before after items, path = before ++ part :: after ∧ v.descend before = .ok (.array items) ∧
    IsOddIndex part

/-- A path leads on from where its first part leads. -/
theorem descend_append (before after : List String) (v : Value) :
    v.descend (before ++ after) = v.descend before >>= descend after := by
  induction before generalizing v with
  | nil => rfl
  | cons part before ih =>
      have stays : (.null : Value).descend after = .ok .null := by
        cases after <;> rfl
      cases v with
      | object fields => exact ih _
      | array items =>
          simp only [List.cons_append, descend]
          split
          · rfl
          · exact stays.symm
          · split
            · exact ih _
            · exact stays.symm
      | null | bool _ | number _ | string _ => exact stays.symm

/-- The only way to get stuck on a path is an array with such a part. -/
theorem descend_eq_error_iff {path : List String} {v : Value} {e : QueryError} :
    v.descend path = .error e ↔ ∃ part, v.Misindexed path part ∧ e = .arrayIndex part := by
  constructor
  · intro h
    induction path generalizing v with
    | nil => cases h
    | cons part path ih =>
        -- a step that succeeds is put in front of the way to the array
        have further {w : Value} (step : ∀ path, v.descend (part :: path) = w.descend path)
            (failed : w.descend path = .error e) :
            ∃ odd, v.Misindexed (part :: path) odd ∧ e = .arrayIndex odd := by
          obtain ⟨odd, ⟨before, after, items, rfl, found, isOdd⟩, rfl⟩ := ih failed
          exact ⟨odd, ⟨part :: before, after, items, rfl, (step before).trans found, isOdd⟩, rfl⟩
        cases v with
        | object fields => exact further (fun _ => rfl) h
        | array items =>
            simp only [descend] at h
            split at h
            · rename_i fault index
              cases h
              obtain ⟨isOdd, rfl⟩ := arrayIndex?_eq_error_iff.1 index
              exact ⟨part, ⟨[], path, items, rfl, rfl, isOdd⟩, rfl⟩
            · cases h
            · rename_i i index
              split at h
              · rename_i item found
                refine further (fun path => ?_) h
                simp [descend, index, found]
              · cases h
        | null | bool _ | number _ | string _ => cases h
  · rintro ⟨part, ⟨before, after, items, rfl, found, isOdd⟩, rfl⟩
    rw [descend_append, found, ok_bind, descend, arrayIndex?_eq_error_iff.2 ⟨isOdd, rfl⟩]

end Value

/-! ### References

A reference that was located leads down from a field of a record.  Where it gets stuck depends on
the record, so that it is said of a record and a reference together. -/

namespace Scope

variable {scope : Scope}

/-- A reference that can be located, in whatever clause. -/
def Locates (scope : Scope) (ref : String) : Prop :=
  ∃ clause l, scope.locate clause ref = .ok l

/-- In a record a reference leads to an array with a part that consists of digits without being a
decimal numeral. -/
def Misindexes (scope : Scope) (r : Record) (ref part : String) : Prop :=
  ∃ l aliasName, scope.locate anyClause ref = .ok l ∧ l.aliasName = some aliasName ∧
    (r.field aliasName l.name).Misindexed l.path part

/-- Reading a reference that can be located fails only at such an array. -/
theorem Locates.resolve_eq_error_iff {ref : String} (h : scope.Locates ref) {r : Record}
    {e : QueryError} :
    scope.resolve r ref = .error e ↔
      ∃ part, scope.Misindexes r ref part ∧ e = .arrayIndex part := by
  obtain ⟨clause, l, located⟩ := h
  have located' := locate_clause located anyClause
  have read : scope.resolve r ref = l.valueIn r := by
    rw [resolve, located', ok_bind]
  have only (l' : Location) (h' : scope.locate anyClause ref = .ok l') : l' = l :=
    Except.ok.inj (h'.symm.trans located')
  rw [read, Location.valueIn]
  cases points : l.aliasName with
  | none =>
      constructor
      · intro h
        cases h
      · rintro ⟨part, ⟨l', aliasName, h', points', -⟩, -⟩
        rw [only l' h', points] at points'
        cases points'
  | some aliasName =>
      rw [Value.descend_eq_error_iff]
      refine exists_congr fun part => and_congr_left fun _ => ?_
      constructor
      · exact fun odd => ⟨l, aliasName, located', points, odd⟩
      · rintro ⟨l', aliasName', h', points', odd⟩
        obtain rfl := only l' h'
        obtain rfl := Option.some.inj (points.symm.trans points')
        exact odd

/-- Such a part is one of the reference. -/
theorem Misindexes.mem_refPath {r : Record} {ref part : String}
    (h : scope.Misindexes r ref part) : part ∈ refPath ref ∧ IsOddIndex part := by
  obtain ⟨l, aliasName, located, -, before, after, items, path, -, isOdd⟩ := h
  have mem : part ∈ l.path := by
    simp [path]
  have means := scope.locate_meaning anyClause ref
  rw [located] at means
  refine ⟨?_, isOdd⟩
  cases means with
  | qualified => exact List.mem_of_mem_drop mem
  | owned owner => exact mem
  | alone only => exact mem
  | nowhere => cases mem

theorem locates_of_checkRefs {clause : String} {refs : List String}
    (h : scope.checkRefs clause refs = .ok ()) : ∀ ref ∈ refs, scope.Locates ref := by
  induction refs with
  | nil => exact fun ref hr => absurd hr List.not_mem_nil
  | cons ref refs ih =>
      obtain ⟨l, located, rest⟩ := bind_eq_ok.1 h
      intro ref' hr
      rcases List.mem_cons.1 hr with rfl | later
      · exact ⟨clause, l, located⟩
      · exact ih rest ref' later

end Scope

/-! ### Conditions

Evaluation stops early, so that a fault further right may go unnoticed.  `visited` tells which
references are read at all, and the induction over the tree shows that a condition fails only as the
reading of one of these fails. -/

/-- A comparison that is known can be carried out on all values. -/
theorem Comparator.exists_holds {c : Comparator} (known : c.isSupported = true) (x y : Value) :
    ∃ holds, c.holds x y = .ok holds := by
  cases c with
  | unsupported text => cases known
  | eq | ne =>
      simp only [holds]
      split <;> exact ⟨_, rfl⟩
  | gt | lt | ge | le =>
      simp only [holds]
      split
      · exact ⟨_, rfl⟩
      · split <;> exact ⟨_, rfl⟩

theorem Condition.isSupported_of_check {scope : Scope} {clause : String} {left right : Operand}
    {comparator : Comparator}
    (h : (Condition.compare left comparator right).check scope clause = .ok ()) :
    comparator.isSupported = true ∧ scope.checkRefs clause (left.refs ++ right.refs) = .ok () := by
  cases comparator with
  | unsupported text => cases h
  | _ => exact ⟨rfl, h⟩

/-- A computation reads references of a record: it succeeds if all of them can be read, and else
fails as one of them does. -/
def Reads {α : Type} (scope : Scope) (r : Record) (refs : List String) (x : Except QueryError α) :
    Prop :=
  (∃ a, x = .ok a ∧ ∀ ref ∈ refs, ∃ v, scope.resolve r ref = .ok v) ∨
    ∃ ref ∈ refs, ∃ e, scope.resolve r ref = .error e ∧ x = .error e

namespace Reads

variable {α β : Type} {scope : Scope} {r : Record} {refs more : List String}

theorem ok (a : α) : Reads scope r [] (.ok a) :=
  .inl ⟨a, rfl, fun _ h => absurd h List.not_mem_nil⟩

theorem operand (o : Operand) : Reads scope r o.refs (o.valueIn scope r) := by
  cases o with
  | literal v => exact ok v
  | field name =>
      cases h : scope.resolve r name with
      | ok v => exact .inl ⟨v, h, fun ref hr => List.mem_singleton.1 hr ▸ ⟨v, h⟩⟩
      | error e => exact .inr ⟨name, List.mem_singleton_self name, e, h, h⟩

/-- What comes second is read only after the first has succeeded. -/
theorem bind {x : Except QueryError α} {f : α → Except QueryError β} (hx : Reads scope r refs x)
    (hf : ∀ a, x = .ok a → Reads scope r more (f a)) :
    Reads scope r (refs ++ more) (x >>= f) := by
  rcases hx with ⟨a, ha, all⟩ | ⟨ref, hr, e, he, failed⟩
  · rcases hf a ha with ⟨b, hb, all'⟩ | ⟨ref, hr, e, he, failed⟩
    · refine .inl ⟨b, bind_eq_ok.2 ⟨a, ha, hb⟩, fun ref hr => ?_⟩
      exact (List.mem_append.1 hr).elim (all ref) (all' ref)
    · exact .inr ⟨ref, List.mem_append_right _ hr, e, he, bind_eq_error.2 (.inr ⟨a, ha, failed⟩)⟩
  · exact .inr ⟨ref, List.mem_append_left _ hr, e, he, bind_eq_error.2 (.inl failed)⟩

theorem map {x : Except QueryError α} {f : α → Except QueryError β} (hx : Reads scope r refs x)
    (hf : ∀ a, ∃ b, f a = .ok b) : Reads scope r refs (x >>= f) := by
  have both : Reads scope r (refs ++ []) (x >>= f) := hx.bind fun a _ => by
    obtain ⟨b, hb⟩ := hf a
    exact hb ▸ ok b
  rwa [List.append_nil] at both

theorem failsOnly {P : QueryError → Prop} {x : Except QueryError α} (h : Reads scope r refs x)
    (hP : ∀ ref ∈ refs, FailsOnly P (scope.resolve r ref)) : FailsOnly P x := by
  rcases h with ⟨a, ha, _⟩ | ⟨ref, hr, e, he, failed⟩
  · exact .of_eq_ok ha
  · exact failed ▸ .error (hP ref hr e he)

end Reads

namespace Condition

variable {scope : Scope} {clause : String}

mutual

/-- Every reference of a condition that was checked can be located. -/
theorem locates_of_check :
    ∀ c : Condition, c.check scope clause = .ok () → ∀ ref ∈ c.refs, scope.Locates ref
  | .compare _ _ _, h => Scope.locates_of_checkRefs (isSupported_of_check h).2
  | .and children, h => locates_of_checkAll children h
  | .or children, h => locates_of_checkAll children h
  | .not child, h => locates_of_check child h
  | .isNull _ _, h => Scope.locates_of_checkRefs h
  | .inList _ _ _, h => Scope.locates_of_checkRefs h
  | .like _ _ _ _, h => Scope.locates_of_checkRefs h
  | .other _, h => by
      cases h

theorem locates_of_checkAll :
    ∀ cs : List Condition, checkAll scope clause cs = .ok () →
      ∀ ref ∈ refsOfAll cs, scope.Locates ref
  | [], _ => fun _ h => absurd h List.not_mem_nil
  | c :: cs, h => by
      obtain ⟨_, first, rest⟩ := bind_eq_ok.1 h
      intro ref hr
      rcases List.mem_append.1 hr with here | later
      · exact locates_of_check c first ref here
      · exact locates_of_checkAll cs rest ref later

end

mutual

/-- The references that are read to see whether a condition holds of a record.  The parts of a chain
are read only until one of them decides. -/
def visited (scope : Scope) (r : Record) : Condition → List String
  | .compare left _ right => left.refs ++ right.refs
  | .and children => visitedAll scope r children
  | .or children => visitedAny scope r children
  | .not child => visited scope r child
  | .isNull operand _ => operand.refs
  | .inList operand _ _ => operand.refs
  | .like operand _ _ _ => operand.refs
  | .other _ => []

/-- The references that are read to see whether all conditions hold. -/
def visitedAll (scope : Scope) (r : Record) : List Condition → List String
  | [] => []
  | c :: cs =>
      visited scope r c ++
        match eval scope r c with
        | .ok true => visitedAll scope r cs
        | _ => []

/-- The references that are read to see whether some condition holds. -/
def visitedAny (scope : Scope) (r : Record) : List Condition → List String
  | [] => []
  | c :: cs =>
      visited scope r c ++
        match eval scope r c with
        | .ok false => visitedAny scope r cs
        | _ => []

end

mutual

/-- Only references of a condition are read. -/
theorem visited_subset (scope : Scope) (r : Record) : ∀ c : Condition, c.visited scope r ⊆ c.refs
  | .compare _ _ _ => fun _ h => h
  | .and children => visitedAll_subset scope r children
  | .or children => visitedAny_subset scope r children
  | .not child => visited_subset scope r child
  | .isNull _ _ => fun _ h => h
  | .inList _ _ _ => fun _ h => h
  | .like _ _ _ _ => fun _ h => h
  | .other _ => fun _ h => h

theorem visitedAll_subset (scope : Scope) (r : Record) :
    ∀ cs : List Condition, visitedAll scope r cs ⊆ refsOfAll cs
  | [] => fun _ h => h
  | c :: cs => by
      refine List.append_subset.2 ⟨?_, ?_⟩
      · exact List.subset_append_of_subset_left _ (visited_subset scope r c)
      · split
        · exact List.subset_append_of_subset_right _ (visitedAll_subset scope r cs)
        · exact List.nil_subset _

theorem visitedAny_subset (scope : Scope) (r : Record) :
    ∀ cs : List Condition, visitedAny scope r cs ⊆ refsOfAll cs
  | [] => fun _ h => h
  | c :: cs => by
      refine List.append_subset.2 ⟨?_, ?_⟩
      · exact List.subset_append_of_subset_left _ (visited_subset scope r c)
      · split
        · exact List.subset_append_of_subset_right _ (visitedAny_subset scope r cs)
        · exact List.nil_subset _

end

mutual

/-- A condition that was checked holds of a record or does not, if the references that are read on
the way can be read, and else fails as one of these does. -/
theorem eval_reads (r : Record) :
    ∀ c : Condition, c.check scope clause = .ok () →
      Reads scope r (c.visited scope r) (c.eval scope r)
  | .compare left comparator right, h =>
      (Reads.operand left).bind fun x _ => (Reads.operand right).map fun y =>
        comparator.exists_holds (isSupported_of_check h).1 x y
  | .and children, h => evalAll_reads r children h
  | .or children, h => evalAny_reads r children h
  | .not child, h => (eval_reads r child h).map fun _ => ⟨_, rfl⟩
  | .isNull operand _, _ => (Reads.operand operand).map fun _ => ⟨_, rfl⟩
  | .inList operand _ _, _ => (Reads.operand operand).map fun _ => ⟨_, rfl⟩
  | .like operand _ _ _, _ => (Reads.operand operand).map fun v => by
      cases v <;> exact ⟨_, rfl⟩
  | .other _, h => by
      cases h

theorem evalAll_reads (r : Record) :
    ∀ cs : List Condition, checkAll scope clause cs = .ok () →
      Reads scope r (visitedAll scope r cs) (evalAll scope r cs)
  | [], _ => .ok true
  | c :: cs, h => by
      obtain ⟨_, first, rest⟩ := bind_eq_ok.1 h
      refine (eval_reads r c first).bind fun holds hc => ?_
      rw [hc]
      cases holds with
      | false => exact .ok false
      | true => exact evalAll_reads r cs rest

theorem evalAny_reads (r : Record) :
    ∀ cs : List Condition, checkAll scope clause cs = .ok () →
      Reads scope r (visitedAny scope r cs) (evalAny scope r cs)
  | [], _ => .ok false
  | c :: cs, h => by
      obtain ⟨_, first, rest⟩ := bind_eq_ok.1 h
      refine (eval_reads r c first).bind fun holds hc => ?_
      rw [hc]
      cases holds with
      | true => exact .ok true
      | false => exact evalAny_reads r cs rest

end

/-- Whether a condition that was checked holds of a record can be told, unless a reference that is
read on the way leads to an array with an index of digits that are not decimal; that index is then
the error.  A condition without such an index in any of its references is total. -/
theorem eval_total {c : Condition} (checked : c.check scope clause = .ok ()) :
    (∀ r, (∃ holds, c.eval scope r = .ok holds) ↔
      ∀ ref ∈ c.visited scope r, ∀ part, ¬ scope.Misindexes r ref part) ∧
    (∀ r e, c.eval scope r = .error e →
      ∃ ref ∈ c.visited scope r, ∃ part, scope.Misindexes r ref part ∧ e = .arrayIndex part) ∧
    ((∀ ref ∈ c.refs, ∀ part ∈ Scope.refPath ref, ¬ IsOddIndex part) →
      ∀ r, ∃ holds, c.eval scope r = .ok holds) := by
  have located (r : Record) (ref : String) (hr : ref ∈ c.visited scope r) : scope.Locates ref :=
    locates_of_check c checked ref (visited_subset scope r c hr)
  have told_iff (r : Record) : (∃ holds, c.eval scope r = .ok holds) ↔
      ∀ ref ∈ c.visited scope r, ∀ part, ¬ scope.Misindexes r ref part := by
    rcases eval_reads r c checked with ⟨holds, hc, all⟩ | ⟨ref, hr, e, failed, hc⟩
    · refine iff_of_true ⟨holds, hc⟩ fun ref hr part odd => ?_
      obtain ⟨v, read⟩ := all ref hr
      rw [(located r ref hr).resolve_eq_error_iff.2 ⟨part, odd, rfl⟩] at read
      cases read
    · obtain ⟨part, odd, -⟩ := (located r ref hr).resolve_eq_error_iff.1 failed
      refine iff_of_false ?_ fun none' => none' ref hr part odd
      rintro ⟨holds, told⟩
      rw [hc] at told
      cases told
  refine ⟨told_iff, fun r e h => ?_, fun even r => (told_iff r).2 fun ref hr part odd => ?_⟩
  · rcases eval_reads r c checked with ⟨holds, hc, -⟩ | ⟨ref, hr, e', failed, hc⟩
    · rw [hc] at h
      cases h
    · obtain rfl := Except.error.inj (hc.symm.trans h)
      exact ⟨ref, hr, (located r ref hr).resolve_eq_error_iff.1 failed⟩
  · obtain ⟨mem, isOdd⟩ := odd.mem_refPath
    exact even ref (visited_subset scope r c hr) part mem isOdd

/-- Items with a second tag whose name begins with an A. -/
def secondTag : Condition :=
  .and [.not (.isNull (.field "t.tags.1") false), .like (.field "tags.1.name") "A%" false false]

/-- Whatever a record has in the place of its tags, it can be told whether it has such a tag. -/
theorem eval_total_secondTag :
    secondTag.check ⟨[("t", ["tags"])]⟩ "WHERE" = .ok () ∧
      ∀ r, ∃ holds, secondTag.eval ⟨[("t", ["tags"])]⟩ r = .ok holds := by
  have checked : secondTag.check ⟨[("t", ["tags"])]⟩ "WHERE" = .ok () := rfl
  exact ⟨checked, (eval_total checked).2.2 (by decide)⟩

/-- A superscript two is a digit, but no index of an array. -/
theorem eval_not_total :
    ¬ ∀ (scope : Scope) (clause : String) (c : Condition) (r : Record),
      c.check scope clause = .ok () → ∃ holds, c.eval scope r = .ok holds := by
  intro total
  obtain ⟨holds, told⟩ := total ⟨[("t", ["tags"])]⟩ "WHERE" (.isNull (.field "tags.²") false)
    ⟨[("tags", .array [.int 1])], some "t"⟩ rfl
  cases told

end Condition

end DocQuery
