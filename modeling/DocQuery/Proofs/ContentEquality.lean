/-
Module: DocQuery.Proofs.ContentEquality
Purpose: Equality of values inside arrays and objects is an equivalence, and so is equality of the
  operands of a comparison, but for null and not-a-number.
Main exports: Value.byParts, Value.Alike, Value.sameContent_iff, Value.sameContent_refl,
  Value.sameContent_symm, Value.sameContent_trans, Value.equal_refl, Value.equal_symm,
  Value.equal_trans
-/
import DocQuery.Proofs.JoinEquality

namespace DocQuery

/-! ### Numbers

Two numbers are equal if they stand at one place among all numbers.  Not-a-number stands nowhere,
and counts as the same as itself inside arrays and objects only. -/

namespace Number

theorem equal_iff {m n : Number} : m.equal n = true ↔ m.compare? n = some .eq := by
  rw [equal, beq_iff_eq]

theorem equal_symm {m n : Number} (h : m.equal n = true) : n.equal m = true := by
  rw [equal_iff] at h ⊢
  rw [compare?_swap m n, h]
  rfl

/-- A number that is equal to another one is also the same, and has a place. -/
theorem equal_iff_same {m n : Number} : m.equal n = true ↔ m.isNan = false ∧ m.same n = true := by
  rw [same, Bool.or_eq_true]
  constructor
  · intro h
    refine ⟨?_, .inl h⟩
    rw [Bool.eq_false_iff, ne_eq, isNan_iff]
    intro nowhere
    simp [equal, compare?, nowhere] at h
  · rintro ⟨placed, same | nan⟩
    · exact same
    · simp [placed] at nan

theorem equal_trans {m n l : Number} (hmn : m.equal n = true) (hnl : n.equal l = true) :
    m.equal l = true := by
  rw [equal_iff_same] at hmn hnl ⊢
  exact ⟨hmn.1, same_trans hmn.2 hnl.2⟩

end Number

namespace Value

/-! ### Contents of arrays and objects

The test goes down both values at once.  `Alike` says what it finds at one level and leaves the next
one to the test itself, so that proofs about it go through five cases instead of all pairs of
constructors. -/

/-- The values that a value directly holds: the items of an array, the members of an object. -/
def parts : Value → List Value
  | .array items => items
  | .object fields => fields.map Prod.snd
  | _ => []

theorem sizeOf_lt_of_mem_parts {v part : Value} (h : part ∈ v.parts) : sizeOf part < sizeOf v := by
  cases v with
  | array items =>
      have smaller : sizeOf part < sizeOf items := List.sizeOf_lt_of_mem h
      simp only [array.sizeOf_spec]
      omega
  | object fields =>
      obtain ⟨field, member, rfl⟩ := List.mem_map.1 h
      have smaller : sizeOf field < sizeOf fields := List.sizeOf_lt_of_mem member
      rcases field with ⟨name, x⟩
      simp only [object.sizeOf_spec, Prod.mk.sizeOf_spec] at smaller ⊢
      omega
  | null | bool _ | number _ | string _ => cases h

/-- What a value has as soon as all its parts have it, every value has. -/
theorem byParts {motive : Value → Prop}
    (step : ∀ v, (∀ part ∈ v.parts, motive part) → motive v) (v : Value) : motive v :=
  step v fun part _ => byParts step part
termination_by sizeOf v
decreasing_by exact sizeOf_lt_of_mem_parts ‹_›

theorem wellFormed_of_mem_parts {v part : Value} (wellFormed : v.WellFormed) (h : part ∈ v.parts) :
    part.WellFormed := by
  cases v with
  | array items => exact allWellFormed_iff.1 wellFormed part h
  | object fields =>
      obtain ⟨field, member, rfl⟩ := List.mem_map.1 h
      exact fieldsWellFormed_iff.1 wellFormed.2 field member
  | null | bool _ | number _ | string _ => cases h

/-- Values with the same content, up to the contents of their items and members. -/
inductive Alike : Value → Value → Prop where
  | nulls : Alike .null .null
  | strings (s : String) : Alike (.string s) (.string s)
  | numbers {x y : Value} {m n : Number} (hx : x.contentNumber? = some m)
      (hy : y.contentNumber? = some n) (same : m.same n = true) : Alike x y
  | arrays {xs ys : List Value} (items : List.Forall₂ (fun x y => x.sameContent y = true) xs ys) :
      Alike (.array xs) (.array ys)
  | objects {xs ys : List (String × Value)} (long : xs.length = ys.length)
      (fields : ∀ field ∈ xs, ∃ y, Keyed.get? field.1 ys = some y ∧ field.2.sameContent y = true) :
      Alike (.object xs) (.object ys)

theorem sameItems_iff {xs ys : List Value} :
    sameItems xs ys = true ↔ List.Forall₂ (fun x y => x.sameContent y = true) xs ys := by
  induction xs generalizing ys with
  | nil => cases ys <;> simp [sameItems]
  | cons x xs ih => cases ys <;> simp [sameItems, ih]

theorem sameFields_iff {xs ys : List (String × Value)} :
    sameFields xs ys = true ↔
      ∀ field ∈ xs, ∃ y, Keyed.get? field.1 ys = some y ∧ field.2.sameContent y = true := by
  induction xs with
  | nil => simp [sameFields]
  | cons field xs ih =>
      rcases field with ⟨name, x⟩
      rw [sameFields, Bool.and_eq_true, ih, List.forall_mem_cons, Keyed.get?]
      cases ys.lookup name <;> simp

/-- A value that counts as a number has the content of those that count as the same number. -/
theorem sameContent_of_contentNumber? {x : Value} {m : Number} (hx : x.contentNumber? = some m)
    (y : Value) : x.sameContent y = y.contentNumber?.any m.same := by
  cases x with
  | bool b =>
      cases hx
      rw [sameContent]
  | number n =>
      cases hx
      rw [sameContent]
  | null | string _ | array _ | object _ => cases hx

theorem sameContent_iff {x y : Value} : x.sameContent y = true ↔ Alike x y := by
  constructor
  · intro h
    -- Booleans count as numbers, so that the two are told from the rest before the constructors.
    cases number : x.contentNumber? with
    | some m =>
        rw [sameContent_of_contentNumber? number, Option.any_eq_true] at h
        obtain ⟨n, hy, same⟩ := h
        exact .numbers number hy same
    | none =>
        cases x with
        | bool _ | number _ => cases number
        | null =>
            cases y with
            | null => exact .nulls
            | _ => simp [sameContent] at h
        | string s =>
            cases y with
            | string t =>
                obtain rfl : s = t := by simpa [sameContent] using h
                exact .strings s
            | _ => simp [sameContent] at h
        | array xs =>
            cases y with
            | array ys =>
                rw [sameContent, sameItems_iff] at h
                exact .arrays h
            | _ => simp [sameContent] at h
        | object xs =>
            cases y with
            | object ys =>
                rw [sameContent, Bool.and_eq_true, beq_iff_eq, sameFields_iff] at h
                exact .objects h.1 h.2
            | _ => simp [sameContent] at h
  · rintro (_ | s | ⟨hx, hy, same⟩ | items | ⟨long, fields⟩)
    · rw [sameContent]
    · rw [sameContent, beq_self_eq_true]
    · rw [sameContent_of_contentNumber? hx, hy, Option.any_some, same]
    · rw [sameContent, sameItems_iff]
      exact items
    · rw [sameContent, Bool.and_eq_true, beq_iff_eq, sameFields_iff]
      exact ⟨long, fields⟩

/-! ### Sameness of content is an equivalence

Each law is by induction on the parts of the first value.  Symmetry is the one that needs names to
be different, because the members of the first object are looked up in the second and not the other
way round. -/

theorem sameContent_refl {x : Value} (wellFormed : x.WellFormed) : x.sameContent x = true := by
  induction x using byParts with
  | step x ih =>
      have below (part : Value) (h : part ∈ x.parts) : part.sameContent part = true :=
        ih part h (wellFormed_of_mem_parts wellFormed h)
      rw [sameContent_iff]
      cases x with
      | null => exact .nulls
      | bool b => exact .numbers rfl rfl (Number.same_refl _)
      | number n => exact .numbers rfl rfl (Number.same_refl n)
      | string s => exact .strings s
      | array items => exact .arrays (List.forall₂_same.2 below)
      | object fields =>
          exact .objects rfl fun field member =>
            ⟨field.2, Keyed.get?_of_mem wellFormed.1 member, below _ (List.mem_map_of_mem member)⟩

/-- If every member on the left has one of its name on the right, and there are as many on either
side, then every name on the right is one on the left. -/
theorem keys_subset_of_length_eq {xs ys : List (String × Value)}
    (distinct : (Keyed.keys xs).Nodup) (long : xs.length = ys.length)
    (within : Keyed.keys xs ⊆ Keyed.keys ys) : Keyed.keys ys ⊆ Keyed.keys xs := by
  have perm : (Keyed.keys xs).Perm (Keyed.keys ys) :=
    (List.subperm_of_subset distinct within).perm_of_length_le (by simp [Keyed.keys, long])
  exact perm.symm.subset

theorem sameContent_symm {x y : Value} (hx : x.WellFormed) (hy : y.WellFormed)
    (h : x.sameContent y = true) : y.sameContent x = true := by
  induction x using byParts generalizing y with
  | step x ih =>
      have below (u : Value) (hu : u ∈ x.parts) (v : Value) (hv : v ∈ y.parts)
          (same : u.sameContent v = true) : v.sameContent u = true :=
        ih u hu (wellFormed_of_mem_parts hx hu) (wellFormed_of_mem_parts hy hv) same
      rw [sameContent_iff] at h ⊢
      cases h with
      | nulls => exact .nulls
      | strings s => exact .strings s
      | numbers hm hn same => exact .numbers hn hm (Number.same_symm same)
      | @arrays xs ys items =>
          have turned : List.Forall₂ (fun v u => v ∈ ys ∧ u ∈ xs ∧ u.sameContent v = true) ys xs :=
            (List.forall₂_and_left _ _).2 ⟨fun _ hv => hv,
              ((List.forall₂_and_left _ _).2 ⟨fun _ hu => hu, items⟩).flip⟩
          exact .arrays (turned.imp fun v u ⟨hv, hu, same⟩ => below u hu v hv same)
      | @objects xs ys long fields =>
          -- Members are looked up from the left only; that none is missed from the right follows
          -- by counting names.
          have within : Keyed.keys xs ⊆ Keyed.keys ys := by
            intro name hname
            obtain ⟨field, member, rfl⟩ := List.mem_map.1 hname
            obtain ⟨y, found, -⟩ := fields field member
            exact List.mem_map.2 ⟨(field.1, y), Keyed.mem_of_get? found, rfl⟩
          refine .objects long.symm fun field member => ?_
          have named := keys_subset_of_length_eq hx.1 long within (List.mem_map_of_mem member)
          obtain ⟨⟨name, x⟩, member', (rfl : name = field.1)⟩ := List.mem_map.1 named
          obtain ⟨y, found, same⟩ := fields _ member'
          obtain rfl : field.2 = y :=
            Option.some.inj ((Keyed.get?_of_mem hy.1 member).symm.trans found)
          exact ⟨x, Keyed.get?_of_mem hx.1 member',
            below x (List.mem_map_of_mem member') _ (List.mem_map_of_mem member) same⟩

/-- Lists that are related item by item to the same list are related item by item. -/
theorem forall₂_comp {α : Type} {R S T : α → α → Prop} (comp : ∀ x y z, R x y → S y z → T x z)
    {xs ys zs : List α} (hxy : List.Forall₂ R xs ys) (hyz : List.Forall₂ S ys zs) :
    List.Forall₂ T xs zs := by
  induction hxy generalizing zs with
  | nil =>
      cases hyz
      exact .nil
  | cons first _ ih =>
      cases hyz with
      | cons first' rest' => exact .cons (comp _ _ _ first first') (ih rest')

theorem sameContent_trans {x y z : Value} (hxy : x.sameContent y = true)
    (hyz : y.sameContent z = true) : x.sameContent z = true := by
  induction x using byParts generalizing y z with
  | step x ih =>
      rw [sameContent_iff] at hxy hyz ⊢
      cases hxy with
      | nulls => exact hyz
      | strings s => exact hyz
      | numbers hm hn same =>
          cases hyz with
          | numbers hn' hl same' =>
              obtain rfl := Option.some.inj (hn.symm.trans hn')
              exact .numbers hm hl (Number.same_trans same same')
          | nulls | strings _ | arrays _ | objects _ _ => cases hn
      | @arrays xs ys items =>
          cases hyz with
          | numbers hn => cases hn
          | arrays items' =>
              have below := (List.forall₂_and_left _ _).2 ⟨ih, items⟩
              exact .arrays
                (forall₂_comp (fun _ _ _ ⟨ih, same⟩ same' => ih same same') below items')
      | @objects xs ys long fields =>
          cases hyz with
          | numbers hn => cases hn
          | objects long' fields' =>
              refine .objects (long.trans long') fun field member => ?_
              obtain ⟨y, found, same⟩ := fields field member
              obtain ⟨z, found', same'⟩ := fields' _ (Keyed.mem_of_get? found)
              exact ⟨z, found', ih _ (List.mem_map_of_mem member) same same'⟩

/-! ### Equality of operands

Comparing operands is stricter than comparing contents: null and not-a-number equal nothing, and a
truth value is no number.  Apart from that the laws carry over. -/

/-- Every value but null and not-a-number equals itself. -/
theorem equal_refl {x : Value} (wellFormed : x.WellFormed) (given : x.isNull = false)
    (number : x.isNan = false) : x.equal x = true := by
  cases x with
  | null => cases given
  | bool b => exact beq_self_eq_true b
  | number n => exact Number.equal_iff_same.2 ⟨number, Number.same_refl n⟩
  | string s => exact beq_self_eq_true s
  | array items => exact sameContent_refl wellFormed
  | object fields => exact sameContent_refl wellFormed

theorem equal_symm {x y : Value} (hx : x.WellFormed) (hy : y.WellFormed)
    (h : x.equal y = true) : y.equal x = true := by
  cases x <;> cases y <;> simp only [equal, Bool.false_eq_true, beq_iff_eq] at h ⊢
  · exact h.symm
  · exact Number.equal_symm h
  · exact h.symm
  · exact sameContent_symm hx hy h
  · exact sameContent_symm hx hy h

theorem equal_trans {x y z : Value} (hxy : x.equal y = true) (hyz : y.equal z = true) :
    x.equal z = true := by
  cases x <;> cases y <;> simp only [equal, Bool.false_eq_true, beq_iff_eq] at hxy <;>
    cases z <;> simp only [equal, Bool.false_eq_true, beq_iff_eq] at hyz ⊢
  · exact hxy.trans hyz
  · exact Number.equal_trans hxy hyz
  · exact hxy.trans hyz
  · exact sameContent_trans hxy hyz
  · exact sameContent_trans hxy hyz

/-- Inside an array true counts as one, however that is written; by itself it does not. -/
example :
    (Value.array [.bool true]).equal (.array [fractionOne]) = true ∧
      (Value.bool true).equal fractionOne = false := by
  decide

end Value

end DocQuery
