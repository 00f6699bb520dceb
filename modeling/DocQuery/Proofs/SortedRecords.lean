/-
Module: DocQuery.Proofs.SortedRecords
Purpose: Sorting puts records in the order of their keys, leaves ties as they were, and fails
  exactly if two of the records cannot be compared.
Main exports: StableSort.sortBy_placed, StableSort.exists_sortBy_eq_ok_iff, Sorting.apply_placed,
  Sorting.apply_fails_iff
-/
import DocQuery.Proofs.SortRuns
import DocQuery.Proofs.StableSort
import DocQuery.Proofs.Validation
import DocQuery.Proofs.ValueOrder

namespace DocQuery

open Outcome

namespace StableSort

variable {α ε : Type} {cmp : α → α → Except ε Ordering} {kind : α → Prop} {before : α → α → Prop}
  {xs ys : List α}

/-! ### Sorting by a ranking

Sorting compares neighbours only.  With a ranking, what holds of neighbours holds of all: elements
are in order, and those that are tied are where they were. -/

/-- One element is below another if a comparison says so. -/
def less (cmp : α → α → Except ε Ordering) (x y : α) : Except ε Bool := do
  return (← cmp x y) == .lt

/-- One element stands rightly before another: it compares as at most the other, and came before it
if they are tied. -/
def Precedes (cmp : α → α → Except ε Ordering) (before : α → α → Prop) (x y : α) : Prop :=
  ∃ o, cmp x y = .ok o ∧ o.isLE ∧ (o = .eq → before x y)

theorem less_eq_ok {x y : α} {b : Bool} :
    less cmp x y = .ok b ↔ ∃ o, cmp x y = .ok o ∧ (o == .lt) = b := by
  simp [less, bind_eq_ok]

theorem precedes_of_mayPrecede (ranks : Ranks cmp kind) {x y : α}
    (h : MayPrecede (less cmp) before x y) : Precedes cmp before x y := by
  rcases h with ⟨earlier, tested⟩ | tested
  · obtain ⟨o, compared, ne⟩ := less_eq_ok.1 tested
    exact ⟨o.swap, ranks.swap compared, by cases o <;> simp_all, fun _ => earlier⟩
  · obtain ⟨o, compared, eq⟩ := less_eq_ok.1 tested
    obtain rfl : o = .lt := by simpa using eq
    exact ⟨.lt, compared, rfl, nofun⟩

theorem precedes_trans (ranks : Ranks cmp kind)
    (later : ∀ x y z, before x y → before y z → before x z) {x y z : α} (hx : kind x)
    (hy : kind y) (hz : kind z) (hxy : Precedes cmp before x y) (hyz : Precedes cmp before y z) :
    Precedes cmp before x z := by
  obtain ⟨o, hxy, ho, tied⟩ := hxy
  obtain ⟨p, hyz, hp, tied'⟩ := hyz
  refine ⟨o.then p, ranks.trans hx hy hz hxy hyz ho hp, ?_, fun h => ?_⟩
  · cases o <;> simp_all
  · obtain ⟨rfl, rfl⟩ := Ordering.then_eq_eq.1 h
    exact later x y z (tied rfl) (tied' rfl)

/-- Where neighbours were compared, all elements stand rightly. -/
theorem pairwise_precedes (ranks : Ranks cmp kind)
    (later : ∀ x y z, before x y → before y z → before x z) (kinds : ∀ x ∈ xs, kind x)
    (chain : xs.IsChain (MayPrecede (less cmp) before)) : xs.Pairwise (Precedes cmp before) := by
  let Rightly (x y : α) : Prop := kind x ∧ kind y ∧ Precedes cmp before x y
  have : Trans Rightly Rightly Rightly :=
    ⟨fun ⟨hx, hy, hxy⟩ ⟨_, hz, hyz⟩ => ⟨hx, hz, precedes_trans ranks later hx hy hz hxy hyz⟩⟩
  have rightly : xs.IsChain Rightly := chain.imp_of_mem_imp fun x y hx hy h =>
    ⟨kinds x hx, kinds y hy, precedes_of_mayPrecede ranks h⟩
  exact (List.isChain_iff_pairwise.1 rightly).imp fun h => h.2.2

/-- The elements of a list are beside their places, which ascend. -/
theorem pairwise_zipIdx (xs : List α) : xs.zipIdx.Pairwise fun a b => a.2 < b.2 := by
  rw [List.pairwise_iff_getElem]
  intro i j hi hj less
  simpa using less

/-- Sorting permutes a list, and together with the places where they were its elements then stand
rightly. -/
theorem sortBy_placed (ranks : Ranks cmp kind) (h : sortBy (less cmp) xs = .ok ys) :
    ∃ placed : List (α × Nat), placed.Perm xs.zipIdx ∧ ys = placed.map Prod.fst ∧
      ((∀ x ∈ xs, kind x) →
        placed.Pairwise (Precedes (fun a b => cmp a.1 b.1) fun a b => a.2 < b.2)) := by
  -- Beside its place each element is another one, so that places tell which one came before.
  let cmp' (a b : α × Nat) : Except ε Ordering := cmp a.1 b.1
  have tagged : sortBy (less cmp) xs = List.map Prod.fst <$> sortBy (less cmp') xs.zipIdx := by
    have same (a b : α × Nat) : less cmp a.1 b.1 = less cmp' a b := rfl
    rw [← sortBy_map same, List.zipIdx_map_fst]
  rw [tagged, map_eq_ok] at h
  obtain ⟨placed, sorted, rfl⟩ := h
  have compares : ComparesWith (fun _ => True) (less cmp') fun a b => a.2 < b.2 :=
    fun _ _ _ => ⟨fun _ _ => trivial, fun _ _ => trivial⟩
  obtain ⟨perm, chain⟩ := (sortBy_ends compares (pairwise_zipIdx xs)).yields placed sorted
  refine ⟨placed, perm, rfl, fun kinds => ?_⟩
  refine pairwise_precedes (ranks.comap Prod.fst) (fun _ _ _ => Nat.lt_trans) ?_ chain
  intro a ha
  exact kinds a.1 (List.fst_mem_of_mem_zipIdx (perm.mem_iff.1 ha))

/-- Sorting has a result exactly if every two elements can be compared. -/
theorem exists_sortBy_eq_ok_iff (ranks : Ranks cmp kind) (kinds : ∀ x ∈ xs, kind x) :
    (∃ ys, sortBy (less cmp) xs = .ok ys) ↔ xs.Pairwise fun x y => ∃ o, cmp x y = .ok o := by
  constructor
  · rintro ⟨ys, h⟩
    obtain ⟨placed, perm, rfl, stands⟩ := sortBy_placed ranks h
    have compared : placed.Pairwise fun a b => ∃ o, cmp a.1 b.1 = .ok o :=
      (stands kinds).imp fun ⟨o, compared, _⟩ => ⟨o, compared⟩
    have perm' : (placed.map Prod.fst).Perm xs := by
      simpa using perm.map Prod.fst
    refine perm'.pairwise (List.pairwise_map.2 compared) ?_
    exact fun ⟨o, h⟩ => ⟨o.swap, ranks.swap h⟩
  · intro comparable
    -- Whichever comparisons the sort makes, none of them fails.
    have compares :
        ComparesWith (fun _ : ε => False) (less cmp) fun x y => ∃ o, cmp x y = .ok o := by
      rintro x y ⟨o, h⟩
      exact ⟨.of_eq_ok (less_eq_ok.2 ⟨o, h, rfl⟩), .of_eq_ok (less_eq_ok.2 ⟨_, ranks.swap h, rfl⟩)⟩
    cases sorted : sortBy (less cmp) xs with
    | ok ys => exact ⟨ys, rfl⟩
    | error e => exact ((sortBy_ends compares comparable).fails e sorted).elim

end StableSort

namespace Sorting

variable {s : Sorting} {records : List Projected}

/-! ### Sorting records

The ranking of key vectors carries over to records, as long as their keys can be read and none is
not-a-number. -/

/-- The key values of a record; there are none if some key cannot be read. -/
def keyVector (s : Sorting) (p : Projected) : List Value :=
  (s.keyValues p).toOption.getD []

/-- The order of two records by their keys. -/
def compareRecords (s : Sorting) (p q : Projected) : Except QueryError Ordering :=
  compareKeys (s.keyVector p) (s.keyVector q) s.keys

/-- A record whose keys can all be read and have values other than not-a-number. -/
structure Rankable (s : Sorting) (p : Projected) : Prop where
  reads : ∃ vs, s.keyValues p = .ok vs
  numbers : ∀ v ∈ s.keyVector p, v.isNan = false

theorem keyValues_eq_keyVector {p : Projected} (h : ∃ vs, s.keyValues p = .ok vs) :
    s.keyValues p = .ok (s.keyVector p) := by
  obtain ⟨vs, h⟩ := h
  rw [keyVector, h]
  rfl

theorem Rankable.keyVector {p : Projected} (h : s.Rankable p) :
    KeyVector s.keys (s.keyVector p) :=
  ⟨(mapM_eq_ok_iff.1 (keyValues_eq_keyVector h.reads)).length_eq.symm, h.numbers⟩

/-- Comparing records by their keys ranks those that can be ranked. -/
theorem compareRecords_ranks (s : Sorting) : Ranks s.compareRecords s.Rankable where
  swap := compareKeys_swap
  trans hp hq hr :=
    ((compareKeys_ranks s.keys).comap s.keyVector).trans hp.keyVector hq.keyVector hr.keyVector

/-- Reading the keys first makes no difference if they can all be read. -/
theorem apply_eq_sortBy (s : Sorting) (h : ∀ p ∈ records, ∃ vs, s.keyValues p = .ok vs) :
    s.apply records = StableSort.sortBy (StableSort.less s.compareRecords) records := by
  have decorated : records.mapM (fun p => do return (← s.keyValues p, p)) =
      .ok (records.map fun p => (s.keyVector p, p)) :=
    mapM_eq_ok_map fun p hp => by rw [keyValues_eq_keyVector (h p hp)]; rfl
  have same (p q : Projected) : s.below (s.keyVector p, p) (s.keyVector q, q) =
      StableSort.less s.compareRecords p q := rfl
  rw [apply, decorated, ok_bind, StableSort.sortBy_map same]
  cases StableSort.sortBy (StableSort.less s.compareRecords) records with
  | error e => rfl
  | ok sorted => simp [Function.comp_def]

theorem exists_keyValues_of_apply {sorted : List Projected} (h : s.apply records = .ok sorted) :
    ∀ p ∈ records, ∃ vs, s.keyValues p = .ok vs := by
  intro p hp
  obtain ⟨decorated, read, _⟩ := bind_eq_ok.1 h
  obtain ⟨_, hp⟩ := exists_of_mapM_eq_ok read hp
  obtain ⟨vs, hvs, _⟩ := bind_eq_ok.1 hp
  exact ⟨vs, hvs⟩

/-- Of two records with the places they had, one stands rightly before the other.  Their keys are in
order, and if they are tied on all keys, then the one came before the other.  Looked at by single
keys, where they are tied on those before a key, null comes first whatever the direction of the key,
and of two other values the direction tells which one comes first. -/
structure InOrder (s : Sorting) (a b : Projected × Nat) : Prop where
  ordered : ∃ o, compareKeys (s.keyVector a.1) (s.keyVector b.1) s.keys = .ok o ∧ o.isLE ∧
    (o = .eq → a.2 < b.2)
  eachKey : ∀ k key x y, s.keys[k]? = some key → (s.keyVector a.1)[k]? = some x →
    (s.keyVector b.1)[k]? = some y →
    compareKeys (s.keyVector a.1) (s.keyVector b.1) (s.keys.take k) = .ok .eq →
    (y.isNull = true → x.isNull = true) ∧
    (x.isNull = false → y.isNull = false →
      ∃ o, x.compare y = .ok o ∧ (key.direction.apply o).isLE)

theorem InOrder.of_precedes {a b : Projected × Nat}
    (h : StableSort.Precedes (fun a b => s.compareRecords a.1 b.1) (fun a b => a.2 < b.2) a b) :
    s.InOrder a b := by
  obtain ⟨o, compared, ho, tied⟩ := h
  refine ⟨⟨o, compared, ho, tied⟩, fun k key x y hkey hx hy tied => ?_⟩
  obtain ⟨p, hp, hle⟩ := compareKeys_take compared ho hx hy hkey tied
  rw [comparesBy_iff] at hp
  cases hp with
  | nulls hx hy => exact ⟨fun _ => hx, fun hx' => by simp [hx] at hx'⟩
  | nullFirst hx hy => exact ⟨fun _ => hx, fun hx' => by simp [hx] at hx'⟩
  | nullLast => simp at hle
  | values hx hy compared =>
      exact ⟨fun hy' => by simp [hy] at hy', fun _ _ => ⟨_, compared, hle⟩⟩

/-- A sort that has a result has read all keys and has put the records into another order.  If no
key is not-a-number, then every two of them stand rightly there. -/
theorem apply_placed (s : Sorting) {records sorted : List Projected}
    (h : s.apply records = .ok sorted) :
    (∀ p ∈ records, s.keyValues p = .ok (s.keyVector p)) ∧
    sorted.Perm records ∧
    ∃ placed : List (Projected × Nat), placed.Perm records.zipIdx ∧ sorted = placed.map Prod.fst ∧
      ((∀ p ∈ records, ∀ v ∈ s.keyVector p, v.isNan = false) → placed.Pairwise s.InOrder) := by
  have reads := exists_keyValues_of_apply h
  rw [s.apply_eq_sortBy reads] at h
  obtain ⟨placed, perm, rfl, stands⟩ := StableSort.sortBy_placed s.compareRecords_ranks h
  refine ⟨fun p hp => keyValues_eq_keyVector (reads p hp), ?_, placed, perm, rfl, fun numbers => ?_⟩
  · simpa using perm.map Prod.fst
  · exact (stands fun p hp => ⟨reads p hp, numbers p hp⟩).imp .of_precedes

/-- Players with the highest score first, those of one score by their names. -/
def byScore : Sorting :=
  ⟨[⟨"score", .descending⟩, ⟨"name", .ascending⟩], ⟨[("t", ["score", "name"])]⟩, []⟩

/-- A player of a table. -/
def player (score name : Value) : Projected :=
  let r : Record := ⟨[("score", score), ("name", name)], some "t"⟩
  ⟨r, r⟩

/-- Scores and names that are null come first, and of two players with the scores `1` and `1.0` and
one name the first stays in front. -/
theorem apply_placed_byScore :
    let records := [player (.int 1) (.string "B"), player .null (.string "C"),
      player .fractionOne (.string "B"), player (.int 2) .null, player (.int 1) .null]
    let sorted := [player .null (.string "C"), player (.int 2) .null, player (.int 1) .null,
      player (.int 1) (.string "B"), player .fractionOne (.string "B")]
    byScore.apply records = .ok sorted ∧
      ∃ placed : List (Projected × Nat), placed.Perm records.zipIdx ∧
        sorted = placed.map Prod.fst ∧ placed.Pairwise byScore.InOrder := by
  intro records sorted
  have ends : byScore.apply records = .ok sorted := by with_unfolding_all rfl
  obtain ⟨_, _, placed, perm, same, stands⟩ := apply_placed byScore ends
  exact ⟨ends, placed, perm, same, stands (by decide +kernel)⟩

/-! ### Records that cannot be sorted

If two records cannot be compared, sorting could still miss them by never comparing these two.  It
does not: in a chain of comparisons between them some two neighbours cannot be compared either. -/

/-- Two records can be compared. -/
def Comparable (s : Sorting) (p q : Projected) : Prop :=
  ∃ o, s.compareRecords p q = .ok o

theorem Comparable.symm {p q : Projected} (h : s.Comparable p q) : s.Comparable q p := by
  obtain ⟨o, h⟩ := h
  exact ⟨o.swap, s.compareRecords_ranks.swap h⟩

/-- Records that can be ranked are sorted exactly if every two of them can be compared. -/
theorem exists_apply_eq_ok_iff (rankable : ∀ p ∈ records, s.Rankable p) :
    (∃ sorted, s.apply records = .ok sorted) ↔ records.Pairwise s.Comparable := by
  rw [s.apply_eq_sortBy fun p hp => (rankable p hp).reads]
  exact StableSort.exists_sortBy_eq_ok_iff s.compareRecords_ranks rankable

theorem apply_failsOnly (rankable : ∀ p ∈ records, s.Rankable p) :
    FailsOnly (fun e => e.isTypeMismatch = true) (s.apply records) := by
  rw [s.apply_eq_sortBy fun p hp => (rankable p hp).reads]
  refine StableSort.sortBy_failsOnly (fun p q => FailsOnly.bind ?_ fun _ _ => .ok _) records
  exact Plan.compareKeys_failsOnly _ _ _

/-- A list has two elements at different places that are not related, if not all are. -/
theorem not_pairwise_iff {α : Type} {R : α → α → Prop} (symm : ∀ {x y}, R x y → R y x)
    {xs : List α} :
    ¬ xs.Pairwise R ↔ ∃ i j : Fin xs.length, i ≠ j ∧ ¬ R xs[i] xs[j] := by
  rw [List.pairwise_iff_get]
  constructor
  · intro h
    push Not at h
    obtain ⟨i, j, less, unrelated⟩ := h
    exact ⟨i, j, Fin.ne_of_lt less, unrelated⟩
  · rintro ⟨i, j, ne, unrelated⟩ h
    rcases Nat.lt_or_gt_of_ne (Fin.val_ne_of_ne ne) with less | greater
    · exact unrelated (h i j less)
    · exact unrelated (symm (h j i greater))

/-- Whether a sort of records that can be ranked fails depends on two of them: it fails, with a
mismatch of types, exactly if two records at different places cannot be compared.  So it does not
depend on the order of the records. -/
theorem apply_fails_iff (s : Sorting) {records : List Projected}
    (rankable : ∀ p ∈ records, s.Rankable p) :
    ((∃ e, s.apply records = .error e ∧ e.isTypeMismatch = true) ↔
      ∃ i j : Fin records.length, i ≠ j ∧
        ∃ e, compareKeys (s.keyVector records[i]) (s.keyVector records[j]) s.keys = .error e ∧
          e.isTypeMismatch = true) ∧
    (∀ p q, (∃ e, compareKeys (s.keyVector p) (s.keyVector q) s.keys = .error e ∧
        e.isTypeMismatch = true) ↔ Clash s.keys (s.keyVector p) (s.keyVector q)) ∧
    (∀ e, s.apply records = .error e → e.isTypeMismatch = true) ∧
    ∀ records' : List Projected, records'.Perm records →
      ((∃ e, s.apply records' = .error e) ↔ ∃ e, s.apply records = .error e) := by
  have mismatch (p q : Projected) :
      (∃ e, compareKeys (s.keyVector p) (s.keyVector q) s.keys = .error e ∧
        e.isTypeMismatch = true) ↔ ¬ s.Comparable p q := by
    rw [Comparable, compareRecords, ← exists_eq_error_iff]
    exact exists_congr fun e => and_iff_left_of_imp (Plan.compareKeys_failsOnly _ _ _ e)
  have fails (records' : List Projected) (rankable' : ∀ p ∈ records', s.Rankable p) :
      (∃ e, s.apply records' = .error e) ↔ ¬ records'.Pairwise s.Comparable := by
    rw [exists_eq_error_iff, exists_apply_eq_ok_iff rankable']
  refine ⟨?_, fun p q => ?_, apply_failsOnly rankable, fun records' perm => ?_⟩
  · simp only [mismatch]
    rw [← not_pairwise_iff (R := s.Comparable) Comparable.symm, ← fails records rankable]
    exact exists_congr fun e => and_iff_left_of_imp (apply_failsOnly rankable e)
  · rw [mismatch, Comparable, compareRecords, ← exists_eq_error_iff, compareKeys_eq_error_iff]
  · rw [fails records rankable, fails records' fun p hp => rankable p (perm.mem_iff.1 hp),
      perm.pairwise_iff Comparable.symm]

/-- Two players of one score, one of whom has a number for a name, cannot be sorted, in whatever
order they and others come. -/
theorem apply_fails_iff_byScore :
    let records := [player (.int 1) (.string "B"), player .null (.string "C"),
      player (.int 2) (.string "A"), player .fractionOne (.int 7)]
    (∀ p ∈ records, byScore.Rankable p) ∧
      (∃ e, byScore.apply records = .error e ∧ e.isTypeMismatch = true) ∧
      ∀ records' : List Projected, records'.Perm records →
        ∃ e, byScore.apply records' = .error e := by
  intro records
  have rankable : ∀ p ∈ records, byScore.Rankable p := by
    simp only [records, List.forall_mem_cons]
    exact ⟨⟨⟨_, rfl⟩, by decide +kernel⟩, ⟨⟨_, rfl⟩, by decide +kernel⟩,
      ⟨⟨_, rfl⟩, by decide +kernel⟩, ⟨⟨_, rfl⟩, by decide +kernel⟩, by simp⟩
  obtain ⟨fails, -, -, permuted⟩ := apply_fails_iff byScore rankable
  obtain ⟨e, failed, mismatch⟩ := fails.2 ⟨⟨0, by decide⟩, ⟨3, by decide⟩, by decide, _, rfl, rfl⟩
  exact ⟨rankable, ⟨e, failed, mismatch⟩,
    fun records' perm => (permuted records' perm).2 ⟨e, failed⟩⟩

end Sorting

end DocQuery
