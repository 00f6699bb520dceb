/-
Module: DocQuery.Proofs.RecordMerge
Purpose: Merging records: which field comes where, and that the grouping of several does not matter.
Main exports: Keyed.overlay, Keyed.overlay_overlay, Keyed.update_eq_overlay, Record.Distinct,
  Record.merge_assoc, Record.foldl_merge, Record.mergeLaws
-/
import DocQuery.Proofs.EnvironmentRecord

namespace DocQuery

namespace Keyed

variable {α : Type}

/-! ### Entries laid over others

Merging sets the fields of the second record one by one in the first.  Laid over at once, the same
fields can be compared as lists: values from the second one, places from the first. -/

/-- An entry with the value that others have under its name, or else its own. -/
def revalue (changes : Keyed α) (entry : String × α) : String × α :=
  (entry.1, (get? entry.1 changes).getD entry.2)

/-- Entries with others laid over them: each takes its value from there if there is one under its
name, and the names that are new come behind. -/
def overlay (entries changes : Keyed α) : Keyed α :=
  entries.map (revalue changes) ++ changes.filter fun entry => !has entry.1 entries

/-- A name keeps its entry, with the value that others have under it. -/
theorem get?_map_revalue (key : String) (entries changes : Keyed α) :
    get? key (entries.map (revalue changes)) =
      (get? key entries).map fun value => (get? key changes).getD value := by
  induction entries with
  | nil => rfl
  | cons entry rest ih =>
      rcases entry with ⟨name, value⟩
      rw [List.map_cons, revalue, get?_cons, get?_cons, ih]
      by_cases same : key = name
      · subst same
        simp
      · simp [same]

/-- A name is looked for in what is laid over first. -/
theorem get?_overlay (key : String) (entries changes : Keyed α) :
    get? key (overlay entries changes) = (get? key changes).or (get? key entries) := by
  have new := get?_filterNames (fun name => !has name entries) key changes
  rw [overlay, get?_append, get?_map_revalue, new, has_eq_isSome_get?]
  cases get? key entries with
  | none => simp
  | some value => cases get? key changes <;> rfl

theorem has_overlay (key : String) (entries changes : Keyed α) :
    has key (overlay entries changes) = (has key entries || has key changes) := by
  rw [has_eq_isSome_get?, get?_overlay, Option.isSome_or, Bool.or_comm, ← has_eq_isSome_get?,
    ← has_eq_isSome_get?]

/-- Others laid over the changes count before the changes. -/
theorem revalue_overlay (ys zs : Keyed α) (entry : String × α) :
    revalue (overlay ys zs) entry = revalue zs (revalue ys entry) := by
  simp only [revalue, get?_overlay]
  cases get? entry.1 zs <;> rfl

/-- What is laid over entries may have others laid over it before or after. -/
theorem overlay_overlay (xs ys zs : Keyed α) :
    overlay (overlay xs ys) zs = overlay xs (overlay ys zs) := by
  have first : (xs.map (revalue ys)).map (revalue zs) = xs.map (revalue (overlay ys zs)) := by
    rw [List.map_map]
    exact List.map_congr_left fun entry _ => (revalue_overlay ys zs entry).symm
  have second : (ys.filter fun entry => !has entry.1 xs).map (revalue zs) =
      (ys.map (revalue zs)).filter fun entry => !has entry.1 xs := by
    rw [List.filter_map]
    rfl
  have third : (zs.filter fun entry => !has entry.1 (overlay xs ys)) =
      (zs.filter fun entry => !has entry.1 ys).filter fun entry => !has entry.1 xs := by
    rw [List.filter_filter]
    refine List.filter_congr fun entry _ => ?_
    rw [has_overlay, Bool.not_or]
  calc overlay (overlay xs ys) zs
      = (xs.map (revalue ys) ++ ys.filter fun entry => !has entry.1 xs).map (revalue zs) ++
          zs.filter fun entry => !has entry.1 (overlay xs ys) := rfl
    _ = xs.map (revalue (overlay ys zs)) ++
          ((ys.map (revalue zs)).filter (fun entry => !has entry.1 xs) ++
            (zs.filter fun entry => !has entry.1 ys).filter fun entry => !has entry.1 xs) := by
        rw [List.map_append, first, second, third, List.append_assoc]
    _ = overlay xs (overlay ys zs) := by
        rw [← List.filter_append]
        rfl

/-! ### Updating -/

/-- Setting an entry before others are laid over is laying it over together with them. -/
theorem overlay_put {key : String} {value : α} {entries changes : Keyed α}
    (distinct : (keys entries).Nodup) (fresh : key ∉ keys changes) :
    overlay (put key value entries) changes = overlay entries ((key, value) :: changes) := by
  have absent := get?_eq_none_iff.2 fresh
  -- The entry is set where its key is, or put behind the entries and in front of what is new.
  by_cases there : key ∈ keys entries
  · have names (name : String) : has name (put key value entries) = has name entries := by
      rw [Bool.eq_iff_iff, has_eq_true_iff, has_eq_true_iff, keys_put, if_pos there]
    have values : (put key value entries).map (revalue changes) =
        entries.map (revalue ((key, value) :: changes)) := by
      rw [put_of_mem distinct there, List.map_map]
      refine List.map_congr_left fun entry _ => ?_
      by_cases same : entry.1 = key
      · simp [revalue, get?_cons, same, absent]
      · simp [revalue, get?_cons, same]
    have skipped : has key entries = true := has_eq_true_iff.2 there
    simp [overlay, names, values, skipped]
  · have values : entries.map (revalue changes) =
        entries.map (revalue ((key, value) :: changes)) := by
      refine List.map_congr_left fun entry among => ?_
      have apart : entry.1 ≠ key := by
        rintro rfl
        exact there (List.mem_map_of_mem among)
      rw [revalue, revalue, get?_cons, if_neg apart]
    have new : (changes.filter fun entry => !has entry.1 (entries ++ [(key, value)])) =
        changes.filter fun entry => !has entry.1 entries := by
      refine List.filter_congr fun entry among => ?_
      have apart : key ≠ entry.1 := by
        rintro rfl
        exact fresh (List.mem_map_of_mem among)
      simp [has, apart]
    have kept : has key entries = false := has_eq_false_iff.2 there
    rw [put_of_fresh there, overlay, overlay, List.map_append, values, new]
    simp [revalue, absent, kept]

/-- Updating entries lays the changes over them. -/
theorem update_eq_overlay {entries changes : Keyed α} (distinct : (keys entries).Nodup)
    (distinct' : (keys changes).Nodup) : update entries changes = overlay entries changes := by
  induction changes generalizing entries with
  | nil =>
      have same : revalue ([] : Keyed α) = id := rfl
      simp [update, overlay, same]
  | cons change changes ih =>
      rcases change with ⟨key, value⟩
      obtain ⟨fresh, rest⟩ := List.nodup_cons.1 distinct'
      calc update entries ((key, value) :: changes)
          = update (put key value entries) changes := rfl
        _ = overlay (put key value entries) changes :=
            ih (nodup_keys_put key value distinct) rest
        _ = overlay entries ((key, value) :: changes) := overlay_put distinct fresh

end Keyed

namespace Record

/-! ### Records

A composed record is a record with qualified names, and qualifying it again changes nothing.  So the
laws of entries become laws of records once the names are qualified. -/

/-- No two fields of a record have the same name. -/
def Distinct (r : Record) : Prop :=
  (Keyed.keys r.fields).Nodup

instance (r : Record) : Decidable r.Distinct :=
  inferInstanceAs (Decidable (List.Nodup _))

variable {a b c : Record}

/-- A record whose fields are qualified is composed, and stays as it is. -/
@[simp] theorem qualified_qualified (r : Record) : r.qualified.qualified = r.qualified := by
  rcases r with ⟨fields, _ | aliasName⟩
  · rfl
  · rfl

@[simp] theorem qualified_merge (a b : Record) : (a.merge b).qualified = a.merge b :=
  rfl

theorem merge_qualified (a b : Record) : a.qualified.merge b.qualified = a.merge b := by
  rw [merge, merge, qualified_qualified, qualified_qualified]

theorem Distinct.qualified (h : a.Distinct) : a.qualified.Distinct := by
  unfold Record.qualified
  split
  · exact h
  · exact Env.nodup_keys_qualifiedRow _ h

theorem Distinct.merge (ha : a.Distinct) (b : Record) : (a.merge b).Distinct :=
  Keyed.nodup_keys_update _ ha.qualified

/-- The second record is laid over the first one. -/
theorem fields_merge (ha : a.Distinct) (hb : b.Distinct) :
    (a.merge b).fields = Keyed.overlay a.qualified.fields b.qualified.fields :=
  Keyed.update_eq_overlay ha.qualified hb.qualified

/-- Merging is associative. -/
theorem merge_assoc (ha : a.Distinct) (hb : b.Distinct) (hc : c.Distinct) :
    (a.merge b).merge c = a.merge (b.merge c) := by
  have fields : ((a.merge b).merge c).fields = (a.merge (b.merge c)).fields := by
    rw [fields_merge (ha.merge b) hc, fields_merge ha (hb.merge c), qualified_merge,
      qualified_merge, fields_merge ha hb, fields_merge hb hc, Keyed.overlay_overlay]
  exact congrArg (fun fields => (⟨fields, none⟩ : Record)) fields

/-- Records merged one after the other may be merged among themselves first. -/
theorem foldl_merge (ha : a.Distinct) (hb : b.Distinct) {rs : List Record}
    (distinct : ∀ r ∈ rs, r.Distinct) :
    rs.foldl merge (a.merge b) = a.merge (rs.foldl merge b) := by
  induction rs generalizing b with
  | nil => rfl
  | cons r rs ih =>
      obtain ⟨hr, others⟩ := List.forall_mem_cons.1 distinct
      rw [List.foldl_cons, List.foldl_cons, merge_assoc ha hb hr]
      exact ih (hb.merge r) others

/-- What merging records comes to. -/
structure MergeLaws (a b c : Record) : Prop where
  assoc : (a.merge b).merge c = a.merge (b.merge c)
  /-- So a chain of any length may be grouped in any way. -/
  chain : ∀ rs : List Record, (∀ r ∈ rs, r.Distinct) →
    rs.foldl merge (a.merge b) = a.merge (rs.foldl merge b)
  qualified_qualified : a.qualified.qualified = a.qualified
  of_qualified : a.merge b = a.qualified.merge b.qualified
  composed : (a.merge b).qualified = a.merge b
  /-- The fields of the first record stand at their places, with the values of the second one where
  it has the field too, and the other fields of the second one come behind them. -/
  fields : (a.merge b).fields =
    a.qualified.fields.map
        (fun (key, v) => (key, (Keyed.get? key b.qualified.fields).getD v)) ++
      b.qualified.fields.filter fun field => !Keyed.has field.1 a.qualified.fields
  get? : ∀ key, Keyed.get? key (a.merge b).fields =
    (Keyed.get? key b.qualified.fields).or (Keyed.get? key a.qualified.fields)
  has : ∀ key, Keyed.has key (a.merge b).fields =
    (Keyed.has key a.qualified.fields || Keyed.has key b.qualified.fields)
  distinct : (a.merge b).Distinct

/-- Merging keeps the places of the first record and the values of the second one, and neither the
grouping of several records nor qualifying them before makes a difference. -/
theorem mergeLaws (ha : a.Distinct) (hb : b.Distinct) (hc : c.Distinct) : MergeLaws a b c := by
  constructor
  case assoc => exact merge_assoc ha hb hc
  case chain => exact fun rs distinct => foldl_merge ha hb distinct
  case qualified_qualified => exact a.qualified_qualified
  case of_qualified => exact (merge_qualified a b).symm
  case composed => exact qualified_merge a b
  case fields => exact fields_merge ha hb
  case get? =>
    intro key
    rw [fields_merge ha hb, Keyed.get?_overlay]
  case has =>
    intro key
    rw [fields_merge ha hb, Keyed.has_overlay]
  case distinct => exact ha.merge b

/-- A row of a table, a composed record with fields of the same table, and one more row of it. -/
theorem mergeLaws_overlapping :
    let a : Record := ⟨[("id", .int 1), ("note", .null)], some "o"⟩
    let b : Record := ⟨[("p.name", .string "W"), ("o.id", .int 2)], none⟩
    let c : Record := ⟨[("note", .string "late"), ("id", .int 3)], some "o"⟩
    (a.Distinct ∧ b.Distinct ∧ c.Distinct) ∧ MergeLaws a b c := by
  intro a b c
  have ha : a.Distinct := by decide
  have hb : b.Distinct := by decide
  have hc : c.Distinct := by decide
  exact ⟨⟨ha, hb, hc⟩, mergeLaws ha hb hc⟩

/-- A field keeps its first place and takes its last value. -/
example : (Record.merge ⟨[("p.name", .string "W"), ("o.id", .int 2)], none⟩
      ⟨[("note", .null), ("id", .int 3)], some "o"⟩).fields =
    [("p.name", .string "W"), ("o.id", .int 3), ("o.note", .null)] := by rfl

end Record

end DocQuery
