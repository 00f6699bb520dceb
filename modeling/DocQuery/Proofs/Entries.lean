/-
Module: DocQuery.Proofs.Entries
Purpose: Named entries without repeated names: finding one, adding some to others.
Main exports: Keyed.get?_eq_none_iff, Keyed.get?_append, Keyed.update_of_disjoint,
  Keyed.nodup_keys_ofList, Keyed.keys_erase, FirstsOf, Keyed.firstsOf_distinct, Dict
-/
import DocQuery.Keyed
import Mathlib.Data.List.Induction
import Mathlib.Data.List.Nodup

namespace DocQuery

/-- The names of a list, each once, in the order in which they first occur in it. -/
structure FirstsOf (firsts names : List String) : Prop where
  nodup : firsts.Nodup
  mem_iff : ∀ name, name ∈ firsts ↔ name ∈ names
  ordered : firsts.Pairwise fun a b => names.idxOf a < names.idxOf b

namespace Keyed

variable {α β : Type}

/-! ### Finding an entry

The first entry of a name counts.  Without repeated names there is no other, and finding becomes
membership, which is how most proofs use it. -/

@[simp] theorem get?_nil (key : String) : get? key ([] : Keyed α) = none :=
  rfl

@[simp] theorem keys_append (xs ys : Keyed α) : keys (xs ++ ys) = keys xs ++ keys ys :=
  List.map_append

theorem mem_of_get? {key : String} {value : α} {entries : Keyed α}
    (h : get? key entries = some value) : (key, value) ∈ entries := by
  induction entries with
  | nil => simp at h
  | cons entry rest ih =>
      rcases entry with ⟨name, old⟩
      rw [get?_cons] at h
      by_cases hn : key = name
      · rw [if_pos hn] at h
        cases h
        simp [hn]
      · rw [if_neg hn] at h
        exact List.mem_cons_of_mem _ (ih h)

/-- A name has no entry exactly if it is not among the names. -/
theorem get?_eq_none_iff {key : String} {entries : Keyed α} :
    get? key entries = none ↔ key ∉ keys entries := by
  induction entries with
  | nil => simp [keys]
  | cons entry rest ih =>
      rcases entry with ⟨name, old⟩
      rw [get?_cons]
      by_cases hn : key = name
      · simp [hn, keys]
      · simpa [hn, keys] using ih

/-- A name has an entry exactly if it is among the names. -/
theorem has_eq_true_iff {key : String} {entries : Keyed α} :
    has key entries = true ↔ key ∈ keys entries := by
  rw [has_eq_isSome_get?, Option.isSome_iff_ne_none, ne_eq, get?_eq_none_iff, not_not]

theorem has_eq_false_iff {key : String} {entries : Keyed α} :
    has key entries = false ↔ key ∉ keys entries := by
  rw [← Bool.not_eq_true, has_eq_true_iff]

/-- Where names are not repeated, every entry is the one that its name finds. -/
theorem get?_of_mem {key : String} {value : α} {entries : Keyed α} (distinct : (keys entries).Nodup)
    (h : (key, value) ∈ entries) : get? key entries = some value := by
  induction entries with
  | nil => simp at h
  | cons entry rest ih =>
      rcases entry with ⟨name, old⟩
      obtain ⟨fresh, distinct'⟩ := List.nodup_cons.1 distinct
      rw [get?_cons]
      rcases List.mem_cons.1 h with same | later
      · cases same
        simp
      · have hn : key ≠ name := by
          rintro rfl
          exact fresh (List.mem_map.2 ⟨_, later, rfl⟩)
        rw [if_neg hn]
        exact ih distinct' later

/-- A name is looked for among the first entries and then among the others. -/
theorem get?_append (key : String) (xs ys : Keyed α) :
    get? key (xs ++ ys) = (get? key xs).or (get? key ys) := by
  induction xs with
  | nil => rfl
  | cons entry rest ih =>
      rcases entry with ⟨name, value⟩
      rw [List.cons_append, get?_cons, get?_cons]
      by_cases hn : key = name
      · simp [hn]
      · simpa [hn] using ih

/-- Among the entries of some names the others are not found. -/
theorem get?_filterNames (p : String → Bool) (key : String) (entries : Keyed α) :
    get? key (entries.filter fun entry => p entry.1) =
      if p key = true then get? key entries else none := by
  induction entries with
  | nil => simp
  | cons entry rest ih =>
      rcases entry with ⟨name, value⟩
      by_cases same : key = name
      · subst same
        by_cases kept : p key = true
        · simp [kept, get?_cons]
        · simp [kept, ih]
      · by_cases kept : p name = true
        · simp [kept, get?_cons, same, ih]
        · simp [kept, get?_cons, same, ih]

/-- Where names are not repeated, a name has at most the one entry that it finds. -/
theorem map_filter_eq_get? {entries : Keyed α} (distinct : (keys entries).Nodup) (key : String) :
    (entries.filter fun entry => decide (key = entry.1)).map Prod.snd =
      (get? key entries).toList := by
  induction entries with
  | nil => rfl
  | cons entry rest ih =>
      rcases entry with ⟨name, value⟩
      obtain ⟨fresh, distinct'⟩ := List.nodup_cons.1 distinct
      have rest' := ih distinct'
      rw [get?_cons]
      by_cases hn : key = name
      · subst hn
        rw [get?_eq_none_iff.2 fresh] at rest'
        simpa using rest'
      · simpa [hn] using rest'

/-! ### Adding entries

An entry under a known name stays where it stands, and one under a new name goes to the end.  Names
that were different stay different on either way. -/

/-- An entry under a new name goes behind all others. -/
theorem put_of_fresh {key : String} {value : α} {entries : Keyed α} (h : key ∉ keys entries) :
    put key value entries = entries ++ [(key, value)] := by
  induction entries with
  | nil => rfl
  | cons entry rest ih =>
      have hn : entry.1 ≠ key := by
        rintro rfl
        exact h (by simp [keys])
      have hrest : key ∉ keys rest := fun hr => h (List.mem_cons_of_mem _ hr)
      simp [put, hn, ih hrest]

/-- An entry that is there is set where it stands. -/
theorem put_of_mem {key : String} {entries : Keyed α} (distinct : (keys entries).Nodup)
    (there : key ∈ keys entries) (value : α) :
    put key value entries =
      entries.map fun (name, old) => (name, if name = key then value else old) := by
  induction entries with
  | nil => cases there
  | cons entry rest ih =>
      rcases entry with ⟨name, old⟩
      obtain ⟨fresh, distinct'⟩ := List.nodup_cons.1 distinct
      by_cases here : name = key
      · subst here
        have others : rest.map (fun (other, old) => (other, if other = name then value else old)) =
            rest := by
          conv_rhs => rw [← List.map_id rest]
          refine List.map_congr_left fun entry among => ?_
          have apart : entry.1 ≠ name := by
            rintro rfl
            exact fresh (List.mem_map.2 ⟨entry, among, rfl⟩)
          simp [apart]
        simp [put, others]
      · have later : key ∈ keys rest := (List.mem_cons.1 there).resolve_left (Ne.symm here)
        simp [put, here, ih distinct' later]

/-- Setting the last of some entries replaces it. -/
theorem put_last {key : String} {groups : Keyed α} (fresh : key ∉ keys groups) (old value : α) :
    put key value (groups ++ [(key, old)]) = groups ++ [(key, value)] := by
  induction groups with
  | nil => simp [put]
  | cons entry groups ih =>
      have hn : entry.1 ≠ key := by
        rintro rfl
        exact fresh List.mem_cons_self
      have hrest : key ∉ keys groups := fun hr => fresh (List.mem_cons_of_mem _ hr)
      simp [put, hn, ih hrest]

/-- The first value of a name starts its list. -/
theorem push_of_fresh {key : String} {groups : Keyed (List α)} (fresh : key ∉ keys groups)
    (value : α) : push key value groups = groups ++ [(key, [value])] := by
  rw [push, get?_eq_none_iff.2 fresh, put_of_fresh fresh]
  rfl

/-- Entries under new names go behind all others in their order. -/
theorem update_of_disjoint {entries changes : Keyed α} (distinct : (keys changes).Nodup)
    (fresh : ∀ key ∈ keys changes, key ∉ keys entries) :
    update entries changes = entries ++ changes := by
  induction changes generalizing entries with
  | nil => simp [update]
  | cons change changes ih =>
      obtain ⟨hchange, distinct'⟩ := List.nodup_cons.1 distinct
      have step : update entries (change :: changes) =
          update (put change.1 change.2 entries) changes := rfl
      have behind : put change.1 change.2 entries = entries ++ [change] :=
        put_of_fresh (fresh change.1 (by simp [keys]))
      rw [step, behind, ih distinct', List.append_assoc, List.singleton_append]
      intro key hkey hmem
      rw [keys_append, List.mem_append] at hmem
      rcases hmem with old | new
      · exact fresh key (List.mem_cons_of_mem _ hkey) old
      · have : key = change.1 := by simpa [keys] using new
        exact hchange (this ▸ hkey)

/-- Entries without repeated names are what they gather to. -/
theorem ofList_of_nodup {entries : Keyed α} (distinct : (keys entries).Nodup) :
    ofList entries = entries := by
  rw [ofList, update_of_disjoint distinct (by simp [keys]), List.nil_append]

/-- Setting an entry adds its name if it is new and no other. -/
theorem keys_put (key : String) (value : α) (entries : Keyed α) :
    keys (put key value entries) =
      if key ∈ keys entries then keys entries else keys entries ++ [key] := by
  induction entries with
  | nil => simp [put, keys]
  | cons entry rest ih =>
      by_cases hn : entry.1 = key
      · simp [put, keys, hn]
      · have hn' : key ≠ entry.1 := Ne.symm hn
        simp only [keys] at ih
        by_cases hr : key ∈ rest.map Prod.fst
        · simp_all [put, keys]
        · simp_all [put, keys]

theorem nodup_keys_put {entries : Keyed α} (key : String) (value : α)
    (distinct : (keys entries).Nodup) : (keys (put key value entries)).Nodup := by
  rw [keys_put]
  split
  · exact distinct
  · rename_i fresh
    exact List.nodup_append.2 ⟨distinct, by simp, by
      rintro a ha b hb rfl
      exact fresh (List.mem_singleton.1 hb ▸ ha)⟩

theorem nodup_keys_update {entries : Keyed α} (changes : Keyed α)
    (distinct : (keys entries).Nodup) : (keys (update entries changes)).Nodup := by
  induction changes generalizing entries with
  | nil => exact distinct
  | cons change changes ih => exact ih (nodup_keys_put change.1 change.2 distinct)

/-- Gathered entries have no name twice. -/
theorem nodup_keys_ofList (pairs : List (String × α)) : (keys (ofList pairs)).Nodup :=
  nodup_keys_update pairs List.nodup_nil

theorem keys_erase (key : String) (entries : Keyed α) :
    keys (erase key entries) = (keys entries).filter fun name => name ≠ key := by
  rw [keys, keys, erase, List.filter_map]
  congr 1
  exact List.filter_congr fun entry _ => by by_cases h : entry.1 = key <;> simp [h]

/-- Removing an entry leaves those of other names as they are. -/
theorem get?_erase_of_ne {key other : String} (h : other ≠ key) (entries : Keyed α) :
    get? other (erase key entries) = get? other entries := by
  have kept : (other != key) = true := bne_iff_ne.2 h
  rw [erase, get?_filterNames fun name => name != key, if_pos kept]

theorem mem_of_mem_put {key : String} {value : α} {entries : Keyed α} {entry : String × α}
    (h : entry ∈ put key value entries) : entry = (key, value) ∨ entry ∈ entries := by
  induction entries with
  | nil => exact .inl (by simpa [put] using h)
  | cons first rest ih =>
      by_cases hn : first.1 = key
      · rcases List.mem_cons.1 (by simpa [put, hn] using h) with same | later
        · exact .inl same
        · exact .inr (List.mem_cons_of_mem _ later)
      · rcases List.mem_cons.1 (by simpa [put, hn] using h) with same | later
        · exact .inr (same ▸ List.mem_cons_self)
        · exact (ih later).imp_right (List.mem_cons_of_mem _)

theorem mem_of_mem_update {entries changes : Keyed α} {entry : String × α}
    (h : entry ∈ update entries changes) : entry ∈ entries ∨ entry ∈ changes := by
  induction changes generalizing entries with
  | nil => exact .inl h
  | cons change changes ih =>
      rcases ih h with old | new
      · rcases mem_of_mem_put old with same | old
        · exact .inr (same ▸ List.mem_cons_self)
        · exact .inl old
      · exact .inr (List.mem_cons_of_mem _ new)

/-- Every gathered entry is one of those that were given. -/
theorem mem_of_mem_ofList {pairs : List (String × α)} {entry : String × α}
    (h : entry ∈ ofList pairs) : entry ∈ pairs :=
  (mem_of_mem_update h).resolve_left List.not_mem_nil

/-! ### Names -/

/-- A name at the end of a list counts unless it occurs before. -/
theorem distinct_concat (names : List String) (name : String) :
    distinct (names ++ [name]) =
      if name ∈ distinct names then distinct names else distinct names ++ [name] := by
  simp [distinct, List.foldl_append]

/-- Collecting names, each once, gives their first occurrences in order. -/
theorem firstsOf_distinct (names : List String) : FirstsOf (distinct names) names := by
  induction names using List.reverseRecOn with
  | nil => exact ⟨List.nodup_nil, fun _ => Iff.rfl, .nil⟩
  | append_singleton names name ih =>
      have ordered : (distinct names).Pairwise fun a b =>
          (names ++ [name]).idxOf a < (names ++ [name]).idxOf b := by
        refine ih.ordered.imp_of_mem fun ha hb before => ?_
        rwa [List.idxOf_append_of_mem ((ih.mem_iff _).1 ha),
          List.idxOf_append_of_mem ((ih.mem_iff _).1 hb)]
      rw [distinct_concat]
      by_cases known : name ∈ distinct names
      · rw [if_pos known]
        refine ⟨ih.nodup, fun other => ?_, ordered⟩
        rw [List.mem_append, List.mem_singleton, ← ih.mem_iff]
        exact ⟨.inl, fun h => h.elim id fun same => same ▸ known⟩
      · rw [if_neg known]
        refine ⟨?_, fun other => ?_, ?_⟩
        · exact List.nodup_append.2 ⟨ih.nodup, List.nodup_singleton _, fun a ha b hb same =>
            known (List.mem_singleton.1 hb ▸ same ▸ ha)⟩
        · rw [List.mem_append, List.mem_append, ih.mem_iff]
        · refine List.pairwise_append.2 ⟨ordered, List.pairwise_singleton _ _, ?_⟩
          intro a ha b hb
          obtain rfl := List.mem_singleton.1 hb
          have old : a ∈ names := (ih.mem_iff a).1 ha
          have new : b ∉ names := fun h => known ((ih.mem_iff b).2 h)
          rw [List.idxOf_append_of_mem old, List.idxOf_append_of_notMem new]
          exact Nat.lt_add_right _ (List.idxOf_lt_length_of_mem old)

/-- Names that are not repeated are all counted. -/
theorem distinct_of_nodup {names : List String} (h : names.Nodup) : distinct names = names := by
  induction names using List.reverseRecOn with
  | nil => rfl
  | append_singleton names name ih =>
      obtain ⟨before, -, apart⟩ := List.nodup_append.1 h
      have fresh : name ∉ names :=
        fun known => apart name known name (List.mem_singleton_self _) rfl
      rw [distinct_concat, ih before, if_neg fresh]

end Keyed

/-- Named entries no two of which have the same name. -/
structure Dict (α : Type) where
  entries : Keyed α
  distinct : (Keyed.keys entries).Nodup

namespace Dict

variable {α : Type}

/-- The entries of a list of pairs, in which a later pair replaces an earlier one of its name. -/
def ofList (pairs : List (String × α)) : Dict α :=
  ⟨Keyed.ofList pairs, Keyed.nodup_keys_ofList pairs⟩

end Dict

end DocQuery
