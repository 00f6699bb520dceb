/-
Module: DocQuery.Keyed
Purpose: Named entries in the order of their first insertion.
Main exports: Keyed, Keyed.get?, Keyed.put, Keyed.erase, Keyed.ofList, Keyed.update, Keyed.keys
-/

namespace DocQuery

/-- Named entries in the order of their first insertion.  Every operation below keeps the names
distinct. -/
abbrev Keyed (α : Type) := List (String × α)

namespace Keyed

variable {α β : Type}

/-- The names in order. -/
def keys (entries : Keyed α) : List String :=
  entries.map Prod.fst

/-- The entry of a name. -/
def get? (key : String) (entries : Keyed α) : Option α :=
  entries.lookup key

/-- A name has an entry. -/
def has (key : String) (entries : Keyed α) : Bool :=
  entries.any fun entry => entry.1 == key

/-- Sets the entry of a name: in place if the name has one, else behind all others. -/
def put (key : String) (value : α) : Keyed α → Keyed α
  | [] => [(key, value)]
  | entry :: rest =>
      if entry.1 == key then (key, value) :: rest else entry :: put key value rest

/-- Removes the entry of a name. -/
def erase (key : String) (entries : Keyed α) : Keyed α :=
  entries.filter fun entry => entry.1 != key

/-- Sets the entries of `changes` one after the other. -/
def update (entries changes : Keyed α) : Keyed α :=
  changes.foldl (fun result entry => put entry.1 entry.2 result) entries

/-- The entries of a list of pairs, in which a later pair replaces an earlier one of its name. -/
def ofList (pairs : List (String × α)) : Keyed α :=
  update [] pairs

/-- Adds a value to the entry of a name, each entry being the list of its values in order. -/
def push (key : String) (value : α) (groups : Keyed (List α)) : Keyed (List α) :=
  put key ((get? key groups).getD [] ++ [value]) groups

/-- The texts of a list, each once, in the order of their first occurrence. -/
def distinct (names : List String) : List String :=
  names.foldl (fun seen name => if seen.contains name then seen else seen ++ [name]) []

/-! ### What an operation does to the entries -/

/-- The first entry of a name is the one to get. -/
theorem get?_cons (key name : String) (value : α) (rest : Keyed α) :
    get? key ((name, value) :: rest) = if key = name then some value else get? key rest := by
  by_cases h : key = name
  · simp [get?, h]
  · have hk : (key == name) = false := by simpa using h
    simp [get?, List.lookup_cons, hk, h]

/-- A name has an entry exactly if there is one to get. -/
theorem has_eq_isSome_get? (key : String) (entries : Keyed α) :
    has key entries = (get? key entries).isSome := by
  induction entries with
  | nil => rfl
  | cons entry rest ih =>
      rcases entry with ⟨name, value⟩
      rw [get?_cons]
      by_cases h : key = name
      · simp [has, h]
      · have hn : (name == key) = false := by simpa using Ne.symm h
        simpa [has, h, hn] using ih

/-- An entry that was set is there. -/
theorem get?_put_self (key : String) (value : α) (entries : Keyed α) :
    get? key (put key value entries) = some value := by
  induction entries with
  | nil => simp [put, get?_cons]
  | cons entry rest ih =>
      rcases entry with ⟨name, old⟩
      by_cases h : name = key
      · simp [put, get?_cons, h]
      · simpa [put, get?_cons, h, Ne.symm h] using ih

/-- Setting an entry leaves those of other names as they are. -/
theorem get?_put_of_ne {key other : String} (h : other ≠ key) (value : α) (entries : Keyed α) :
    get? other (put key value entries) = get? other entries := by
  induction entries with
  | nil => simp [put, get?_cons, h]
  | cons entry rest ih =>
      rcases entry with ⟨name, old⟩
      by_cases hn : name = key
      · subst hn
        simp [put, get?_cons, h]
      · simp [put, get?_cons, hn, ih]

/-- An entry that was removed is gone. -/
theorem has_erase_self (key : String) (entries : Keyed α) :
    has key (erase key entries) = false := by
  simp [has, erase]

end Keyed

end DocQuery
