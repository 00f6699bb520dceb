/-
Module: DocQuery.Proofs.EnvironmentRecord
Purpose: A composed record stands for the rows in scope that it was merged from.
Main exports: IsPlain, Separate, Env.record, Env.Isolated, Env.Fits, Env.valueIn_record,
  Env.merge_record, Env.wildcardFields_record
-/
import DocQuery.Proofs.Environment
import Mathlib.Data.List.Basic

namespace DocQuery

open Outcome

/-! ### Qualified names

A composed record tells the tables of its fields by how their names begin.  This works as long as no
name of a table can be taken for the beginning of another one's fields, which names without a point
guarantee. -/

/-- A name that is not empty and holds no point. -/
def IsPlain (aliasName : String) : Prop :=
  aliasName ≠ "" ∧ '.' ∉ aliasName.toList

instance (aliasName : String) : Decidable (IsPlain aliasName) :=
  inferInstanceAs (Decidable (_ ∧ _))

namespace Record

theorem toList_qualifiedName (aliasName name : String) :
    (qualifiedName aliasName name).toList = aliasName.toList ++ '.' :: name.toList := by
  simp [qualifiedName, String.toList_append]

/-- Texts that are cut at their first point in the same way have the same parts. -/
theorem append_point_inj {xs ys s t : List Char} (hx : '.' ∉ xs) (hy : '.' ∉ ys) :
    xs ++ '.' :: s = ys ++ '.' :: t ↔ xs = ys ∧ s = t := by
  constructor
  · intro h
    have cut {zs : List Char} (hz : '.' ∉ zs) (rest : List Char) :
        (zs ++ '.' :: rest).takeWhile (· ≠ '.') = zs := by
      rw [List.takeWhile_append_of_pos]
      · simp
      · intro c hc
        simpa using fun same : c = '.' => hz (same ▸ hc)
    have same : xs = ys := by
      rw [← cut hx s, h, cut hy t]
    subst same
    exact ⟨rfl, by simpa using h⟩
  · rintro ⟨rfl, rfl⟩
    rfl

/-- The name of a table, with a point behind it, begins every name of its fields. -/
theorem qualifiedName_begins (a name : String) :
    (qualifiedName a "").toList <+: (qualifiedName a name).toList :=
  ⟨name.toList, by simp [toList_qualifiedName]⟩

theorem qualifiedName_right_inj {a name name' : String} :
    qualifiedName a name = qualifiedName a name' ↔ name = name' := by
  simp [← String.toList_inj, toList_qualifiedName]

end Record

/-- Names of tables that can be told apart by how the names of their fields begin: none of them,
with a point behind it, begins another one with a point behind it. -/
def Separate (aliases : List String) : Prop :=
  ∀ a ∈ aliases, ∀ b ∈ aliases,
    (Record.qualifiedName a "").toList <+: (Record.qualifiedName b "").toList → a = b

instance (aliases : List String) : Decidable (Separate aliases) :=
  inferInstanceAs (Decidable (∀ a ∈ aliases, ∀ b ∈ aliases, _ → _))

namespace Separate

variable {aliases : List String}

theorem mono {some' : List String} (separate : Separate aliases)
    (within : ∀ a ∈ some', a ∈ aliases) : Separate some' :=
  fun a ha b hb => separate a (within a ha) b (within b hb)

/-- Names without a point can be told apart. -/
theorem of_plain (plain : ∀ a ∈ aliases, IsPlain a) : Separate aliases := by
  rintro a ha b hb ⟨rest, h⟩
  rw [Record.toList_qualifiedName, Record.toList_qualifiedName, List.append_assoc,
    List.cons_append] at h
  exact String.toList_inj.1 ((Record.append_point_inj (plain a ha).2 (plain b hb).2).1 h).1

/-- A name of a field begins with that of its table and with that of no other. -/
theorem begins_iff (separate : Separate aliases) {a b : String} (ha : a ∈ aliases)
    (hb : b ∈ aliases) (name : String) :
    (Record.qualifiedName a "").toList.isPrefixOf (Record.qualifiedName b name).toList = true ↔
      a = b := by
  rw [List.isPrefixOf_iff_prefix]
  constructor
  · intro h
    -- both names begin that of the field, so the shorter one begins the other
    rcases List.prefix_or_prefix_of_prefix h (Record.qualifiedName_begins b name) with hab | hba
    · exact separate a ha b hb hab
    · exact (separate b hb a ha hba).symm
  · rintro rfl
    exact Record.qualifiedName_begins a name

/-- A qualified name has one table and one field. -/
theorem qualifiedName_inj (separate : Separate aliases) {a b name name' : String}
    (ha : a ∈ aliases) (hb : b ∈ aliases) :
    Record.qualifiedName a name = Record.qualifiedName b name' ↔ a = b ∧ name = name' := by
  constructor
  · intro h
    have same : a = b := by
      rw [← separate.begins_iff ha hb name', ← h, List.isPrefixOf_iff_prefix]
      exact Record.qualifiedName_begins a name
    subst same
    exact ⟨rfl, Record.qualifiedName_right_inj.1 h⟩
  · rintro ⟨rfl, rfl⟩
    rfl

end Separate

namespace Env

/-! ### Composed records

A single row keeps its field names and its tag.  Rows of several tables are merged to one record
without a tag, all names qualified. -/

/-- The record that is composed of the rows in scope. -/
def record : Env → Record
  | [(aliasName, row)] => ⟨row, some aliasName⟩
  | e => ⟨e.qualifiedFields, none⟩

/-- The rows in scope are those of the given tables, whose names can be told apart and are not
repeated.  No row has two fields of one name. -/
structure Isolated (e : Env) (aliases : List String) : Prop where
  keys : Keyed.keys e = aliases
  distinct : aliases.Nodup
  separate : Separate aliases
  rows : ∀ entry ∈ e, (Keyed.keys entry.2).Nodup

/-- The rows in scope are those of the given tables, whose names are plain and not repeated.  No row
has two fields of one name. -/
structure Fits (e : Env) (aliases : List String) : Prop where
  keys : Keyed.keys e = aliases
  distinct : aliases.Nodup
  plain : ∀ a ∈ aliases, IsPlain a
  rows : ∀ entry ∈ e, (Keyed.keys entry.2).Nodup

theorem Fits.isolated {e : Env} {aliases : List String} (fits : e.Fits aliases) :
    e.Isolated aliases :=
  ⟨fits.keys, fits.distinct, .of_plain fits.plain, fits.rows⟩

theorem Fits.ne_nil {e : Env} {aliases : List String} (fits : e.Fits aliases)
    (some' : aliases ≠ []) : e ≠ [] := by
  rintro rfl
  exact some' fits.keys.symm

/-- With one more row in scope there is one more table. -/
theorem Fits.append {e : Env} {aliases : List String} (fits : e.Fits aliases) {a : String}
    (plain : IsPlain a) (fresh : a ∉ aliases) {row : Row} (distinct : (Keyed.keys row).Nodup) :
    Fits (e ++ [(a, row)]) (aliases ++ [a]) := by
  refine ⟨?_, ?_, ?_, ?_⟩
  · rw [Keyed.keys_append, fits.keys]
    rfl
  · exact List.nodup_append.2 ⟨fits.distinct, by simp, by
      rintro b hb c hc rfl
      exact fresh (List.mem_singleton.1 hc ▸ hb)⟩
  · intro b hb
    rcases List.mem_append.1 hb with old | new
    · exact fits.plain b old
    · exact List.mem_singleton.1 new ▸ plain
  · intro entry hentry
    rcases List.mem_append.1 hentry with old | new
    · exact fits.rows entry old
    · obtain rfl := List.mem_singleton.1 new
      exact distinct

theorem aliasName_record (e : Env) : e.record.aliasName = e.only? := by
  rcases e with _ | ⟨_, _ | ⟨_, _⟩⟩ <;> rfl

@[simp] theorem qualifiedFields_nil : qualifiedFields [] = [] :=
  rfl

@[simp] theorem qualifiedFields_cons (aliasName : String) (row : Row) (e : Env) :
    qualifiedFields ((aliasName, row) :: e) = qualifiedRow aliasName row ++ e.qualifiedFields :=
  rfl

@[simp] theorem qualifiedFields_append (e e' : Env) :
    qualifiedFields (e ++ e') = e.qualifiedFields ++ e'.qualifiedFields :=
  List.flatMap_append

/-! ### Reading fields

A reference was located before it is read, and the location says which table it is about.  Reading
then finds in the composed record the field that this row has, or null. -/

variable {e : Env} {aliases : List String}

theorem get?_qualifiedRow (separate : Separate aliases) {a b : String} (ha : a ∈ aliases)
    (hb : b ∈ aliases) (name : String) (row : Row) :
    Keyed.get? (Record.qualifiedName a name) (qualifiedRow b row) =
      if a = b then Keyed.get? name row else none := by
  induction row with
  | nil => simp [qualifiedRow]
  | cons field row ih =>
      rcases field with ⟨name', v⟩
      simp only [qualifiedRow, List.map_cons, Keyed.get?_cons] at ih ⊢
      rw [ih]
      by_cases same : a = b
      · subst same
        simp [Record.qualifiedName_right_inj]
      · simp [separate.qualifiedName_inj ha hb, same]

/-- Among qualified fields the name of a table and that of a field find this field of its row. -/
theorem get?_qualifiedFields (separate : Separate aliases) {a : String} (ha : a ∈ aliases)
    (within : ∀ b ∈ Keyed.keys e, b ∈ aliases) (distinct : (Keyed.keys e).Nodup) (name : String) :
    Keyed.get? (Record.qualifiedName a name) e.qualifiedFields =
      (Keyed.get? a e).bind (Keyed.get? name) := by
  induction e with
  | nil => rfl
  | cons entry rest ih =>
      rcases entry with ⟨b, row⟩
      obtain ⟨fresh, distinct'⟩ := List.nodup_cons.1 distinct
      have hb : b ∈ aliases := within b List.mem_cons_self
      have rest' := ih (fun c hc => within c (List.mem_cons_of_mem _ hc)) distinct'
      rw [qualifiedFields_cons, Keyed.get?_append, get?_qualifiedRow separate ha hb,
        Keyed.get?_cons, rest']
      by_cases same : a = b
      · subst same
        have missing : Keyed.get? a rest = none := Keyed.get?_eq_none_iff.2 fresh
        simp [missing]
      · simp [same]

/-- A composed record has the fields of the rows in scope. -/
theorem field_record (fits : e.Fits aliases) {a : String} (ha : a ∈ aliases) (name : String) :
    e.record.field a name = e.field a name := by
  have keys := fits.keys
  have isolated := fits.isolated
  rcases e with _ | ⟨⟨b, row⟩, _ | ⟨second, rest⟩⟩
  · subst keys
    simp [Keyed.keys] at ha
  · subst keys
    obtain rfl : a = b := by simpa [Keyed.keys] using ha
    simp [record, Record.field, Record.valueOf, field, Env.row, Keyed.get?_cons]
  · have found := get?_qualifiedFields isolated.separate ha (fun c hc => keys ▸ hc)
      (keys ▸ fits.distinct) name
    simp only [record, Record.field, Record.valueOf, if_neg (fits.plain a ha).1, found, field,
      Env.row]
    cases Keyed.get? a ((b, row) :: second :: rest) <;> rfl

/-- What a location points at in a composed record is what it points at in the rows in scope. -/
theorem valueIn_record (fits : e.Fits aliases) {l : Location}
    (bound : ∀ a, l.aliasName = some a → a ∈ aliases) {v : Value}
    (h : l.valueIn e.record = .ok v) : v = e.valueAt l := by
  unfold Location.valueIn at h
  unfold valueAt
  cases points : l.aliasName with
  | none =>
      rw [points] at h
      cases h
      rfl
  | some a =>
      rw [points] at h
      simp only [field_record fits (bound a points)] at h
      simp [Value.follow, h, Except.toOption]

/-- A reference to tables whose rows are in scope reads the same from these and from the record that
is composed of them. -/
theorem resolve_record_of_located {scope : Scope} (fits : e.Fits aliases) {clause ref : String}
    {l : Location} (located : scope.locate clause ref = .ok l)
    (bound : ∀ a, l.aliasName = some a → a ∈ aliases) {v : Value}
    (h : scope.resolve e.record ref = .ok v) : v = e.read scope ref := by
  have located' := Scope.locate_clause located Scope.anyClause
  rw [Scope.resolve, located'] at h
  rw [read, located']
  exact valueIn_record fits bound h

/-- A reference reads from a composed record what it reads from the rows in scope. -/
theorem resolve_record {scope : Scope} (fits : e.Fits scope.aliases) {ref : String} {v : Value}
    (h : scope.resolve e.record ref = .ok v) : v = e.read scope ref := by
  obtain ⟨l, located, _⟩ := bind_eq_ok.1 h
  exact resolve_record_of_located fits located
    (fun a ha => Scope.mem_aliases_of_locate located ha) h

/-! ### Merging

One more row is merged to a composed record: the fields of both have different names, so that
merging only puts them behind each other. -/

theorem keys_qualifiedRow (a : String) (row : Row) :
    Keyed.keys (qualifiedRow a row) = (Keyed.keys row).map (Record.qualifiedName a) := by
  simp [qualifiedRow, Keyed.keys, Function.comp_def]

theorem nodup_keys_qualifiedRow (a : String) {row : Row} (distinct : (Keyed.keys row).Nodup) :
    (Keyed.keys (qualifiedRow a row)).Nodup := by
  rw [keys_qualifiedRow]
  exact distinct.map fun name name' same => Record.qualifiedName_right_inj.1 same

theorem mem_keys_qualifiedFields {key : String} (h : key ∈ Keyed.keys e.qualifiedFields) :
    ∃ a ∈ Keyed.keys e, ∃ name, key = Record.qualifiedName a name := by
  induction e with
  | nil => simp [Keyed.keys] at h
  | cons entry rest ih =>
      rcases entry with ⟨a, row⟩
      rw [qualifiedFields_cons, Keyed.keys_append, List.mem_append, keys_qualifiedRow] at h
      rcases h with first | later
      · obtain ⟨name, _, rfl⟩ := List.mem_map.1 first
        exact ⟨a, List.mem_cons_self, name, rfl⟩
      · obtain ⟨b, hb, named⟩ := ih later
        exact ⟨b, List.mem_cons_of_mem _ hb, named⟩

/-- With all names qualified a record has the qualified fields of the rows in scope. -/
theorem qualified_record (e : Env) : e.record.qualified.fields = e.qualifiedFields := by
  rcases e with _ | ⟨⟨a, row⟩, _ | ⟨second, rest⟩⟩
  · rfl
  · simp [record, Record.qualified, qualifiedRow]
  · rfl

/-- The fields of one more row have names of their own. -/
theorem Isolated.disjoint {a : String} {row : Row}
    (isolated : Isolated (e ++ [(a, row)]) aliases) :
    ∀ key ∈ Keyed.keys (qualifiedRow a row), key ∉ Keyed.keys e.qualifiedFields := by
  have keys := isolated.keys
  have distinct := isolated.distinct
  rw [← keys, Keyed.keys_append] at distinct
  intro key hk before
  obtain ⟨b, hb, name, rfl⟩ := mem_keys_qualifiedFields before
  rw [keys_qualifiedRow] at hk
  obtain ⟨name', _, same⟩ := List.mem_map.1 hk
  have ha : a ∈ Keyed.keys [(a, row)] := List.mem_singleton_self a
  have within (c : String) (hc : c ∈ Keyed.keys e ∨ c ∈ Keyed.keys [(a, row)]) : c ∈ aliases := by
    rw [← keys, Keyed.keys_append]
    exact List.mem_append.2 hc
  obtain ⟨rfl, _⟩ :=
    (isolated.separate.qualifiedName_inj (within a (.inr ha)) (within b (.inl hb))).1 same
  exact List.disjoint_of_nodup_append distinct hb ha

/-- A record with the fields of one more row, merged to a composed one, composes the rows in scope
and that row. -/
theorem merge_record {a : String} {row : Row} (isolated : Isolated (e ++ [(a, row)]) aliases)
    (some' : e ≠ []) {s : Record} (hs : s.qualified.fields = qualifiedRow a row) :
    e.record.merge s = (e ++ [(a, row)]).record := by
  have distinct : (Keyed.keys row).Nodup :=
    isolated.rows (a, row) (List.mem_append_right e (List.mem_singleton_self _))
  have fields : (e ++ [(a, row)]).record = ⟨(e ++ [(a, row)]).qualifiedFields, none⟩ := by
    rcases e with _ | ⟨first, _ | ⟨second, rest⟩⟩
    · exact absurd rfl some'
    · rfl
    · rfl
  rw [Record.merge, qualified_record, hs,
    Keyed.update_of_disjoint (nodup_keys_qualifiedRow a distinct) isolated.disjoint, fields]
  simp

/-! ### Wildcards

The fields of a table are picked from a composed record by how their names begin.  If the names of
the tables can be told apart, these are all its fields and no others. -/

/-- Of the qualified fields of rows, those that begin with the name of a table are its own. -/
theorem filter_qualifiedFields (separate : Separate aliases) {t : String} (ht : t ∈ aliases)
    (within : ∀ b ∈ Keyed.keys e, b ∈ aliases) :
    e.qualifiedFields.filter
        (fun field => (Record.qualifiedName t "").toList.isPrefixOf field.1.toList) =
      qualifiedFields (e.filter fun entry => decide (t = entry.1)) := by
  induction e with
  | nil => rfl
  | cons entry rest ih =>
      rcases entry with ⟨b, row⟩
      have hb : b ∈ aliases := within b List.mem_cons_self
      have begins (field : String × Value) (h : field ∈ qualifiedRow b row) :
          (Record.qualifiedName t "").toList.isPrefixOf field.1.toList = decide (t = b) := by
        obtain ⟨⟨name, v⟩, _, rfl⟩ := List.mem_map.1 h
        rw [Bool.eq_iff_iff, separate.begins_iff ht hb, decide_eq_true_iff]
      rw [qualifiedFields_cons, List.filter_append,
        ih fun c hc => within c (List.mem_cons_of_mem _ hc), List.filter_congr begins]
      by_cases same : t = b
      · simp [same]
      · simp [same]

/-- A wildcard takes from a composed record what it takes from the rows in scope. -/
theorem wildcardFields_record (isolated : e.Isolated aliases) {table : Option String}
    (bound : ∀ a, table = some a → a ∈ aliases) :
    wildcardFields e.record table = e.wildcard table := by
  cases table with
  | none =>
      rcases e with _ | ⟨first, _ | ⟨second, rest⟩⟩
      · rfl
      · simp [wildcardFields, record, wildcard]
      · have all : (first :: second :: rest).filter
            (fun entry => (none : Option String).all (· = entry.1)) = first :: second :: rest :=
          List.filter_eq_self.2 fun _ _ => rfl
        simp only [wildcardFields, record, wildcard, all]
  | some t =>
      have filtered := filter_qualifiedFields isolated.separate (bound t rfl)
        (fun b hb => isolated.keys ▸ hb)
      rcases e with _ | ⟨⟨a, row⟩, _ | ⟨second, rest⟩⟩
      · rfl
      · by_cases same : a = t
        · simp [wildcardFields, record, wildcard, same]
        · simp [wildcardFields, record, wildcard, same, Ne.symm same]
      · simpa [wildcardFields, record, wildcard] using filtered

end Env

/-! ### Conditions

By recursion on the condition.  Nothing is said about conditions that fail on a record: the meaning
is only compared with runs that succeed. -/

namespace Condition

variable {scope : Scope} {r : Record} {read : String → Value}

theorem value_of_valueIn (reads : ∀ ref v, scope.resolve r ref = .ok v → v = read ref)
    {o : Operand} {v : Value} (h : o.valueIn scope r = .ok v) : v = o.value read := by
  cases o with
  | literal v' =>
      cases h
      rfl
  | field name => exact reads name v h

mutual

/-- A condition that can be carried out on a record holds as reading its references says. -/
theorem holds_of_eval (reads : ∀ ref v, scope.resolve r ref = .ok v → v = read ref) :
    ∀ (c : Condition) (b : Bool), c.eval scope r = .ok b → b = c.holds read
  | .compare left comparator right, b, h => by
      obtain ⟨x, hx, h⟩ := bind_eq_ok.1 h
      obtain ⟨y, hy, h⟩ := bind_eq_ok.1 h
      obtain rfl := value_of_valueIn reads hx
      obtain rfl := value_of_valueIn reads hy
      simp [holds, h, Except.toOption]
  | .and children, b, h => allHold_of_evalAll reads children b h
  | .or children, b, h => anyHolds_of_evalAny reads children b h
  | .not child, b, h => by
      obtain ⟨b', hb', h⟩ := bind_eq_ok.1 h
      cases h
      rw [holds_of_eval reads child b' hb', holds]
  | .isNull operand negated, b, h => by
      obtain ⟨x, hx, h⟩ := bind_eq_ok.1 h
      cases h
      rw [value_of_valueIn reads hx, holds]
  | .inList operand values negated, b, h => by
      obtain ⟨x, hx, h⟩ := bind_eq_ok.1 h
      cases h
      rw [value_of_valueIn reads hx, holds]
  | .like operand pattern ignoreCase negated, b, h => by
      obtain ⟨x, hx, h⟩ := bind_eq_ok.1 h
      obtain rfl := value_of_valueIn reads hx
      rw [holds]
      -- Only a string is matched; any other value fails the pattern and its negation.
      cases hv : operand.value read with
      | string s =>
          rw [hv] at h
          cases h
          rfl
      | null | bool _ | number _ | array _ | object _ =>
          rw [hv] at h
          cases h
          rfl
  | .other name, b, h => by
      cases h

theorem allHold_of_evalAll (reads : ∀ ref v, scope.resolve r ref = .ok v → v = read ref) :
    ∀ (cs : List Condition) (b : Bool), evalAll scope r cs = .ok b → b = allHold read cs
  | [], b, h => by
      cases h
      rfl
  | c :: cs, b, h => by
      obtain ⟨first, hfirst, h⟩ := bind_eq_ok.1 h
      rw [allHold, ← holds_of_eval reads c first hfirst]
      cases first with
      | false =>
          cases h
          rfl
      | true => exact allHold_of_evalAll reads cs b h

theorem anyHolds_of_evalAny (reads : ∀ ref v, scope.resolve r ref = .ok v → v = read ref) :
    ∀ (cs : List Condition) (b : Bool), evalAny scope r cs = .ok b → b = anyHolds read cs
  | [], b, h => by
      cases h
      rfl
  | c :: cs, b, h => by
      obtain ⟨first, hfirst, h⟩ := bind_eq_ok.1 h
      rw [anyHolds, ← holds_of_eval reads c first hfirst]
      cases first with
      | true =>
          cases h
          rfl
      | false => exact anyHolds_of_evalAny reads cs b h

end

end Condition

end DocQuery
