/-
Module: DocQuery.Proofs.RecordSplit
Purpose: A record that was merged from rows of several tables splits back into these rows, and
  references read from it what they read from the rows.
Main exports: Record.mergeAll, Env.splitRow_qualifiedFields, Env.ofRecord_qualifiedFields,
  Record.Mergeable, Record.SplitLaws, Record.splitLaws
-/
import DocQuery.Proofs.EnvironmentRecord
import Mathlib.Data.List.TakeWhile

namespace DocQuery

open Outcome

/-! ### Splitting names

A qualified name is cut at its first point.  That this is where its table ends needs the name of the
table to be plain; the name of the field may hold points of its own. -/

/-- A text that holds no mark is not cut. -/
theorem Text.cutText_of_absent {mark : Char} {s : String} (absent : mark ∉ s.toList) :
    Text.cutText mark s = (s, none) := by
  have all : s.toList.dropWhile (· ≠ mark) = [] := by
    refine List.dropWhile_eq_nil_iff.2 fun c hc => ?_
    simpa using fun same : c = mark => absent (same ▸ hc)
  rw [cutText, cutAt, all]
  simp

/-- A qualified name is cut behind the name of its table. -/
theorem Record.cutText_qualifiedName {a : String} (plain : IsPlain a) (name : String) :
    Text.cutText '.' (qualifiedName a name) = (a, some name) := by
  have free : ∀ c ∈ a.toList, decide (c ≠ '.') = true := by
    intro c hc
    simpa using fun same : c = '.' => plain.2 (same ▸ hc)
  rw [Text.cutText, Text.cutAt, toList_qualifiedName, List.dropWhile_append_of_pos free,
    List.takeWhile_append_of_pos free]
  simp

/-- A text that holds no mark is a part by itself. -/
theorem Text.partsText_of_absent {mark : Char} {s : String} (absent : mark ∉ s.toList) :
    Text.partsText mark s = [s] := by
  suffices ∀ cs : List Char, mark ∉ cs → Text.partsAt mark cs = [cs] by
    rw [partsText, this s.toList absent, List.map_singleton, String.ofList_toList]
  intro cs absent
  induction cs with
  | nil => rfl
  | cons c cs ih =>
      rw [List.mem_cons, not_or] at absent
      have rest := ih absent.2
      rw [partsAt, partsWhere] at rest ⊢
      rw [List.foldr_cons, rest]
      simp [Ne.symm absent.1]

namespace Scope

/-- A plain reference is the name of a field. -/
theorem refHead_of_plain {name : String} (plain : IsPlain name) : refHead name = name := by
  rw [refHead, Text.cutText_of_absent plain.2]

theorem refPath_of_plain {name : String} (plain : IsPlain name) : refPath name = [] := by
  rw [refPath, Text.cutText_of_absent plain.2]
  rfl

/-- A qualified reference is the name of a table and that of a field. -/
theorem refHead_qualifiedName {a : String} (plain : IsPlain a) (name : String) :
    refHead (Record.qualifiedName a name) = a := by
  rw [refHead, Record.cutText_qualifiedName plain]

theorem refPath_qualifiedName {a name : String} (plain : IsPlain a) (plainName : IsPlain name) :
    refPath (Record.qualifiedName a name) = [name] := by
  rw [refPath, Record.cutText_qualifiedName plain,
    Option.filter_some_pos (by simpa using plainName.1)]
  exact Text.partsText_of_absent plainName.2

end Scope

namespace Env

variable {e : Env} {aliases : List String}

/-! ### Splitting records

By induction on the rows in scope: the fields of one row come in a stretch, the first of them starts
a row, and the others are put behind it. -/

/-- Adds a field of a composed record to the rows of its tables. -/
def addField (groups : Keyed Row) (field : String × Value) : Keyed Row :=
  let (table, name) := Text.cutText '.' field.1
  Keyed.put table (Keyed.put (name.getD "") field.2 ((Keyed.get? table groups).getD [])) groups

theorem splitRow_eq (row : Row) : Scope.splitRow row = row.foldl addField [] :=
  rfl

/-- The first field of a table starts its row. -/
theorem addField_first {groups : Keyed Row} {a : String} (plain : IsPlain a)
    (fresh : a ∉ Keyed.keys groups) (name : String) (v : Value) :
    addField groups (Record.qualifiedName a name, v) = groups ++ [(a, [(name, v)])] := by
  simp only [addField, Record.cutText_qualifiedName plain, Option.getD_some,
    Keyed.get?_eq_none_iff.2 fresh, Option.getD_none]
  exact Keyed.put_of_fresh fresh

/-- A later field of the same table goes behind the fields of its row. -/
theorem addField_later {groups : Keyed Row} {a : String} (plain : IsPlain a)
    (fresh : a ∉ Keyed.keys groups) {row : Row} {name : String} (new : name ∉ Keyed.keys row)
    (v : Value) :
    addField (groups ++ [(a, row)]) (Record.qualifiedName a name, v) =
      groups ++ [(a, row ++ [(name, v)])] := by
  have found : Keyed.get? a (groups ++ [(a, row)]) = some row := by
    simp [Keyed.get?_append, Keyed.get?_eq_none_iff.2 fresh, Keyed.get?_cons]
  simp only [addField, Record.cutText_qualifiedName plain, Option.getD_some, found,
    Keyed.put_of_fresh new]
  exact Keyed.put_last fresh _ _

/-- The fields of a row that is not empty are put together again behind the rows before it. -/
theorem foldl_addField_row {groups : Keyed Row} {a : String} (plain : IsPlain a)
    (fresh : a ∉ Keyed.keys groups) {row : Row} (some' : row ≠ [])
    (distinct : (Keyed.keys row).Nodup) :
    (qualifiedRow a row).foldl addField groups = groups ++ [(a, row)] := by
  induction row using List.reverseRecOn with
  | nil => exact absurd rfl some'
  | append_singleton row field ih =>
      rcases field with ⟨name, v⟩
      rw [Keyed.keys_append] at distinct
      obtain ⟨before, -, apart⟩ := List.nodup_append.1 distinct
      have new : name ∉ Keyed.keys row :=
        fun known => apart name known name (List.mem_singleton_self _) rfl
      rw [qualifiedRow, List.map_append, List.foldl_append, ← qualifiedRow]
      by_cases first : row = []
      · subst first
        exact addField_first plain fresh name v
      · rw [ih first before]
        exact addField_later plain fresh new v

/-- The first of some rows in scope are in scope by themselves. -/
theorem Fits.left {e' : Env} (fits : Fits (e ++ e') aliases) : e.Fits (Keyed.keys e) := by
  have keys := fits.keys
  rw [Keyed.keys_append] at keys
  refine ⟨rfl, ?_, fun a ha => fits.plain a ?_, fun entry hentry => fits.rows entry ?_⟩
  · exact (keys ▸ fits.distinct).of_append_left
  · exact keys ▸ List.mem_append_left _ ha
  · exact List.mem_append_left _ hentry

/-- The last of some rows in scope belongs to another table than those before. -/
theorem Fits.fresh {a : String} {row : Row} (fits : Fits (e ++ [(a, row)]) aliases) :
    a ∉ Keyed.keys e := by
  have distinct := fits.distinct
  rw [← fits.keys, Keyed.keys_append] at distinct
  exact fun known => (List.nodup_append.1 distinct).2.2 a known a (List.mem_singleton_self _) rfl

/-- Rows that are not empty split off the record that is composed of them. -/
theorem splitRow_qualifiedFields (fits : e.Fits aliases) (some' : ∀ entry ∈ e, entry.2 ≠ []) :
    Scope.splitRow e.qualifiedFields = e := by
  rw [splitRow_eq]
  induction e using List.reverseRecOn generalizing aliases with
  | nil => rfl
  | append_singleton e entry ih =>
      rcases entry with ⟨a, row⟩
      have last : (a, row) ∈ e ++ [(a, row)] := List.mem_append_right _ (List.mem_singleton_self _)
      have named : a ∈ aliases := fits.keys ▸ List.mem_map_of_mem last
      rw [qualifiedFields_append, List.foldl_append,
        ih fits.left fun entry hentry => some' entry (List.mem_append_left _ hentry),
        qualifiedFields_cons, qualifiedFields_nil, List.append_nil]
      exact foldl_addField_row (fits.plain a named) fits.fresh (some' _ last) (fits.rows _ last)

/-! ### The scope of a composed record

The scope is made from the rows that the record splits into, one table for each. -/

theorem keys_hold_point {key : String} (h : key ∈ Keyed.keys e.qualifiedFields) :
    '.' ∈ key.toList := by
  obtain ⟨a, -, name, rfl⟩ := mem_keys_qualifiedFields h
  rw [Record.toList_qualifiedName]
  simp

theorem rowsOf_qualifiedFields (fits : e.Fits aliases) (rows : e ≠ [])
    (some' : ∀ entry ∈ e, entry.2 ≠ []) : Scope.rowsOf ⟨e.qualifiedFields, none⟩ = e := by
  have composed : e.qualifiedFields ≠ [] := by
    obtain ⟨⟨a, row⟩, rest, rfl⟩ := List.exists_cons_of_ne_nil rows
    have field := some' (a, row) List.mem_cons_self
    simp [qualifiedRow, field]
  have pointed : e.qualifiedFields.all (fun field => field.1.toList.contains '.') = true := by
    refine List.all_eq_true.2 fun field hfield => ?_
    rw [List.contains_iff_mem]
    exact keys_hold_point (List.mem_map_of_mem hfield)
  have split := splitRow_qualifiedFields fits some'
  simp only [Scope.rowsOf, pointed, Bool.and_true, Bool.not_eq_true', List.isEmpty_eq_false_iff,
    if_pos composed, split]

/-- Rows of different tables are each the only one of its table. -/
theorem foldl_push (fits : e.Fits aliases) :
    e.foldl (fun groups (table, row) => Keyed.push table row groups) [] =
      e.map fun (a, row) => (a, [row]) := by
  induction e using List.reverseRecOn generalizing aliases with
  | nil => rfl
  | append_singleton e entry ih =>
      rcases entry with ⟨a, row⟩
      have fresh : a ∉ Keyed.keys (e.map fun (a, row) => (a, [row])) := by
        simpa [Keyed.keys, Function.comp_def] using fits.fresh
      rw [List.foldl_append, ih fits.left, List.map_append]
      exact Keyed.push_of_fresh fresh row

/-- The scope of the tables that rows in scope belong to, each with the field names of its row. -/
def ownScope (e : Env) : Scope :=
  ⟨e.map fun (a, row) => (a, Keyed.keys row)⟩

/-- The scope of a composed record is that of the rows that it was composed of. -/
theorem ofRecord_qualifiedFields (fits : e.Fits aliases) (rows : e ≠ [])
    (some' : ∀ entry ∈ e, entry.2 ≠ []) :
    Scope.ofRecord ⟨e.qualifiedFields, none⟩ = e.ownScope := by
  have grouped : ([(⟨e.qualifiedFields, none⟩ : Record)].flatMap Scope.rowsOf).foldl
      (fun groups (table, row) => Keyed.push table row groups) [] =
        e.map fun (a, row) => (a, [row]) := by
    rw [List.flatMap_singleton, rowsOf_qualifiedFields fits rows some', foldl_push fits]
  have bound : (e.map fun (a, row) => (a, [row])).isEmpty = false := by
    simpa using rows
  have fields (entry : String × Row) (h : entry ∈ e) :
      Table.fieldNames ⟨entry.1, [entry.2], none⟩ = Keyed.keys entry.2 := by
    rw [Table.fieldNames, List.flatMap_singleton, Keyed.distinct_of_nodup (fits.rows entry h)]
  rw [Scope.ofRecord, Scope.ofRecords, ownScope]
  simp only [grouped, bound, Bool.false_eq_true, if_false, Scope.ofTables, List.map_map]
  congr 1
  refine List.map_congr_left fun entry hentry => ?_
  simp only [Function.comp_apply, fields entry hentry]

/-! ### References to a composed record

With that scope a reference is located as among the rows themselves, and read from the composed
record as from the row. -/

theorem aliases_ownScope (e : Env) : e.ownScope.aliases = Keyed.keys e := by
  simp [Scope.aliases, ownScope, Keyed.keys, Function.comp_def]

/-- The rows in scope that have a field of a name. -/
def carriers (e : Env) (name : String) : Env :=
  e.filter fun entry => name ∈ Keyed.keys entry.2

/-- The owners of a field are the tables whose rows have it. -/
theorem owners_ownScope (fits : e.Fits aliases) (name : String) :
    e.ownScope.owners name = Keyed.keys (e.carriers name) := by
  have distinct : e.ownScope.aliases.Nodup := by
    rw [aliases_ownScope, fits.keys]
    exact fits.distinct
  rw [Scope.owners, aliases_ownScope, Keyed.keys, Keyed.keys, List.filter_map, carriers]
  congr 1
  refine List.filter_congr fun entry hentry => ?_
  have bound : (entry.1, Keyed.keys entry.2) ∈ e.ownScope.tables := List.mem_map_of_mem hentry
  simp [Scope.fieldsOf?_of_mem distinct bound]

/-- A composed record has the fields of each row. -/
theorem field_qualifiedFields (fits : e.Fits aliases) {a : String} {row : Row} (h : (a, row) ∈ e)
    (name : String) :
    Record.field ⟨e.qualifiedFields, none⟩ a name = (Keyed.get? name row).getD .null := by
  have named : a ∈ aliases := fits.keys ▸ List.mem_map_of_mem h
  have distinct : (Keyed.keys e).Nodup := fits.keys ▸ fits.distinct
  have found := get?_qualifiedFields fits.isolated.separate named (fun b hb => fits.keys ▸ hb)
    distinct name
  rw [Keyed.get?_of_mem distinct h] at found
  simp only [Record.field, Record.valueOf, if_neg (fits.plain a named).1, found, Option.bind_some]

/-- A reference that points at a field of a row reads it from the composed record. -/
theorem resolve_of_located (fits : e.Fits aliases) {a : String} {row : Row} (h : (a, row) ∈ e)
    {scope : Scope} {ref name : String}
    (located : scope.locate Scope.anyClause ref = .ok ⟨some a, name, []⟩) :
    scope.resolve ⟨e.qualifiedFields, none⟩ ref = .ok ((Keyed.get? name row).getD .null) := by
  rw [Scope.resolve, located, ok_bind, ← field_qualifiedFields fits h]
  rfl

/-- A qualified reference reads the field of the row of its table. -/
theorem resolve_qualifiedName (fits : e.Fits aliases) {a : String} {row : Row} (h : (a, row) ∈ e)
    {name : String} (plain : IsPlain name) :
    e.ownScope.resolve ⟨e.qualifiedFields, none⟩ (Record.qualifiedName a name) =
      .ok ((Keyed.get? name row).getD .null) := by
  have named : a ∈ aliases := fits.keys ▸ List.mem_map_of_mem h
  have plainA := fits.plain a named
  have bound : e.ownScope.isBound a = true := by
    rw [Scope.isBound, aliases_ownScope, List.contains_iff_mem]
    exact List.mem_map_of_mem h
  refine resolve_of_located fits h ?_
  simp [Scope.locate, Scope.refHead_qualifiedName plainA, bound,
    Scope.refPath_qualifiedName plainA plain]

/-- A field name that several rows have is rejected. -/
theorem resolve_ambiguous (fits : e.Fits aliases) {name : String} (plain : IsPlain name)
    (several : 2 ≤ (e.carriers name).length) (r : Record) :
    e.ownScope.resolve r name =
      .error (.ambiguousField name (Keyed.keys (e.carriers name))) := by
  have located : e.ownScope.locate Scope.anyClause name =
      .error (.ambiguousField name (Keyed.keys (e.carriers name))) := by
    rw [Scope.locate, owners_ownScope fits]
    rcases found : e.carriers name with _ | ⟨first, _ | ⟨second, rest⟩⟩
    · simp [found] at several
    · simp [found] at several
    · simp [Scope.refHead_of_plain plain, Scope.refPath_of_plain plain, found, Keyed.keys]
  rw [Scope.resolve, located, error_bind]

/-- A field name reads the field of the only row that has it. -/
theorem resolve_owned (fits : e.Fits aliases) {a name : String} {row : Row} (plain : IsPlain name)
    (only : e.carriers name = [(a, row)]) :
    e.ownScope.resolve ⟨e.qualifiedFields, none⟩ name = .ok ((Keyed.get? name row).getD .null) := by
  have h : (a, row) ∈ e := List.mem_of_mem_filter (only ▸ List.mem_singleton_self _)
  refine resolve_of_located fits h ?_
  rw [Scope.locate, owners_ownScope fits]
  simp [Scope.refHead_of_plain plain, Scope.refPath_of_plain plain, only, Keyed.keys]

/-- A field name that no row has reads as null. -/
theorem resolve_unowned (fits : e.Fits aliases) (rows : e ≠ []) {name : String}
    (plain : IsPlain name) (missing : e.carriers name = []) :
    e.ownScope.resolve ⟨e.qualifiedFields, none⟩ name = .ok .null := by
  have owners : e.ownScope.owners name = [] := by
    rw [owners_ownScope fits, missing]
    rfl
  -- A single table takes every plain name for a field of its own, so null is what its row says;
  -- several tables leave the name without one.
  match e, rows with
  | [(a, row)], _ =>
      have absent : Keyed.get? name row = none := by
        simpa [carriers, Keyed.get?_eq_none_iff] using missing
      have located : (ownScope [(a, row)]).locate Scope.anyClause name =
          .ok ⟨some a, name, []⟩ := by
        simp [Scope.locate, Scope.refHead_of_plain plain, Scope.refPath_of_plain plain, owners,
          aliases_ownScope, Keyed.keys]
      rw [resolve_of_located fits List.mem_cons_self located, absent]
      rfl
  | first :: second :: rest, _ =>
      have located : (ownScope (first :: second :: rest)).locate Scope.anyClause name =
          .ok ⟨none, name, []⟩ := by
        simp [Scope.locate, Scope.refHead_of_plain plain, Scope.refPath_of_plain plain, owners,
          aliases_ownScope, Keyed.keys]
      rw [Scope.resolve, located, ok_bind]
      rfl

/-! ### Merging records

The records to be merged stand for rows in scope, so that merging them one after the other composes
these. -/

/-- Rows in scope as records of their tables. -/
def records (e : Env) : List Record :=
  e.map fun (a, row) => ⟨row, some a⟩

/-- Merging records to a composed one adds their rows to those in scope. -/
theorem foldl_merge {e' : Env} (fits : Fits (e ++ e') aliases) (rows : e ≠ []) :
    e'.records.foldl Record.merge e.record = (e ++ e').record := by
  induction e' generalizing e with
  | nil => rw [List.append_nil]; rfl
  | cons entry e' ih =>
      rcases entry with ⟨a, row⟩
      have split : e ++ (a, row) :: e' = e ++ [(a, row)] ++ e' := by simp
      rw [split] at fits ⊢
      have merged : e.record.merge ⟨row, some a⟩ = (e ++ [(a, row)]).record :=
        merge_record fits.left.isolated rows rfl
      rw [records, List.map_cons, List.foldl_cons, merged]
      exact ih fits (by simp)

end Env

namespace Record

/-- Records merged from left to right.  A single one has its names qualified. -/
def mergeAll : List Record → Record
  | [] => ⟨[], none⟩
  | [r] => r.qualified
  | r :: records => records.foldl merge r

theorem mergeAll_records {e : Env} {aliases : List String} (fits : e.Fits aliases) :
    mergeAll e.records = ⟨e.qualifiedFields, none⟩ := by
  match e with
  | [] => rfl
  | [(a, row)] => simp [mergeAll, Env.records, qualified, Env.qualifiedRow]
  | first :: second :: rest =>
      have apart : Env.Fits ([first] ++ second :: rest) aliases := fits
      exact Env.foldl_merge apart (List.cons_ne_nil _ _)

/-- Records of different tables whose names are plain, none of them without fields and none with two
fields of one name. -/
structure Mergeable (records : List Record) : Prop where
  some' : records ≠ []
  tagged : ∀ r ∈ records, ∃ a, r.aliasName = some a ∧ IsPlain a
  distinct : (records.map Record.aliasName).Nodup
  fields : ∀ r ∈ records, r.fields ≠ [] ∧ (Keyed.keys r.fields).Nodup

/-- Records that can be merged are rows in scope of their tables. -/
theorem Mergeable.exists_env {records : List Record} (h : Mergeable records) :
    ∃ e : Env, records = e.records ∧ e.Fits (Keyed.keys e) ∧ e ≠ [] ∧
      ∀ entry ∈ e, entry.2 ≠ [] := by
  have named : ∀ r ∈ records, r.aliasName = some (r.aliasName.getD "") := by
    intro r hr
    obtain ⟨a, tagged, -⟩ := h.tagged r hr
    rw [tagged]
    rfl
  refine ⟨records.map fun r => (r.aliasName.getD "", r.fields), ?_, ⟨rfl, ?_, ?_, ?_⟩, ?_, ?_⟩
  · have same : ∀ r ∈ records, (⟨r.fields, some (r.aliasName.getD "")⟩ : Record) = r :=
      fun r hr => congrArg (Record.mk r.fields) (named r hr).symm
    rw [Env.records, List.map_map]
    exact ((List.map_congr_left same).trans (List.map_id _)).symm
  · have distinct := h.distinct
    rw [List.map_congr_left named, ← Function.comp_def some, ← List.map_map] at distinct
    simpa [Keyed.keys, Function.comp_def] using distinct.of_map
  · intro a ha
    simp only [Keyed.keys, List.map_map, Function.comp_def] at ha
    obtain ⟨r, hr, rfl⟩ := List.mem_map.1 ha
    obtain ⟨a, tagged, plain⟩ := h.tagged r hr
    rwa [tagged]
  · exact List.forall_mem_map.2 fun r hr => (h.fields r hr).2
  · simpa using h.some'
  · exact List.forall_mem_map.2 fun r hr => (h.fields r hr).1

/-- What the scope of a merged record and references to it come to. -/
structure SplitLaws (records : List Record) (merged : Record) (scope : Scope) : Prop where
  /-- The tables of the records are bound in their order. -/
  aliases : scope.aliases.map some = records.map Record.aliasName
  /-- With the name of its table a field reads as in the record of that table. -/
  qualified : ∀ r ∈ records, ∀ a, r.aliasName = some a → ∀ name, IsPlain name →
    scope.resolve merged (qualifiedName a name) = .ok (r.valueOf name)
  ambiguous_iff : ∀ name, IsPlain name →
    ((∃ owners, scope.resolve merged name = .error (.ambiguousField name owners)) ↔
      2 ≤ records.countP fun r => name ∈ Keyed.keys r.fields)
  /-- Without it a field that only one record has reads as there. -/
  owned : ∀ name, IsPlain name → (records.countP fun r => name ∈ Keyed.keys r.fields) = 1 →
    ∀ r ∈ records, name ∈ Keyed.keys r.fields → scope.resolve merged name = .ok (r.valueOf name)
  unowned : ∀ name, IsPlain name → (∀ r ∈ records, name ∉ Keyed.keys r.fields) →
    scope.resolve merged name = .ok .null

theorem splitLaws {records : List Record} (mergeable : Mergeable records) :
    SplitLaws records (mergeAll records) (Scope.ofRecord (mergeAll records)) := by
  obtain ⟨e, rfl, fits, rows, some'⟩ := mergeable.exists_env
  -- The laws are facts about the rows in scope, whose scope the merged record gives back.
  have count (name : String) : (e.records.countP fun r => name ∈ Keyed.keys r.fields) =
      (e.carriers name).length := by
    rw [Env.records, List.countP_map, Env.carriers, List.countP_eq_length_filter]
    rfl
  rw [mergeAll_records fits, Env.ofRecord_qualifiedFields fits rows some']
  constructor
  case aliases =>
    rw [Env.aliases_ownScope]
    simp [Env.records, Keyed.keys, Function.comp_def]
  case qualified =>
    rintro r hr a tagged name plain
    obtain ⟨⟨b, row⟩, h, rfl⟩ := List.mem_map.1 hr
    cases tagged
    exact Env.resolve_qualifiedName fits h plain
  case ambiguous_iff =>
    intro name plain
    rw [count]
    constructor
    · rintro ⟨owners, rejected⟩
      rcases found : e.carriers name with _ | ⟨⟨a, row⟩, _ | ⟨second, rest⟩⟩
      · rw [Env.resolve_unowned fits rows plain found] at rejected
        cases rejected
      · rw [Env.resolve_owned fits plain found] at rejected
        cases rejected
      · simp
    · intro several
      exact ⟨_, Env.resolve_ambiguous fits plain several _⟩
  case owned =>
    intro name plain single r hr has
    obtain ⟨⟨a, row⟩, h, rfl⟩ := List.mem_map.1 hr
    rw [count] at single
    obtain ⟨entry, only⟩ := List.length_eq_one_iff.1 single
    have here : (a, row) ∈ e.carriers name := List.mem_filter.2 ⟨h, by simpa using has⟩
    obtain rfl := List.mem_singleton.1 (only ▸ here)
    exact Env.resolve_owned fits plain only
  case unowned =>
    intro name plain missing
    refine Env.resolve_unowned fits rows plain (List.filter_eq_nil_iff.2 fun entry hentry => ?_)
    simpa using missing _ (List.mem_map_of_mem hentry)

/-- An order and a product that both have an `id`: it is read with the name of a table only.  A
field whose name holds a point stays with its table, and a null counts as a field. -/
theorem splitLaws_orders :
    let orders : Record := ⟨[("id", .int 1), ("p.id", .int 2), ("note", .null)], some "o"⟩
    let products : Record := ⟨[("id", .int 7), ("name", .string "W")], some "p"⟩
    let merged := mergeAll [orders, products]
    let scope := Scope.ofRecord merged
    Mergeable [orders, products] ∧ scope.aliases = ["o", "p"] ∧
      scope.resolve merged "p.id" = .ok (.int 7) ∧
      scope.resolve merged "id" = .error (.ambiguousField "id" ["o", "p"]) ∧
      scope.resolve merged "note" = .ok .null ∧ SplitLaws [orders, products] merged scope := by
  intro orders products merged scope
  have mergeable : Mergeable [orders, products] := by
    refine ⟨List.cons_ne_nil _ _, ?_, by decide, ?_⟩
    · rw [List.forall_mem_cons, List.forall_mem_singleton]
      exact ⟨⟨"o", rfl, by decide⟩, ⟨"p", rfl, by decide⟩⟩
    · rw [List.forall_mem_cons, List.forall_mem_singleton]
      exact ⟨⟨List.cons_ne_nil _ _, by decide⟩, ⟨List.cons_ne_nil _ _, by decide⟩⟩
  have laws := splitLaws mergeable
  refine ⟨mergeable, rfl, ?_, ?_, ?_, laws⟩
  · rfl
  · rfl
  · rfl

end Record

end DocQuery
