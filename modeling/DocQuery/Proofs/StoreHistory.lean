/-
Module: DocQuery.Proofs.StoreHistory
Purpose: A store and its file hold what an ordered map would hold, whatever calls were made.
Main exports: OrderedMap, StoreKind, StoreCall, Workspace.Keeps, Store.Represents, Session,
  Session.Writes, Session.history_refines
-/
import DocQuery.Proofs.StoreText
import DocQuery.Proofs.WrittenFile
import DocQuery.StoreFile
import Mathlib.Logic.Function.Basic

namespace DocQuery

/-! ### Ordered maps

The specification: what names there are, in which order, and the text of each. -/

/-- Names in the order in which they came, each with its text. -/
structure OrderedMap where
  names : List String
  text? : String → Option String
  distinct : names.Nodup
  named : ∀ name, name ∈ names ↔ (text? name).isSome = true

namespace OrderedMap

/-- Sets the text of a name.  A new name comes last, and any other keeps its place. -/
def insert (m : OrderedMap) (name text : String) : OrderedMap where
  names := if name ∈ m.names then m.names else m.names ++ [name]
  text? := Function.update m.text? name (some text)
  distinct := by
    split
    case isTrue => exact m.distinct
    case isFalse fresh =>
      exact List.nodup_append'.2 ⟨m.distinct, List.nodup_singleton name,
        List.disjoint_singleton.2 fresh⟩
  named := fun other => by
    by_cases same : other = name
    · subst same
      rw [Function.update_self]
      split <;> simp_all
    · rw [Function.update_of_ne same, ← m.named]
      split <;> simp [same]

/-- Removes a name with its text. -/
def delete (m : OrderedMap) (name : String) : OrderedMap where
  names := m.names.filter fun other => other ≠ name
  text? := Function.update m.text? name none
  distinct := m.distinct.filter _
  named := fun other => by
    by_cases same : other = name
    · subst same
      simp
    · rw [Function.update_of_ne same, ← m.named]
      simp [same]

variable (m : OrderedMap) (name text : String)

@[simp] theorem names_insert :
    (m.insert name text).names = if name ∈ m.names then m.names else m.names ++ [name] :=
  rfl

@[simp] theorem text?_insert :
    (m.insert name text).text? = Function.update m.text? name (some text) :=
  rfl

@[simp] theorem names_delete : (m.delete name).names = m.names.filter fun other => other ≠ name :=
  rfl

@[simp] theorem text?_delete : (m.delete name).text? = Function.update m.text? name none :=
  rfl

end OrderedMap

/-! ### What can be done with a store

The calls of both kinds of stores are one type, and differ in the text that is kept only. -/

/-- The two kinds of stores that are kept in files. -/
inductive StoreKind where
  | mappings
  | queries
deriving DecidableEq, Repr, Inhabited

/-- What can be asked of a store that changes it. -/
inductive StoreCall where
  | put (name text : String)
  | drop (name : String)
deriving DecidableEq, Repr, Inhabited

namespace StoreKind

/-- The store of a file. -/
def load : StoreKind → FilePath → Work StoreFile
  | .mappings => StoreFile.openMappings
  | .queries => StoreFile.openQueries

/-- What a call makes of a store. -/
def edit : StoreKind → StoreCall → Store → Except StoreFault Store
  | .mappings, .put name text, s => MappingStore.add s name text
  | .mappings, .drop name, s => MappingStore.remove s name
  | .queries, .put name text, s => QueryStore.save s name text
  | .queries, .drop name, s => QueryStore.delete s name

/-- A text as it is stored: a mapping without white space around it, a query as it is. -/
def kept : StoreKind → String → String
  | .mappings, text => Text.trimText text
  | .queries, text => text

variable (kind : StoreKind) (name text : String) (s : Store)

theorem edit_put : ∃ noName noText, kind.edit (.put name text) s =
    if Store.isBlankText name = true then .error noName
    else if Store.isBlankText text = true then .error noText
    else .ok (Keyed.put (Text.trimText name) (kind.kept text) s) := by
  cases kind with
  | mappings => exact ⟨.emptyAlias, .emptyMapping, rfl⟩
  | queries => exact ⟨.emptyName, .emptyQuery, rfl⟩

theorem edit_drop : ∃ absent, kind.edit (.drop name) s =
    if Keyed.has name s = true then .ok (Keyed.erase name s) else .error absent := by
  cases kind with
  | mappings => exact ⟨.noMapping name, rfl⟩
  | queries => exact ⟨.noQuery name, rfl⟩

end StoreKind

/-- What a call makes of an ordered map.  No name and no text may be blank, and only a name that is
there can be dropped. -/
def OrderedMap.call (kind : StoreKind) (m : OrderedMap) : StoreCall → Option OrderedMap
  | .put name text =>
      if Store.isBlankText name || Store.isBlankText text then none
      else some (m.insert (Text.trimText name) (kind.kept text))
  | .drop name => if name ∈ m.names then some (m.delete name) else none

/-! ### Stores as ordered maps

A call does the same to a store and to the map that it represents, or fails on both. -/

namespace Store

/-- A store has the names and the texts of an ordered map. -/
structure Represents (s : Store) (m : OrderedMap) : Prop where
  names : Keyed.keys s = m.names
  text? : ∀ name, Keyed.get? name s = m.text? name

theorem exists_represents {s : Store} (distinct : (Keyed.keys s).Nodup) :
    ∃ m, s.Represents m := by
  refine ⟨⟨Keyed.keys s, fun name => Keyed.get? name s, distinct, fun name => ?_⟩, rfl,
    fun _ => rfl⟩
  rw [Option.isSome_iff_ne_none, Ne, Keyed.get?_eq_none_iff, not_not]

variable {s : Store} {m : OrderedMap}

theorem Represents.put (h : s.Represents m) (name text : String) :
    Represents (Keyed.put name text s) (m.insert name text) where
  names := by rw [Keyed.keys_put, h.names, OrderedMap.names_insert]
  text? other := by
    rw [OrderedMap.text?_insert]
    by_cases same : other = name
    · subst same
      rw [Keyed.get?_put_self, Function.update_self]
    · rw [Keyed.get?_put_of_ne same, Function.update_of_ne same, h.text?]

theorem Represents.erase (h : s.Represents m) (name : String) :
    Represents (Keyed.erase name s) (m.delete name) where
  names := by rw [Keyed.keys_erase, h.names, OrderedMap.names_delete]
  text? other := by
    rw [OrderedMap.text?_delete]
    by_cases same : other = name
    · subst same
      have gone := Keyed.has_erase_self other s
      rw [Keyed.has_eq_isSome_get?, Option.isSome_eq_false_iff, Option.isNone_iff_eq_none] at gone
      rw [gone, Function.update_self]
    · rw [Keyed.get?_erase_of_ne same, Function.update_of_ne same, h.text?]

theorem Represents.has_iff (h : s.Represents m) (name : String) :
    Keyed.has name s = true ↔ name ∈ m.names := by
  rw [Keyed.has_eq_isSome_get?, h.text?, m.named]

/-- A call fails on a store and on an ordered map, or makes the same of both. -/
inductive Agrees : Except StoreFault Store → Option OrderedMap → Prop where
  | failed {fault : StoreFault} : Agrees (.error fault) none
  | made {s : Store} {m : OrderedMap} (h : s.Represents m) : Agrees (.ok s) (some m)

theorem Represents.edit (h : s.Represents m) (kind : StoreKind) (c : StoreCall) :
    Agrees (kind.edit c s) (m.call kind c) := by
  cases c with
  | put name text =>
      obtain ⟨noName, noText, edited⟩ := kind.edit_put name text s
      rw [edited, OrderedMap.call]
      by_cases blankName : isBlankText name = true
      · simpa [blankName] using Agrees.failed
      · by_cases blankText : isBlankText text = true
        · simpa [blankName, blankText] using Agrees.failed
        · simpa [blankName, blankText] using
            Agrees.made (h.put (Text.trimText name) (kind.kept text))
  | drop name =>
      obtain ⟨absent, edited⟩ := kind.edit_drop name s
      rw [edited, OrderedMap.call]
      by_cases there : name ∈ m.names
      · simpa [(h.has_iff name).2 there, there] using Agrees.made (h.erase name)
      · simpa [mt (h.has_iff name).1 there, there] using Agrees.failed

end Store

/-! ### Files that keep stores

Whether a file keeps a store depends only on what is found at its path, so that it survives
everything that does not write there. -/

namespace Workspace

/-- A path leads to a file that is read as a text. -/
def ReadsAs (w : Workspace) (path : FilePath) (text : String) : Prop :=
  ∃ bytes decoded, w.found path = .ok (.file bytes) ∧ Text.decodeUtf8 bytes = .ok decoded ∧
    String.ofList (Work.unixLines decoded.toList) = text

/-- What is at a path keeps a store: no file, a blank one or one that is a JSON object.  A path with
a name that is too long is not one without a file, since it cannot be looked up. -/
inductive Keeps (w : Workspace) (path : FilePath) : Store → Prop where
  | missing {fault : FileFault} (h : w.found path = .error fault) (short : fault ≠ .nameTooLong) :
      Keeps w path []
  | blank {text : String} (h : w.ReadsAs path text) (blank : Store.isBlankText text = true) :
      Keeps w path []
  | object {text : String} {fields : List (String × Value)} (h : w.ReadsAs path text)
      (parsed : Json.parse? text = some (.object fields)) :
      Keeps w path (fields.map fun (name, v) => (name, v.plain))

variable {w w' : Workspace} {path : FilePath} {s : Store}

theorem Keeps.of_ofText {text : String} (h : w.ReadsAs path text) (held : Store.ofText text = .ok s) :
    w.Keeps path s := by
  obtain ⟨blank, rfl⟩ | ⟨fields, parsed, rfl⟩ := Store.ofText_eq_ok_iff.1 held
  · exact .blank h blank
  · exact .object h parsed

/-- The store of a file is the one that its text holds, where a missing file is blank. -/
theorem Keeps.cases_text (h : w.Keeps path s) :
    (∃ fault, w.found path = .error fault ∧ fault ≠ .nameTooLong ∧ s = []) ∨
      ∃ text, w.ReadsAs path text ∧ Store.ofText text = .ok s := by
  cases h with
  | missing h short => exact .inl ⟨_, h, short, rfl⟩
  | blank h blank => exact .inr ⟨_, h, Store.ofText_eq_ok_iff.2 (.inl ⟨blank, rfl⟩)⟩
  | object h parsed => exact .inr ⟨_, h, Store.ofText_eq_ok_iff.2 (.inr ⟨_, parsed, rfl⟩)⟩

theorem Keeps.distinct (h : w.Keeps path s) : (Keyed.keys s).Nodup := by
  obtain ⟨_, _, _, rfl⟩ | ⟨text, _, held⟩ := h.cases_text
  · exact List.nodup_nil
  · exact Store.nodup_of_ofText held

/-- Whether a path keeps a store depends on nothing but what is found there. -/
theorem Keeps.of_found_eq (h : w.Keeps path s) (same : w'.found path = w.found path) :
    w'.Keeps path s := by
  obtain ⟨fault, found, short, rfl⟩ | ⟨text, ⟨bytes, decoded, found, rest⟩, held⟩ := h.cases_text
  · exact .missing (same.trans found) short
  · exact .of_ofText ⟨bytes, decoded, same.trans found, rest⟩ held

/-- A file into which the text of a store was written keeps the store. -/
theorem keeps_of_found_text (found : w.found path = .ok (.file (Text.encodeUtf8 s.text)))
    (distinct : (Keyed.keys s).Nodup) : w.Keeps path s := by
  have ascii : Text.Ascii s.text.toList := fun c hc => by
    have newline : '\n'.toNat = 10 := rfl
    rcases s.printed_text c hc with rfl | ⟨_, low⟩ <;> omega
  have lines : Work.unixLines s.text.toList = s.text.toList := Work.unixLines_eq fun c hc => by
    rintro rfl
    exact absurd (s.printed_text _ hc) (by decide)
  refine .of_ofText ⟨_, _, found, Text.decodeUtf8_encodeUtf8 ascii, ?_⟩ (Store.ofText_text distinct)
  rw [lines, String.ofList_toList]

end Workspace

/-- A store is read from a path that keeps it, and reading changes nothing that is found. -/
theorem StoreFile.readText_run {w : Workspace} {path : FilePath} {s : Store}
    (h : w.Keeps path s) : ∃ text v, (readText path).run.run w = (.ok text, v) ∧
      Store.ofText text = .ok s ∧ v.found path = w.found path := by
  obtain ⟨fault, found, short, rfl⟩ | ⟨text, ⟨bytes, decoded, found, decodes, rfl⟩, held⟩ :=
    h.cases_text
  · refine ⟨"", w.consult path, ?_, rfl, rfl⟩
    rw [readText, Work.run_bind, Work.find?_run, found]
    cases fault with
    | nameTooLong => exact absurd rfl short
    | _ => rfl
  · refine ⟨_, (w.consult path).consult path, ?_, held, rfl⟩
    rw [readText, Work.run_bind, Work.find?_run, found]
    exact Work.readText_run found decodes

theorem StoreKind.load_run (kind : StoreKind) {w : Workspace} {path : FilePath} {s : Store}
    (h : w.Keeps path s) :
    ∃ v, (kind.load path).run.run w = (.ok ⟨path, s⟩, v) ∧ v.found path = w.found path := by
  obtain ⟨text, v, read, held, same⟩ := StoreFile.readText_run h
  refine ⟨v, ?_, same⟩
  cases kind with
  | mappings =>
      rw [load, StoreFile.openMappings, Work.run_bind, read]
      simp only [held]
      rfl
  | queries =>
      rw [load, StoreFile.openQueries, Work.run_bind, read]
      simp only [held]
      rfl

namespace StoreFile

variable {f : StoreFile} {edit : Store → Except StoreFault Store}

theorem change_of_error {fault : StoreFault} (h : edit f.store = .error fault) (w : Workspace) :
    (f.change edit).run w = ((f, .error (.store fault)), w) := by
  simp only [change, h]
  rfl

theorem change_of_ok {s : Store} {w w' : Workspace} {outcome : Except Failure Unit}
    (h : edit f.store = .ok s)
    (wrote : (Work.writeText f.path s.text).run.run w = (outcome, w')) :
    (f.change edit).run w = ((⟨f.path, s⟩, outcome), w') := by
  simp only [change, h]
  exact congrArg (fun done : _ × Workspace => ((StoreFile.mk f.path s, done.1), done.2)) wrote

end StoreFile

/-! ### Histories

`Holds` is the invariant of a session.  A call that succeeds writes the whole store, one that fails
leaves everything as it is, and a reload reads what was written; the induction is on the history. -/

/-- A call on the store at hand, or a new store from the file, which then is the one at hand. -/
inductive StoreMove where
  | call (c : StoreCall)
  | reload
deriving DecidableEq, Repr, Inhabited

/-- An ordered map after a move: a call that fails and a reload leave it as it is. -/
def OrderedMap.moved (kind : StoreKind) (m : OrderedMap) : StoreMove → OrderedMap
  | .call c => (m.call kind c).getD m
  | .reload => m

/-- An ordered map after several moves. -/
def OrderedMap.after (kind : StoreKind) (m : OrderedMap) (moves : List StoreMove) : OrderedMap :=
  moves.foldl (moved kind) m

/-- A workspace and the store at hand, with the file that it came from. -/
structure Session where
  workspace : Workspace
  file : StoreFile

namespace Session

/-- The session that starts when a store is loaded from a path that keeps it. -/
def start (kind : StoreKind) (w : Workspace) (path : FilePath) (s : Store) : Session :=
  ⟨((kind.load path).run.run w).2, ⟨path, s⟩⟩

/-- The outcome of a move and the session after it. -/
def move (kind : StoreKind) (s : Session) : StoreMove → Except Failure Unit × Session
  | .call c =>
      let changed := (s.file.change (kind.edit c)).run s.workspace
      (changed.1.2, ⟨changed.2, changed.1.1⟩)
  | .reload =>
      match (kind.load s.file.path).run.run s.workspace with
      | (.ok file, w) => (.ok (), ⟨w, file⟩)
      | (.error e, w) => (.error e, ⟨w, s.file⟩)

/-- A session after several moves. -/
def after (kind : StoreKind) (s : Session) (moves : List StoreMove) : Session :=
  moves.foldl (fun s move => (s.move kind move).2) s

/-- No call of a history finds that the file cannot be written. -/
def Writes (kind : StoreKind) : Session → List StoreMove → Prop
  | _, [] => True
  | s, .call c :: moves =>
      (∀ fault p, (s.move kind (.call c)).1 ≠ .error (.file fault p)) ∧
        Writes kind (s.move kind (.call c)).2 moves
  | s, .reload :: moves => Writes kind (s.move kind .reload).2 moves

/-- A session on a path holds an ordered map: its store has the entries of the map, and the path
keeps them. -/
structure Holds (s : Session) (path : FilePath) (m : OrderedMap) : Prop where
  onPath : s.file.path = path
  keeps : s.workspace.Keeps path s.file.store
  represents : s.file.store.Represents m

variable {kind : StoreKind} {s : Session} {path : FilePath} {m : OrderedMap}

theorem move_of_edit_error {c : StoreCall} {fault : StoreFault}
    (h : kind.edit c s.file.store = .error fault) :
    s.move kind (.call c) = (.error (.store fault), s) := by
  rw [move, StoreFile.change_of_error h]

theorem move_of_edit_ok {c : StoreCall} {store : Store} {v : Workspace}
    {outcome : Except Failure Unit} (h : kind.edit c s.file.store = .ok store)
    (wrote : (Work.writeText s.file.path store.text).run.run s.workspace = (outcome, v)) :
    s.move kind (.call c) = (outcome, ⟨v, ⟨s.file.path, store⟩⟩) := by
  rw [move, StoreFile.change_of_ok h wrote]

/-- A call either fails on the ordered map as well and leaves the session as it is, or it is no
fault of the store if it fails. -/
theorem Holds.call_outcome (h : s.Holds path m) (c : StoreCall) :
    match m.call kind c with
    | none => ∃ fault, s.move kind (.call c) = (.error (.store fault), s)
    | some _ => ∀ fault, (s.move kind (.call c)).1 ≠ .error (.store fault) := by
  have agrees := h.represents.edit kind c
  generalize m.call kind c = made at agrees
  generalize edited : kind.edit c s.file.store = edited' at agrees
  cases agrees with
  | failed => exact ⟨_, move_of_edit_error edited⟩
  | made represents =>
      intro fault failed
      rw [move_of_edit_ok edited rfl] at failed
      obtain ⟨_, _, onFile⟩ := Work.failsOnFiles_writeText _ _ _ _ _ (Prod.ext failed rfl)
      cases onFile

/-- A store whose text was written is in the file, whatever the file held before. -/
theorem holds_of_writeText {store : Store} {w v : Workspace} (represents : store.Represents m)
    (wrote : (Work.writeText path store.text).run.run w = (.ok (), v)) :
    (Session.mk v ⟨path, store⟩).Holds path m where
  onPath := rfl
  keeps := Workspace.keeps_of_found_text (Work.found_writeText wrote)
    (represents.names ▸ m.distinct)
  represents := represents

/-- A call that meets no fault of a file does to a session what it does to the ordered map. -/
theorem Holds.call (h : s.Holds path m) {c : StoreCall}
    (writes : ∀ fault p, (s.move kind (.call c)).1 ≠ .error (.file fault p)) :
    (s.move kind (.call c)).2.Holds path (m.moved kind (.call c)) := by
  rw [OrderedMap.moved]
  have agrees := h.represents.edit kind c
  generalize m.call kind c = made at agrees
  generalize edited : kind.edit c s.file.store = edited' at agrees
  cases agrees with
  | failed =>
      rw [move_of_edit_error edited]
      exact h
  | @made store m' represents =>
      cases wrote : (Work.writeText s.file.path store.text).run.run s.workspace with
      | mk outcome v =>
          rw [move_of_edit_ok edited wrote] at writes ⊢
          cases outcome with
          | error e =>
              obtain ⟨fault, p, rfl⟩ := Work.failsOnFiles_writeText _ _ _ _ _ wrote
              exact absurd rfl (writes fault p)
          | ok done =>
              rw [h.onPath] at wrote ⊢
              exact holds_of_writeText represents wrote

/-- A store that is loaded anew is the one at hand. -/
theorem Holds.load (h : s.Holds path m) (kind : StoreKind) :
    ∃ v, (kind.load path).run.run s.workspace = (.ok s.file, v) ∧
      v.found path = s.workspace.found path := by
  obtain ⟨rfl, keeps, _⟩ := h
  exact kind.load_run keeps

theorem Holds.reload (h : s.Holds path m) : (s.move kind .reload).2.Holds path m := by
  obtain ⟨v, loaded, same⟩ := h.load kind
  rw [move, h.onPath, loaded]
  exact ⟨h.onPath, h.keeps.of_found_eq same, h.represents⟩

/-- What a session holds after a history is what the ordered map is then. -/
theorem Holds.after (h : s.Holds path m) {moves : List StoreMove} (writes : s.Writes kind moves) :
    (s.after kind moves).Holds path (m.after kind moves) := by
  induction moves generalizing s m with
  | nil => exact h
  | cons move moves ih =>
      cases move with
      | call c => exact ih (h.call writes.1) writes.2
      | reload => exact ih h.reload writes

/-- On a path that keeps a store a session can start, and after every history of calls and reloads
in which the file could be written, a new store from the file is the one at hand, which has exactly
the entries of the ordered map with the same history.  A call that fails on the ordered map fails
then on the store, and leaves both the store and the workspace with the file as they are. -/
theorem history_refines (kind : StoreKind) {w : Workspace} {path : FilePath} {first : Store}
    (keeps : w.Keeps path first) :
    let session := start kind w path first
    (kind.load path).run.run w = (.ok session.file, session.workspace) ∧
      ∃ m, first.Represents m ∧ ∀ moves, session.Writes kind moves →
        let s := session.after kind moves
        let m' := m.after kind moves
        (∃ v, (kind.load path).run.run s.workspace = (.ok s.file, v)) ∧
          s.file.store.Represents m' ∧
          ∀ c, match m'.call kind c with
            | none => ∃ fault, s.move kind (.call c) = (.error (.store fault), s)
            | some _ => ∀ fault, (s.move kind (.call c)).1 ≠ .error (.store fault) := by
  obtain ⟨v, loaded, same⟩ := kind.load_run keeps
  obtain ⟨m, represents⟩ := Store.exists_represents keeps.distinct
  have workspace : (start kind w path first).workspace = v := by rw [start, loaded]
  refine ⟨loaded.trans (by rw [workspace]; rfl), m, represents, fun moves writes => ?_⟩
  have holds : (start kind w path first).Holds path m :=
    ⟨rfl, workspace.symm ▸ keeps.of_found_eq same, represents⟩
  have holds' := holds.after writes
  obtain ⟨v', loaded', _⟩ := holds'.load kind
  exact ⟨⟨v', loaded'⟩, holds'.represents, holds'.call_outcome⟩

set_option maxRecDepth 2000 in
/-- A new file of mappings: white space is left out, the table that was removed and added again is
the last one, and nothing is removed under a name with white space. -/
theorem history_refines_new_file :
    ∃ v, (StoreKind.mappings.load ⟨.here, ["m.json"]⟩).run.run
      ((start .mappings ⟨.empty, [], [], [], [], []⟩ ⟨.here, ["m.json"]⟩ []).after .mappings
        [.reload, .call (.put " a " " $.x "), .call (.put "b" "$"), .call (.drop " a"),
          .call (.drop "a"), .call (.put "a" "$.y")]).workspace =
      (.ok ⟨⟨.here, ["m.json"]⟩, [("b", "$"), ("a", "$.y")]⟩, v) := by
  have absent : Workspace.found ⟨.empty, [], [], [], [], []⟩ ⟨.here, ["m.json"]⟩ =
      .error .notFound := by rfl
  obtain ⟨_, m, _, refines⟩ := history_refines .mappings (.missing absent (by decide))
  obtain ⟨⟨v, loaded⟩, _⟩ := refines
    [.reload, .call (.put " a " " $.x "), .call (.put "b" "$"), .call (.drop " a"),
      .call (.drop "a"), .call (.put "a" "$.y")] (by
    refine ⟨?_, ?_, ?_, ?_, ?_, trivial⟩ <;>
      · intro fault p failed
        cases failed)
  exact ⟨v, loaded⟩

end Session

end DocQuery
