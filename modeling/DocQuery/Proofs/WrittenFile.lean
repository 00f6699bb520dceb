/-
Module: DocQuery.Proofs.WrittenFile
Purpose: A text that was written into a file is what the file is read as.
Main exports: FileTree.descend, FileTree.Reached, FileTree.locate_write, Text.decodeUtf8_encodeUtf8,
  Workspace.found, Work.readText_run, Work.found_writeText, Work.failsOnFiles_writeText
-/
import DocQuery.Proofs.Entries
import DocQuery.Proofs.Outcome
import DocQuery.Source.Workspace

namespace DocQuery

open Outcome

/-! ### Ways down a tree

A tree is changed along one way down, and all else in it stays. -/

namespace FileTree

/-- The entry of a directory; a file has none. -/
def child? : FileTree → String → Option FileTree
  | .file _, _ => none
  | .directory entries, name => Keyed.get? name entries

/-- What a way down leads to, one name after the other. -/
def descend : FileTree → List String → Option FileTree
  | place, [] => some place
  | place, name :: names => (place.child? name).bind fun next => next.descend names

theorem descend_append (place : FileTree) (xs ys : List String) :
    place.descend (xs ++ ys) = (place.descend xs).bind fun next => next.descend ys := by
  induction xs generalizing place with
  | nil => rfl
  | cons x xs ih =>
      rw [List.cons_append, descend, descend]
      cases place.child? x with
      | none => rfl
      | some next => exact ih next

theorem descend_concat (place : FileTree) (names : List String) (name : String) :
    place.descend (names ++ [name]) =
      (place.descend names).bind fun next => next.child? name := by
  rw [descend_append]
  cases place.descend names with
  | none => rfl
  | some next => simp [descend]

/-- What was put into a place is there. -/
theorem descend_put {thing place place' : FileTree} {names : List String}
    (h : put thing names place = .ok place') : place'.descend names = some thing := by
  induction names generalizing place place' with
  | nil =>
      cases h
      rfl
  | cons name names ih =>
      cases place with
      | file bytes => cases h
      | directory entries =>
          obtain ⟨next, below, rfl⟩ := map_eq_ok.1 h
          rw [descend, child?, Keyed.get?_put_self]
          exact ih below

/-- Every directory of the first tree is one of the second, perhaps with other entries. -/
def KeepsDirectories (tree tree' : FileTree) : Prop :=
  ∀ names entries, tree.descend names = some (.directory entries) →
    ∃ entries', tree'.descend names = some (.directory entries')

/-- A file that takes the place of no directory leaves all directories where they are. -/
theorem put_keepsDirectories {bytes : List UInt8} {place place' : FileTree} {names : List String}
    (h : put (.file bytes) names place = .ok place')
    (free : ∀ entries, place.descend names ≠ some (.directory entries)) :
    KeepsDirectories place place' := by
  -- The induction follows the names to the file; a directory off this way is not touched.
  induction names generalizing place place' with
  | nil =>
      intro path entries there
      cases place with
      | directory entries' => exact absurd rfl (free entries')
      | file old => cases path <;> cases there
  | cons name names ih =>
      cases place with
      | file old => cases h
      | directory old =>
          obtain ⟨next, below, rfl⟩ := map_eq_ok.1 h
          intro path entries there
          cases path with
          | nil => exact ⟨_, rfl⟩
          | cons first path =>
              rw [descend, child?] at there ⊢
              by_cases same : first = name
              · subst same
                obtain ⟨sub, found, there⟩ := Option.bind_eq_some_iff.1 there
                have found' : old.lookup first = some sub := found
                rw [Keyed.get?_put_self]
                rw [found', Option.getD_some] at below
                refine ih below (fun entries' at' => free entries' ?_) path entries there
                rw [descend, child?, found]
                exact at'
              · rw [Keyed.get?_put_of_ne same]
                exact ⟨entries, there⟩

/-! ### Walks that may go back

A path with steps back leads where a way down leads that has no such steps.  `Reached` keeps both:
the directories that were passed, to go back to, and the names that lead there. -/

/-- Where a walk from the root can be: the names that led there, the last one first, and the
directories that were passed, the nearest one first. -/
inductive Reached (root : FileTree) : List String → List FileTree → FileTree → Prop where
  | root : Reached root [] [] root
  | enter {done : List String} {above : List FileTree} {entries : List (String × FileTree)}
      {name : String} {next : FileTree} (h : Reached root done above (.directory entries))
      (found : Keyed.get? name entries = some next) :
      Reached root (name :: done) (.directory entries :: above) next

/-- The names that lead to the end of a walk, the last one first. -/
def followed (done parts : List String) : List String :=
  parts.foldl (fun done part => if part = ".." then done.drop 1 else part :: done) done

theorem straighten_concat {parts : List String} {part : String} (h : part ≠ "..") :
    straighten (parts ++ [part]) = straighten parts ++ [part] := by
  simp [straighten, h]

variable {root root' place place' : FileTree} {done parts : List String}
  {above above' : List FileTree}

theorem Reached.descend (h : Reached root done above place) :
    root.descend done.reverse = some place := by
  induction h with
  | root => rfl
  | enter _ found ih =>
      rw [List.reverse_cons, descend_concat, ih]
      exact found

theorem walk_file {bytes : List UInt8} {end' : FileTree}
    (h : walk above (.file bytes) parts = .ok end') : end' = .file bytes := by
  cases parts with
  | nil =>
      cases h
      rfl
  | cons part parts => cases h

/-- A walk arrives where the names lead that are left of it, and goes on from there. -/
theorem Reached.walk (h : Reached root done above place) {end' : FileTree}
    (arrives : walk above place parts = .ok end') :
    ∃ above', Reached root (followed done parts) above' end' ∧
      ∀ more, FileTree.walk above place (parts ++ more) = FileTree.walk above' end' more := by
  induction parts generalizing done above place with
  | nil =>
      cases arrives
      exact ⟨above, h, fun _ => rfl⟩
  | cons part parts ih =>
      cases place with
      | file bytes => cases arrives
      | directory entries =>
          simp only [List.cons_append, FileTree.walk] at arrives ⊢
          by_cases back : part = ".."
          · simp only [back, if_true] at arrives ⊢
            cases h with
            | root => exact ih .root arrives
            | enter parent found => exact ih parent arrives
          · simp only [back, if_false] at arrives ⊢
            split at arrives
            · cases arrives
            · rename_i short
              cases found : entries.lookup part with
              | none => simp [found] at arrives
              | some next =>
                  simp only [found, short, if_false] at arrives ⊢
                  have entered := ih (.enter h found) arrives
                  simpa [followed, back] using entered

/-- Where the same names lead to a directory in one tree, they lead to one in a tree that keeps its
directories. -/
theorem Reached.directory_kept (kept : KeepsDirectories root root')
    {entries : List (String × FileTree)} (here : Reached root done above (.directory entries))
    (there : Reached root' done above' place') : ∃ entries', place' = .directory entries' := by
  obtain ⟨entries', at'⟩ := kept _ _ here.descend
  rw [there.descend] at at'
  exact ⟨entries', Option.some.inj at'⟩

/-- A walk to a directory can be made in every tree with the same directories. -/
theorem Reached.walk_kept (kept : KeepsDirectories root root') (h : Reached root done above place)
    (h' : Reached root' done above' place') {entries : List (String × FileTree)}
    (arrives : FileTree.walk above place parts = .ok (.directory entries)) :
    ∃ entries', FileTree.walk above' place' parts = .ok (.directory entries') := by
  -- Both walks are at the same names all the way, so that they go back together.
  induction parts generalizing done above above' place place' with
  | nil =>
      cases arrives
      obtain ⟨entries', rfl⟩ := h.directory_kept kept h'
      exact ⟨entries', rfl⟩
  | cons part parts ih =>
      cases place with
      | file bytes => cases arrives
      | directory old =>
          obtain ⟨new, rfl⟩ := h.directory_kept kept h'
          simp only [FileTree.walk] at arrives ⊢
          by_cases back : part = ".."
          · simp only [back, if_true] at arrives ⊢
            cases h with
            | root =>
                cases h'
                exact ih .root .root arrives
            | enter parent found =>
                cases h' with
                | enter parent' found' => exact ih parent parent' arrives
          · simp only [back, if_false] at arrives ⊢
            split at arrives
            · cases arrives
            · rename_i short
              simp only [short, if_false]
              cases found : old.lookup part with
              | none => simp [found] at arrives
              | some next =>
                  simp only [found] at arrives
                  cases next with
                  | file bytes => cases walk_file arrives
                  | directory entries =>
                      -- The other tree keeps this directory under the same name.
                      obtain ⟨entries', at'⟩ := kept _ _ (Reached.enter h found).descend
                      rw [List.reverse_cons, descend_concat, h'.descend] at at'
                      have found' : new.lookup part = some (.directory entries') := at'
                      simp only [found']
                      exact ih (.enter h found) (.enter h' found') arrives

/-! ### Writing a file

A file is written at the end of the directory that a path leads to.  The same path then leads to the
file, because all directories on it are still there. -/

/-- Nothing is at the end of a walk, or a file. -/
def Writable (end' : Except FileFault FileTree) : Prop :=
  (∃ old, end' = .ok (.file old)) ∨ end' = .error .notFound

theorem write_eq_ok {tree tree' : FileTree} {bytes : List UInt8}
    (h : tree.write parts bytes = .ok tree') :
    Writable (tree.locate parts) ∧ putInDirectory (.file bytes) tree parts = .ok tree' := by
  unfold write at h
  split at h
  · cases h
  · rename_i old located
    exact ⟨.inl ⟨old, located⟩, h⟩
  · rename_i located
    exact ⟨.inr located, h⟩
  · cases h

theorem walk_name {entries : List (String × FileTree)} {name : String} (forward : name ≠ "..")
    (short : ¬ name.utf8ByteSize > maxNameBytes) :
    walk above (.directory entries) [name] =
      match Keyed.get? name entries with
      | none => .error .notFound
      | some next => .ok next := by
  simp only [walk, forward, short, if_false]
  rfl

/-- The last name of a path at which a file can be written is a name in a directory. -/
theorem Reached.writable {name : String} (h : Reached root done above place)
    (writable : Writable (FileTree.walk above place [name])) :
    ∃ entries, place = .directory entries ∧ name ≠ ".." ∧
      ¬ name.utf8ByteSize > maxNameBytes ∧
      ∀ entries', Keyed.get? name entries ≠ some (.directory entries') := by
  cases place with
  | file bytes => rcases writable with ⟨old, located⟩ | located <;> cases located
  | directory entries =>
      refine ⟨entries, rfl, ?_⟩
      have forward : name ≠ ".." := by
        rintro rfl
        cases h with
        | root => rcases writable with ⟨old, located⟩ | located <;> cases located
        | enter => rcases writable with ⟨old, located⟩ | located <;> cases located
      have short : ¬ name.utf8ByteSize > maxNameBytes := by
        intro long
        simp only [FileTree.walk, forward, long, if_false, if_true] at writable
        rcases writable with ⟨old, located⟩ | located <;> cases located
      refine ⟨forward, short, fun entries' found => ?_⟩
      rw [walk_name forward short, found] at writable
      rcases writable with ⟨old, located⟩ | located <;> cases located

/-- A file that was written is found on its path, also where the path goes back and forth. -/
theorem locate_write {tree tree' : FileTree} {bytes : List UInt8}
    (h : tree.write parts bytes = .ok tree') : tree'.locate parts = .ok (.file bytes) := by
  obtain ⟨writable, placed⟩ := write_eq_ok h
  obtain ⟨directory, arrives, placed⟩ := bind_eq_ok.1 placed
  rcases List.eq_nil_or_concat parts with rfl | ⟨parts, name, rfl⟩
  · cases placed
    rfl
  · rw [List.concat_eq_append] at *
    rw [List.dropLast_concat] at arrives
    obtain ⟨above, reached, onward⟩ := Reached.root.walk arrives
    rw [locate, onward] at writable
    obtain ⟨entries, rfl, forward, short, free⟩ := reached.writable writable
    rw [straighten_concat forward] at placed
    have there : tree.descend (straighten parts) = some (.directory entries) := reached.descend
    have kept := put_keepsDirectories placed fun entries' => by
      rw [descend_concat, there]
      exact free entries'
    -- The walk to the directory can be repeated, and what it finds there is the file.
    obtain ⟨entries', again⟩ := Reached.root.walk_kept kept .root arrives
    obtain ⟨above', reached', onward'⟩ := Reached.root.walk again
    have there' : tree'.descend (straighten parts) = some (.directory entries') := reached'.descend
    have found := descend_put placed
    rw [descend_concat, there'] at found
    have found' : Keyed.get? name entries' = some (.file bytes) := found
    rw [locate, onward', walk_name forward short, found']

end FileTree

/-! ### Texts in ASCII

A text in ASCII has one byte for each character, and decoding gives it back. -/

namespace Text

/-- Only characters of ASCII. -/
def Ascii (cs : List Char) : Prop :=
  ∀ c ∈ cs, c.toNat < 128

theorem toList_eq_data (bytes : ByteArray) : bytes.toList = bytes.data.toList := by
  suffices ∀ i taken, ByteArray.toList.loop bytes i taken =
      taken.reverse ++ bytes.data.toList.drop i from this 0 []
  intro i taken
  fun_induction ByteArray.toList.loop bytes i taken with
  | case1 i taken within ih =>
      have within' : i < bytes.data.toList.length := by simpa using within
      rw [ih, List.drop_eq_getElem_cons within']
      simp [ByteArray.get!, within]
  | case2 i taken past =>
      rw [List.drop_eq_nil_of_le (by simpa using Nat.le_of_not_lt past), List.append_nil]

theorem encodeUtf8_eq (text : String) :
    encodeUtf8 text = text.toList.flatMap String.utf8EncodeChar := by
  have bytes (cs : List Char) :
      encodeUtf8 (String.ofList cs) = cs.flatMap String.utf8EncodeChar := by
    rw [encodeUtf8, String.toUTF8_eq_toByteArray, toList_eq_data]
    exact List.toList_data_toByteArray
  rw [← bytes, String.ofList_toList]

/-- A character of ASCII is one byte. -/
theorem decodeFrom_ascii {c : Char} (h : c.toNat < 128) (position : Nat) (bytes : List UInt8) :
    decodeFrom position none (String.utf8EncodeChar c ++ bytes) =
      (decodeFrom (position + 1) none bytes).map (c :: ·) := by
  have one : c.utf8Size = 1 := by
    rw [Char.utf8Size_eq_one_iff, UInt32.le_iff_toNat_le]
    exact Nat.le_of_lt_succ h
  have code : c.val.toUInt8.toNat = c.toNat := by
    rw [UInt32.toNat_toUInt8]
    exact Nat.mod_eq_of_lt (Nat.lt_trans h (by decide))
  rw [String.utf8EncodeChar_eq_singleton one, List.singleton_append, decodeFrom, code, if_pos h,
    Char.ofNat_toNat]

theorem decodeUtf8_encodeUtf8 {text : String} (ascii : Ascii text.toList) :
    decodeUtf8 (encodeUtf8 text) = .ok text := by
  suffices ∀ (cs : List Char) (position : Nat), Ascii cs →
      decodeFrom position none (cs.flatMap String.utf8EncodeChar) = .ok cs by
    rw [decodeUtf8, encodeUtf8_eq, this _ 0 ascii]
    exact congrArg Except.ok String.ofList_toList
  intro cs
  induction cs with
  | nil => exact fun _ _ => rfl
  | cons c cs ih =>
      intro position ascii
      obtain ⟨first, rest⟩ := List.forall_mem_cons.1 ascii
      rw [List.flatMap_cons, decodeFrom_ascii first, ih _ rest]
      rfl

end Text

theorem Work.unixLines_eq {cs : List Char} (h : ∀ c ∈ cs, c ≠ '\r') : unixLines cs = cs := by
  induction cs with
  | nil => rfl
  | cons c cs ih =>
      obtain ⟨first, rest⟩ := List.forall_mem_cons.1 h
      rw [unixLines, ih rest]
      · exact fun _ same => absurd same first
      · exact first

/-! ### Files of a workspace

Looking up a path leaves a trace in the workspace, but changes nothing that is found. -/

namespace Workspace

/-- What a path leads to, or what stands in the way. -/
def found (w : Workspace) (p : FilePath) : Except FileFault FileTree :=
  if p.text.toList.contains '\x00' then .error .nullByte
  else if p.text.utf8ByteSize > maxPathBytes then .error .nameTooLong
  else w.tree.locate (w.place p)

/-- The workspace in which it is known that a path was looked up. -/
def consult (w : Workspace) (p : FilePath) : Workspace :=
  { w with consulted := p :: w.consulted }

theorem lookUp_run (w : Workspace) (p : FilePath) :
    (lookUp p).run w = (w.found p, w.consult p) := by
  by_cases null : p.text.toList.contains '\x00' = true
  · simp only [lookUp, found, null, if_true]
    rfl
  · by_cases long : p.text.utf8ByteSize > maxPathBytes
    · simp only [lookUp, found, null, long, if_true]
      rfl
    · simp only [lookUp, found, null, long, if_false]
      rfl

end Workspace

namespace Work

variable {α β : Type}

theorem run_bind (x : Work α) (f : α → Work β) (w : Workspace) :
    (x >>= f).run.run w =
      match x.run.run w with
      | (.ok a, w') => (f a).run.run w'
      | (.error e, w') => (.error e, w') := by
  rw [ExceptT.run_bind, StateT.run_bind]
  rcases x.run.run w with ⟨e | a, w'⟩
  · rfl
  · rfl

theorem run_lift_lookUp (p : FilePath) (f : Except FileFault FileTree → Work α) (w : Workspace) :
    (ExceptT.lift (Workspace.lookUp p) >>= f).run.run w =
      (f (w.found p)).run.run (w.consult p) := by
  have lifted : (ExceptT.lift (Workspace.lookUp p) : Work _).run.run w =
      (.ok (w.found p), w.consult p) := by
    rw [ExceptT.lift]
    exact congrArg (fun looked : _ × Workspace => (Except.ok looked.1, looked.2))
      (Workspace.lookUp_run w p)
  rw [run_bind, lifted]

theorem find?_run (p : FilePath) (w : Workspace) :
    (find? p).run.run w =
      (match w.found p with
        | .ok thing => .ok (some thing)
        | .error .nameTooLong => .error (.file .nameTooLong p)
        | .error _ => .ok none, w.consult p) := by
  rw [find?, run_lift_lookUp]
  rcases w.found p with fault | thing
  · cases fault <;> rfl
  · rfl

/-- The text that a file is read as. -/
theorem readText_run {p : FilePath} {w : Workspace} {bytes : List UInt8} {text : String}
    (found : w.found p = .ok (.file bytes)) (decoded : Text.decodeUtf8 bytes = .ok text) :
    (readText p).run.run w = (.ok (String.ofList (unixLines text.toList)), w.consult p) := by
  rw [readText, run_lift_lookUp, found]
  simp only [decoded]
  rfl

theorem run_bind_eq_ok {x : Work α} {f : α → Work β} {b : β} {w w' : Workspace} :
    (x >>= f).run.run w = (.ok b, w') ↔
      ∃ a v, x.run.run w = (.ok a, v) ∧ (f a).run.run v = (.ok b, w') := by
  rw [run_bind]
  rcases x.run.run w with ⟨e | a, v⟩
  · constructor
    · intro h
      cases h
    · rintro ⟨a, v', h, _⟩
      cases h
  · constructor
    · exact fun h => ⟨a, v, rfl, h⟩
    · rintro ⟨a', v', h, next⟩
      cases h
      exact next

/-- A path where something may be created has no null byte and is short enough, so that looking it
up is a walk through the tree. -/
theorem checkPlace_eq_ok {p : FilePath} {w w' : Workspace}
    (h : (checkPlace p).run.run w = (.ok (), w')) :
    ∀ v : Workspace, v.found p = v.tree.locate (v.place p) := by
  rw [checkPlace, run_lift_lookUp] at h
  intro v
  unfold Workspace.found at h ⊢
  split
  case isTrue null =>
    rw [if_pos null] at h
    cases h
  case isFalse null =>
    rw [if_neg null] at h
    split
    case isTrue long =>
      rw [if_pos long] at h
      cases h
    case isFalse => rfl

/-- A file that was written without a fault is found on its path. -/
theorem found_writeText {p : FilePath} {text : String} {w w' : Workspace}
    (h : (writeText p text).run.run w = (.ok (), w')) :
    w'.found p = .ok (.file (Text.encodeUtf8 text)) := by
  obtain ⟨_, v, _, h⟩ := run_bind_eq_ok.1 h
  obtain ⟨_, v', checked, h⟩ := run_bind_eq_ok.1 h
  obtain ⟨u, _, read, h⟩ := run_bind_eq_ok.1 h
  cases read
  cases written : v'.tree.write (v'.place p) (Text.encodeUtf8 text) with
  | error fault =>
      simp only [written] at h
      cases h
  | ok tree =>
      simp only [written] at h
      cases h
      rw [checkPlace_eq_ok checked]
      exact FileTree.locate_write written

/-! ### Faults of files -/

/-- A computation that fails with a fault of a file or not at all. -/
def FailsOnFiles (x : Work α) : Prop :=
  ∀ w w' e, x.run.run w = (.error e, w') → ∃ fault p, e = .file fault p

theorem FailsOnFiles.bind {x : Work α} {f : α → Work β} (h : FailsOnFiles x)
    (hf : ∀ a, FailsOnFiles (f a)) : FailsOnFiles (x >>= f) := by
  intro w w' e run
  rw [run_bind] at run
  cases first : x.run.run w with
  | mk outcome v =>
      rw [first] at run
      cases outcome with
      | ok a => exact hf a v w' e run
      | error e' =>
          cases run
          exact h w _ _ first

theorem failsOnFiles_get : FailsOnFiles (get : Work Workspace) := by
  intro w w' e run
  cases run

theorem failsOnFiles_set (v : Workspace) : FailsOnFiles (set v : Work PUnit) := by
  intro w w' e run
  cases run

theorem failsOnFiles_throw (fault : FileFault) (p : FilePath) :
    FailsOnFiles (throw (.file fault p) : Work α) := by
  intro w w' e run
  cases run
  exact ⟨fault, p, rfl⟩

theorem failsOnFiles_checkPlace (p : FilePath) : FailsOnFiles (checkPlace p) := by
  intro w w' e run
  rw [checkPlace, run_lift_lookUp] at run
  split at run
  · exact failsOnFiles_throw _ _ _ _ _ run
  · exact failsOnFiles_throw _ _ _ _ _ run
  · cases run

theorem failsOnFiles_makeDirectories (p : FilePath) : FailsOnFiles (makeDirectories p) := by
  refine (failsOnFiles_checkPlace p).bind fun _ => failsOnFiles_get.bind fun w => ?_
  dsimp only
  split
  · exact failsOnFiles_set _
  · exact failsOnFiles_throw _ _

/-- Writing a text fails with a fault of a file or not at all. -/
theorem failsOnFiles_writeText (p : FilePath) (text : String) :
    FailsOnFiles (writeText p text) := by
  refine (failsOnFiles_makeDirectories _).bind fun _ => (failsOnFiles_checkPlace p).bind fun _ =>
    failsOnFiles_get.bind fun w => ?_
  split
  · exact failsOnFiles_set _
  · exact failsOnFiles_throw _ _

end Work

end DocQuery
