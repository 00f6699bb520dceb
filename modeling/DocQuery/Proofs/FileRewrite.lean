/-
Module: DocQuery.Proofs.FileRewrite
Purpose: A file that was written once can be written again, and reading files changes none.
Main exports: FileTree.exists_write, FileTree.makeDirectories_of_directory, Workspace.HasFile,
  Work.parts_ne_nil_of_writeText, Work.hasFile_of_writeText, Work.exists_writeText, Work.KeepsFiles
-/
import DocQuery.Proofs.WrittenFile

namespace DocQuery

/-! ### Files in a tree

A file that a walk arrives at lies in a directory that the walk came past, so that it can be put
there once more.  The inductions follow the names of the path. -/

namespace FileTree

variable {tree place : FileTree} {above : List FileTree} {parts : List String}

/-- A walk that arrives has come past every place on its way. -/
theorem exists_walk_of_append {end' : FileTree} {xs ys : List String}
    (h : walk above place (xs ++ ys) = .ok end') : ∃ mid, walk above place xs = .ok mid := by
  induction xs generalizing above place with
  | nil => exact ⟨place, rfl⟩
  | cons x xs ih =>
      cases place with
      | file bytes => cases h
      | directory entries =>
          simp only [List.cons_append, walk] at h ⊢
          by_cases back : x = ".."
          · simp only [back, if_true] at h ⊢
            cases above with
            | nil => exact ih h
            | cons parent rest => exact ih h
          · simp only [back, if_false] at h ⊢
            split at h
            · cases h
            · rename_i short
              rw [if_neg short]
              cases found : entries.lookup x with
              | none => simp [found] at h
              | some next =>
                  simp only [found] at h ⊢
                  exact ih h

/-- Whatever has a place in a directory that is there can be put into it. -/
theorem exists_put (thing : FileTree) {names : List String} {entries : List (String × FileTree)}
    (h : place.descend names = some (.directory entries)) (name : String) :
    ∃ place', put thing (names ++ [name]) place = .ok place' := by
  induction names generalizing place with
  | nil =>
      cases h
      exact ⟨_, rfl⟩
  | cons first names ih =>
      cases place with
      | file bytes => cases h
      | directory old =>
          obtain ⟨next, found, below⟩ := Option.bind_eq_some_iff.1 h
          obtain ⟨next', placed⟩ := ih below
          have found' : old.lookup first = some next := found
          refine ⟨.directory (Keyed.put first next' old), ?_⟩
          rw [List.cons_append, put, found', Option.getD_some, placed]
          rfl

/-- A file lies in a directory, in which it has a name. -/
theorem reached_of_locate_file {bytes : List UInt8} {name : String}
    (h : tree.locate (parts ++ [name]) = .ok (.file bytes)) :
    name ≠ ".." ∧ ∃ above entries, tree.locate parts = .ok (.directory entries) ∧
      Reached tree (followed [] parts) above (.directory entries) := by
  obtain ⟨mid, arrives⟩ := exists_walk_of_append h
  obtain ⟨above, reached, onward⟩ := Reached.root.walk arrives
  have located : walk above mid [name] = .ok (.file bytes) := (onward [name]).symm.trans h
  obtain ⟨entries, rfl, forward, _⟩ := reached.writable (.inl ⟨bytes, located⟩)
  exact ⟨forward, above, entries, arrives, reached⟩

/-- A file that is there can be written. -/
theorem exists_write {old : List UInt8} (h : tree.locate parts = .ok (.file old))
    (bytes : List UInt8) : ∃ tree', tree.write parts bytes = .ok tree' := by
  simp only [write, h, putInDirectory]
  rcases List.eq_nil_or_concat parts with rfl | ⟨parts, name, rfl⟩
  · exact ⟨_, rfl⟩
  · rw [List.concat_eq_append] at *
    obtain ⟨forward, _, entries, located, reached⟩ := reached_of_locate_file h
    have there : tree.descend (straighten parts) = some (.directory entries) := reached.descend
    rw [List.dropLast_concat, located, straighten_concat forward]
    exact exists_put _ there name

/-- Nothing is created where a directory is there. -/
theorem makeDirectories_of_directory {start reversed : List String}
    {entries : List (String × FileTree)}
    (h : tree.locate (start ++ reversed.reverse) = .ok (.directory entries)) :
    tree.makeDirectories start reversed = .ok tree := by
  cases reversed with
  | nil =>
      rw [List.reverse_nil, List.append_nil] at h
      simp only [makeDirectories, orIsThere, h]
      rfl
  | cons part above =>
      simp only [makeDirectories, makeDirectory, orIsThere, h]
      rfl

/-- The place where a path starts has to be a directory. -/
theorem makeDirectories_nil_eq_ok {start : List String} {tree' : FileTree}
    (h : tree.makeDirectories start [] = .ok tree') :
    tree' = tree ∧ ∃ entries, tree.locate start = .ok (.directory entries) := by
  simp only [makeDirectories, orIsThere] at h
  split at h
  · rename_i entries located
    cases h
    exact ⟨rfl, entries, located⟩
  · cases h

end FileTree

/-! ### Files of a workspace

A path may go back and forth, and it may be too long to be looked up.  What is said of trees is
carried over to paths by looking them up as the program does. -/

namespace Workspace

/-- A path leads to a file, and the path of its directory to a directory. -/
structure HasFile (w : Workspace) (p : FilePath) : Prop where
  file : ∃ bytes, w.found p = .ok (.file bytes)
  inDirectory : ∃ entries, w.found p.parent = .ok (.directory entries)

variable {w w' : Workspace} {p : FilePath}

theorem HasFile.of_found_eq (h : w.HasFile p) (same : ∀ q, w'.found q = w.found q) :
    w'.HasFile p where
  file := same p ▸ h.file
  inDirectory := same p.parent ▸ h.inDirectory

/-- What a path leads to is what a walk through the tree leads to. -/
theorem locate_of_found {thing : FileTree} (h : w.found p = .ok thing) :
    w.tree.locate (w.place p) = .ok thing := by
  unfold found at h
  split at h
  · cases h
  · split at h
    · cases h
    · exact h

theorem place_parent (w : Workspace) {parts : List String} {name : String}
    (h : p.parts = parts ++ [name]) : w.place p = w.place p.parent ++ [name] := by
  have same : p.parent.isAbsolute = p.isAbsolute := rfl
  have parts' : p.parent.parts = parts := by rw [FilePath.parent, h, List.dropLast_concat]
  rw [place, place, same, parts', h]
  split
  · rfl
  · exact (List.append_assoc ..).symm

end Workspace

namespace Work

variable {α β : Type} {p : FilePath} {text : String} {w w' : Workspace}

/-- A path that leads somewhere is one where something may be created. -/
theorem checkPlace_run {thing : FileTree} (h : w.found p = .ok thing) :
    (checkPlace p).run.run w = (.ok (), w.consult p) := by
  rw [checkPlace, run_lift_lookUp, h]
  rfl

/-- Nothing is created where a directory is there. -/
theorem makeDirectories_run {entries : List (String × FileTree)}
    (h : w.found p = .ok (.directory entries)) :
    (makeDirectories p).run.run w = (.ok (), w.consult p) := by
  have located : w.tree.locate
      ((if p.isAbsolute then [] else w.here) ++ p.parts.reverse.reverse) =
        .ok (.directory entries) := by
    rw [List.reverse_reverse, ← Workspace.locate_of_found h, Workspace.place]
    split <;> rfl
  have kept : w.tree.makeDirectories (if p.isAbsolute then [] else w.here) p.parts.reverse =
      .ok w.tree :=
    FileTree.makeDirectories_of_directory located
  refine run_bind_eq_ok.2 ⟨_, _, checkPlace_run h, run_bind_eq_ok.2 ⟨_, _, rfl, ?_⟩⟩
  have kept' : (w.consult p).tree.makeDirectories
      (if p.isAbsolute then [] else (w.consult p).here) p.parts.reverse = .ok w.tree := kept
  dsimp only
  rw [kept']
  rfl

/-- Where directories were created, the path of the last one can be looked up, and a path without
parts led to a directory. -/
theorem makeDirectories_eq_ok (h : (makeDirectories p).run.run w = (.ok (), w')) :
    (∀ v : Workspace, v.found p = v.tree.locate (v.place p)) ∧
      (p.parts = [] → ∃ entries, w'.found p = .ok (.directory entries)) := by
  obtain ⟨_, v, checked, h⟩ := run_bind_eq_ok.1 h
  obtain ⟨u, _, read, h⟩ := run_bind_eq_ok.1 h
  cases read
  refine ⟨checkPlace_eq_ok checked, fun short => ?_⟩
  cases made : v.tree.makeDirectories (if p.isAbsolute then [] else v.here) p.parts.reverse with
  | error fault =>
      simp only [made] at h
      cases h
  | ok tree =>
      simp only [made] at h
      cases h
      rw [short, List.reverse_nil] at made
      obtain ⟨rfl, entries, located⟩ := FileTree.makeDirectories_nil_eq_ok made
      refine ⟨entries, (checkPlace_eq_ok checked _).trans ?_⟩
      rw [Workspace.place, short, List.append_nil]
      exact located

/-- A path without parts leads to a directory, which is not written over. -/
theorem parts_ne_nil_of_writeText (h : (writeText p text).run.run w = (.ok (), w')) :
    p.parts ≠ [] := by
  intro noParts
  have same : p.parent = p := by
    rw [FilePath.parent, noParts, List.dropLast_nil, ← noParts]
  obtain ⟨_, v, made, h⟩ := run_bind_eq_ok.1 h
  rw [same] at made
  obtain ⟨entries, there⟩ := (makeDirectories_eq_ok made).2 noParts
  obtain ⟨_, _, checked, h⟩ := run_bind_eq_ok.1 h
  rw [checkPlace_run there] at checked
  cases checked
  obtain ⟨_, _, read, h⟩ := run_bind_eq_ok.1 h
  cases read
  have refused : (v.consult p).tree.write ((v.consult p).place p) (Text.encodeUtf8 text) =
      .error .isDirectory := by
    rw [FileTree.write, Workspace.locate_of_found (w := v.consult p) there]
  rw [refused] at h
  cases h

/-- A file that was written without a fault is there, in its directory. -/
theorem hasFile_of_writeText (h : (writeText p text).run.run w = (.ok (), w')) : w'.HasFile p := by
  have found := found_writeText h
  have located := Workspace.locate_of_found found
  have parts : p.parts.dropLast ++ [_] = p.parts :=
    List.dropLast_concat_getLast (parts_ne_nil_of_writeText h)
  rw [w'.place_parent parts.symm] at located
  obtain ⟨_, _, entries, directory, _⟩ := FileTree.reached_of_locate_file located
  obtain ⟨_, _, made, _⟩ := run_bind_eq_ok.1 h
  exact ⟨⟨_, found⟩, entries, ((makeDirectories_eq_ok made).1 w').trans directory⟩

/-- A file that is there can be written. -/
theorem exists_writeText (h : w.HasFile p) (text : String) :
    ∃ v, (writeText p text).run.run w = (.ok (), v) := by
  obtain ⟨⟨bytes, found⟩, entries, above⟩ := h
  obtain ⟨tree, written⟩ := FileTree.exists_write (Workspace.locate_of_found found)
    (Text.encodeUtf8 text)
  refine ⟨{ (w.consult p.parent).consult p with tree := tree },
    run_bind_eq_ok.2 ⟨_, _, makeDirectories_run above, run_bind_eq_ok.2
      ⟨_, _, checkPlace_run (w := w.consult p.parent) found, run_bind_eq_ok.2 ⟨_, _, rfl, ?_⟩⟩⟩⟩
  have written' : ((w.consult p.parent).consult p).tree.write
      (((w.consult p.parent).consult p).place p) (Text.encodeUtf8 text) = .ok tree := written
  rw [written']
  rfl

/-! ### Reading files

Reading a file and giving a warning change nothing that is found in a workspace, and neither does
anything that is made up of such steps. -/

/-- A computation that changes nothing that is found. -/
def KeepsFiles (x : Work α) : Prop :=
  ∀ w q, (x.run.run w).2.found q = w.found q

theorem keepsFiles_pure (a : α) : KeepsFiles (pure a) := fun _ _ => rfl

theorem keepsFiles_throw (e : Failure) : KeepsFiles (throw e : Work α) := fun _ _ => rfl

theorem keepsFiles_warn (text : String) : KeepsFiles (warn text) := fun _ _ => rfl

theorem KeepsFiles.bind {x : Work α} {f : α → Work β} (h : KeepsFiles x)
    (hf : ∀ a, KeepsFiles (f a)) : KeepsFiles (x >>= f) := by
  intro w q
  have first := h w q
  rw [run_bind]
  cases ran : x.run.run w with
  | mk outcome v =>
      rw [ran] at first
      cases outcome with
      | error e => exact first
      | ok a => exact (hf a v q).trans first

theorem keepsFiles_find? (p : FilePath) : KeepsFiles (find? p) := by
  intro w q
  rw [find?_run]
  rfl

theorem keepsFiles_readText (p : FilePath) : KeepsFiles (readText p) := by
  intro w q
  rw [readText, run_lift_lookUp]
  rcases w.found p with fault | bytes | entries
  · rfl
  · dsimp only
    split <;> rfl
  · rfl

end Work

end DocQuery
