/-
Module: DocQuery.Proofs.StoreReads
Purpose: What was put into a store is read from it until its name is put or dropped again.
Main exports: StoreMove.Names, OrderedMap.text?_after, Session.Settled, Session.settled_of_call,
  Session.Settled.after, Session.Serves, Session.put_is_read
-/
import DocQuery.Proofs.FileRewrite
import DocQuery.Proofs.StoreHistory
import DocQuery.Proofs.Trimming

namespace DocQuery

/-! ### Moves that leave a name alone

A map keeps the text of a name through every move that is not about this name, by induction on the
moves. -/

/-- A move that puts or drops a name. -/
def StoreMove.Names (key : String) : StoreMove → Prop
  | .call (.put name _) => Text.trimText name = key
  | .call (.drop name) => name = key
  | .reload => False

instance (key : String) : (move : StoreMove) → Decidable (move.Names key)
  | .call (.put name _) => inferInstanceAs (Decidable (Text.trimText name = key))
  | .call (.drop name) => inferInstanceAs (Decidable (name = key))
  | .reload => inferInstanceAs (Decidable False)

/-- A name with white space around it is never put, only dropped. -/
theorem StoreMove.Names.eq_drop {move : StoreMove} {name : String} (h : move.Names name)
    (untidy : name ≠ Text.trimText name) : move = .call (.drop name) := by
  cases move with
  | reload => exact h.elim
  | call c =>
      cases c with
      | put other text =>
          have tidy : Text.trimText other = name := h
          exact absurd (by rw [← tidy, Text.trimText_trimText]) untidy
      | drop other =>
          have same : other = name := h
          rw [same]

namespace OrderedMap

variable {kind : StoreKind} {m m' : OrderedMap} {key : String}

theorem eq_insert_of_call {name text : String} (h : m.call kind (.put name text) = some m') :
    m' = m.insert (Text.trimText name) (kind.kept text) := by
  rw [call] at h
  split at h
  · cases h
  · exact (Option.some.inj h).symm

/-- A move changes no text but the one under its own name. -/
theorem text?_moved {move : StoreMove} (other : ¬ move.Names key) :
    (m.moved kind move).text? key = m.text? key := by
  cases move with
  | reload => rfl
  | call c =>
      cases c with
      | put name text =>
          have ne : key ≠ Text.trimText name := fun same => other same.symm
          rw [moved, call]
          split
          · rfl
          · exact Function.update_of_ne ne ..
      | drop name =>
          have ne : key ≠ name := fun same => other same.symm
          rw [moved, call]
          split
          · exact Function.update_of_ne ne ..
          · rfl

/-- A text stays until its name is put or dropped. -/
theorem text?_after {moves : List StoreMove} (others : ∀ move ∈ moves, ¬ move.Names key) :
    (m.after kind moves).text? key = m.text? key := by
  induction moves generalizing m with
  | nil => rfl
  | cons move moves ih =>
      obtain ⟨first, rest⟩ := List.forall_mem_cons.1 others
      exact (ih rest).trans (text?_moved first)

end OrderedMap

/-! ### Sessions whose file was written

Once a file was written it can be written again, so that from then on no call meets a fault of a
file. -/

/-- Loading a store changes nothing that is found. -/
theorem StoreKind.keepsFiles_load (kind : StoreKind) (path : FilePath) :
    Work.KeepsFiles (kind.load path) := by
  have read : Work.KeepsFiles (StoreFile.readText path) :=
    (Work.keepsFiles_find? path).bind fun
      | none => Work.keepsFiles_pure _
      | some _ => Work.keepsFiles_readText path
  cases kind with
  | mappings =>
      refine read.bind fun text => ?_
      split
      · exact Work.keepsFiles_pure _
      · exact Work.keepsFiles_throw _
      · exact Work.keepsFiles_throw _
  | queries =>
      refine read.bind fun text => ?_
      split
      · exact Work.keepsFiles_pure _
      · exact (Work.keepsFiles_warn _).bind fun _ => Work.keepsFiles_pure _
      · exact (Work.keepsFiles_warn _).bind fun _ => Work.keepsFiles_pure _

namespace Session

/-- A session that holds an ordered map in a file that is there. -/
structure Settled (s : Session) (path : FilePath) (m : OrderedMap) : Prop extends
    s.Holds path m where
  hasFile : s.workspace.HasFile path

variable {kind : StoreKind} {s : Session} {path : FilePath} {m : OrderedMap}

/-- A call that succeeded has written the whole store. -/
theorem settled_of_call (represents : s.file.store.Represents m) {c : StoreCall}
    (done : (s.move kind (.call c)).1 = .ok ()) :
    ∃ m', m.call kind c = some m' ∧ (s.move kind (.call c)).2.Settled s.file.path m' := by
  have agrees := represents.edit kind c
  generalize m.call kind c = made at agrees
  generalize edited : kind.edit c s.file.store = edited' at agrees
  cases agrees with
  | failed =>
      rw [move_of_edit_error edited] at done
      cases done
  | @made store m' represents' =>
      cases wrote : (Work.writeText s.file.path store.text).run.run s.workspace with
      | mk outcome v =>
          rw [move_of_edit_ok edited wrote] at done ⊢
          obtain rfl : outcome = .ok () := done
          exact ⟨m', rfl, holds_of_writeText represents' wrote, Work.hasFile_of_writeText wrote⟩

/-- Where the file is there, a call fails only if it fails on the ordered map. -/
theorem Settled.call_ok (h : s.Settled path m) {c : StoreCall} {m' : OrderedMap}
    (made : m.call kind c = some m') : (s.move kind (.call c)).1 = .ok () := by
  have agrees := h.represents.edit kind c
  rw [made] at agrees
  generalize edited : kind.edit c s.file.store = edited' at agrees
  cases agrees with
  | @made store _ _ =>
      obtain ⟨v, wrote⟩ := Work.exists_writeText h.hasFile store.text
      rw [← h.onPath] at wrote
      rw [move_of_edit_ok edited wrote]

/-- A step keeps the session settled and does to it what it does to the ordered map. -/
theorem Settled.move (h : s.Settled path m) (move : StoreMove) :
    (s.move kind move).2.Settled path (m.moved kind move) := by
  cases move with
  | reload =>
      obtain ⟨v, loaded, _⟩ := h.load kind
      have kept := kind.keepsFiles_load path s.workspace
      rw [loaded] at kept
      refine ⟨h.reload, ?_⟩
      rw [Session.move, h.onPath, loaded]
      exact h.hasFile.of_found_eq kept
  | call c =>
      rw [OrderedMap.moved]
      cases made : m.call kind c with
      | none =>
          have unchanged := @Holds.call_outcome kind _ _ _ h.toHolds c
          rw [made] at unchanged
          obtain ⟨fault, same⟩ := unchanged
          rw [same]
          exact h
      | some m' =>
          obtain ⟨m'', made', settled⟩ := settled_of_call h.represents (h.call_ok made)
          rw [made, Option.some.injEq] at made'
          rw [h.onPath, ← made'] at settled
          exact settled

/-- A run keeps the session settled. -/
theorem Settled.after (h : s.Settled path m) (moves : List StoreMove) :
    (s.after kind moves).Settled path (m.after kind moves) := by
  induction moves generalizing s m with
  | nil => exact h
  | cons move moves ih => exact ih (h.move move)

/-! ### Reading what was put

A call to put tidies the name, and the calls to look up, get and drop do not.  So the theorem is
about the name without white space around it, and the last one shows what happens under the name as
it was typed. -/

/-- A session answers for a name with a text: the name is there, the text is the one to get, and the
name can be dropped. -/
structure Serves (kind : StoreKind) (s : Session) (name text : String) : Prop where
  has : Keyed.has name s.file.store = true
  get : Keyed.get? name s.file.store = some text
  drops : (s.move kind (.call (.drop name))).1 = .ok ()

variable {name text : String}

/-- Exactly the names that are there can be dropped. -/
theorem Settled.drops_iff (h : s.Settled path m) :
    (s.move kind (.call (.drop name))).1 = .ok () ↔ (m.text? name).isSome = true := by
  rw [← m.named]
  constructor
  · intro dropped
    obtain ⟨_, made, _⟩ := settled_of_call h.represents dropped
    by_contra absent
    rw [OrderedMap.call, if_neg absent] at made
    cases made
  · intro there
    exact h.call_ok (by rw [OrderedMap.call, if_pos there])

theorem Settled.serves (h : s.Settled path m) (there : m.text? name = some text) :
    s.Serves kind name text where
  has := by rw [Keyed.has_eq_isSome_get?, h.represents.text?, there, Option.isSome_some]
  get := by rw [h.represents.text?, there]
  drops := h.drops_iff.2 (by rw [there, Option.isSome_some])

/-- After a text was put, it is read under its name without the white space around it, through every
history of calls and reloads in which no call puts or drops that name; there it can also be dropped.
Under a name with white space around it nothing comes to be: what is read and whether it can be
dropped is as it was before the call. -/
theorem put_is_read (kind : StoreKind) {s : Session} (distinct : (Keyed.keys s.file.store).Nodup)
    {name text : String} (done : (s.move kind (.call (.put name text))).1 = .ok ())
    (later : List StoreMove) :
    let key := Text.trimText name
    let s' := (s.move kind (.call (.put name text))).2.after kind later
    ((∀ move ∈ later, ¬ move.Names key) → s'.Serves kind key (kind.kept text)) ∧
      (name ≠ key → .call (.drop name) ∉ later →
        Keyed.has name s'.file.store = Keyed.has name s.file.store ∧
          Keyed.get? name s'.file.store = Keyed.get? name s.file.store ∧
          ((s'.move kind (.call (.drop name))).1 = .ok () ↔
            Keyed.has name s.file.store = true)) := by
  obtain ⟨m, represents⟩ := Store.exists_represents distinct
  obtain ⟨m', made, settled⟩ := settled_of_call represents done
  obtain rfl := OrderedMap.eq_insert_of_call made
  have settled' : ((s.move kind (.call (.put name text))).2.after kind later).Settled s.file.path
      ((m.insert (Text.trimText name) (kind.kept text)).after kind later) := settled.after later
  refine ⟨fun others => settled'.serves ?_, fun untidy undropped => ?_⟩
  · rw [OrderedMap.text?_after others, OrderedMap.text?_insert, Function.update_self]
  · have others : ∀ move ∈ later, ¬ move.Names name := fun move among names =>
      undropped (names.eq_drop untidy ▸ among)
    have same : ((m.insert (Text.trimText name) (kind.kept text)).after kind later).text? name =
        Keyed.get? name s.file.store := by
      rw [OrderedMap.text?_after others, OrderedMap.text?_insert, Function.update_of_ne untidy,
        represents.text?]
    refine ⟨?_, ?_, ?_⟩
    · rw [Keyed.has_eq_isSome_get?, Keyed.has_eq_isSome_get?, settled'.represents.text?, same]
    · rw [settled'.represents.text?, same]
    · rw [settled'.drops_iff, same, Keyed.has_eq_isSome_get?]

/-- A query is still there under its tidy name after others were put and dropped, and the store was
loaded anew. -/
theorem put_is_read_new_file :
    let s : Session := ⟨⟨.empty, [], [], [], [], []⟩, ⟨⟨.here, ["q.json"]⟩, []⟩⟩
    let s' := (s.move .queries (.call (.put " a " "SELECT 1"))).2.after .queries
      [.reload, .call (.put "b" "SELECT 2"), .call (.drop "b"), .reload]
    s'.Serves .queries "a" "SELECT 1" ∧ Keyed.has " a " s'.file.store = false := by
  have done : (move .queries ⟨⟨.empty, [], [], [], [], []⟩, ⟨⟨.here, ["q.json"]⟩, []⟩⟩
      (.call (.put " a " "SELECT 1"))).1 = .ok () := by rfl
  obtain ⟨tidy, untidy⟩ := put_is_read .queries (by exact List.nodup_nil) done
    [.reload, .call (.put "b" "SELECT 2"), .call (.drop "b"), .reload]
  exact ⟨tidy (by decide), (untidy (by decide) (by decide)).1⟩

/-- A query that was saved under a name with white space around it is not there under that name, its
text is not the one to get, and it cannot be dropped. -/
theorem put_is_lost_under_untidy_name :
    let s : Session := ⟨⟨.empty, [], [], [], [], []⟩, ⟨⟨.here, ["q.json"]⟩, []⟩⟩
    let saved := s.move .queries (.call (.put " a " "SELECT 1"))
    saved.1 = .ok () ∧ Keyed.has " a " saved.2.file.store = false ∧
      Keyed.get? " a " saved.2.file.store = none ∧
      (saved.2.move .queries (.call (.drop " a "))).1 = .error (.store (.noQuery " a ")) := by
  refine ⟨?_, ?_, ?_, ?_⟩ <;> rfl

end Session

end DocQuery
