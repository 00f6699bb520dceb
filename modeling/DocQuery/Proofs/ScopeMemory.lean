/-
Module: DocQuery.Proofs.ScopeMemory
Purpose: Scopes that remember where references point answer as those do that remember nothing.
Main exports: Scope.Call, Handling, remembering, memoryless, Recall.Sound, Recall.Sound.ask,
  step_eq_memoryless, after_getElem?, scopes_transparent
-/
import DocQuery.Proofs.Scopes
import DocQuery.Record.Recall

namespace DocQuery

/-! ### Calls on scopes

Any number of scopes, questions to them and scopes derived from them, in any order.  Scopes with
memory and scopes without are each a `Handling`, so that their runs can be compared call by call. -/

namespace Scope

/-- What a scope can be asked. -/
inductive Question where
  | locate (ref clause : String)
  | resolve (r : Record) (ref : String)
  | owners (name : String)
  | isBound (aliasName : String)

/-- What a scope answers. -/
inductive Reply where
  | location (found : Except QueryError Location)
  | value (found : Except QueryError Value)
  | owners (aliases : List String)
  | isBound (answer : Bool)

/-- How a scope is derived from another one. -/
inductive Derivation where
  | extended (t : Table)
  | withFields (aliasName : String) (names : List String)
  | subset (wanted : List String)

/-- A call on one of several scopes, which are counted in the order in which they came to be. -/
inductive Call where
  | ask (target : Nat) (question : Question)
  | derive (target : Nat) (derivation : Derivation)

/-- The answer of a scope by itself. -/
def reply (scope : Scope) : Question → Reply
  | .locate ref clause => .location (scope.locate clause ref)
  | .resolve r ref => .value (scope.resolve r ref)
  | .owners name => .owners (scope.owners name)
  | .isBound aliasName => .isBound (scope.isBound aliasName)

/-- The scope that is derived from another one. -/
def derive (scope : Scope) : Derivation → Scope
  | .extended t => scope.extended t
  | .withFields aliasName names => scope.withFields aliasName names
  | .subset wanted => scope.subset wanted

/-- The questions that are put to a scope, in their order. -/
def questionsTo (i : Nat) (calls : List Call) : List Question :=
  calls.filterMap fun
    | .ask target question => if target = i then some question else none
    | .derive .. => none

end Scope

open Scope (Question Reply Derivation Call questionsTo)

namespace Recall

/-- The answer of a scope with memory, and what it remembers then. -/
def ask (memory : Recall) : Question → Reply × Recall
  | .locate ref clause =>
      let (found, memory) := memory.locate clause ref
      (.location found, memory)
  | .resolve r ref =>
      let (found, memory) := memory.resolve r ref
      (.value found, memory)
  | .owners name => (.owners (memory.scope.owners name), memory)
  | .isBound aliasName => (.isBound (memory.scope.isBound aliasName), memory)

def derive (memory : Recall) : Derivation → Recall
  | .extended t => memory.extended t
  | .withFields aliasName names => memory.withFields aliasName names
  | .subset wanted => memory.subset wanted

end Recall

/-- A way to keep scopes: how they are asked, and how others are derived from them. -/
structure Handling (σ : Type) where
  ask : σ → Question → Reply × σ
  derive : σ → Derivation → σ

/-- Scopes that remember what they located. -/
def remembering : Handling Recall :=
  ⟨Recall.ask, Recall.derive⟩

/-- Scopes that look everything up anew. -/
def memoryless : Handling Scope :=
  ⟨fun scope question => (scope.reply question, scope), Scope.derive⟩

namespace Handling

variable {σ : Type}

/-- A call on some scopes: the answer to a question, and the scopes there are then.  A derived scope
comes behind the others; a call on a scope that is not there does nothing. -/
def step (h : Handling σ) (scopes : List σ) : Call → Option Reply × List σ
  | .ask target question =>
      match scopes[target]? with
      | none => (none, scopes)
      | some scope =>
          let (reply, scope) := h.ask scope question
          (some reply, scopes.set target scope)
  | .derive target derivation =>
      match scopes[target]? with
      | none => (none, scopes)
      | some scope => (none, scopes ++ [h.derive scope derivation])

/-- The scopes there are after some calls. -/
def after (h : Handling σ) (scopes : List σ) (calls : List Call) : List σ :=
  calls.foldl (fun scopes call => (h.step scopes call).2) scopes

/-- The answers to the questions among some calls. -/
def replies (h : Handling σ) : List σ → List Call → List (Option Reply)
  | _, [] => []
  | scopes, call :: calls =>
      (h.step scopes call).1 :: h.replies (h.step scopes call).2 calls

end Handling

/-! ### One scope

The invariant: what is remembered for a text is what the scope says of it.  A question preserves it
and is answered rightly because of it. -/

namespace Recall

/-- What is remembered of a scope is what it says, whatever the clause. -/
structure Sound (memory : Recall) : Prop where
  known : ∀ {ref : String} {l : Location}, memory.known.lookup ref = some l →
    ∀ clause, memory.scope.locate clause ref = .ok l

theorem sound_fresh (scope : Scope) : (fresh scope).Sound :=
  ⟨nofun⟩

/-- A scope with memory after a question: it has answered as the scope does, it is still the same
scope, and what it remembers is right. -/
structure Answers (memory : Recall) {α : Type} (answer : α) (result : α × Recall) : Prop where
  answer : result.1 = answer
  scope : result.2.scope = memory.scope
  sound : result.2.Sound

variable {memory : Recall}

theorem Sound.locate (h : memory.Sound) (clause ref : String) :
    memory.Answers (memory.scope.locate clause ref) (memory.locate clause ref) := by
  unfold Recall.locate
  cases known : memory.known.lookup ref with
  | some l => exact ⟨(h.known known clause).symm, rfl, h⟩
  | none =>
      cases located : memory.scope.locate clause ref with
      | error e => exact ⟨rfl, rfl, h⟩
      | ok l =>
          refine ⟨rfl, rfl, ⟨fun {ref' l'} found other => ?_⟩⟩
          by_cases same : ref' = ref
          · subst same
            obtain rfl : l = l' := by simpa using found
            exact Scope.locate_clause located other
          · have different : (ref' == ref) = false := by simpa using same
            rw [List.lookup_cons, different] at found
            exact h.known found other

theorem Sound.resolve (h : memory.Sound) (r : Record) (ref : String) :
    memory.Answers (memory.scope.resolve r ref) (memory.resolve r ref) := by
  have located := h.locate Scope.anyClause ref
  unfold Recall.resolve Scope.resolve
  rcases found : memory.locate Scope.anyClause ref with ⟨_ | l, memory'⟩
  · rw [found] at located
    exact ⟨by rw [← located.answer]; rfl, located.scope, located.sound⟩
  · rw [found] at located
    exact ⟨by rw [← located.answer]; rfl, located.scope, located.sound⟩

/-- One question: memory makes no difference. -/
theorem Sound.ask (h : memory.Sound) (question : Question) :
    memory.Answers (memory.scope.reply question) (memory.ask question) := by
  cases question with
  | locate ref clause =>
      have located := h.locate clause ref
      exact ⟨congrArg Reply.location located.answer, located.scope, located.sound⟩
  | resolve r ref =>
      have resolved := h.resolve r ref
      exact ⟨congrArg Reply.value resolved.answer, resolved.scope, resolved.sound⟩
  | owners name => exact ⟨rfl, rfl, h⟩
  | isBound aliasName => exact ⟨rfl, rfl, h⟩

/-- A derived scope remembers nothing. -/
theorem derive_eq_fresh (memory : Recall) (derivation : Derivation) :
    memory.derive derivation = fresh (memory.scope.derive derivation) := by
  cases derivation <;> rfl

end Recall

/-! ### Several scopes

By induction on the calls.  A derived scope starts with nothing remembered, and a question to one
scope does not touch what another one remembers. -/

/-- What a scope remembers after some questions. -/
def Recall.asked (memory : Recall) (questions : List Question) : Recall :=
  questions.foldl (fun memory question => (memory.ask question).2) memory

variable {memories : List Recall}

/-- One call on several scopes: memory makes no difference. -/
theorem step_eq_memoryless (sound : ∀ m ∈ memories, m.Sound) (call : Call) :
    (remembering.step memories call).1 =
        (memoryless.step (memories.map Recall.scope) call).1 ∧
      (remembering.step memories call).2.map Recall.scope =
        (memoryless.step (memories.map Recall.scope) call).2 ∧
      ∀ m ∈ (remembering.step memories call).2, m.Sound := by
  cases call with
  | ask target question =>
      simp only [Handling.step, List.getElem?_map]
      cases found : memories[target]? with
      | none => exact ⟨rfl, rfl, sound⟩
      | some m =>
          have answers := (sound m (List.mem_of_getElem? found)).ask question
          refine ⟨congrArg some answers.answer, ?_, fun m' among => ?_⟩
          · rw [List.map_set]
            exact congrArg _ answers.scope
          · rcases List.mem_or_eq_of_mem_set among with old | rfl
            · exact sound m' old
            · exact answers.sound
  | derive target derivation =>
      simp only [Handling.step, List.getElem?_map]
      cases found : memories[target]? with
      | none => exact ⟨rfl, rfl, sound⟩
      | some m =>
          have derived := m.derive_eq_fresh derivation
          refine ⟨rfl, ?_, fun m' among => ?_⟩
          · simp [remembering, memoryless, derived, Recall.fresh]
          · rcases List.mem_append.1 among with old | new
            · exact sound m' old
            · obtain rfl := List.mem_singleton.1 new
              exact (congrArg Recall.Sound derived).mpr (Recall.sound_fresh _)

/-- Any sequence of calls on several scopes: memory makes no difference. -/
theorem run_eq_memoryless (sound : ∀ m ∈ memories, m.Sound) (calls : List Call) :
    remembering.replies memories calls =
        memoryless.replies (memories.map Recall.scope) calls ∧
      (remembering.after memories calls).map Recall.scope =
        memoryless.after (memories.map Recall.scope) calls ∧
      ∀ m ∈ remembering.after memories calls, m.Sound := by
  induction calls generalizing memories with
  | nil => exact ⟨rfl, rfl, sound⟩
  | cons call calls ih =>
      obtain ⟨reply, scopes, sound'⟩ := step_eq_memoryless sound call
      obtain ⟨replies, after, sound''⟩ := ih sound'
      rw [scopes] at replies after
      exact ⟨List.cons_eq_cons.2 ⟨reply, replies⟩, after, sound''⟩

/-- What a scope remembers after a call is what it remembered and what it was asked. -/
theorem step_getElem? {i : Nat} {m : Recall} (there : memories[i]? = some m) (call : Call) :
    (remembering.step memories call).2[i]? = some (m.asked (questionsTo i [call])) := by
  cases call with
  | ask target question =>
      by_cases same : target = i
      · subst same
        obtain ⟨within, rfl⟩ := List.getElem?_eq_some_iff.1 there
        simp [Handling.step, within, questionsTo, Recall.asked, remembering]
      · cases found : memories[target]? with
        | none => simp [Handling.step, found, there, questionsTo, same, Recall.asked]
        | some m' =>
            simp [Handling.step, found, there, questionsTo, same, Recall.asked,
              List.getElem?_set_ne same]
  | derive target derivation =>
      cases found : memories[target]? with
      | none => simp [Handling.step, found, there, questionsTo, Recall.asked]
      | some m' =>
          simp [Handling.step, found, there, questionsTo, Recall.asked, List.getElem?_append_left
            (List.getElem?_eq_some_iff.1 there).1]

/-- What a scope remembers depends on the questions put to it and on no other call. -/
theorem after_getElem? {i : Nat} {m : Recall} (there : memories[i]? = some m)
    (calls : List Call) :
    (remembering.after memories calls)[i]? = some (m.asked (questionsTo i calls)) := by
  induction calls generalizing memories m with
  | nil => exact there
  | cons call calls ih =>
      have step := ih (step_getElem? there call)
      rw [Recall.asked, Recall.asked, ← List.foldl_append, questionsTo, questionsTo,
        ← List.filterMap_append] at step
      exact step

/-- Several scopes are asked and others are derived from them, in any order.  Every answer is the one
that scopes without memory give, and so the one of a scope of the same tables that has not been asked
anything yet.  A scope that was derived remembers nothing, and what any scope remembers later comes
from the questions put to it alone. -/
theorem scopes_transparent (scopes : List Scope) (calls : List Call) :
    let memories := remembering.after (scopes.map Recall.fresh) calls
    remembering.replies (scopes.map Recall.fresh) calls = memoryless.replies scopes calls ∧
      memories.map Recall.scope = memoryless.after scopes calls ∧
      (∀ m ∈ memories, ∀ question, (m.ask question).1 = m.scope.reply question ∧
        (m.ask question).1 = ((Recall.fresh m.scope).ask question).1) ∧
      (∀ (i : Nat) (m : Recall), memories[i]? = some m → ∀ later,
        (remembering.after memories later)[i]? = some (m.asked (questionsTo i later))) ∧
      ∀ (i : Nat) (m : Recall), memories[i]? = some m → ∀ derivation,
        remembering.after memories [.derive i derivation] =
          memories ++ [Recall.fresh (m.scope.derive derivation)] := by
  intro memories
  have fresh : ∀ m ∈ scopes.map Recall.fresh, m.Sound := by
    intro m among
    obtain ⟨scope, -, rfl⟩ := List.mem_map.1 among
    exact Recall.sound_fresh scope
  have same : (scopes.map Recall.fresh).map Recall.scope = scopes := by
    rw [List.map_map]
    exact List.map_id scopes
  obtain ⟨replies, after, sound⟩ := run_eq_memoryless fresh calls
  rw [same] at replies after
  refine ⟨replies, after, fun m among question => ?_, fun i m there later => ?_,
    fun i m there derivation => ?_⟩
  · have answer := ((sound m among).ask question).answer
    have answer' := ((Recall.sound_fresh m.scope).ask question).answer
    exact ⟨answer, answer.trans answer'.symm⟩
  · exact after_getElem? there later
  · rw [← m.derive_eq_fresh]
    simp [Handling.after, Handling.step, there, remembering]

/-- A field of the orders, asked of the shop and of the products alone. -/
def shopCalls : List Call :=
  [.ask 0 (.locate "item" "WHERE"), .derive 0 (.subset ["p"]), .ask 1 (.locate "item" "WHERE")]

/-- The shop remembers where the field is, and does so whatever is asked of the products. -/
theorem scopes_transparent_shop :
    let shop := Scope.ofTables [Sample.orders.table, Sample.products.table]
    let memories := remembering.after [Recall.fresh shop] shopCalls
    let whole : Recall := ⟨shop, [("item", ⟨some "o", "item", []⟩)]⟩
    memories[0]? = some whole ∧
      (∀ later, (remembering.after memories later)[0]? =
        some (whole.asked (questionsTo 0 later))) ∧
      remembering.after memories [.derive 0 (.subset ["p"])] =
        memories ++ [Recall.fresh (shop.derive (.subset ["p"]))] := by
  intro shop memories whole
  have there : memories[0]? = some whole := by rfl
  obtain ⟨-, -, -, remembered, derived⟩ := scopes_transparent [shop] shopCalls
  exact ⟨there, remembered 0 whole there, derived 0 whole there (.subset ["p"])⟩

/-- Alone the products are taken to have the field. -/
example : (memoryless.after [Scope.ofTables [Sample.orders.table, Sample.products.table]]
      shopCalls).map (fun scope => scope.locate "WHERE" "item") =
    [.ok ⟨some "o", "item", []⟩, .ok ⟨some "p", "item", []⟩] := by rfl

end DocQuery
