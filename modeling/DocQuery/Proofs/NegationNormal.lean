/-
Module: DocQuery.Proofs.NegationNormal
Purpose: Moving negations inwards and flattening chains changes neither the outcome of a condition
  nor the way to it.
Main exports: Walk, Condition.walk, Condition.walk_outcome, Condition.Step, Condition.Rewrites,
  Condition.IsNormal, Condition.negationNormal, Condition.eval_negationNormal
-/
import DocQuery.Condition.Eval
import DocQuery.Proofs.Outcome
import Mathlib.Logic.Relation

namespace DocQuery

open Outcome

/-! ### Ways through a condition

To say that a rewriting leaves even the first error where it was, it is not enough to compare
outcomes.  A walk also has the leaves that are looked at, and walks are put together as conditions
are. -/

/-- The way through a condition on a record: its leaves from left to right, the places of those that
are looked at, in that order, and the outcome. -/
@[ext]
structure Walk where
  leaves : List Condition
  reached : List Nat
  outcome : Except QueryError Bool

namespace Walk

/-- The way through a condition that is not made of others. -/
def leaf (c : Condition) (outcome : Except QueryError Bool) : Walk :=
  ⟨[c], [0], outcome⟩

/-- The way through a negation. -/
def not (w : Walk) : Walk :=
  { w with outcome := return !(← w.outcome) }

/-- The way through a chain without parts, where nothing is found that stops it. -/
def idle (stop : Bool) : Walk :=
  ⟨[], [], .ok !stop⟩

/-- The way through a chain with a first part and a rest.  It ends with the first part if that has
the outcome `stop` or fails. -/
def followedBy (stop : Bool) (w v : Walk) : Walk where
  leaves := w.leaves ++ v.leaves
  reached := w.reached ++
    match w.outcome with
    | .ok holds => if holds = stop then [] else v.reached.map (w.leaves.length + ·)
    | .error _ => []
  outcome := do if (← w.outcome) = stop then return stop else v.outcome

/-- The way through a chain. -/
def chain (stop : Bool) (ws : List Walk) : Walk :=
  ws.foldr (followedBy stop) (idle stop)

variable {stop : Bool} {u v w : Walk}

@[simp] theorem not_not (w : Walk) : w.not.not = w := by
  rcases w with ⟨leaves, reached, _ | holds⟩
  · rfl
  · cases holds <;> rfl

@[simp] theorem not_idle (stop : Bool) : (idle stop).not = idle !stop :=
  rfl

theorem idle_followedBy : followedBy stop (idle stop) w = w := by
  cases stop <;> ext1 <;> simp [followedBy, idle]

/-- It does not matter how the parts of a chain are grouped. -/
theorem followedBy_assoc :
    followedBy stop (followedBy stop u v) w = followedBy stop u (followedBy stop v w) := by
  rcases u with ⟨leaves, reached, _ | holds⟩
  · simp [followedBy]
  · by_cases stopped : holds = stop
    · simp [followedBy, stopped]
    · rcases v with ⟨leaves', reached', _ | holds'⟩
      · simp [followedBy, stopped]
      · by_cases stopped' : holds' = stop
        · simp [followedBy, stopped, stopped']
        · simp [followedBy, stopped, stopped', Nat.add_assoc]

/-- A negated chain is stopped by the negations of what stops the chain. -/
theorem not_followedBy : (followedBy stop w v).not = followedBy (!stop) w.not v.not := by
  rcases w with ⟨leaves, reached, _ | holds⟩
  · rfl
  · cases stop <;> cases holds <;> rfl

theorem chain_append (xs ys : List Walk) :
    chain stop (xs ++ ys) = followedBy stop (chain stop xs) (chain stop ys) := by
  induction xs with
  | nil => exact idle_followedBy.symm
  | cons x xs ih =>
      change followedBy stop x (chain stop (xs ++ ys)) = _
      rw [ih, ← followedBy_assoc]
      rfl

/-- A chain that is part of a chain of the same kind can be put in its place. -/
theorem chain_flatten (before ws after : List Walk) :
    chain stop (before ++ chain stop ws :: after) = chain stop (before ++ ws ++ after) := by
  rw [List.append_assoc, chain_append, chain_append, chain_append]
  rfl

theorem not_chain (ws : List Walk) : (chain stop ws).not = chain (!stop) (ws.map not) := by
  induction ws with
  | nil => exact not_idle stop
  | cons w ws ih =>
      change (followedBy stop w (chain stop ws)).not = _
      rw [not_followedBy, ih]
      rfl

/-- The leaf at a place has the outcome `outcome` on a record. -/
def Tells (w : Walk) (scope : Scope) (r : Record) (i : Nat) (outcome : Except QueryError Bool) :
    Prop :=
  ∃ leaf, w.leaves[i]? = some leaf ∧ leaf.eval scope r = outcome

/-- The leaf at a place raises an error, and it is the last one that is looked at. -/
def FailsAt (w : Walk) (scope : Scope) (r : Record) (i : Nat) (e : QueryError) : Prop :=
  w.reached.getLast? = some i ∧ w.Tells scope r i (.error e)

/-- A way that ends as its leaves say: those that are looked at have truth values, but for the last
one if the way ends with an error, which is then the error of that leaf. -/
structure Sound (w : Walk) (scope : Scope) (r : Record) : Prop where
  holds {holds : Bool} (h : w.outcome = .ok holds) {i : Nat} (reached : i ∈ w.reached) :
    ∃ b, w.Tells scope r i (.ok b)
  fails {e : QueryError} (h : w.outcome = .error e) :
    ∃ before i, w.reached = before ++ [i] ∧ w.Tells scope r i (.error e) ∧
      ∀ j ∈ before, ∃ b, w.Tells scope r j (.ok b)

section Sound

variable {scope : Scope} {r : Record} {i : Nat} {outcome : Except QueryError Bool}

theorem Tells.first (h : w.Tells scope r i outcome) :
    (followedBy stop w v).Tells scope r i outcome := by
  obtain ⟨leaf, found, told⟩ := h
  have inside := (List.getElem?_eq_some_iff.1 found).1
  exact ⟨leaf, (List.getElem?_append_left inside).trans found, told⟩

theorem Tells.second (h : v.Tells scope r i outcome) :
    (followedBy stop w v).Tells scope r (w.leaves.length + i) outcome := by
  obtain ⟨leaf, found, told⟩ := h
  refine ⟨leaf, ?_, told⟩
  rw [followedBy, List.getElem?_append_right (Nat.le_add_right _ _), Nat.add_sub_cancel_left]
  exact found

/-- The first part of a chain decides it, or the rest does. -/
theorem followedBy_cases (stop : Bool) (w v : Walk) :
    ((followedBy stop w v).reached = w.reached ∧ (followedBy stop w v).outcome = w.outcome) ∨
      ∃ holds, w.outcome = .ok holds ∧
        (followedBy stop w v).reached = w.reached ++ v.reached.map (w.leaves.length + ·) ∧
        (followedBy stop w v).outcome = v.outcome := by
  cases first : w.outcome with
  | error e => simp [followedBy, first]
  | ok holds => by_cases stopped : holds = stop <;> simp [followedBy, first, stopped]

theorem sound_leaf (c : Condition) : (leaf c (c.eval scope r)).Sound scope r where
  holds h i reached := by
    obtain rfl := List.mem_singleton.1 reached
    exact ⟨_, c, rfl, h⟩
  fails h := ⟨[], 0, rfl, ⟨c, rfl, h⟩, nofun⟩

theorem sound_idle (stop : Bool) : (idle stop).Sound scope r where
  holds _ _ reached := absurd reached List.not_mem_nil
  fails h := by
    cases h

theorem sound_not (h : w.Sound scope r) : w.not.Sound scope r where
  holds told i reached := by
    obtain ⟨holds, told, -⟩ := bind_eq_ok.1 told
    exact h.holds told reached
  fails told := by
    rcases bind_eq_error.1 told with told | ⟨_, -, told⟩
    · exact h.fails told
    · cases told

theorem sound_followedBy (hw : w.Sound scope r) (hv : v.Sound scope r) :
    (followedBy stop w v).Sound scope r := by
  -- Leaves are counted from left to right, and those of the second walk behind those of the first.
  have here {is : List Nat} (told : ∀ i ∈ is, ∃ b, w.Tells scope r i (.ok b)) (i : Nat)
      (hi : i ∈ is) : ∃ b, (followedBy stop w v).Tells scope r i (.ok b) :=
    (told i hi).imp fun _ => Tells.first
  have later {is : List Nat} (told : ∀ i ∈ is, ∃ b, v.Tells scope r i (.ok b)) (i : Nat)
      (hi : i ∈ is.map (w.leaves.length + ·)) :
      ∃ b, (followedBy stop w v).Tells scope r i (.ok b) := by
    obtain ⟨j, hj, rfl⟩ := List.mem_map.1 hi
    exact (told j hj).imp fun _ => Tells.second
  rcases followedBy_cases stop w v with ⟨reached, outcome⟩ | ⟨holds, first, reached, outcome⟩
  · constructor
    · intro holds told i hi
      exact here (fun j => hw.holds (outcome ▸ told)) i (reached ▸ hi)
    · intro e told
      obtain ⟨before, i, last, failed, earlier⟩ := hw.fails (outcome ▸ told)
      exact ⟨before, i, reached.trans last, failed.first, here earlier⟩
  · constructor
    · intro holds told i hi
      rw [reached] at hi
      rcases List.mem_append.1 hi with hi | hi
      · exact here (fun j => hw.holds first) i hi
      · exact later (fun j => hv.holds (outcome ▸ told)) i hi
    · intro e told
      obtain ⟨before, i, last, failed, earlier⟩ := hv.fails (outcome ▸ told)
      refine ⟨w.reached ++ before.map (w.leaves.length + ·), w.leaves.length + i, ?_,
        failed.second, fun j hj => ?_⟩
      · rw [reached, last, List.map_append, List.append_assoc]
        rfl
      · rcases List.mem_append.1 hj with hj | hj
        · exact here (fun j => hw.holds first) j hj
        · exact later earlier j hj

end Sound

end Walk

namespace Condition

mutual

/-- The way through a condition on a record. -/
def walk (scope : Scope) (r : Record) : Condition → Walk
  | .and children => walkChain scope r false children
  | .or children => walkChain scope r true children
  | .not child => (walk scope r child).not
  | c => .leaf c (c.eval scope r)

/-- The way through several conditions, up to one with the outcome `stop`. -/
def walkChain (scope : Scope) (r : Record) (stop : Bool) : List Condition → Walk
  | [] => .idle stop
  | c :: cs => .followedBy stop (walk scope r c) (walkChain scope r stop cs)

end

mutual

/-- The way through a condition ends with the outcome of the condition. -/
theorem walk_outcome (scope : Scope) (r : Record) :
    ∀ c : Condition, (c.walk scope r).outcome = c.eval scope r
  | .and children => walkAll_outcome scope r children
  | .or children => walkAny_outcome scope r children
  | .not child => by
      rw [walk, Walk.not, walk_outcome scope r child, eval]
  | .compare _ _ _ | .isNull _ _ | .inList _ _ _ | .like _ _ _ _ | .other _ => rfl

theorem walkAll_outcome (scope : Scope) (r : Record) :
    ∀ cs : List Condition, (walkChain scope r false cs).outcome = evalAll scope r cs
  | [] => rfl
  | c :: cs => by
      rw [walkChain, Walk.followedBy, walk_outcome scope r c, walkAll_outcome scope r cs, evalAll]
      refine bind_congr fun holds => ?_
      cases holds <;> rfl

theorem walkAny_outcome (scope : Scope) (r : Record) :
    ∀ cs : List Condition, (walkChain scope r true cs).outcome = evalAny scope r cs
  | [] => rfl
  | c :: cs => by
      rw [walkChain, Walk.followedBy, walk_outcome scope r c, walkAny_outcome scope r cs, evalAny]

end

mutual

theorem walk_sound (scope : Scope) (r : Record) :
    ∀ c : Condition, (c.walk scope r).Sound scope r
  | .and children => walkChain_sound scope r false children
  | .or children => walkChain_sound scope r true children
  | .not child => Walk.sound_not (walk_sound scope r child)
  | .compare _ _ _ | .isNull _ _ | .inList _ _ _ | .like _ _ _ _ | .other _ => Walk.sound_leaf _

theorem walkChain_sound (scope : Scope) (r : Record) (stop : Bool) :
    ∀ cs : List Condition, (walkChain scope r stop cs).Sound scope r
  | [] => Walk.sound_idle stop
  | c :: cs => Walk.sound_followedBy (walk_sound scope r c) (walkChain_sound scope r stop cs)

end

/-! ### Rewriting

A step may be made anywhere in a condition.  It leaves the walk as it is, which is shown for the
three kinds of steps and carried upwards by induction on the place of the step. -/

/-- The conjunction or disjunction of several conditions, by the outcome of a part that decides
it. -/
def chain (stop : Bool) (cs : List Condition) : Condition :=
  match stop with
  | false => .and cs
  | true => .or cs

/-- One step towards negation normal form, at any depth: a double negation is removed, a negation is
moved into a chain, or a chain directly inside one of its kind is put in its place. -/
inductive Step : Condition → Condition → Prop
  | notNot (c : Condition) : Step (.not (.not c)) c
  | notChain (stop : Bool) (cs : List Condition) :
      Step (.not (chain stop cs)) (chain (!stop) (cs.map .not))
  | flatten (stop : Bool) (before cs after : List Condition) :
      Step (chain stop (before ++ chain stop cs :: after)) (chain stop (before ++ cs ++ after))
  | insideNot {c d : Condition} (h : Step c d) : Step (.not c) (.not d)
  | insideChain (stop : Bool) (before : List Condition) {c d : Condition} (h : Step c d)
      (after : List Condition) :
      Step (chain stop (before ++ c :: after)) (chain stop (before ++ d :: after))

/-- A condition is rewritten to another one by such steps. -/
abbrev Rewrites : Condition → Condition → Prop :=
  Relation.ReflTransGen Step

section Rewriting

variable {scope : Scope} {r : Record} {c d : Condition}

theorem walkChain_eq (stop : Bool) (cs : List Condition) :
    walkChain scope r stop cs = Walk.chain stop (cs.map (walk scope r)) := by
  induction cs with
  | nil => rfl
  | cons c cs ih =>
      rw [walkChain, ih]
      rfl

theorem walk_chain (stop : Bool) (cs : List Condition) :
    (chain stop cs).walk scope r = Walk.chain stop (cs.map (walk scope r)) := by
  rw [← walkChain_eq]
  cases stop <;> rfl

theorem walk_not (c : Condition) : (Condition.not c).walk scope r = (c.walk scope r).not := by
  rw [walk]

/-- No step changes the way through a condition. -/
theorem Step.walk_eq (h : Step c d) : d.walk scope r = c.walk scope r := by
  induction h with
  | notNot c => rw [walk_not, walk_not, Walk.not_not]
  | notChain stop cs =>
      rw [walk_not, walk_chain, walk_chain, Walk.not_chain, List.map_map, List.map_map]
      simp only [Function.comp_def, walk_not]
  | flatten stop before cs after =>
      simp only [walk_chain, List.map_append, List.map_cons]
      exact (Walk.chain_flatten _ _ _).symm
  | insideNot h ih => rw [walk_not, walk_not, ih]
  | insideChain stop before h after ih =>
      simp only [walk_chain, List.map_append, List.map_cons, ih]

/-- However far a condition is rewritten, the way through it stays the same. -/
theorem Rewrites.walk_eq (h : Rewrites c d) : d.walk scope r = c.walk scope r := by
  induction h with
  | refl => rfl
  | tail _ step ih => rw [step.walk_eq, ih]

end Rewriting

/-! ### Normal forms

The normal form is computed by one function with a polarity, on conditions and on lists of them.
That it is normal and that steps lead to it are two mutual inductions over the same recursion. -/

/-- A condition that is not made of others. -/
def isLeaf : Condition → Bool
  | .and _ | .or _ | .not _ => false
  | _ => true

/-- Only leaves are negated, and no chain is directly inside one of its kind. -/
inductive IsNormal : Condition → Prop
  | leaf {c : Condition} (h : c.isLeaf = true) : IsNormal c
  | notLeaf {c : Condition} (h : c.isLeaf = true) : IsNormal (.not c)
  | joined (stop : Bool) {cs : List Condition} (parts : ∀ c ∈ cs, IsNormal c)
      (flat : ∀ c ∈ cs, ∀ ds, c ≠ chain stop ds) : IsNormal (chain stop cs)

/-- The negation of a condition, or the condition. -/
def negatedIf (negated : Bool) (c : Condition) : Condition :=
  if negated then .not c else c

/-- What a condition adds to a chain: its parts if it is a chain of that kind, else itself. -/
def links : Bool → Condition → List Condition
  | false, .and cs => cs
  | true, .or cs => cs
  | _, c => [c]

mutual

/-- The negation normal form of a condition or of its negation. -/
def normalIf (negated : Bool) : Condition → Condition
  | .and cs => chain negated (normalLinks negated negated cs)
  | .or cs => chain (!negated) (normalLinks negated (!negated) cs)
  | .not c => normalIf (!negated) c
  | c => negatedIf negated c

/-- The parts of a chain in normal form that is made from several conditions or their negations. -/
def normalLinks (negated stop : Bool) : List Condition → List Condition
  | [] => []
  | c :: cs => (normalIf negated c).links stop ++ normalLinks negated stop cs

end

/-- The negation normal form of a condition. -/
def negationNormal (c : Condition) : Condition :=
  normalIf false c

/-- A condition is a chain of a kind, and its parts go in its place, or it is no such chain. -/
theorem links_cases (stop : Bool) (c : Condition) :
    (∃ cs, c = chain stop cs ∧ c.links stop = cs) ∨
      (∀ cs, c ≠ chain stop cs) ∧ c.links stop = [c] := by
  cases stop <;> cases c <;> simp [links, chain]

theorem IsNormal.of_chain {stop : Bool} {cs : List Condition} (h : IsNormal (chain stop cs)) :
    ∀ c ∈ cs, IsNormal c ∧ ∀ ds, c ≠ chain stop ds := by
  generalize whole : chain stop cs = c at h
  cases h with
  | leaf h => cases stop <;> cases whole <;> cases h
  | notLeaf h => cases stop <;> cases whole
  | joined stop' parts flat =>
      cases stop <;> cases stop' <;> cases whole
      · exact fun c hc => ⟨parts c hc, flat c hc⟩
      · exact fun c hc => ⟨parts c hc, flat c hc⟩

theorem IsNormal.of_links {stop : Bool} {c d : Condition} (h : c.IsNormal) (hd : d ∈ c.links stop) :
    d.IsNormal ∧ ∀ ds, d ≠ chain stop ds := by
  rcases links_cases stop c with ⟨cs, rfl, same⟩ | ⟨other, same⟩
  · exact h.of_chain d (same ▸ hd)
  · obtain rfl := List.mem_singleton.1 (same ▸ hd)
    exact ⟨h, other⟩

theorem negatedIf_isNormal {c : Condition} (leaf : c.isLeaf = true) (negated : Bool) :
    (negatedIf negated c).IsNormal := by
  cases negated
  · exact .leaf leaf
  · exact .notLeaf leaf

mutual

theorem normalIf_isNormal (negated : Bool) : ∀ c : Condition, (normalIf negated c).IsNormal
  | .and cs => by
      have links := normalLinks_isNormal negated negated cs
      exact .joined negated (fun c hc => (links c hc).1) fun c hc => (links c hc).2
  | .or cs => by
      have links := normalLinks_isNormal negated (!negated) cs
      exact .joined (!negated) (fun c hc => (links c hc).1) fun c hc => (links c hc).2
  | .not c => normalIf_isNormal (!negated) c
  | .compare _ _ _ | .isNull _ _ | .inList _ _ _ | .like _ _ _ _ | .other _ =>
      negatedIf_isNormal rfl negated

theorem normalLinks_isNormal (negated stop : Bool) :
    ∀ cs : List Condition, ∀ d ∈ normalLinks negated stop cs,
      d.IsNormal ∧ ∀ ds, d ≠ chain stop ds
  | [] => fun _ h => absurd h List.not_mem_nil
  | c :: cs => by
      intro d hd
      rcases List.mem_append.1 hd with here | later
      · exact (normalIf_isNormal negated c).of_links here
      · exact normalLinks_isNormal negated stop cs d later

end

namespace Rewrites

theorem insideNot {c d : Condition} (h : Rewrites c d) : Rewrites (.not c) (.not d) :=
  Relation.ReflTransGen.lift Condition.not (fun _ _ => Step.insideNot) _ _ h

theorem insideChain (stop : Bool) (before : List Condition) {c d : Condition} (h : Rewrites c d)
    (after : List Condition) :
    Rewrites (chain stop (before ++ c :: after)) (chain stop (before ++ d :: after)) :=
  Relation.ReflTransGen.lift (fun c => chain stop (before ++ c :: after))
    (fun _ _ step => Step.insideChain stop before step after) _ _ h

/-- A part of a chain is put in its place, or stays. -/
theorem links (stop : Bool) (before : List Condition) (c : Condition) (after : List Condition) :
    Rewrites (chain stop (before ++ c :: after)) (chain stop (before ++ c.links stop ++ after)) := by
  rcases links_cases stop c with ⟨cs, rfl, same⟩ | ⟨-, same⟩
  · rw [same]
    exact .single (.flatten stop before cs after)
  · rw [same, List.append_assoc]
    exact .refl

/-- A negation is moved into a chain. -/
theorem negatedIf_chain (negated stop : Bool) (cs : List Condition) :
    Rewrites (negatedIf negated (chain stop cs))
      (chain (negated ^^ stop) (cs.map (negatedIf negated))) := by
  cases negated with
  | false =>
      rw [Bool.false_xor, show cs.map (negatedIf false) = cs from List.map_id cs]
      exact .refl
  | true =>
      rw [Bool.true_xor]
      exact .single (.notChain stop cs)

end Rewrites

mutual

theorem normalIf_rewrites (negated : Bool) :
    ∀ c : Condition, Rewrites (negatedIf negated c) (normalIf negated c)
  | .and cs => by
      have moved := Rewrites.negatedIf_chain negated false cs
      rw [Bool.xor_false] at moved
      exact moved.trans (normalLinks_rewrites negated negated [] cs)
  | .or cs => by
      have moved := Rewrites.negatedIf_chain negated true cs
      rw [Bool.xor_true] at moved
      exact moved.trans (normalLinks_rewrites negated (!negated) [] cs)
  | .not c => by
      cases negated with
      | false => exact normalIf_rewrites true c
      | true => exact .head (.notNot c) (normalIf_rewrites false c)
  | .compare _ _ _ | .isNull _ _ | .inList _ _ _ | .like _ _ _ _ | .other _ => .refl

theorem normalLinks_rewrites (negated stop : Bool) (before : List Condition) :
    ∀ cs : List Condition, Rewrites (chain stop (before ++ cs.map (negatedIf negated)))
      (chain stop (before ++ normalLinks negated stop cs))
  | [] => .refl
  | c :: cs => by
      have first := (normalIf_rewrites negated c).insideChain stop before
        (cs.map (negatedIf negated))
      have rest := normalLinks_rewrites negated stop (before ++ (normalIf negated c).links stop) cs
      rw [List.append_assoc _ _ (normalLinks negated stop cs)] at rest
      exact (first.trans (Rewrites.links stop before _ _)).trans rest

end

/-- Every condition can be rewritten to negation normal form, and rewriting it, whether up to there
or not, changes nothing on any record: the outcome is the same truth value or the same error, the
same leaves are looked at in the same order, and the same leaf raises the error. -/
theorem eval_negationNormal (c : Condition) :
    c.negationNormal.IsNormal ∧ Rewrites c c.negationNormal ∧
      ∀ d, Rewrites c d → ∀ scope r,
        d.eval scope r = c.eval scope r ∧ d.walk scope r = c.walk scope r ∧
          ∀ e, d.eval scope r = .error e → ∃ i,
            (c.walk scope r).FailsAt scope r i e ∧ (d.walk scope r).FailsAt scope r i e := by
  refine ⟨normalIf_isNormal false c, normalIf_rewrites false c, fun d rewritten scope r => ?_⟩
  have same : d.walk scope r = c.walk scope r := rewritten.walk_eq
  refine ⟨?_, same, fun e failed => ?_⟩
  · rw [← walk_outcome, same, walk_outcome]
  · rw [← walk_outcome] at failed
    obtain ⟨before, i, reached, raised, -⟩ := (walk_sound scope r d).fails failed
    have fails : (d.walk scope r).FailsAt scope r i e := by
      refine ⟨?_, raised⟩
      rw [reached, List.getLast?_concat]
    exact ⟨i, same ▸ fails, fails⟩

/-- Neither a large order nor one that is marked or of an unknown kind. -/
def smallUnmarked : Condition :=
  .not (.or [.compare (.field "o.qty") .gt (.literal (.int 1)),
    .not (.and [.isNull (.field "id") false, .other "Kind"])])

/-- Both tables have an `id`, so that its test raises an error, before and after the rewriting. -/
theorem eval_negationNormal_smallUnmarked :
    let scope : Scope := ⟨[("o", ["id", "qty"]), ("p", ["id"])]⟩
    let r : Record := ⟨[("o.id", .int 1), ("o.qty", .int 1), ("p.id", .int 1)], none⟩
    let normal : Condition := .and [.not (.compare (.field "o.qty") .gt (.literal (.int 1))),
      .isNull (.field "id") false, .other "Kind"]
    let fault : QueryError := .ambiguousField "id" ["o", "p"]
    normal.IsNormal ∧ Rewrites smallUnmarked normal ∧ normal.eval scope r = .error fault ∧
      normal.eval scope r = smallUnmarked.eval scope r ∧
      ∃ i, (smallUnmarked.walk scope r).FailsAt scope r i fault ∧
        (normal.walk scope r).FailsAt scope r i fault := by
  intro scope r normal fault
  have failed : normal.eval scope r = .error fault := rfl
  obtain ⟨isNormal, rewritten, kept⟩ := eval_negationNormal smallUnmarked
  obtain ⟨same, -, raised⟩ := kept normal rewritten scope r
  exact ⟨isNormal, rewritten, failed, same, raised fault failed⟩

end Condition

end DocQuery
