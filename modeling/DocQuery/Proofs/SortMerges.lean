/-
Module: DocQuery.Proofs.SortMerges
Purpose: Merging two runs in which every two neighbours were compared makes one such run.
Main exports: StableSort.MayPrecede, StableSort.Merging.Ready, StableSort.mergeRuns_ends
-/
import DocQuery.Proofs.SortPlaces
import DocQuery.StableSort.Merge
import Mathlib.Data.List.Chain

/-!
Nothing is asked of the comparison here: it need not be an order, and it may fail.  `before` is any
relation that holds between the elements of the list from left to right.  A sorted list is then a
chain: each element was compared with the next one, and either is below it, or came before it and
has nothing below it there.  That the chain orders elements further apart is up to the comparison.
-/

namespace DocQuery.StableSort

open Outcome

variable {α ε : Type} {P : ε → Prop} {below : α → α → Except ε Bool} {before : α → α → Prop}

/-- A comparison has shown that one element may stand in front of another: it came before the other,
which is not below it, or it is below the other. -/
def MayPrecede (below : α → α → Except ε Bool) (before : α → α → Prop) (x y : α) : Prop :=
  before x y ∧ below y x = .ok false ∨ below x y = .ok true

/-- Comparing two elements of different places fails only in ways that have a property. -/
def ComparesWith (P : ε → Prop) (below : α → α → Except ε Bool) (before : α → α → Prop) : Prop :=
  ∀ x y, before x y → FailsOnly P (below x y) ∧ FailsOnly P (below y x)

theorem not_eq_ok {x : Except ε Bool} {b : Bool} :
    (do return !(← x)) = (.ok b : Except ε Bool) ↔ x = .ok (!b) := by
  cases x with
  | error e => simp
  | ok a => cases a <;> cases b <;> simp

/-! ### Chains

Merging builds one chain from two that have a beginning, and perhaps an end, in common.  What must
be known is how the last element put in stands to the next ones of both. -/

section Chain

variable {S : α → α → Prop} {start xs ys : List α}

/-- The last element of one list is related to the first one of another. -/
def Links (S : α → α → Prop) (xs ys : List α) : Prop :=
  ∀ x ∈ xs.getLast?, ∀ y ∈ ys.head?, S x y

/-- Two chains that begin alike make one, if they are linked. -/
theorem chain_insert (hx : (start ++ xs).IsChain S) (hy : (start ++ ys).IsChain S)
    (link : Links S xs ys) : (start ++ xs ++ ys).IsChain S := by
  cases xs with
  | nil => simpa using hy
  | cons x xs =>
      refine List.isChain_append.2 ⟨hx, (List.isChain_append.1 hy).2.1, fun z hz => ?_⟩
      rw [List.getLast?_append_of_ne_nil _ (List.cons_ne_nil x xs)] at hz
      exact link z hz

/-- Two chains that begin and end alike make one, if the shorter one has at most one element, which
the last element of the other is related to. -/
theorem chain_finish {post : List α} (hx : (start ++ (xs ++ post)).IsChain S)
    (hy : (start ++ (ys ++ post)).IsChain S) (short : xs.length ≤ 1 ∨ ys = [])
    (ends : ∀ x ∈ xs.getLast?, ∀ y ∈ ys.getLast?, S y x) :
    (start ++ ys ++ (xs ++ post)).IsChain S := by
  rcases xs with _ | ⟨x, xs⟩
  · simpa using hy
  · rcases short with short | rfl
    · obtain rfl : xs = [] := by
        simpa using short
      have first : (start ++ ys).IsChain S :=
        hy.prefix ((List.prefix_append_right_inj _).2 (List.prefix_append _ _))
      refine chain_insert first hx fun y hy z hz => ?_
      obtain rfl : x = z := by
        simpa using hz
      exact ends x rfl y hy
    · simpa using hx

theorem Links.append_right (link : Links S xs ys) (some' : ys ≠ []) (more : List α) :
    Links S xs (ys ++ more) := by
  intro x hx y hy
  rw [List.head?_append_of_ne_nil _ some'] at hy
  exact link x hx y hy

theorem mem_getLast?_of_drop {xs : List α} {n : Nat} {x : α} (h : x ∈ (xs.drop n).getLast?) :
    x ∈ xs.getLast? := by
  rw [List.getLast?_drop] at h
  split at h
  · cases h
  · exact h

theorem getLast?_take_one (xs : List α) : (xs.take 1).getLast? = xs.head? := by
  cases xs <;> simp

end Chain

/-! ### Merging two runs

Merging runs from the front or from the back.  In the direction of merging both are alike, with
`Follows` for what may come next, so that everything is proved once. -/

namespace Side

variable {side : Side} {x y : α}

/-- One element may be merged right after another. -/
def Follows (side : Side) (below : α → α → Except ε Bool) (before : α → α → Prop) (x y : α) :
    Prop :=
  match side with
  | .front => MayPrecede below before x y
  | .back => MayPrecede below before y x

@[simp] theorem follows_front : Side.front.Follows below before = MayPrecede below before :=
  rfl

@[simp] theorem follows_back :
    Side.back.Follows below before = fun x y => MayPrecede below before y x :=
  rfl

/-- What has been merged, from front to back. -/
def orient (side : Side) (xs : List α) : List α :=
  match side with
  | .front => xs
  | .back => xs.reverse

@[simp] theorem not_beq_front (side : Side) : (!(side == .front)) = (side == .back) := by
  cases side <;> rfl

@[simp] theorem not_beq_back (side : Side) : (!(side == .back)) = (side == .front) := by
  cases side <;> rfl

theorem follows_left (earlier : before x y) (h : below y x = .ok (side == .back)) :
    side.Follows below before x y := by
  cases side with
  | front => exact .inl ⟨earlier, h⟩
  | back => exact .inr h

theorem follows_right (earlier : before x y) (h : below y x = .ok (side == .front)) :
    side.Follows below before y x := by
  cases side with
  | front => exact .inr h
  | back => exact .inl ⟨earlier, h⟩

/-- A list that is a chain in the direction of merging is one from front to back. -/
theorem chain_orient {xs : List α} (h : xs.IsChain (side.Follows below before)) :
    (side.orient xs).IsChain (MayPrecede below before) := by
  cases side with
  | front => exact h
  | back => exact List.isChain_reverse.2 h

end Side

namespace Merging

/-- All elements of two runs that are being merged. -/
def elements (m : Merging α) : List α :=
  m.merged.reverse ++ (m.left ++ m.right)

/-- Two runs that can be merged between `pre` and `post`, in the direction of merging.  What is left
of either run may follow what has been merged, elements of the left run came before those of the
right run, and where merging ends the element of the right run may precede that of the left one. -/
structure Ready (below : α → α → Except ε Bool) (before : α → α → Prop) (side : Side)
    (pre post : List α) (m : Merging α) : Prop where
  left : (pre ++ m.merged.reverse ++ (m.left ++ post)).IsChain (side.Follows below before)
  right : (pre ++ m.merged.reverse ++ (m.right ++ post)).IsChain (side.Follows below before)
  across : ∀ x ∈ m.left, ∀ y ∈ m.right, before x y
  ends : ∀ x ∈ m.left.getLast?, ∀ y ∈ m.right.getLast?, MayPrecede below before y x

variable {side : Side} {pre post : List α} {m : Merging α}

theorem elements_takeLeft (n : Nat) (m : Merging α) : (m.takeLeft n).elements = m.elements := by
  simp only [elements, takeLeft, List.reverse_append, List.reverse_reverse, List.append_assoc]
  rw [← List.append_assoc (m.left.take n), List.take_append_drop]

theorem elements_takeRight (n : Nat) (m : Merging α) :
    (m.takeRight n).elements.Perm m.elements := by
  simp only [elements, takeRight, List.reverse_append, List.reverse_reverse, List.append_assoc]
  refine List.Perm.append_left _ ?_
  conv_rhs => rw [← List.take_append_drop n m.right]
  exact List.perm_append_comm_assoc _ _ _

theorem result_perm (side : Side) (m : Merging α) : (m.result side).Perm m.elements := by
  cases side with
  | front =>
      rw [result, elements, List.append_assoc]
      exact List.perm_append_comm.append_left _
  | back =>
      rw [result, elements, List.append_assoc]
      exact List.reverse_perm _

theorem ne_nil_of_isDone (h : m.isDone side = false) : m.left ≠ [] ∧ m.right ≠ [] := by
  constructor
  · intro none'
    cases side <;> simp [isDone, none'] at h
  · intro none'
    cases side <;> simp [isDone, none'] at h

/-- Elements of the left run are merged if the last of them may be followed by the right run. -/
theorem Ready.takeLeft (h : m.Ready below before side pre post) (some' : m.right ≠ []) {n : Nat}
    (link : Links (side.Follows below before) (m.left.take n) m.right) :
    (m.takeLeft n).Ready below before side pre post where
  left := by
    have same : m.left.take n ++ (m.left.drop n ++ post) = m.left ++ post := by
      rw [← List.append_assoc, List.take_append_drop]
    simpa [Merging.takeLeft, same] using h.left
  right := by
    have taken : (pre ++ m.merged.reverse ++ m.left.take n).IsChain
        (side.Follows below before) := by
      refine h.left.prefix ((List.prefix_append_right_inj _).2 ?_)
      exact (List.take_prefix n m.left).trans (List.prefix_append _ _)
    simpa [Merging.takeLeft] using chain_insert taken h.right (link.append_right some' post)
  across := fun x hx => h.across x (List.mem_of_mem_drop hx)
  ends := fun x hx => h.ends x (mem_getLast?_of_drop hx)

/-- Elements of the right run are merged if the last of them may be followed by the left run. -/
theorem Ready.takeRight (h : m.Ready below before side pre post) (some' : m.left ≠ []) {n : Nat}
    (link : Links (side.Follows below before) (m.right.take n) m.left) :
    (m.takeRight n).Ready below before side pre post where
  left := by
    have taken : (pre ++ m.merged.reverse ++ m.right.take n).IsChain
        (side.Follows below before) := by
      refine h.right.prefix ((List.prefix_append_right_inj _).2 ?_)
      exact (List.take_prefix n m.right).trans (List.prefix_append _ _)
    simpa [Merging.takeRight] using chain_insert taken h.left (link.append_right some' post)
  right := by
    have same : m.right.take n ++ (m.right.drop n ++ post) = m.right ++ post := by
      rw [← List.append_assoc, List.take_append_drop]
    simpa [Merging.takeRight, same] using h.right
  across := fun x hx y hy => h.across x hx y (List.mem_of_mem_drop hy)
  ends := fun x hx y hy => h.ends x hx y (mem_getLast?_of_drop hy)

/-- Where merging ends, all elements form a chain. -/
theorem Ready.result (h : m.Ready below before side pre post) (done : m.isDone side = true) :
    (pre ++ side.orient (m.result side) ++ post).IsChain (side.Follows below before) := by
  cases side with
  | front =>
      have short : m.left.length ≤ 1 ∨ m.right = [] := by
        simpa [isDone] using done
      simpa [Side.orient, Merging.result] using chain_finish h.left h.right short h.ends
  | back =>
      have short : m.right.length ≤ 1 ∨ m.left = [] := by
        simpa [isDone, or_comm] using done
      have ends : ∀ y ∈ m.right.getLast?, ∀ x ∈ m.left.getLast?, MayPrecede below before y x :=
        fun y hy x hx => h.ends x hx y hy
      simpa [Side.orient, Merging.result] using chain_finish h.right h.left short ends

/-! ### What merging compares

`Ready` is the invariant of merging.  Each step preserves it, be it one element or a round of
galloping, and where nothing is left to compare it gives the chain. -/

section Compares

variable (compares : ComparesWith P below before)

include compares

theorem leftGoesFirst_ends (ready : m.Ready below before side pre post)
    (notDone : m.isDone side = false) :
    Ends P (fun first =>
        if first then Links (side.Follows below before) (m.left.take 1) m.right
        else Links (side.Follows below before) (m.right.take 1) m.left)
      (m.leftGoesFirst below side) := by
  obtain ⟨someLeft, someRight⟩ := ne_nil_of_isDone notDone
  rcases m with ⟨_ | ⟨x, left⟩, _ | ⟨y, right⟩, merged⟩
  · exact absurd rfl someLeft
  · exact absurd rfl someLeft
  · exact absurd rfl someRight
  · have earlier : before x y := ready.across x List.mem_cons_self y List.mem_cons_self
    have either (first : Bool)
        (h : below y x = .ok (if first then side == .back else side == .front)) :
        if first then Links (side.Follows below before) [x] (y :: right)
        else Links (side.Follows below before) [y] (x :: left) := by
      cases first with
      | true => simpa [Links] using side.follows_left earlier h
      | false => simpa [Links] using side.follows_right earlier h
    cases side with
    | front =>
        refine (Ends.self (compares x y earlier).2).bind fun b hb => .ok (either _ ?_)
        cases b <;> exact hb
    | back =>
        refine (Ends.self (compares x y earlier).2).mono fun b hb => either b ?_
        cases b <;> exact hb

omit compares in
/-- Elements are counted up to a place whose two neighbours were tested. -/
theorem countFrom_ends {goes : α → Except ε Bool} (side : Side) {run : List α}
    (h : ∀ x ∈ run, FailsOnly P (goes x)) :
    Ends P (fun n => (∀ x ∈ (run.take n).getLast?, goes x = .ok (side == .front)) ∧
        ∀ x ∈ (run.drop n).head?, goes x = .ok (side == .back))
      (countFrom side goes run) := by
  cases side with
  | front =>
      refine (gallop_ends (by simpa using h) ?_).mono fun n split => ⟨split.last, split.next⟩
      rw [List.size_toArray]
      omega
  | back =>
      refine (gallop_ends (by simpa using h) ?_).bind fun n split => .ok ?_
      · rw [List.size_toArray, List.length_reverse]
        omega
      · have inside : n ≤ run.length := by simpa using split.inside
        constructor
        · intro x hx
          refine split.next x ?_
          rwa [List.drop_reverse, List.head?_reverse]
        · intro x hx
          refine split.last x ?_
          rwa [List.take_reverse, List.getLast?_reverse]

/-- The elements of the left run that are counted go before the right run, and the next element of
the right run before the others. -/
theorem leftCount_ends (across : ∀ x ∈ m.left, ∀ y ∈ m.right, before x y) :
    Ends P (fun n => Links (side.Follows below before) (m.left.take n) m.right ∧
        Links (side.Follows below before) (m.right.take 1) (m.left.drop n))
      (m.leftCount below side) := by
  rcases m with ⟨left, _ | ⟨y, right⟩, merged⟩
  · exact .ok (by simp [Links])
  · have earlier (x : α) (hx : x ∈ left) : before x y := across x hx y List.mem_cons_self
    refine (countFrom_ends side fun x hx => ?_).mono ?_
    · exact (compares x y (earlier x hx)).2.bind fun b _ => .ok _
    · rintro n ⟨last, next⟩
      constructor
      · intro x hx z hz
        obtain rfl : y = z := by simpa using hz
        have tested := not_eq_ok.1 (last x hx)
        rw [Side.not_beq_front] at tested
        exact side.follows_left (earlier x (List.mem_of_mem_take (List.mem_of_getLast? hx))) tested
      · intro z hz x hx
        obtain rfl : y = z := by simpa using hz
        have tested := not_eq_ok.1 (next x hx)
        rw [Side.not_beq_back] at tested
        exact side.follows_right (earlier x (List.mem_of_mem_drop (List.mem_of_head? hx))) tested

/-- The elements of the right run that are counted go before the left run, and the next element of
the left run before the others. -/
theorem rightCount_ends (across : ∀ x ∈ m.left, ∀ y ∈ m.right, before x y) :
    Ends P (fun n => Links (side.Follows below before) (m.right.take n) m.left ∧
        Links (side.Follows below before) (m.left.take 1) (m.right.drop n))
      (m.rightCount below side) := by
  rcases m with ⟨_ | ⟨x, left⟩, right, merged⟩
  · exact .ok (by simp [Links])
  · have earlier (y : α) (hy : y ∈ right) : before x y := across x List.mem_cons_self y hy
    refine (countFrom_ends side fun y hy => (compares x y (earlier y hy)).2).mono ?_
    rintro n ⟨last, next⟩
    constructor
    · intro y hy z hz
      obtain rfl : x = z := by simpa using hz
      have tested := last y hy
      exact side.follows_right (earlier y (List.mem_of_mem_take (List.mem_of_getLast? hy))) tested
    · intro z hz y hy
      obtain rfl : x = z := by simpa using hz
      have tested := next y hy
      exact side.follows_left (earlier y (List.mem_of_mem_drop (List.mem_of_head? hy))) tested

/-- After a round of galloping the rest can be merged, and no element is lost. -/
theorem gallopRound_ends (ready : m.Ready below before side pre post)
    (notDone : m.isDone side = false) :
    Ends P (fun round =>
        round.1.1.Ready below before side pre post ∧ round.1.1.elements.Perm m.elements)
      (m.gallopRound below side notDone) := by
  unfold gallopRound
  refine (leftCount_ends compares ready.across).bind ?_
  rintro fromLeft ⟨link₁, link₂⟩
  have ready₁ := ready.takeLeft (ne_nil_of_isDone notDone).2 link₁
  have perm₁ : (m.takeLeft fromLeft).elements.Perm m.elements := .of_eq (elements_takeLeft _ m)
  by_cases done₁ : (m.takeLeft fromLeft).isDone side
  · rw [dif_pos done₁]
    exact .ok ⟨ready₁, perm₁⟩
  rw [dif_neg done₁]
  have ready₂ := ready₁.takeRight (ne_nil_of_isDone (Bool.eq_false_iff.2 done₁)).1 link₂
  have perm₂ := (elements_takeRight 1 (m.takeLeft fromLeft)).trans perm₁
  by_cases done₂ : ((m.takeLeft fromLeft).takeRight 1).isDone side
  · rw [if_pos done₂]
    exact .ok ⟨ready₂, perm₂⟩
  rw [if_neg done₂]
  refine (rightCount_ends compares ready₂.across).bind ?_
  rintro fromRight ⟨link₃, link₄⟩
  have ready₃ := ready₂.takeRight (ne_nil_of_isDone (Bool.eq_false_iff.2 done₂)).1 link₃
  have perm₃ := (elements_takeRight fromRight _).trans perm₂
  by_cases done₃ : (((m.takeLeft fromLeft).takeRight 1).takeRight fromRight).isDone side
  · rw [if_pos done₃]
    exact .ok ⟨ready₃, perm₃⟩
  rw [if_neg done₃]
  have ready₄ := ready₃.takeLeft (ne_nil_of_isDone (Bool.eq_false_iff.2 done₃)).2 link₄
  exact .ok ⟨ready₄, (List.Perm.of_eq (elements_takeLeft 1 _)).trans perm₃⟩

theorem merge_ends (ready : m.Ready below before side pre post) (gait : Gait) (patience : Nat) :
    Ends P (fun out => out.1.Perm m.elements ∧
        (pre ++ side.orient out.1 ++ post).IsChain (side.Follows below before))
      (m.merge below side gait patience) := by
  -- What is left gets smaller with each turn, and each turn leaves it ready to be merged.
  induction size : m.size using Nat.strongRecOn generalizing gait patience m with
  | ind n ih =>
      unfold merge
      by_cases done : m.isDone side
      · rw [dif_pos done]
        exact .ok ⟨result_perm side m, ready.result done⟩
      rw [dif_neg done]
      have notDone : m.isDone side = false := Bool.eq_false_iff.2 done
      obtain ⟨someLeft, someRight⟩ := ne_nil_of_isDone notDone
      cases gait with
      | walking leftWins rightWins =>
          refine (leftGoesFirst_ends compares ready notDone).bind fun first link => ?_
          cases first with
          | true =>
              have less := size ▸ size_takeLeft_one_lt notDone
              refine (ih _ less (ready.takeLeft someRight link) _ _ rfl).mono ?_
              exact fun out ⟨perm, chain⟩ => ⟨elements_takeLeft 1 m ▸ perm, chain⟩
          | false =>
              have less := size ▸ size_takeRight_one_lt notDone
              refine (ih _ less (ready.takeRight someLeft link) _ _ rfl).mono ?_
              exact fun out ⟨perm, chain⟩ => ⟨perm.trans (elements_takeRight 1 m), chain⟩
      | galloping =>
          refine (gallopRound_ends compares ready notDone).bind ?_
          rintro ⟨⟨m', smaller⟩, again⟩ ⟨ready', perm'⟩
          by_cases done' : m'.isDone side
          · simp only [dif_pos done']
            exact .ok ⟨(result_perm side m').trans perm', ready'.result done'⟩
          · have less : m'.size < n := size ▸ smaller.resolve_left done'
            have rest (gait : Gait) (patience : Nat) :=
              (ih _ less ready' gait patience rfl).mono fun out ⟨perm, chain⟩ =>
                And.intro (perm.trans perm') chain
            simp only [dif_neg done']
            cases again with
            | true => exact rest .galloping (max 1 (patience - 1))
            | false => exact rest (.walking 0 0) (patience + 1)

end Compares

end Merging

/-- Two runs overlap between `pre` and `post`: each of them fits in between, and the first element
of the later run as well as its last one may precede that of the other. -/
structure Overlap (below : α → α → Except ε Bool) (before : α → α → Prop)
    (pre left right post : List α) : Prop where
  fitsLeft : (pre ++ (left ++ post)).IsChain (MayPrecede below before)
  fitsRight : (pre ++ (right ++ post)).IsChain (MayPrecede below before)
  across : ∀ x ∈ left, ∀ y ∈ right, before x y
  first : ∀ x ∈ left.head?, ∀ y ∈ right.head?, MayPrecede below before y x
  last : ∀ x ∈ left.getLast?, ∀ y ∈ right.getLast?, MayPrecede below before y x

namespace Overlap

variable {pre left right post : List α}

theorem merge_front_ends (h : Overlap below before pre left right post)
    (compares : ComparesWith P below before) (some' : left ≠ []) (patience : Nat) :
    Ends P (fun out => out.1.Perm (left ++ right) ∧
        (pre ++ out.1 ++ post).IsChain (MayPrecede below before))
      ((Merging.takeRight 1 ⟨left, right, []⟩).merge below .front (.walking 0 0) patience) := by
  have ready : Merging.Ready below before .front pre post ⟨left, right, []⟩ :=
    ⟨by simpa using h.fitsLeft, by simpa using h.fitsRight, h.across, h.last⟩
  have first : Links (Side.front.Follows below before) (right.take 1) left := by
    intro y hy x hx
    rw [getLast?_take_one] at hy
    exact h.first x hx y hy
  refine (Merging.merge_ends compares (ready.takeRight some' first) _ patience).mono ?_
  rintro out ⟨perm, chain⟩
  exact ⟨perm.trans (Merging.elements_takeRight 1 ⟨left, right, []⟩), chain⟩

/-- If nothing is left of the right run, merging at the back leaves the left run as it is. -/
theorem merge_back_ends (h : Overlap below before pre left right post)
    (compares : ComparesWith P below before) (patience : Nat) :
    Ends P (fun out => out.1.Perm (left ++ right) ∧
        (pre ++ out.1 ++ post).IsChain (MayPrecede below before))
      ((Merging.takeLeft 1 ⟨left.reverse, right.reverse, []⟩).merge below .back (.walking 0 0)
        patience) := by
  by_cases none' : right = []
  · subst none'
    have same : (Merging.takeLeft 1 ⟨left.reverse, [], []⟩).result .back = left := by
      simp only [Merging.result, Merging.takeLeft, List.append_nil, List.reverse_reverse,
        List.take_append_drop]
    unfold Merging.merge
    rw [dif_pos (by simp [Merging.isDone, Merging.takeLeft]), List.reverse_nil, same]
    exact .ok ⟨by simp, by simpa using h.fitsLeft⟩
  · have ready : Merging.Ready below before .back post.reverse pre.reverse
        ⟨left.reverse, right.reverse, []⟩ := by
      refine ⟨?_, ?_, by simpa using h.across, by simpa using h.first⟩
      · simpa using List.isChain_reverse.2 h.fitsLeft
      · simpa using List.isChain_reverse.2 h.fitsRight
    have last : Links (Side.back.Follows below before) (left.reverse.take 1) right.reverse := by
      intro x hx y hy
      rw [getLast?_take_one, List.head?_reverse] at hx
      exact h.last x hx y (by simpa using hy)
    have perm' : (Merging.takeLeft 1 ⟨left.reverse, right.reverse, []⟩).elements.Perm
        (left ++ right) := by
      rw [Merging.elements_takeLeft]
      exact (List.reverse_perm left).append (List.reverse_perm right)
    refine (Merging.merge_ends compares (ready.takeLeft (by simpa using none') last) _
      patience).mono ?_
    rintro out ⟨perm, chain⟩
    exact ⟨perm.trans perm', by simpa [Side.orient] using Side.chain_orient chain⟩

end Overlap

/-! ### Merging what is not in its place

Before two runs are merged, the elements that are in their place already are counted: those of the
left run that go before the right run, and those of the right run that go behind the left run.  The
test at either count shows that the rest of the two runs overlaps. -/

section Trim

variable {left right : List α} {x y : α} {placed moving : Nat}

/-- The first element of the right run is not below what is in its place, but below the element
behind that. -/
theorem placed_ends (compares : ComparesWith P below before) (earlier : ∀ x ∈ left, before x y)
    (head : right.head? = some y) :
    Ends P (fun placed => Links (MayPrecede below before) (left.take placed) right ∧
        ∀ x ∈ (left.drop placed).head?, MayPrecede below before y x)
      (gallop (fun x => do return !(← below y x)) left.toArray 0) := by
  refine (gallop_ends (fun x hx => ?_) ?_).mono fun placed split => ⟨fun x hx z hz => ?_, ?_⟩
  · exact (compares x y (earlier x (by simpa using hx))).2.bind fun b _ => .ok _
  · rw [List.size_toArray]
    omega
  · obtain rfl : y = z := Option.some.inj (head.symm.trans hz)
    exact .inl ⟨earlier x (List.mem_of_mem_take (List.mem_of_getLast? hx)),
      not_eq_ok.1 (split.last x hx)⟩
  · exact fun x hx => .inr (not_eq_ok.1 (split.next x hx))

/-- The last element of the left run goes before what is in its place, and the element in front of
that goes before the last element. -/
theorem moving_ends (compares : ComparesWith P below before) (earlier : ∀ y ∈ right, before x y)
    (last : left.getLast? = some x) (some' : right ≠ []) :
    Ends P (fun moving => Links (MayPrecede below before) left (right.drop moving) ∧
        ∀ y ∈ (right.take moving).getLast?, MayPrecede below before y x)
      (gallop (below · x) right.toArray (right.length - 1)) := by
  refine (gallop_ends (fun y hy => ?_) ?_).mono fun moving split => ⟨fun z hz y hy => ?_, ?_⟩
  · exact (compares x y (earlier y (by simpa using hy))).2
  · have := List.length_pos_of_ne_nil some'
    rw [List.size_toArray]
    omega
  · obtain rfl : x = z := Option.some.inj (last.symm.trans hz)
    exact .inl ⟨earlier y (List.mem_of_mem_drop (List.mem_of_head? hy)), split.next y hy⟩
  · exact fun y hy => .inr (split.last y hy)

/-- What is left of two runs overlaps between the elements that are in their place. -/
theorem Overlap.of_trim (hleft : left.IsChain (MayPrecede below before))
    (hright : right.IsChain (MayPrecede below before))
    (across : ∀ x ∈ left, ∀ y ∈ right, before x y) (head : right.head? = some y)
    (last : (left.drop placed).getLast? = some x)
    (placedLink : Links (MayPrecede below before) (left.take placed) right)
    (first : ∀ z ∈ (left.drop placed).head?, MayPrecede below before y z)
    (movingLink : Links (MayPrecede below before) left (right.drop moving))
    (final : ∀ z ∈ (right.take moving).getLast?, MayPrecede below before z x) :
    Overlap below before (left.take placed) (left.drop placed) (right.take moving)
      (right.drop moving) where
  fitsLeft := by
    rw [← List.append_assoc, List.take_append_drop]
    exact List.isChain_append.2 ⟨hleft, hright.drop moving, movingLink⟩
  fitsRight := by
    rw [List.take_append_drop]
    exact List.isChain_append.2 ⟨hleft.take placed, hright, placedLink⟩
  across := fun z hz w hw => across z (List.mem_of_mem_drop hz) w (List.mem_of_mem_take hw)
  first := by
    intro z hz w hw
    obtain rfl : y = w := by
      rw [List.head?_take] at hw
      split at hw
      · cases hw
      · exact Option.some.inj (head.symm.trans hw)
    exact first z hz
  last := by
    intro z hz w hw
    obtain rfl : x = z := Option.some.inj (last.symm.trans hz)
    exact final w hw

theorem perm_of_trim {merged : List α} (h : merged.Perm (left.drop placed ++ right.take moving)) :
    (left.take placed ++ merged ++ right.drop moving).Perm (left ++ right) := by
  have whole : left.take placed ++ (left.drop placed ++ right.take moving) ++ right.drop moving =
      left ++ right := by
    rw [← List.append_assoc, List.take_append_drop, List.append_assoc, List.take_append_drop]
  exact whole ▸ (h.append_left _).append_right _

end Trim

/-- Merging two chains makes one of them, if all elements of the first came before those of the
second. -/
theorem mergeRuns_ends (compares : ComparesWith P below before) (patience : Nat)
    {left right : List α} (hleft : left.IsChain (MayPrecede below before))
    (hright : right.IsChain (MayPrecede below before))
    (across : ∀ x ∈ left, ∀ y ∈ right, before x y) :
    Ends P (fun out => out.1.Perm (left ++ right) ∧ out.1.IsChain (MayPrecede below before))
      (mergeRuns below patience left right) := by
  rcases right with _ | ⟨y, right⟩
  · exact .ok ⟨by simp, hleft⟩
  have head : (y :: right).head? = some y := rfl
  unfold mergeRuns
  refine (placed_ends compares (fun x hx => across x hx y List.mem_cons_self) head).bind ?_
  rintro placed ⟨placedLink, first⟩
  cases last : (left.drop placed).getLast? with
  | none =>
      -- All of the left run is in its place, and nothing is merged.
      have all : left.take placed = left := List.take_of_length_le (by simpa using last)
      rw [all] at placedLink
      simp only [last]
      exact .ok ⟨.refl _, List.isChain_append.2 ⟨hleft, hright, placedLink⟩⟩
  | some x =>
      have memRest : x ∈ left.drop placed := List.mem_of_getLast? last
      have memLeft : x ∈ left := List.mem_of_mem_drop memRest
      simp only [last]
      refine (moving_ends compares (across x memLeft) (mem_getLast?_of_drop last)
        (List.cons_ne_nil y right)).bind ?_
      rintro moving ⟨movingLink, final⟩
      have overlap := Overlap.of_trim hleft hright across head last placedLink first
        movingLink final
      -- The side at which merging begins makes no difference to what comes of it.
      by_cases shorter : (left.drop placed).length ≤ ((y :: right).take moving).length
      · rw [if_pos shorter]
        refine (overlap.merge_front_ends compares (List.ne_nil_of_mem memRest) patience).bind ?_
        exact fun out merged => .ok ⟨perm_of_trim merged.1, merged.2⟩
      · rw [if_neg shorter]
        refine (overlap.merge_back_ends compares patience).bind ?_
        exact fun out merged => .ok ⟨perm_of_trim merged.1, merged.2⟩

end DocQuery.StableSort
