/-
Module: DocQuery.Proofs.PathNodes
Purpose: The values that a path leads to are those that its steps select one after the other, and
  the records of a document are the objects among them.
Main exports: Slot, Value.slots, PathStep.selects, RecordPath.selected, RecordPath.nodes,
  RecordPath.Unpacks, RecordPath.PathLaws, RecordPath.pathLaws
-/
import DocQuery.Proofs.ContentEquality
import DocQuery.RecordPath

namespace DocQuery

/-! ### The parts of a value

What a step means, without looking anything up: of the parts of a value it selects those whose slot
fits. -/

/-- Where a part of a value lies in it: under a name in an object, at a position in an array. -/
inductive Slot where
  | member (name : String)
  | element (position : Nat)
deriving DecidableEq, Repr

/-- The parts of a value in the order of the document, each with its slot. -/
def Value.slots : Value → List (Slot × Value)
  | .array items => items.zipIdx.map fun (x, i) => (.element i, x)
  | .object fields => fields.map fun (name, x) => (.member name, x)
  | _ => []

theorem Value.map_slots (v : Value) : v.slots.map Prod.snd = v.parts := by
  cases v <;> simp [slots, parts, Function.comp_def]

/-- The slots that a step selects: the one that it names, or each. -/
def PathStep.selects : PathStep → Slot → Bool
  | .key name, .member name' => name = name'
  | .index i, .element i' => i = i'
  | .wildcard, _ => true
  | _, _ => false

namespace RecordPath

/-- The parts of a value that a step selects, in the order of the document. -/
def selected (s : PathStep) (v : Value) : List Value :=
  (v.slots.filter fun part => s.selects part.1).map Prod.snd

/-- The values that are selected by the steps of a path, from the document inwards. -/
def nodes (steps : List PathStep) (document : Value) : List Value :=
  steps.foldl (fun found s => found.flatMap (selected s)) [document]

/-! ### One step

A name and an index are looked up by the program.  That this comes to the same as selecting among
all parts needs that no name occurs twice. -/

theorem map_filter_zipIdx {α : Type} (items : List α) (start i : Nat) :
    ((items.zipIdx start).filter fun item => decide (start + i = item.2)).map Prod.fst =
      items[i]?.toList := by
  induction items generalizing start i with
  | nil => rfl
  | cons x items ih =>
      rw [List.zipIdx_cons, List.filter_cons]
      cases i with
      | zero =>
          have later : (items.zipIdx (start + 1)).filter
              (fun item => decide (start + 0 = item.2)) = [] := by
            refine List.filter_eq_nil_iff.2 fun item hitem => ?_
            have behind := List.le_snd_of_mem_zipIdx hitem
            rw [decide_eq_true_iff]
            omega
          rw [later]
          simp
      | succ i =>
          have shifted : start + (i + 1) = start + 1 + i := by omega
          rw [shifted, decide_eq_false (by omega), if_neg Bool.false_ne_true, ih]
          rfl

theorem selected_wildcard (v : Value) : selected .wildcard v = v.parts := by
  have all : (v.slots.filter fun part => PathStep.wildcard.selects part.1) = v.slots :=
    List.filter_eq_self.2 fun _ _ => rfl
  rw [selected, all, Value.map_slots]

/-- A step that fits no slot of a value selects nothing. -/
theorem selected_eq_nil {s : PathStep} {v : Value}
    (h : ∀ part ∈ v.slots, s.selects part.1 = false) : selected s v = [] := by
  rw [selected, List.map_eq_nil_iff, List.filter_eq_nil_iff]
  exact fun part hp => Bool.not_eq_true _ ▸ h part hp

/-- A step leads to the parts that it selects. -/
theorem follow_eq_selected {v : Value} (wellFormed : v.WellFormed) (s : PathStep) :
    follow s v = selected s v := by
  -- What a lookup finds is all there is to select, since no name and no index comes twice.
  cases v with
  | array items =>
      cases s with
      | key name =>
          refine (selected_eq_nil fun part hp => ?_).symm
          obtain ⟨item, _, rfl⟩ := List.mem_map.1 hp
          rfl
      | index i =>
          have found := map_filter_zipIdx items 0 i
          rw [Nat.zero_add] at found
          rw [follow, ← found, selected, Value.slots, List.filter_map, List.map_map]
          rfl
      | wildcard =>
          rw [selected_wildcard]
          rfl
  | object fields =>
      cases s with
      | key name =>
          rw [follow, ← Keyed.map_filter_eq_get? wellFormed.1, selected, Value.slots,
            List.filter_map, List.map_map]
          rfl
      | index i =>
          refine (selected_eq_nil fun part hp => ?_).symm
          obtain ⟨field, _, rfl⟩ := List.mem_map.1 hp
          rfl
      | wildcard =>
          rw [selected_wildcard]
          rfl
  | null | bool _ | number _ | string _ => cases s <;> rfl

theorem wellFormed_selected {s : PathStep} {v part : Value} (wellFormed : v.WellFormed)
    (h : part ∈ selected s v) : part.WellFormed := by
  refine Value.wellFormed_of_mem_parts wellFormed ?_
  rw [← Value.map_slots]
  exact List.map_subset _ (List.filter_subset_self _) h

theorem length_selected_le {s : PathStep} (single : s ≠ .wildcard) {v : Value}
    (wellFormed : v.WellFormed) : (selected s v).length ≤ 1 := by
  rw [← follow_eq_selected wellFormed]
  cases s with
  | key name => cases v <;> simp [follow]
  | index i => cases v <;> simp [follow]
  | wildcard => exact absurd rfl single

/-! ### Several steps

A step is taken from all values at once.  Following a path ends at the first step that leaves none,
so that the steps before it are split off. -/

section

variable {document : Value}

@[simp] theorem nodes_nil (document : Value) : nodes [] document = [document] :=
  rfl

theorem nodes_concat (steps : List PathStep) (s : PathStep) (document : Value) :
    nodes (steps ++ [s]) document = (nodes steps document).flatMap (selected s) := by
  rw [nodes, List.foldl_append]
  rfl

theorem wellFormed_nodes (wellFormed : document.WellFormed) (steps : List PathStep) :
    ∀ v ∈ nodes steps document, v.WellFormed := by
  induction steps using List.reverseRecOn with
  | nil => simpa using wellFormed
  | append_singleton steps s ih =>
      intro v hv
      rw [nodes_concat] at hv
      obtain ⟨w, hw, hv⟩ := List.mem_flatMap.1 hv
      exact wellFormed_selected (ih w hw) hv

/-- Once no value is left, none comes back. -/
theorem nodes_append_eq_nil {before : List PathStep} (h : nodes before document = [])
    (after : List PathStep) : nodes (before ++ after) document = [] := by
  induction after using List.reverseRecOn with
  | nil => rwa [List.append_nil]
  | append_singleton after s ih => rw [← List.append_assoc, nodes_concat, ih, List.flatMap_nil]

/-- Without a wildcard a path leads to one value at most. -/
theorem length_nodes_le (wellFormed : document.WellFormed) {steps : List PathStep}
    (single : .wildcard ∉ steps) : (nodes steps document).length ≤ 1 := by
  induction steps using List.reverseRecOn with
  | nil => simp
  | append_singleton steps s ih =>
      rw [List.mem_append, not_or, List.mem_singleton] at single
      have known := wellFormed_nodes wellFormed steps
      have before := ih single.1
      rw [nodes_concat]
      match found : nodes steps document, before with
      | [], _ => simp
      | [v], _ =>
          rw [found] at known
          simpa using length_selected_le (Ne.symm single.2) (known v List.mem_cons_self)

/-- Following one step either ends, or goes on from the values that it leads to. -/
theorem walk_cons (wellFormed : document.WellFormed) (before : List PathStep) (s : PathStep)
    (after : List PathStep) :
    walk (s :: after) (nodes before document) =
      if nodes (before ++ [s]) document = [] then .error (missing? s)
      else walk after (nodes (before ++ [s]) document) := by
  have known := wellFormed_nodes wellFormed before
  rw [walk, nodes_concat, List.flatMap_congr fun v hv => follow_eq_selected (known v hv) s]
  cases (nodes before document).flatMap (selected s) <;> rfl

/-- As long as values are left, following steps goes on. -/
theorem walk_append (wellFormed : document.WellFormed) {before through : List PathStep}
    (left : nodes (before ++ through) document ≠ []) (after : List PathStep) :
    walk (through ++ after) (nodes before document) =
      walk after (nodes (before ++ through) document) := by
  induction through generalizing before with
  | nil => rw [List.append_nil, List.nil_append]
  | cons s through ih =>
      have split : before ++ s :: through = before ++ [s] ++ through := by simp
      rw [split] at left ⊢
      have here : nodes (before ++ [s]) document ≠ [] :=
        fun none => left (nodes_append_eq_nil none through)
      rw [List.cons_append, walk_cons wellFormed, if_neg here, ih left]

theorem walk_append_document (wellFormed : document.WellFormed) {through : List PathStep}
    (left : nodes through document ≠ []) (after : List PathStep) :
    walk (through ++ after) [document] = walk after (nodes through document) := by
  have here : nodes ([] ++ through) document ≠ [] := left
  exact walk_append wellFormed here after

theorem walk_of_left (wellFormed : document.WellFormed) {steps : List PathStep}
    (left : nodes steps document ≠ []) : walk steps [document] = .ok (nodes steps document) := by
  have all := walk_append_document wellFormed left []
  rwa [List.append_nil, walk] at all

/-- Following a path ends at the first step that leaves no value. -/
theorem walk_of_emptied (wellFormed : document.WellFormed) {before : List PathStep} {s : PathStep}
    (left : nodes before document ≠ []) (emptied : nodes (before ++ [s]) document = [])
    (after : List PathStep) : walk (before ++ s :: after) [document] = .error (missing? s) := by
  rw [walk_append_document wellFormed left, walk_cons wellFormed, if_pos emptied]

/-- If no value is left at the end, there is a first step that leaves none. -/
theorem exists_emptied {steps : List PathStep} (none : nodes steps document = []) :
    ∃ before s after, steps = before ++ s :: after ∧ nodes before document ≠ [] ∧
      nodes (before ++ [s]) document = [] := by
  induction steps using List.reverseRecOn with
  | nil => cases none
  | append_singleton steps s ih =>
      by_cases left : nodes steps document = []
      · obtain ⟨before, s', after, rfl, lives, dies⟩ := ih left
        exact ⟨before, s', after ++ [s], by simp, lives, dies⟩
      · exact ⟨steps, s, [], rfl, left, none⟩

end

/-! ### What a path finds

With a wildcard a path gathers what it leads to into one array, and arrays item by item; without one
there is a single value. -/

/-- What a step leaves of a value when it is gathered: the items of an array, and any other value as
it is. -/
inductive Unpacks : Value → List Value → Prop where
  | items (items : List Value) : Unpacks (.array items) items
  | single {v : Value} : v.type ≠ .array → Unpacks v [v]

theorem unpacks_itemsOf (v : Value) : Unpacks v (itemsOf v) := by
  cases v with
  | array items => exact .items items
  | null | bool _ | number _ | string _ | object _ => exact .single nofun

section

variable {document : Value} {steps : List PathStep}

/-- A path that leaves values finds these, gathered into one array if it has a wildcard. -/
theorem evaluate_of_left (wellFormed : document.WellFormed) (left : nodes steps document ≠ []) :
    evaluate steps document =
      if fansOut steps then .ok [.array ((nodes steps document).flatMap itemsOf)]
      else .ok (nodes steps document) := by
  rw [evaluate, walk_of_left wellFormed left]

/-- A path finds nothing exactly if some step leaves no value, and the first such step is what it
misses. -/
theorem evaluate_eq_error_iff (wellFormed : document.WellFormed) {missed : Option String} :
    evaluate steps document = .error missed ↔
      ∃ before s after, steps = before ++ s :: after ∧ nodes before document ≠ [] ∧
        nodes (before ++ [s]) document = [] ∧ missed = missing? s := by
  constructor
  · intro h
    by_cases left : nodes steps document = []
    · obtain ⟨before, s, after, rfl, lives, dies⟩ := exists_emptied left
      rw [evaluate, walk_of_emptied wellFormed lives dies] at h
      cases h
      exact ⟨before, s, after, rfl, lives, dies, rfl⟩
    · rw [evaluate_of_left wellFormed left] at h
      split at h <;> cases h
  · rintro ⟨before, s, after, rfl, lives, dies, rfl⟩
    rw [evaluate, walk_of_emptied wellFormed lives dies]

theorem left_of_evaluate (wellFormed : document.WellFormed) {found : List Value}
    (h : evaluate steps document = .ok found) : nodes steps document ≠ [] := by
  intro none
  obtain ⟨before, s, after, split, lives, dies⟩ := exists_emptied none
  rw [(evaluate_eq_error_iff wellFormed).2 ⟨before, s, after, split, lives, dies, rfl⟩] at h
  cases h

theorem fansOut_iff : fansOut steps = true ↔ .wildcard ∈ steps := by
  rw [fansOut, List.contains_iff_mem]

/-- Without a wildcard a path finds the one value that it leads to. -/
theorem evaluate_single (wellFormed : document.WellFormed) (single : .wildcard ∉ steps)
    {found : List Value} (h : evaluate steps document = .ok found) :
    found = nodes steps document ∧ ∃ v, found = [v] := by
  have left := left_of_evaluate wellFormed h
  rw [evaluate_of_left wellFormed left, if_neg fun fans => single (fansOut_iff.1 fans)] at h
  cases h
  refine ⟨rfl, List.length_eq_one_iff.1 (le_antisymm (length_nodes_le wellFormed single) ?_)⟩
  exact List.length_pos_iff.2 left

/-- With a wildcard a path finds one array, which gathers the values that it leads to. -/
theorem evaluate_gathered (wellFormed : document.WellFormed) (fans : .wildcard ∈ steps)
    {found : List Value} (h : evaluate steps document = .ok found) :
    ∃ lists, List.Forall₂ Unpacks (nodes steps document) lists ∧
      found = [.array lists.flatten] := by
  rw [evaluate_of_left wellFormed (left_of_evaluate wellFormed h), if_pos (fansOut_iff.2 fans)] at h
  cases h
  refine ⟨(nodes steps document).map itemsOf, ?_, by rw [List.flatMap_def]⟩
  rw [List.forall₂_map_right_iff]
  exact List.forall₂_same.2 fun v _ => unpacks_itemsOf v

/-- A path that finds something finds one value. -/
theorem exists_evaluate_eq_singleton (wellFormed : document.WellFormed) {found : List Value}
    (h : evaluate steps document = .ok found) : ∃ v, found = [v] := by
  by_cases fans : .wildcard ∈ steps
  · obtain ⟨lists, -, one⟩ := evaluate_gathered wellFormed fans h
    exact ⟨_, one⟩
  · exact (evaluate_single wellFormed fans h).2

end

/-! ### Records

Of what is found, only objects become rows.  The rest is counted for the warning, and the two add up
to all items. -/

theorem map_rowOf? (candidates : List Value) :
    (candidates.filterMap rowOf?).map Value.object =
      candidates.filter fun v => v.type = .object := by
  induction candidates with
  | nil => rfl
  | cons v candidates ih =>
      cases v <;> simp [List.filterMap_cons, rowOf?, Value.type, ih]

/-- The values that give no row are those that are no objects. -/
theorem length_sub_rows (candidates : List Value) :
    candidates.length - (candidates.filterMap rowOf?).length =
      candidates.countP fun v => v.type ≠ .object := by
  have rows : (candidates.filterMap rowOf?).length =
      candidates.countP fun v => v.type = .object := by
    rw [← List.length_map (f := Value.object), map_rowOf?, List.countP_eq_length_filter]
  have all : candidates.length = candidates.countP (fun v => v.type = .object) +
      candidates.countP fun v => v.type ≠ .object := by
    simpa using List.length_eq_countP_add_countP (fun v : Value => decide (v.type = .object))
  omega

section

variable {steps : List PathStep} {document : Value} {expression source : String}

theorem recordsAt_of_missed {missed : Option String} (h : evaluate steps document = .error missed) :
    recordsAt steps document expression source =
      ([], missed.map (.nothingFound expression source)) := by
  rw [recordsAt, h]

/-- The records are the objects among the items of what is found; the others are counted. -/
theorem recordsAt_of_found {target : Value} (h : evaluate steps document = .ok [target]) :
    recordsAt steps document expression source =
      ((itemsOf target).filterMap rowOf?,
        let others := (itemsOf target).countP fun v => v.type ≠ .object
        if others = 0 then none else some (.skipped others expression source)) := by
  rw [recordsAt, h, ← length_sub_rows]
  rfl

end

/-- What the steps of a path find in a document, and which records its expression stands for. -/
structure PathLaws (steps : List PathStep) (document : Value) (expression source : String) :
    Prop where
  /-- Nothing is found exactly if some step leaves no value.  The first such step is missing. -/
  missing_iff : ∀ missed, evaluate steps document = .error missed ↔
    ∃ before s after, steps = before ++ s :: after ∧ nodes before document ≠ [] ∧
      nodes (before ++ [s]) document = [] ∧
      missed = match s with
        | .key name => some name
        | .index i => some ("[" ++ toString i ++ "]")
        | .wildcard => none
  single : .wildcard ∉ steps → ∀ found, evaluate steps document = .ok found →
    found = nodes steps document ∧ ∃ v, found = [v]
  /-- The values that a path with a wildcard leads to are put together, arrays item by item. -/
  gathered : .wildcard ∈ steps → ∀ found, evaluate steps document = .ok found →
    ∃ lists, List.Forall₂ Unpacks (nodes steps document) lists ∧ found = [.array lists.flatten]
  /-- There is always an answer: the objects that are found, in order, and a warning that counts
  what else is found, or tells what is missing. -/
  answers : ∃ rows warning, records document expression source = .ok (rows, warning) ∧
    (∀ missed, evaluate steps document = .error missed →
      rows = [] ∧ warning = missed.map (.nothingFound expression source)) ∧
    ∀ found, evaluate steps document = .ok found →
      ∃ target candidates, found = [target] ∧ Unpacks target candidates ∧
        rows.map .object = candidates.filter (fun v => v.type = .object) ∧
        warning =
          let others := candidates.countP fun v => v.type ≠ .object
          if others = 0 then none else some (.skipped others expression source)

theorem pathLaws {expression : String} {steps : List PathStep}
    (reads : parse expression = .ok steps) {document : Value} (wellFormed : document.WellFormed)
    (source : String) : PathLaws steps document expression source := by
  constructor
  case missing_iff =>
    intro missed
    rw [evaluate_eq_error_iff wellFormed]
    refine exists_congr fun before => exists_congr fun s => ?_
    cases s <;> rfl
  case single => exact fun single found => evaluate_single wellFormed single
  case gathered => exact fun fans found => evaluate_gathered wellFormed fans
  case answers =>
    have told : records document expression source =
        .ok (recordsAt steps document expression source) := by
      rw [records, reads]
      rfl
    refine ⟨(recordsAt steps document expression source).1,
      (recordsAt steps document expression source).2, told, ?_, ?_⟩
    · intro missed h
      rw [recordsAt_of_missed h]
      exact ⟨rfl, rfl⟩
    · intro found h
      obtain ⟨target, rfl⟩ := exists_evaluate_eq_singleton wellFormed h
      rw [recordsAt_of_found h]
      exact ⟨target, itemsOf target, rfl, unpacks_itemsOf target, map_rowOf? _, rfl⟩

/-- The items of some shops: where there is no list of them there is nothing to unpack, and what is
no object is left out. -/
theorem pathLaws_shops :
    let text := "$.shops[*].items"
    let steps : List PathStep := [.key "shops", .wildcard, .key "items"]
    let one : Keyed Value := [("id", .int 1)]
    let two : Keyed Value := [("id", .int 2)]
    let document : Value := .object [("shops", .array
      [.object [("items", .array [.object one, .int 7])], .object [("name", .null)],
        .object [("items", .object two)]])]
    parse text = .ok steps ∧ document.WellFormed ∧
      nodes steps document = [.array [.object one, .int 7], .object two] ∧
      recordsAt steps document text "shops.json" =
        ([one, two], some (.skipped 1 text "shops.json")) ∧
      PathLaws steps document text "shops.json" := by
  intro text steps one two document
  have reads : parse text = .ok steps := by decide +kernel
  have wellFormed : document.WellFormed := by
    simp [document, one, two, Value.WellFormed, Value.AllWellFormed, Value.FieldsWellFormed,
      Value.int, Keyed.keys]
  exact ⟨reads, wellFormed, rfl, rfl, pathLaws reads wellFormed "shops.json"⟩

end RecordPath

end DocQuery
