/-
Module: DocQuery.Proofs.Placeholders
Purpose: Which parts of a text are its placeholders, and what replacing them makes of the text.
Main exports: Parameters.Piece.IsPlaceholder, Parameters.Scans, Parameters.scans_iff,
  Parameters.Fills, Parameters.ReplacementLaws, Parameters.replacementLaws
-/
import DocQuery.Parameters
import DocQuery.Proofs.Entries
import DocQuery.Proofs.Lexing

namespace DocQuery

namespace Parameters

/-! ### Placeholders in a text

`Scans` says what it means to read from the left: wherever a placeholder starts, it is taken as a
whole, and any other character is a piece of its own.  Every text is scanned in one way. -/

namespace Piece

/-- The text of a piece. -/
def chars : Piece → List Char
  | .char c => [c]
  | .placeholder name none => '$' :: '{' :: (name ++ ['}'])
  | .placeholder name (some default) => '$' :: '{' :: (name ++ ':' :: (default ++ ['}']))

/-- A placeholder that can be written.  Its name has characters, but no colon and no closing brace;
its default has no closing brace. -/
def IsPlaceholder : Piece → Prop
  | .char _ => False
  | .placeholder name default =>
      name ≠ [] ∧ (∀ c ∈ name, c ≠ '}' ∧ c ≠ ':') ∧ ∀ d ∈ default, '}' ∉ d

/-- The name of a placeholder. -/
def name? : Piece → Option String
  | .char _ => none
  | .placeholder name _ => some (String.ofList name)

/-- The name of a placeholder that has no default, unless there is a value for it. -/
def lacking? (params : Keyed String) : Piece → Option String
  | .placeholder name none =>
      if Keyed.has (String.ofList name) params then none else some (String.ofList name)
  | _ => none

/-- A placeholder starts with a dollar sign and an opening brace. -/
theorem IsPlaceholder.exists_chars {p : Piece} (written : p.IsPlaceholder) :
    ∃ rest, p.chars = '$' :: '{' :: rest := by
  rcases p with c | ⟨name, _ | default⟩
  · exact written.elim
  · exact ⟨_, rfl⟩
  · exact ⟨_, rfl⟩

end Piece

/-- A text consists of pieces: it is read from the left, and wherever a placeholder starts, it is
taken as a whole. -/
inductive Scans : List Char → List Piece → Prop where
  | nil : Scans [] []
  | placeholder {p : Piece} {cs : List Char} {ps : List Piece} :
      p.IsPlaceholder → Scans cs ps → Scans (p.chars ++ cs) (p :: ps)
  | char {c : Char} {cs : List Char} {ps : List Piece} :
      (∀ (p : Piece) (rest : List Char), p.IsPlaceholder → c :: cs ≠ p.chars ++ rest) →
        Scans cs ps → Scans (c :: cs) (.char c :: ps)

theorem isNameChar_iff {c : Char} : isNameChar c = true ↔ c ≠ '}' ∧ c ≠ ':' := by
  simp [isNameChar]

/-- What is read behind an opening brace is a placeholder. -/
theorem eq_chars_of_readPlaceholder {cs rest : List Char} {p : Piece}
    (h : readPlaceholder cs = some (p, rest)) :
    p.IsPlaceholder ∧ '$' :: '{' :: cs = p.chars ++ rest := by
  -- The texts in front of and behind the mark are generalized, so that only what the reader says of
  -- them is left to split on.
  have whole := List.takeWhile_append_dropWhile (p := isNameChar) (l := cs)
  have named : ∀ c ∈ cs.takeWhile isNameChar, c ≠ '}' ∧ c ≠ ':' :=
    fun c hc => isNameChar_iff.1 (List.mem_takeWhile_imp hc)
  rw [readPlaceholder] at h
  generalize cs.takeWhile isNameChar = name at h whole named
  generalize cs.dropWhile isNameChar = behind at h whole
  subst whole
  split at h
  case h_1 => cases h
  case h_2 some' =>
      cases h
      exact ⟨⟨some', named, nofun⟩, by simp [Piece.chars]⟩
  case h_3 behind some' =>
      have whole := List.takeWhile_append_dropWhile (p := (· ≠ '}')) (l := behind)
      have head := List.head?_dropWhile_not (· ≠ '}') behind
      have inside : '}' ∉ behind.takeWhile (· ≠ '}') := fun brace => by
        simpa using List.mem_takeWhile_imp brace
      generalize behind.takeWhile (· ≠ '}') = default at h whole inside
      generalize behind.dropWhile (· ≠ '}') = after at h whole head
      subst whole
      split at h
      case h_1 brace rest =>
          cases h
          obtain rfl : brace = '}' := by simpa using head
          refine ⟨⟨some', named, ?_⟩, by simp [Piece.chars]⟩
          rintro _ ⟨⟩
          exact inside
      case h_2 => cases h
  case h_4 => cases h

/-- A placeholder is read behind its opening brace. -/
theorem readPlaceholder_chars {p : Piece} (written : p.IsPlaceholder) {cs rest : List Char}
    (h : '$' :: '{' :: cs = p.chars ++ rest) : readPlaceholder cs = some (p, rest) := by
  rcases p with c | ⟨name, default⟩
  · exact written.elim
  obtain ⟨some', named, kept⟩ := written
  have nameChars : ∀ c ∈ name, isNameChar c = true := fun c hc => isNameChar_iff.2 (named c hc)
  cases default with
  | none =>
      obtain rfl : cs = name ++ '}' :: rest := by simpa [Piece.chars] using h
      obtain ⟨taken, left⟩ := Sql.takeWhile_cons_stop nameChars (c := '}') rfl rest
      rw [readPlaceholder, taken, left]
      cases name with
      | nil => exact absurd rfl some'
      | cons c name => rfl
  | some default =>
      obtain rfl : cs = name ++ ':' :: (default ++ '}' :: rest) := by
        simpa [Piece.chars] using h
      obtain ⟨taken, left⟩ := Sql.takeWhile_cons_stop nameChars (c := ':') rfl
        (default ++ '}' :: rest)
      have inside : ∀ c ∈ default, decide (c ≠ '}') = true := fun c hc =>
        decide_eq_true fun same => kept default rfl (same ▸ hc)
      obtain ⟨taken', left'⟩ := Sql.takeWhile_cons_stop inside (c := '}') (by decide) rest
      rw [readPlaceholder, taken, left]
      cases name with
      | nil => exact absurd rfl some'
      | cons c name => simp only [taken', left']

/-- A placeholder in front of a text is its first piece. -/
theorem pieces_placeholder {p : Piece} (written : p.IsPlaceholder) (cs : List Char) :
    pieces (p.chars ++ cs) = p :: pieces cs := by
  obtain ⟨rest, start⟩ := written.exists_chars
  have text : p.chars ++ cs = '$' :: '{' :: (rest ++ cs) := by rw [start]; rfl
  have read := readPlaceholder_chars written text.symm
  rw [text, pieces]
  split
  case h_1 read' =>
      rw [read] at read'
      cases read'
      rfl
  case h_2 unread =>
      rw [read] at unread
      cases unread

/-- A character at which no placeholder starts is a piece of its own. -/
theorem pieces_char {c : Char} {cs : List Char}
    (free : ∀ (p : Piece) (rest : List Char), p.IsPlaceholder → c :: cs ≠ p.chars ++ rest) :
    pieces (c :: cs) = .char c :: pieces cs := by
  rw [pieces.eq_def]
  split
  case h_1 none => cases none
  case h_2 rest text =>
      cases text
      split
      case h_1 p rest' read =>
          obtain ⟨written, text⟩ := eq_chars_of_readPlaceholder read
          exact absurd text (free p rest' written)
      case h_2 => rfl
  case h_3 text =>
      cases text
      rfl

/-- A text consists of its pieces and of no others. -/
theorem scans_iff {cs : List Char} {ps : List Piece} : Scans cs ps ↔ pieces cs = ps := by
  constructor
  · intro scans
    induction scans with
    | nil => rw [pieces]
    | placeholder written _ ih => rw [pieces_placeholder written, ih]
    | char free _ ih => rw [pieces_char free, ih]
  · rintro rfl
    fun_induction pieces cs with
    | case1 => exact .nil
    | case2 rest p rest' read ih =>
        obtain ⟨written, text⟩ := eq_chars_of_readPlaceholder read
        rw [text]
        exact .placeholder written ih
    | case3 rest unread ih =>
        refine .char (fun p rest' written text => ?_) ih
        rw [readPlaceholder_chars written text] at unread
        cases unread
    | case4 c rest other ih =>
        refine .char (fun p rest' written text => ?_) ih
        obtain ⟨rest'', start⟩ := written.exists_chars
        rw [start] at text
        exact other _ (List.cons.inj text).1 (List.cons.inj text).2

/-- The pieces of a text, put together, are the text. -/
theorem Scans.flatMap_chars {cs : List Char} {ps : List Piece} (scans : Scans cs ps) :
    ps.flatMap Piece.chars = cs := by
  induction scans with
  | nil => rfl
  | placeholder _ _ ih => rw [List.flatMap_cons, ih]
  | char _ _ ih => rw [List.flatMap_cons, ih]; rfl

/-- Every piece of a text that has a name is a placeholder. -/
theorem Scans.isPlaceholder_iff {cs : List Char} {ps : List Piece} (scans : Scans cs ps) :
    ∀ p ∈ ps, p.IsPlaceholder ↔ p.name?.isSome = true := by
  induction scans with
  | nil => exact List.forall_mem_nil _
  | @placeholder p _ _ written _ ih =>
      refine List.forall_mem_cons.2 ⟨⟨fun _ => ?_, fun _ => written⟩, ih⟩
      cases p with
      | char c => exact written.elim
      | placeholder name default => rfl
  | char _ _ ih => exact List.forall_mem_cons.2 ⟨⟨False.elim, nofun⟩, ih⟩

/-! ### What the parameters say of the pieces

A piece at a time: what it is replaced by, and whether it lacks a value.  Both depend on the
parameters only through the name of the piece. -/

theorem map_placeholders (text : String) :
    (placeholders text).map Prod.fst = (pieces text.toList).filterMap Piece.name? := by
  rw [placeholders, List.map_filterMap]
  congr 1
  funext p
  cases p <;> rfl

theorem missing_eq (params : Keyed String) (text : String) :
    missing params text =
      Keyed.distinct ((pieces text.toList).filterMap (Piece.lacking? params)) := by
  rw [missing, placeholders, List.filter_filterMap, List.map_filterMap]
  congr 2
  funext p
  rcases p with c | ⟨name, _ | default⟩
  · rfl
  · cases known : Keyed.has (String.ofList name) params <;> simp [Piece.lacking?, known]
  · simp [Piece.lacking?]

/-- What a piece is replaced by: a placeholder by its value, or without one by its default, and any
other character by itself. -/
inductive Fills (params : Keyed String) : Piece → List Char → Prop where
  | char (c : Char) : Fills params (.char c) [c]
  | value {name : List Char} {default : Option (List Char)} {value : String} :
      Keyed.get? (String.ofList name) params = some value →
        Fills params (.placeholder name default) value.toList
  | default {name default : List Char} :
      Keyed.get? (String.ofList name) params = none →
        Fills params (.placeholder name (some default)) default

/-- A piece that does not lack a value is filled. -/
theorem fills_fill {params : Keyed String} {p : Piece} (h : p.lacking? params = none) :
    Fills params p (fill params p) := by
  rcases p with c | ⟨name, default⟩
  · exact .char c
  · cases found : Keyed.get? (String.ofList name) params with
    | some value =>
        rw [fill, found]
        exact .value found
    | none =>
        cases default with
        | none => simp [Piece.lacking?, Keyed.has_eq_isSome_get?, found] at h
        | some default =>
            rw [fill, found]
            exact .default found

/-- Parameters that agree on the names of a text fill its pieces alike. -/
theorem fill_congr {params params' : Keyed String} {p : Piece}
    (agree : ∀ name, p.name? = some name → Keyed.get? name params = Keyed.get? name params') :
    fill params p = fill params' p := by
  cases p with
  | char c => rfl
  | placeholder name default => rw [fill, fill, agree _ rfl]

theorem lacking?_congr {params params' : Keyed String} {p : Piece}
    (agree : ∀ name, p.name? = some name → Keyed.get? name params = Keyed.get? name params') :
    p.lacking? params = p.lacking? params' := by
  rcases p with c | ⟨name, _ | default⟩
  · rfl
  · simp only [Piece.lacking?, Keyed.has_eq_isSome_get?, agree _ rfl]
  · rfl

/-- A piece lacks a value exactly if it is a placeholder without default whose name has none. -/
theorem lacking?_eq_some_iff {params : Keyed String} {p : Piece} {lacking : String} :
    p.lacking? params = some lacking ↔
      ∃ name, p = .placeholder name none ∧ Keyed.has (String.ofList name) params = false ∧
        String.ofList name = lacking := by
  rcases p with c | ⟨name, _ | default⟩
  · simp [Piece.lacking?]
  · cases known : Keyed.has (String.ofList name) params <;> simp [Piece.lacking?, known]
  · simp [Piece.lacking?]

/-! ### Replacing

Either some name lacks a value, and all such names are reported, or the pieces are replaced one by
one and nothing that is put in is looked at again. -/

/-- Replacing fails if names are missing, and tells all of them. -/
theorem replace_eq_error_iff {params : Keyed String} {text : String} {e : ParameterError} :
    replace params text = .error e ↔
      missing params text ≠ [] ∧ e = .missing (missing params text) := by
  rw [replace]
  cases missing params text with
  | nil => simp
  | cons name names => simp [eq_comm]

/-- Replacing succeeds if no name is missing, and fills every piece. -/
theorem replace_eq_ok_iff {params : Keyed String} {text result : String} :
    replace params text = .ok result ↔
      missing params text = [] ∧
        result = String.ofList ((pieces text.toList).flatMap (fill params)) := by
  rw [replace]
  cases missing params text with
  | nil => simp [eq_comm]
  | cons name names => simp

/-- No name is missing exactly if no piece lacks its value. -/
theorem missing_eq_nil_iff {params : Keyed String} {text : String} :
    missing params text = [] ↔ ∀ p ∈ pieces text.toList, p.lacking? params = none := by
  have firsts := Keyed.firstsOf_distinct ((pieces text.toList).filterMap (Piece.lacking? params))
  rw [← List.filterMap_eq_nil_iff, missing_eq, List.eq_nil_iff_forall_not_mem,
    List.eq_nil_iff_forall_not_mem]
  simp only [firsts.mem_iff]

theorem present_iff {text : String} :
    present text = true ↔ ∃ p ∈ pieces text.toList, p.IsPlaceholder := by
  have scans : Scans text.toList (pieces text.toList) := scans_iff.2 rfl
  have none : placeholders text = [] ↔ ∀ p ∈ pieces text.toList, p.name? = none := by
    rw [← List.map_eq_nil_iff, map_placeholders, List.filterMap_eq_nil_iff]
  rw [present, Bool.not_eq_true', ← Bool.not_eq_true, List.isEmpty_iff, none]
  simp only [not_forall, exists_prop]
  refine exists_congr fun p => and_congr_right fun hp => ?_
  rw [scans.isPlaceholder_iff p hp, Option.isSome_iff_ne_none]

/-- Replacing fails exactly if there is a placeholder without default and without value. -/
theorem exists_replace_eq_error_iff {params : Keyed String} {text : String} :
    (∃ e, replace params text = .error e) ↔
      ∃ name, .placeholder name none ∈ pieces text.toList ∧
        Keyed.has (String.ofList name) params = false := by
  simp only [replace_eq_error_iff, exists_and_left, exists_eq, and_true, ne_eq, missing_eq_nil_iff,
    not_forall, exists_prop]
  constructor
  · rintro ⟨p, hp, lacks⟩
    obtain ⟨lacking, lacks⟩ := Option.ne_none_iff_exists'.1 lacks
    obtain ⟨name, rfl, unknown, -⟩ := lacking?_eq_some_iff.1 lacks
    exact ⟨name, hp, unknown⟩
  · rintro ⟨name, hp, unknown⟩
    have lacks := lacking?_eq_some_iff.2 ⟨name, rfl, unknown, rfl⟩
    exact ⟨_, hp, by rw [lacks]; nofun⟩

/-- Parameters that agree on the names of a text make the same of it. -/
theorem replace_congr {params params' : Keyed String} {text : String}
    (agree : ∀ name ∈ names text, Keyed.get? name params = Keyed.get? name params') :
    replace params text = replace params' text := by
  have firsts : FirstsOf (names text) _ := Keyed.firstsOf_distinct _
  rw [map_placeholders] at firsts
  have agree' (p : Piece) (hp : p ∈ pieces text.toList) (name : String)
      (named : p.name? = some name) : Keyed.get? name params = Keyed.get? name params' :=
    agree name ((firsts.mem_iff name).2 (List.mem_filterMap.2 ⟨p, hp, named⟩))
  have lack : missing params text = missing params' text := by
    rw [missing_eq, missing_eq, List.filterMap_congr fun p hp => lacking?_congr (agree' p hp)]
  have filled : (pieces text.toList).flatMap (fill params) =
      (pieces text.toList).flatMap (fill params') :=
    List.flatMap_congr fun p hp => fill_congr (agree' p hp)
  rw [replace, replace, lack, filled]

/-- A text without placeholders stays as it is. -/
theorem replace_of_not_present {text : String} (h : present text = false) (params : Keyed String) :
    replace params text = .ok text := by
  have scans : Scans text.toList (pieces text.toList) := scans_iff.2 rfl
  have plain : ∀ p ∈ pieces text.toList, ∃ c, p = .char c := by
    intro p hp
    cases p with
    | char c => exact ⟨c, rfl⟩
    | placeholder name default =>
        have found := present_iff.2 ⟨_, hp, (scans.isPlaceholder_iff _ hp).2 rfl⟩
        rw [h] at found
        cases found
  rw [replace_eq_ok_iff, missing_eq_nil_iff]
  constructor
  · intro p hp
    obtain ⟨c, rfl⟩ := plain p hp
    rfl
  · have filled : (pieces text.toList).flatMap (fill params) =
        (pieces text.toList).flatMap Piece.chars := by
      refine List.flatMap_congr fun p hp => ?_
      obtain ⟨c, rfl⟩ := plain p hp
      rfl
    rw [filled, scans.flatMap_chars, String.ofList_toList]

/-- What replacing the placeholders of a text comes to, where `ps` are the pieces of the text. -/
structure ReplacementLaws (text : String) (ps : List Piece) : Prop where
  /-- The text consists of these pieces, and of these only. -/
  scans_iff : ∀ qs, Scans text.toList qs ↔ qs = ps
  fails_iff : ∀ params, (∃ e, replace params text = .error e) ↔
    ∃ name, Piece.placeholder name none ∈ ps ∧ Keyed.has (String.ofList name) params = false
  /-- The message lists the names without value, in the order in which placeholders lack them. -/
  failure : ∀ params e, replace params text = .error e →
    ∃ lacking, FirstsOf lacking (ps.filterMap (Piece.lacking? params)) ∧
      e.message = "Missing required parameters: " ++ ", ".intercalate lacking
        ++ ". Use --param <name>=<value> to provide values."
  /-- Otherwise every piece is filled by itself, whatever is put in for the others. -/
  success : ∀ params result, replace params text = .ok result →
    ∃ parts, List.Forall₂ (Fills params) ps parts ∧ result.toList = parts.flatten
  names : FirstsOf (names text) (ps.filterMap Piece.name?)
  /-- Values of other names do not matter. -/
  congr : ∀ params params',
    (∀ name ∈ Parameters.names text, Keyed.get? name params = Keyed.get? name params') →
      replace params text = replace params' text
  present_iff : present text = true ↔ ∃ p ∈ ps, p.IsPlaceholder
  /-- Without placeholders there is nothing to replace. -/
  unchanged : present text = false → ∀ params, replace params text = .ok text

/-- Every text consists of pieces in one way, and these say what replacing makes of it. -/
theorem replacementLaws (text : String) : ∃ ps, ReplacementLaws text ps := by
  refine ⟨pieces text.toList, ?_⟩
  constructor
  case scans_iff => exact fun qs => scans_iff.trans eq_comm
  case fails_iff => exact fun params => exists_replace_eq_error_iff
  case failure =>
    intro params e h
    obtain ⟨-, rfl⟩ := replace_eq_error_iff.1 h
    exact ⟨missing params text, missing_eq params text ▸ Keyed.firstsOf_distinct _, rfl⟩
  case success =>
    intro params result h
    obtain ⟨whole, rfl⟩ := replace_eq_ok_iff.1 h
    refine ⟨(pieces text.toList).map (fill params), ?_, ?_⟩
    · rw [List.forall₂_map_right_iff]
      exact List.forall₂_same.2 fun p hp => fills_fill (missing_eq_nil_iff.1 whole p hp)
    · rw [String.toList_ofList, List.flatMap_def]
  case names =>
    rw [names, map_placeholders]
    exact Keyed.firstsOf_distinct _
  case congr => exact fun params params' => replace_congr
  case present_iff => exact present_iff
  case unchanged => exact replace_of_not_present

/-- What was put in for one placeholder is not read as another one. -/
example : replace [("a", "$\x7bb\x7d")] "$\x7ba\x7d$\x7bb:1\x7d" = .ok "$\x7bb\x7d1" := by cbv

end Parameters

end DocQuery
