/-
Module: DocQuery.Proofs.MappingText
Purpose: Where the text of a table mapping is divided, and which mappings are read back from the
  text that is written for them.
Main exports: TableMapping.Marked, TableMapping.LastMark, TableMapping.splitLast_eq_some_iff,
  TableMapping.Reads, TableMapping.IsWritten, TableMapping.parse_text_eq_iff,
  TableMapping.ReadingLaws, TableMapping.readingLaws
-/
import DocQuery.Mapping
import DocQuery.Proofs.Trimming

namespace DocQuery.TableMapping

variable {c : Char} {cs front back : List Char}

/-! ### Marks

A text is divided at its last mark.  Being the last mark is a property of the two parts alone, so
that it can be compared between a text and the text that is written for what was read. -/

/-- A text with a mark in it: a colon with a dollar sign behind it. -/
def Marked (cs : List Char) : Prop :=
  ∃ front back, cs = front ++ ':' :: '$' :: back

/-- What stands before and behind the last mark of a text: no mark starts further behind. -/
structure LastMark (cs front back : List Char) : Prop where
  parts : cs = front ++ ':' :: '$' :: back
  last : ∀ front' back', cs = front' ++ ':' :: '$' :: back' → front'.length ≤ front.length

theorem not_marked_nil : ¬ Marked [] := by
  rintro ⟨front, back, parts⟩
  exact List.append_ne_nil_of_right_ne_nil front (List.cons_ne_nil _ _) parts.symm

/-- A mark of a text is its start, or a mark behind its first character. -/
theorem marked_cons_iff :
    Marked (c :: cs) ↔ (c = ':' ∧ ∃ back, cs = '$' :: back) ∨ Marked cs := by
  constructor
  · rintro ⟨front, back, parts⟩
    cases front with
    | nil =>
        cases parts
        exact .inl ⟨rfl, back, rfl⟩
    | cons d front =>
        cases parts
        exact .inr ⟨front, back, rfl⟩
  · rintro (⟨rfl, back, rfl⟩ | ⟨front, back, rfl⟩)
    · exact ⟨[], back, rfl⟩
    · exact ⟨c :: front, back, rfl⟩

/-- A mark is the last one exactly if there is none behind its colon. -/
theorem lastMark_iff :
    LastMark cs front back ↔ cs = front ++ ':' :: '$' :: back ∧ ¬ Marked ('$' :: back) := by
  constructor
  · rintro ⟨parts, last⟩
    refine ⟨parts, ?_⟩
    rintro ⟨between, behind, later⟩
    have further : cs = (front ++ ':' :: between) ++ ':' :: '$' :: behind := by
      rw [parts, later, List.append_assoc, List.cons_append]
    have bound := last _ _ further
    rw [List.length_append, List.length_cons] at bound
    omega
  · rintro ⟨parts, free⟩
    refine ⟨parts, fun front' back' parts' => ?_⟩
    rcases List.append_eq_append_iff.1 (parts.symm.trans parts') with
      ⟨between, before, behind⟩ | ⟨between, before, -⟩
    · cases between with
      | nil => rw [before, List.append_nil]
      | cons d between => exact absurd ⟨between, back', (List.cons.inj behind).2⟩ free
    · rw [before, List.length_append]
      exact Nat.le_add_right _ _

theorem LastMark.unique {front' back' : List Char} (h : LastMark cs front back)
    (h' : LastMark cs front' back') : front = front' ∧ back = back' := by
  have length := Nat.le_antisymm (h'.last _ _ h.parts) (h.last _ _ h'.parts)
  obtain ⟨before, behind⟩ := List.append_inj (h.parts.symm.trans h'.parts) length
  cases behind
  exact ⟨before, rfl⟩

/-- What a text starts with stands before its last mark, if that is a dollar sign. -/
theorem LastMark.head?_eq_dollar_iff (h : LastMark cs front back) :
    cs.head? = some '$' ↔ front.head? = some '$' := by
  rw [h.parts]
  cases front with
  | nil => simp
  | cons c front => rfl

theorem splitLast_eq_none_iff : splitLast cs = none ↔ ¬ Marked cs := by
  fun_induction splitLast cs with
  | case1 => exact iff_of_true rfl not_marked_nil
  | case2 c cs front back found ih =>
      have later : Marked cs := by simpa [found] using ih
      exact iff_of_false (Option.some_ne_none _) (not_not_intro (marked_cons_iff.2 (.inr later)))
  | case3 back unsplit ih =>
      exact iff_of_false (Option.some_ne_none _) (not_not_intro ⟨[], back, rfl⟩)
  | case4 c cs unsplit other ih =>
      refine iff_of_true rfl fun marked => ?_
      rcases marked_cons_iff.1 marked with ⟨colon, back, dollar⟩ | later
      · exact other back colon dollar
      · exact ih.1 unsplit later

theorem lastMark_of_splitLast (h : splitLast cs = some (front, back)) : LastMark cs front back := by
  apply lastMark_iff.2
  fun_induction splitLast cs generalizing front with
  | case1 => cases h
  | case2 c cs before behind found ih =>
      cases h
      obtain ⟨parts, free⟩ := ih found
      exact ⟨by rw [parts, List.cons_append], free⟩
  | case3 behind unsplit ih =>
      cases h
      exact ⟨rfl, splitLast_eq_none_iff.1 unsplit⟩
  | case4 c cs unsplit other ih => cases h

/-- A text is split at its last mark. -/
theorem splitLast_eq_some_iff : splitLast cs = some (front, back) ↔ LastMark cs front back := by
  refine ⟨lastMark_of_splitLast, fun mark => ?_⟩
  cases split : splitLast cs with
  | none => exact absurd ⟨front, back, mark.parts⟩ (splitLast_eq_none_iff.1 split)
  | some parts =>
      obtain ⟨before, behind⟩ := (lastMark_of_splitLast split).unique mark
      rw [← before, ← behind]

/-! ### Reading

A text without white space around it stands for one of three things: a path alone, a source with a
path, or a source alone.  `Reads` has a constructor for each. -/

/-- What a text without white space around it stands for. -/
inductive Reads (cs : List Char) : TableMapping → Prop where
  | path (root : cs.head? = some '$') : Reads cs ⟨none, String.ofList cs⟩
  | both (front back : List Char) (other : cs.head? ≠ some '$') (mark : LastMark cs front back) :
      Reads cs ⟨some (String.ofList front), String.ofList ('$' :: back)⟩
  | source (other : cs.head? ≠ some '$') (unmarked : ¬ Marked cs) :
      Reads cs ⟨some (String.ofList cs), rootPath⟩

theorem reads_parse (text : String) : Reads (Text.trimBlank text.toList) (parse text) := by
  generalize trimmed : Text.trimBlank text.toList = cs
  rw [parse, trimmed]
  split
  case h_1 cs => exact .path rfl
  case h_2 other =>
    have head : cs.head? ≠ some '$' := by
      intro root
      obtain ⟨rest, rfl⟩ := List.head?_eq_some_iff.1 root
      exact other rest rfl
    split
    case h_1 front back parts => exact .both front back head (splitLast_eq_some_iff.1 parts)
    case h_2 unsplit => exact .source head (splitLast_eq_none_iff.1 unsplit)

/-- A text stands for one mapping only. -/
theorem Reads.unique {m m' : TableMapping} (h : Reads cs m) (h' : Reads cs m') : m = m' := by
  cases h with
  | path root =>
      cases h' with
      | path => rfl
      | both _ _ other => exact absurd root other
      | source other => exact absurd root other
  | both front back other mark =>
      cases h' with
      | path root => exact absurd root other
      | both front' back' _ mark' =>
          obtain ⟨rfl, rfl⟩ := mark.unique mark'
          rfl
      | source _ unmarked => exact absurd ⟨front, back, mark.parts⟩ unmarked
  | source other unmarked =>
      cases h' with
      | path root => exact absurd root other
      | both front back _ mark => exact absurd ⟨front, back, mark.parts⟩ unmarked
      | source => rfl

theorem toList_rootPath : rootPath.toList = ['$'] := by
  decide

theorem Reads.head?_path {m : TableMapping} (h : Reads cs m) :
    m.path.toList.head? = some '$' := by
  cases h with
  | path root => rwa [String.toList_ofList]
  | both front back other mark => rw [String.toList_ofList, List.head?_cons]
  | source other unmarked => rw [toList_rootPath, List.head?_cons]

theorem Reads.source_eq_none_iff {m : TableMapping} (h : Reads cs m) :
    m.source = none ↔ cs.head? = some '$' := by
  cases h with
  | path root => exact iff_of_true rfl root
  | both front back other mark => exact iff_of_false (Option.some_ne_none _) other
  | source other unmarked => exact iff_of_false (Option.some_ne_none _) other

/-! ### Writing

A mapping with a source is written as the source, a colon and the path.  It reads back as itself
exactly if this text is divided at the same place again, for which its path must not hold another
mark. -/

theorem toList_text_none (path : String) : (text ⟨none, path⟩).toList = path.toList :=
  rfl

theorem toList_text_some (source path : String) :
    (text ⟨some source, path⟩).toList = source.toList ++ ':' :: path.toList := by
  rw [text, String.toList_append, String.toList_append, List.append_assoc]
  rfl

/-- What was read is written as it stood there, or with the path of a whole document behind it. -/
theorem Reads.toList_text {m : TableMapping} (h : Reads cs m) :
    m.text.toList = cs ∨ m.text.toList = cs ++ [':', '$'] := by
  cases h with
  | path root => exact .inl (by rw [toList_text_none, String.toList_ofList])
  | both front back other mark =>
      refine .inl ?_
      rw [toList_text_some, String.toList_ofList, String.toList_ofList, ← mark.parts]
  | source other unmarked =>
      exact .inr (by rw [toList_text_some, String.toList_ofList, toList_rootPath])

/-- A mapping that its text stands for: the path starts with a dollar sign, there is no white space
around the text, and with a source the text does not start with a dollar sign and has its last mark
where source and path meet. -/
structure IsWritten (m : TableMapping) : Prop where
  root : m.path.toList.head? = some '$'
  tidy : Text.trimBlank m.text.toList = m.text.toList
  joint : ∀ source, m.source = some source →
    source.toList.head? ≠ some '$' ∧ ¬ Marked m.path.toList

theorem Reads.isWritten {m : TableMapping} (h : Reads cs m) (tidy : Text.trimBlank cs = cs) :
    m.IsWritten := by
  refine ⟨h.head?_path, ?_, ?_⟩
  · rcases h.toList_text with same | longer
    · rw [same, tidy]
    · rw [longer]
      exact Text.trimBlank_append tidy (by decide)
  · intro source given
    cases h with
    | path root => cases given
    | both front back other mark =>
        cases given
        rw [String.toList_ofList, String.toList_ofList]
        exact ⟨mt mark.head?_eq_dollar_iff.2 other, (lastMark_iff.1 mark).2⟩
    | source other unmarked =>
        cases given
        rw [String.toList_ofList, toList_rootPath]
        exact ⟨other, splitLast_eq_none_iff.1 rfl⟩

theorem isWritten_parse (text : String) : (parse text).IsWritten :=
  (reads_parse text).isWritten (Text.trimBlank_trimBlank _)

theorem IsWritten.reads_text {m : TableMapping} (h : m.IsWritten) : Reads m.text.toList m := by
  rcases m with ⟨_ | source, path⟩
  · have reads := Reads.path h.root
    rwa [String.ofList_toList] at reads
  · obtain ⟨back, parts⟩ : ∃ back, path.toList = '$' :: back := List.head?_eq_some_iff.1 h.root
    obtain ⟨other, free⟩ := h.joint source rfl
    rw [parts] at free
    have mark : LastMark (source.toList ++ ':' :: '$' :: back) source.toList back :=
      lastMark_iff.2 ⟨rfl, free⟩
    have reads := Reads.both source.toList back (mt mark.head?_eq_dollar_iff.1 other) mark
    rw [← parts, String.ofList_toList, String.ofList_toList] at reads
    rwa [toList_text_some]

/-- Read from its text a mapping is the same exactly if it has a text. -/
theorem parse_text_eq_iff {m : TableMapping} : parse m.text = m ↔ m.IsWritten := by
  constructor
  · intro same
    rw [← same]
    exact isWritten_parse m.text
  · intro written
    have reads := reads_parse m.text
    rw [written.tidy] at reads
    exact reads.unique written.reads_text

/-- What reading a text as a mapping comes to, where `cs` is the text without the white space
around it. -/
structure ReadingLaws (text : String) (cs : List Char) : Prop where
  trimmed : Text.Trimmed text.toList cs
  /-- What was read is read again from the text that is written for it. -/
  parse_text : parse (parse text).text = parse text
  written : (parse text).text.toList = cs ∨ (parse text).text.toList = cs ++ [':', '$']
  rooted : (parse text).path.toList.head? = some '$'
  source_eq_none_iff : (parse text).source = none ↔ cs.head? = some '$'
  /-- A text that starts with a dollar sign is the path as a whole, whatever marks it has. -/
  alone : cs.head? = some '$' → parse text = ⟨none, String.ofList cs⟩
  /-- Any other text starts with the source, which ends at the last mark.  Without a mark it is the
  whole text and stands for the whole document. -/
  divided : cs.head? ≠ some '$' →
    (∃ front back, LastMark cs front back ∧
      parse text = ⟨some (String.ofList front), String.ofList ('$' :: back)⟩) ∨
    ¬ Marked cs ∧ parse text = ⟨some (String.ofList cs), rootPath⟩

/-- A text is divided at its last mark only, and what was read from it is read again from what is
written. -/
theorem readingLaws (text : String) : ReadingLaws text (Text.trimBlank text.toList) := by
  have reads := reads_parse text
  constructor
  case trimmed => exact Text.trimmed_trimBlank text.toList
  case parse_text => exact parse_text_eq_iff.2 (isWritten_parse text)
  case written => exact reads.toList_text
  case rooted => exact reads.head?_path
  case source_eq_none_iff => exact reads.source_eq_none_iff
  case alone =>
    intro root
    exact reads.unique (.path root)
  case divided =>
    intro other
    generalize parse text = m at reads
    cases reads with
    | path root => exact absurd root other
    | both front back _ mark => exact .inl ⟨front, back, mark, rfl⟩
    | source _ unmarked => exact .inr ⟨unmarked, rfl⟩

/-- Only the last mark divides a text, also if there are others before it. -/
example : parse " http://h:$x/y:$.z\n" = ⟨some "http://h:$x/y", "$.z"⟩ := by cbv

/-- A source alone is written with the path of a whole document. -/
example : (parse "shop.json").text = "shop.json:$" := by cbv

end DocQuery.TableMapping
