/-
Module: DocQuery.Proofs.JsonRows
Purpose: Rows written as JSON read back with null in place of the numbers that are not finite.
Main exports: Value.Nulled, Value.nulled_clean, Json.outsideStrings, Json.Plain,
  Json.plain_writeValue_clean, jsonRows_parse
-/
import DocQuery.Format.Json
import DocQuery.Proofs.JsonRoundTrip

namespace DocQuery

/-! ### Null in place of numbers that are not finite

Cleaning as a relation between a value and what it becomes, so that it can be seen that nothing else
changes. -/

namespace Value

mutual

/-- The second value is the first one with null in place of each number that is not finite, at any
depth.  All else is the same: the kind of each number, and the order of items and members. -/
inductive Nulled : Value → Value → Prop where
  | null : Nulled .null .null
  | bool (b : Bool) : Nulled (.bool b) (.bool b)
  | finite {n : Number} (h : n.isNotFinite = false) : Nulled (.number n) (.number n)
  | notFinite {n : Number} (h : n.isNotFinite = true) : Nulled (.number n) .null
  | string (s : String) : Nulled (.string s) (.string s)
  | array {items out : List Value} (h : ItemsNulled items out) :
      Nulled (.array items) (.array out)
  | object {fields out : List (String × Value)} (h : FieldsNulled fields out) :
      Nulled (.object fields) (.object out)

/-- The items of one array are those of another one with null in place of such numbers. -/
inductive ItemsNulled : List Value → List Value → Prop where
  | nil : ItemsNulled [] []
  | cons {x y : Value} {xs ys : List Value} (first : Nulled x y) (rest : ItemsNulled xs ys) :
      ItemsNulled (x :: xs) (y :: ys)

/-- The members of one object are those of another one with null in place of such numbers. -/
inductive FieldsNulled : List (String × Value) → List (String × Value) → Prop where
  | nil : FieldsNulled [] []
  | cons (key : String) {x y : Value} {xs ys : List (String × Value)} (first : Nulled x y)
      (rest : FieldsNulled xs ys) : FieldsNulled ((key, x) :: xs) ((key, y) :: ys)

end

mutual

theorem nulled_clean : ∀ v : Value, v.Nulled v.clean
  | .null => .null
  | .bool b => .bool b
  | .number n => by
      rw [clean]
      split
      case isTrue h => exact .notFinite h
      case isFalse h => exact .finite (Bool.eq_false_iff.2 h)
  | .string s => .string s
  | .array items => .array (nulled_cleanItems items)
  | .object fields => .object (nulled_cleanFields fields)

theorem nulled_cleanItems : ∀ items : List Value, ItemsNulled items (cleanItems items)
  | [] => .nil
  | x :: xs => .cons (nulled_clean x) (nulled_cleanItems xs)

theorem nulled_cleanFields :
    ∀ fields : List (String × Value), FieldsNulled fields (cleanFields fields)
  | [] => .nil
  | (key, x) :: xs => .cons key (nulled_clean x) (nulled_cleanFields xs)

end

theorem keys_cleanFields (fields : List (String × Value)) :
    Keyed.keys (cleanFields fields) = Keyed.keys fields := by
  induction fields with
  | nil => rfl
  | cons field fields ih => exact congrArg (field.1 :: ·) ih

mutual

/-- Cleaning a value leaves the names of all members as they are. -/
theorem wellFormed_clean : ∀ v : Value, v.WellFormed → v.clean.WellFormed
  | .null, _ | .bool _, _ | .string _, _ => trivial
  | .number n, _ => by
      rw [clean]
      split <;> trivial
  | .array items, h => allWellFormed_cleanItems items h
  | .object fields, ⟨distinct, each⟩ =>
      ⟨(keys_cleanFields fields).symm ▸ distinct, fieldsWellFormed_cleanFields fields each⟩

theorem allWellFormed_cleanItems :
    ∀ items : List Value, AllWellFormed items → AllWellFormed (cleanItems items)
  | [], _ => trivial
  | x :: xs, ⟨first, rest⟩ => ⟨wellFormed_clean x first, allWellFormed_cleanItems xs rest⟩

theorem fieldsWellFormed_cleanFields :
    ∀ fields : List (String × Value), FieldsWellFormed fields →
      FieldsWellFormed (cleanFields fields)
  | [], _ => trivial
  | (_, x) :: xs, ⟨first, rest⟩ => ⟨wellFormed_clean x first, fieldsWellFormed_cleanFields xs rest⟩

end

end Value

/-! ### What stands outside of strings

That no number which is not finite is written must be said of the text outside of strings, since
inside of them any word may stand. -/

namespace Json

/-- The characters of a JSON text that stand outside of its strings, with the quotes around these.
Inside of a string a backslash takes the next character with it. -/
def outsideStrings : (inside : Bool) → List Char → List Char
  | _, [] => []
  | false, '"' :: cs => '"' :: outsideStrings true cs
  | false, c :: cs => c :: outsideStrings false cs
  | true, '"' :: cs => '"' :: outsideStrings false cs
  | true, '\\' :: _ :: cs => outsideStrings true cs
  | true, _ :: cs => outsideStrings true cs

theorem outsideStrings_cons {c : Char} (unquoted : c ≠ '"') (cs : List Char) :
    outsideStrings false (c :: cs) = c :: outsideStrings false cs := by
  simp [outsideStrings]

theorem outsideStrings_escape (c : Char) (cs : List Char) :
    outsideStrings true ('\\' :: c :: cs) = outsideStrings true cs := by
  simp [outsideStrings]

theorem outsideStrings_content {c : Char} (quote : c ≠ '"') (backslash : c ≠ '\\')
    (cs : List Char) : outsideStrings true (c :: cs) = outsideStrings true cs := by
  simp [outsideStrings, backslash]

theorem hexDigit_ne (n : Nat) : hexDigit n ≠ '"' ∧ hexDigit n ≠ '\\' := by
  have below : n % 16 < 16 := Nat.mod_lt _ (by decide)
  rw [hexDigit]
  generalize n % 16 = m at below
  interval_cases m <;> decide

theorem outsideStrings_code (n : Nat) (rest : List Char) :
    outsideStrings true ('\\' :: 'u' :: hex4 n ++ rest) = outsideStrings true rest := by
  have digit (m : Nat) (cs : List Char) :
      outsideStrings true (hexDigit m :: cs) = outsideStrings true cs :=
    outsideStrings_content (hexDigit_ne m).1 (hexDigit_ne m).2 cs
  simp only [hex4, List.cons_append, List.nil_append, outsideStrings_escape, digit]

theorem outsideStrings_unicodeEscape (n : Nat) (rest : List Char) :
    outsideStrings true (unicodeEscape n ++ rest) = outsideStrings true rest := by
  rw [unicodeEscape]
  split
  · exact outsideStrings_code n rest
  · rw [List.append_assoc, outsideStrings_code, outsideStrings_code]

/-- What is written for a character of a string stands inside of the string. -/
theorem outsideStrings_writeChar (ascii : Bool) (c : Char) (rest : List Char) :
    outsideStrings true (writeChar ascii c ++ rest) = outsideStrings true rest := by
  rw [writeChar]
  split
  case isTrue => exact outsideStrings_escape _ _
  split
  case isTrue => exact outsideStrings_escape _ _
  split
  case isTrue => exact outsideStrings_escape _ _
  split
  case isTrue => exact outsideStrings_escape _ _
  split
  case isTrue => exact outsideStrings_escape _ _
  split
  case isTrue => exact outsideStrings_escape _ _
  split
  case isTrue => exact outsideStrings_escape _ _
  split
  case isTrue => exact outsideStrings_unicodeEscape _ _
  case isFalse quote backslash _ _ _ _ _ _ => exact outsideStrings_content quote backslash rest

/-- The letters that the numbers which are not finite start with. -/
def notFiniteHeads : List Char :=
  ['N', 'I']

/-- A text whose strings are all closed and which outside of them has no letter that a number which
is not finite starts with. -/
def Plain (text : List Char) : Prop :=
  ∀ rest, ∃ out, outsideStrings false (text ++ rest) = out ++ outsideStrings false rest ∧
    ∀ c ∈ out, c ∉ notFiniteHeads

namespace Plain

theorem append {text more : List Char} (h : Plain text) (h' : Plain more) :
    Plain (text ++ more) := by
  intro rest
  obtain ⟨out, first, plain⟩ := h (more ++ rest)
  obtain ⟨out', second, plain'⟩ := h' rest
  refine ⟨out ++ out', ?_, List.forall_mem_append.2 ⟨plain, plain'⟩⟩
  rw [List.append_assoc, first, second, List.append_assoc]

/-- A text without strings. -/
theorem of_chars {text : List Char} (h : ∀ c ∈ text, c ≠ '"' ∧ c ∉ notFiniteHeads) :
    Plain text := by
  intro rest
  refine ⟨text, ?_, fun c hc => (h c hc).2⟩
  induction text with
  | nil => rfl
  | cons c cs ih =>
      obtain ⟨⟨unquoted, -⟩, others⟩ := List.forall_mem_cons.1 h
      rw [List.cons_append, outsideStrings_cons unquoted, ih others, List.cons_append]

theorem of_mem {chars text : List Char} (all : ∀ c ∈ text, c ∈ chars)
    (h : chars.all (fun c => c ≠ '"' ∧ c ∉ notFiniteHeads) = true) : Plain text :=
  of_chars fun c hc => of_decide_eq_true (List.all_eq_true.1 h c (all c hc))

theorem of_all {text : List Char}
    (h : text.all (fun c => c ≠ '"' ∧ c ∉ notFiniteHeads) = true) : Plain text :=
  of_mem (fun _ hc => hc) h

end Plain

theorem plain_writeString (ascii : Bool) (s : String) : Plain (writeString ascii s) := by
  intro rest
  refine ⟨['"', '"'], ?_, by simp [notFiniteHeads]⟩
  have content (cs : List Char) : outsideStrings true
      (cs.flatMap (writeChar ascii) ++ '"' :: rest) = '"' :: outsideStrings false rest := by
    induction cs with
    | nil => rfl
    | cons c cs ih =>
        rw [List.flatMap_cons, List.append_assoc, outsideStrings_writeChar, ih]
  have text : writeString ascii s ++ rest =
      '"' :: (s.toList.flatMap (writeChar ascii) ++ '"' :: rest) := by
    simp [writeString]
  rw [text, outsideStrings, content]
  rfl

theorem plain_of_blank {blanks : List Char} (blank : Blank blanks) : Plain blanks := by
  have noBlank : ∀ c ∈ '"' :: notFiniteHeads, isSpace c = false := by
    simp [notFiniteHeads, isSpace]
  refine .of_chars fun c hc => ⟨?_, fun head => ?_⟩
  · rintro rfl
    exact Bool.noConfusion (blank _ hc)
  · have other := noBlank c (List.mem_cons_of_mem _ head)
    rw [blank c hc] at other
    cases other

/-! ### Cleaned values

By mutual recursion on the value.  Strings are closed, numbers are finite, and a layout adds only
blanks and marks. -/

section

variable {layout : Layout} (sound : layout.Sound) (level : Nat)

theorem plain_newline (layout : Layout) (level : Nat) : Plain (newline layout level) :=
  plain_of_blank (newline_blank layout level)

include sound

theorem plain_separator : Plain (separator layout level) := by
  have comma : Plain [','] := .of_all rfl
  obtain ⟨blanks, text, blank⟩ := sound.separator level
  rw [text]
  exact comma.append (plain_of_blank blank)

theorem plain_fieldName (key : String) :
    Plain (writeString layout.ascii key ++ layout.colon.toList) := by
  have colon : Plain [':'] := .of_all rfl
  obtain ⟨blanks, text, blank⟩ := sound.colon
  rw [text]
  exact (plain_writeString _ key).append (colon.append (plain_of_blank blank))

end

/-- The text of a number that is finite. -/
theorem plain_number {n : Number} (finite : n.isNotFinite = false) : Plain (n.text spelling) := by
  have plain : numberChars.all (fun c => c ≠ '"' ∧ c ∉ notFiniteHeads) = true := by decide
  have signed (negative : Bool) {cs : List Char} (all : ∀ c ∈ cs, c ∈ numberChars) :
      Plain ((if negative then ['-'] else []) ++ cs) := by
    refine .of_mem (List.forall_mem_append.2 ⟨?_, all⟩) plain
    cases negative <;> simp [numberChars]
  match n with
  | .integer n =>
      rw [Number.text, integerText_eq]
      exact signed _ fun c hc => mem_numberChars_of_isDigit (isDigit_of_mem_decimalDigits hc)
  | .float .nan | .float (.infinite _) => cases finite
  | .float (.finite negative exponent fraction) =>
      obtain ⟨w, valid, -, -, text⟩ := exists_written_shortest exponent fraction
      rw [Number.text, Binary64.text, text]
      exact signed negative valid.chars

section

variable {layout : Layout} (sound : layout.Sound)

include sound

mutual

/-- The text of a cleaned value is plain in every layout. -/
theorem plain_writeValue_clean : ∀ (v : Value) (level : Nat),
    Plain (writeValue layout level v.clean)
  | .null, _ | .bool true, _ | .bool false, _ | .array [], _ | .object [], _ => .of_all rfl
  | .number n, level => by
      rw [Value.clean]
      split
      case isTrue => exact .of_all rfl
      case isFalse finite => exact plain_number (Bool.eq_false_iff.2 finite)
  | .string s, _ => plain_writeString _ s
  | .array (x :: xs), level => by
      have opening : Plain ['['] := .of_all rfl
      have closing : Plain [']'] := .of_all rfl
      have first := plain_writeValue_clean x (level + 1)
      have rest := plain_writeItems_clean xs (level + 1)
      exact ((((opening.append (plain_newline layout _)).append first).append rest).append
        (plain_newline layout _)).append closing
  | .object ((key, x) :: xs), level => by
      have opening : Plain ['\x7b'] := .of_all rfl
      have closing : Plain ['\x7d'] := .of_all rfl
      have name := plain_fieldName sound key
      have first := plain_writeValue_clean x (level + 1)
      have rest := plain_writeFields_clean xs (level + 1)
      have whole := ((((opening.append (plain_newline layout (level + 1))).append name).append
        first).append rest).append ((plain_newline layout level).append closing)
      simpa [Value.clean, Value.cleanFields, writeValue] using whole

theorem plain_writeItems_clean : ∀ (items : List Value) (level : Nat),
    Plain (writeItems layout level (Value.cleanItems items))
  | [], _ => .of_all rfl
  | x :: xs, level =>
      ((plain_separator sound level).append (plain_writeValue_clean x level)).append
        (plain_writeItems_clean xs level)

theorem plain_writeFields_clean : ∀ (fields : List (String × Value)) (level : Nat),
    Plain (writeFields layout level (Value.cleanFields fields))
  | [], _ => .of_all rfl
  | (key, x) :: xs, level => by
      have name := plain_fieldName sound key
      have whole := (((plain_separator sound level).append name).append
        (plain_writeValue_clean x level)).append (plain_writeFields_clean xs level)
      simpa [Value.cleanFields, writeFields] using whole

end

end

/-- Outside of its strings a plain text has no word that starts like a number which is not
finite. -/
theorem Plain.not_infix {text : List Char} (plain : Plain text) {c : Char} {cs : List Char}
    (head : c ∈ notFiniteHeads) : ¬ c :: cs <:+: outsideStrings false text := by
  obtain ⟨out, outside, letters⟩ := plain []
  rw [List.append_nil, outsideStrings, List.append_nil] at outside
  rw [outside]
  exact fun occurs => letters c (occurs.subset List.mem_cons_self) head

end Json

/-! ### Rows

All rows are one array, whatever the layout, so that they are read back at once. -/

open Json

theorem rowsValue_clean (rows : List Row) :
    (rowsValue rows).clean = rowsValue (rows.map Value.cleanFields) := by
  have items : ∀ rows : List Row, Value.cleanItems (rows.map .object) =
      (rows.map Value.cleanFields).map .object := by
    intro rows
    induction rows with
    | nil => rfl
    | cons row rows ih => exact congrArg (Value.object (Value.cleanFields row) :: ·) ih
  exact congrArg Value.array (items rows)

/-- On one line or on several, the rows are written in a layout that can be read. -/
theorem exists_layout (indent : Option Nat) : ∃ layout : Json.Layout, layout.Sound ∧
    ∀ rows, jsonRows indent rows = write layout (rowsValue rows).clean := by
  cases indent with
  | none => exact ⟨compact, compact_sound, fun _ => rfl⟩
  | some width => exact ⟨indented width, indented_sound width, fun _ => rfl⟩

/-- Rows in which no name occurs twice, at any depth, are written as JSON that reads back as these
rows with null in place of each number that is not finite.  This is so in every layout, and no such
number stands in the text: where its name occurs, it is part of a string. -/
theorem jsonRows_parse (rows : List Row)
    (wellFormed : ∀ row ∈ rows, (Value.object row).WellFormed) :
    ∃ answer : List Row, List.Forall₂ Value.FieldsNulled rows answer ∧
      ∀ indent : Option Nat,
        parse? (jsonRows indent rows) = some (rowsValue answer) ∧
        ∀ word ∈ ["NaN", "Infinity"],
          ¬ word.toList <:+: outsideStrings false (jsonRows indent rows).toList := by
  refine ⟨rows.map Value.cleanFields, ?_, fun indent => ?_⟩
  · exact List.forall₂_map_right_iff.2 (List.forall₂_same.2 fun row _ => Value.nulled_cleanFields row)
  · obtain ⟨layout, sound, text⟩ := exists_layout indent
    have whole : (rowsValue rows).WellFormed :=
      Value.allWellFormed_iff.2 (List.forall_mem_map.2 wellFormed)
    have plain := plain_writeValue_clean sound (rowsValue rows) 0
    rw [text, ← rowsValue_clean]
    refine ⟨parse?_write sound (Value.wellFormed_clean _ whole), ?_⟩
    rw [write, String.toList_ofList]
    simp only [List.forall_mem_cons]
    exact ⟨plain.not_infix (by decide), plain.not_infix (by decide), List.forall_mem_nil _⟩

namespace Sample

/-- Two measurements, one without a result and one with a list. -/
def measurements : List Row :=
  [[("id", .int 1), ("result", .number (.float .nan))],
   [("id", .int 2), ("result", .array [.number (.float (.infinite true)), .string "NaN"])]]

end Sample

theorem jsonRows_parse_measurements :
    jsonRows none Sample.measurements =
      "[\x7b\"id\":1,\"result\":null\x7d,\x7b\"id\":2,\"result\":[null,\"NaN\"]\x7d]" ∧
    ∃ answer : List Row, List.Forall₂ Value.FieldsNulled Sample.measurements answer ∧
      ∀ indent : Option Nat,
        parse? (jsonRows indent Sample.measurements) = some (rowsValue answer) ∧
        ∀ word ∈ ["NaN", "Infinity"],
          ¬ word.toList <:+: outsideStrings false (jsonRows indent Sample.measurements).toList :=
  ⟨by decide, jsonRows_parse Sample.measurements (by
    simp [Sample.measurements, Value.WellFormed, Value.FieldsWellFormed, Value.AllWellFormed,
      Value.int, Keyed.keys])⟩

end DocQuery
