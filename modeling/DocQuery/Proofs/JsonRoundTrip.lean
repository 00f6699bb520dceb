/-
Module: DocQuery.Proofs.JsonRoundTrip
Purpose: The JSON text of a value, in any layout, reads back as the value.
Main exports: Value.WellFormed, Layout.Sound, readValue_writeValue, parse?_write, write_injective
-/
import DocQuery.Proofs.Entries
import DocQuery.Proofs.JsonScalars

namespace DocQuery

/-! ### Values that texts can write

An object with a name twice would lose a member when it is read, so that this is what the round trip
asks of a value, at every depth. -/

namespace Value

mutual

/-- No object in a value, at any depth, has two members of one name. -/
def WellFormed : Value → Prop
  | .array items => AllWellFormed items
  | .object fields => (Keyed.keys fields).Nodup ∧ FieldsWellFormed fields
  | _ => True

/-- All items of an array are well-formed. -/
def AllWellFormed : List Value → Prop
  | [] => True
  | x :: xs => WellFormed x ∧ AllWellFormed xs

/-- The values of all members of an object are well-formed. -/
def FieldsWellFormed : List (String × Value) → Prop
  | [] => True
  | (_, x) :: xs => WellFormed x ∧ FieldsWellFormed xs

end

theorem allWellFormed_iff {items : List Value} :
    AllWellFormed items ↔ ∀ x ∈ items, x.WellFormed := by
  induction items with
  | nil => simp [AllWellFormed]
  | cons x xs ih => simp [AllWellFormed, ih]

theorem fieldsWellFormed_iff {fields : List (String × Value)} :
    FieldsWellFormed fields ↔ ∀ field ∈ fields, field.2.WellFormed := by
  induction fields with
  | nil => simp [FieldsWellFormed]
  | cons field fields ih => simp [FieldsWellFormed, ih]

end Value

namespace Json

/-! ### Blanks -/

/-- Only characters that may stand between tokens. -/
def Blank (cs : List Char) : Prop :=
  ∀ c ∈ cs, isSpace c = true

/-- A text that starts with a token that is neither a closing bracket nor a closing brace. -/
def StartsValue (cs : List Char) : Prop :=
  ∃ c rest, cs = c :: rest ∧ isSpace c = false ∧ c ≠ ']' ∧ c ≠ '\x7d'

theorem skip_append {blanks : List Char} (blank : Blank blanks) (rest : List Char) :
    skip (blanks ++ rest) = skip rest := by
  rw [skip, List.dropWhile_append_of_pos blank, skip]

theorem skip_cons {c : Char} (token : isSpace c = false) (rest : List Char) :
    skip (c :: rest) = c :: rest := by
  simp [skip, token]

theorem StartsValue.append {cs : List Char} (starts : StartsValue cs) (rest : List Char) :
    StartsValue (cs ++ rest) := by
  obtain ⟨c, cs, rfl, token⟩ := starts
  exact ⟨c, cs ++ rest, rfl, token⟩

theorem StartsValue.skip {cs : List Char} (starts : StartsValue cs) : skip cs = cs := by
  obtain ⟨c, cs, rfl, token, -⟩ := starts
  exact skip_cons token cs

/-! ### Layouts

A layout decides what stands between tokens.  All that matters to the reader is that this is a mark
and blanks, none of which could go on with a number. -/

/-- What stands between tokens is a mark and blanks behind it. -/
structure Layout.Sound (layout : Layout) : Prop where
  colon : ∃ blanks, layout.colon.toList = ':' :: blanks ∧ Blank blanks
  comma : ∃ blanks, layout.comma.toList = ',' :: blanks ∧ Blank blanks

theorem newline_blank (layout : Layout) (level : Nat) : Blank (newline layout level) := by
  intro c hc
  unfold newline at hc
  split at hc
  · cases hc
  · rcases List.mem_cons.1 hc with rfl | hc
    · rfl
    · rw [List.eq_of_mem_replicate hc]
      rfl

theorem Layout.Sound.separator {layout : Layout} (sound : layout.Sound) (level : Nat) :
    ∃ blanks, separator layout level = ',' :: blanks ∧ Blank blanks := by
  unfold Json.separator
  split
  · exact sound.comma
  · exact ⟨newline layout level, rfl, newline_blank layout level⟩

/-- Behind a value nothing follows that could belong to a number. -/
theorem endsNumber_cons {c : Char} (h : c.isDigit = false ∧ c ≠ '.' ∧ c ≠ 'e' ∧ c ≠ 'E')
    (rest : List Char) : EndsNumber (c :: rest) := by
  rintro _ ⟨rfl⟩
  exact h

theorem endsNumber_newline (layout : Layout) (level : Nat) {mark : Char}
    (h : mark.isDigit = false ∧ mark ≠ '.' ∧ mark ≠ 'e' ∧ mark ≠ 'E') (rest : List Char) :
    EndsNumber (newline layout level ++ mark :: rest) := by
  unfold newline
  split
  · exact endsNumber_cons h rest
  · exact endsNumber_cons (by decide) _

/-! ### Values

The first character of a value tells of which kind it is, and no value starts with a blank or with
the end of an array or object. -/

/-- The characters that the texts of numbers start with. -/
def numberHeads : List Char :=
  ['0', '1', '2', '3', '4', '5', '6', '7', '8', '9', '-', 'N', 'I']

theorem head_of_digit (negative : Bool) {cs : List Char}
    (digit : ∃ c rest, cs = c :: rest ∧ c.isDigit = true) :
    ∃ c rest, (if negative then ['-'] else []) ++ cs = c :: rest ∧ c ∈ numberHeads := by
  have heads : ∀ c ∈ numberChars, c.isDigit = true → c ∈ numberHeads :=
    List.all_iff_forall_prop.1 (by decide)
  obtain ⟨c, rest, rfl, digit⟩ := digit
  cases negative with
  | true => exact ⟨'-', c :: rest, rfl, by decide⟩
  | false => exact ⟨c, rest, rfl, heads c (mem_numberChars_of_isDigit digit) digit⟩

theorem number_head (n : Number) : ∃ c rest, n.text spelling = c :: rest ∧ c ∈ numberHeads := by
  match n with
  | .float .nan => exact ⟨'N', _, rfl, by decide⟩
  | .float (.infinite false) => exact ⟨'I', _, rfl, by decide⟩
  | .float (.infinite true) => exact ⟨'-', _, rfl, by decide⟩
  | .integer n =>
      rw [Number.text, integerText_eq]
      exact head_of_digit _ (exists_decimalDigits n.natAbs)
  | .float (.finite negative exponent fraction) =>
      obtain ⟨w, valid, -, -, text⟩ := exists_written_shortest exponent fraction
      rw [Number.text, Binary64.text, text]
      exact head_of_digit negative valid.head

/-- Every value starts with a character of its own. -/
theorem startsValue_writeValue (layout : Layout) (level : Nat) (v : Value) :
    StartsValue (writeValue layout level v) := by
  match v with
  | .null => exact ⟨'n', _, rfl, by decide⟩
  | .bool true => exact ⟨'t', _, rfl, by decide⟩
  | .bool false => exact ⟨'f', _, rfl, by decide⟩
  | .number n =>
      have tokens : ∀ c ∈ numberHeads, isSpace c = false ∧ c ≠ ']' ∧ c ≠ '\x7d' :=
        List.all_iff_forall_prop.1 (by decide)
      obtain ⟨c, rest, text, head⟩ := number_head n
      exact ⟨c, rest, by rw [writeValue, text], tokens c head⟩
  | .string s => exact ⟨'"', _, rfl, by decide⟩
  | .array [] => exact ⟨'[', _, rfl, by decide⟩
  | .array (x :: xs) => exact ⟨'[', _, rfl, by decide⟩
  | .object [] => exact ⟨'\x7b', _, rfl, by decide⟩
  | .object ((key, x) :: xs) => exact ⟨'\x7b', _, rfl, by decide⟩

/-! ### Arrays and objects

The texts between brackets and braces, so that the induction can speak about what is left of a
list. -/

section

variable (layout : Layout) (level : Nat)

/-- The text of the items of an array, without its brackets. -/
def itemsText : List Value → List Char
  | [] => []
  | x :: xs => writeValue layout level x ++ writeItems layout level xs

/-- The text of a member of an object. -/
def fieldText (key : String) (x : Value) : List Char :=
  writeString layout.ascii key ++ (layout.colon.toList ++ writeValue layout level x)

/-- The text of the members of an object, without its braces. -/
def fieldsText : List (String × Value) → List Char
  | [] => []
  | (key, x) :: xs => fieldText layout level key x ++ writeFields layout level xs

theorem startsValue_itemsText (x : Value) (xs : List Value) :
    StartsValue (itemsText layout level (x :: xs)) :=
  (startsValue_writeValue layout level x).append _

theorem startsValue_fieldsText (key : String) (x : Value) (xs : List (String × Value)) :
    StartsValue (fieldsText layout level ((key, x) :: xs)) :=
  ⟨'"', _, rfl, by decide⟩

theorem writeItems_cons (x : Value) (xs : List Value) :
    writeItems layout level (x :: xs) =
      separator layout level ++ itemsText layout level (x :: xs) := by
  simp [writeItems, itemsText]

theorem writeFields_cons (key : String) (x : Value) (xs : List (String × Value)) :
    writeFields layout level ((key, x) :: xs) =
      separator layout level ++ fieldsText layout level ((key, x) :: xs) := by
  simp [writeFields, fieldsText, fieldText]

theorem writeValue_array (x : Value) (xs : List Value) (rest : List Char) :
    writeValue layout level (.array (x :: xs)) ++ rest =
      '[' :: (newline layout (level + 1) ++ (itemsText layout (level + 1) (x :: xs) ++
        (newline layout level ++ ']' :: rest))) := by
  simp [writeValue, itemsText]

theorem writeValue_object (key : String) (x : Value) (xs : List (String × Value))
    (rest : List Char) :
    writeValue layout level (.object ((key, x) :: xs)) ++ rest =
      '\x7b' :: (newline layout (level + 1) ++ (fieldsText layout (level + 1) ((key, x) :: xs) ++
        (newline layout level ++ '\x7d' :: rest))) := by
  simp [writeValue, fieldsText, fieldText]

end

/-! ### Reading the parts of a value

By mutual recursion on a value, its items and its members.  The fuel of the reader is compared with
the length of the text, and every bracket, brace and comma takes a character of it. -/

/-- What starts like a number is read as a word or a number. -/
theorem readValue_number (n : Number) (fuel : Nat) (rest : List Char) :
    readValue (fuel + 1) (n.text spelling ++ rest) = readScalar (n.text spelling ++ rest) := by
  have scalar : ∀ c ∈ numberHeads, c ≠ '"' ∧ c ≠ '[' ∧ c ≠ '\x7b' :=
    List.all_iff_forall_prop.1 (by decide)
  obtain ⟨c, cs, text, head⟩ := number_head n
  obtain ⟨quote, bracket, brace⟩ := scalar c head
  rw [text, List.cons_append, readValue]
  · exact fun _ same => quote (List.cons.inj same).1
  · exact fun _ same => bracket (List.cons.inj same).1
  · exact fun _ same => brace (List.cons.inj same).1

/-- Behind an opening bracket and blanks the items of an array are read. -/
theorem readValue_array {blanks body : List Char} (blank : Blank blanks) (starts : StartsValue body)
    (fuel : Nat) :
    readValue (fuel + 1) ('[' :: (blanks ++ body)) =
      (readItems fuel body).map fun (items, rest) => (.array items, rest) := by
  have skipped : skip (blanks ++ body) = body := by rw [skip_append blank, starts.skip]
  obtain ⟨c, cs, rfl, -, bracket, -⟩ := starts
  rw [readValue, skipped]
  split
  case h_1 same => exact absurd (List.cons.inj same).1 bracket
  case h_2 => rfl

/-- Behind an opening brace and blanks the members of an object are read. -/
theorem readValue_object {blanks body : List Char} (blank : Blank blanks)
    (starts : StartsValue body) (fuel : Nat) :
    readValue (fuel + 1) ('\x7b' :: (blanks ++ body)) =
      (readFields fuel body).map fun (fields, rest) => (.object (Keyed.ofList fields), rest) := by
  have skipped : skip (blanks ++ body) = body := by rw [skip_append blank, starts.skip]
  obtain ⟨c, cs, rfl, -, -, brace⟩ := starts
  rw [readValue, skipped]
  split
  case h_1 same => exact absurd (List.cons.inj same).1 brace
  case h_2 => rfl

variable {layout : Layout}

/-- The name of a member and what stands behind it are read before its value. -/
theorem readFields_fieldText (sound : layout.Sound) (level fuel : Nat) (key : String) (x : Value)
    (rest : List Char) :
    readFields (fuel + 1) (fieldText layout level key x ++ rest) =
      match readValue fuel (writeValue layout level x ++ rest) with
      | none => none
      | some (y, rest) =>
          match skip rest with
          | '\x7d' :: rest => some ([(key, y)], rest)
          | ',' :: rest =>
              (readFields fuel (skip rest)).map fun (fields, rest) => ((key, y) :: fields, rest)
          | _ => none := by
  obtain ⟨blanks, colon, blank⟩ := sound.colon
  have starts := (startsValue_writeValue layout level x).append rest
  have text : fieldText layout level key x ++ rest =
      '"' :: (key.toList.flatMap (writeChar layout.ascii) ++
        '"' :: ':' :: (blanks ++ (writeValue layout level x ++ rest))) := by
    simp [fieldText, writeString, colon]
  have mark : isSpace ':' = false := by decide
  rw [text, readFields]
  simp only [readString_writeString, String.ofList_toList, skip_cons mark]
  rewrite [skip_append blank, starts.skip]
  rfl

mutual

/-- A written value is read, whatever follows, unless it would belong to a number. -/
theorem readValue_writeValue (sound : layout.Sound) :
    ∀ (v : Value) (level fuel : Nat) (rest : List Char), v.WellFormed →
      (writeValue layout level v).length ≤ fuel → EndsNumber rest →
      readValue fuel (writeValue layout level v ++ rest) = some (v, rest)
  | v, level, 0, rest, _, enough, _ => by
      obtain ⟨c, cs, starts, -⟩ := startsValue_writeValue layout level v
      simp [starts] at enough
  | .null, _, _ + 1, _, _, _, _ | .bool true, _, _ + 1, _, _, _, _
  | .bool false, _, _ + 1, _, _, _, _ | .array [], _, _ + 1, _, _, _, _
  | .object [], _, _ + 1, _, _, _, _ => rfl
  | .number n, _, _ + 1, rest, _, _, ends => by
      rw [writeValue, readValue_number, readScalar_number n ends]
  | .string s, _, _ + 1, rest, _, _, _ => by
      simp [writeValue, writeString, readValue, readString_writeString]
  | .array (x :: xs), level, fuel + 1, rest, wellFormed, enough, _ => by
      have shorter : (itemsText layout (level + 1) (x :: xs)).length + 1 ≤ fuel := by
        have text := congrArg List.length (writeValue_array layout level x xs [])
        simp only [List.append_nil, List.length_cons, List.length_append] at text
        omega
      have starts := startsValue_itemsText layout (level + 1) x xs
      rw [writeValue_array, readValue_array (newline_blank layout _) (starts.append _),
        readItems_itemsText sound (x :: xs) _ level fuel rest (List.cons_ne_nil x xs) wellFormed
          shorter]
      rfl
  | .object ((key, x) :: xs), level, fuel + 1, rest, wellFormed, enough, _ => by
      have shorter : (fieldsText layout (level + 1) ((key, x) :: xs)).length + 1 ≤ fuel := by
        have text := congrArg List.length (writeValue_object layout level key x xs [])
        simp only [List.append_nil, List.length_cons, List.length_append] at text
        omega
      have starts := startsValue_fieldsText layout (level + 1) key x xs
      rw [writeValue_object, readValue_object (newline_blank layout _) (starts.append _),
        readFields_fieldsText sound ((key, x) :: xs) _ level fuel rest (List.cons_ne_nil _ xs)
          wellFormed.2 shorter]
      simp only [Option.map_some, Keyed.ofList_of_nodup wellFormed.1]

/-- The written items of an array are read up to its closing bracket. -/
theorem readItems_itemsText (sound : layout.Sound) :
    ∀ (items : List Value) (level level' fuel : Nat) (rest : List Char), items ≠ [] →
      Value.AllWellFormed items → (itemsText layout level items).length + 1 ≤ fuel →
      readItems fuel (itemsText layout level items ++ (newline layout level' ++ ']' :: rest)) =
        some (items, rest)
  | [], _, _, _, _, some', _, _ => absurd rfl some'
  | [x], level, level', fuel + 1, rest, _, wellFormed, enough => by
      have shorter : (writeValue layout level x).length ≤ fuel := by
        simpa [itemsText, writeItems] using enough
      have mark : isSpace ']' = false := by decide
      have read := readValue_writeValue sound x level fuel (newline layout level' ++ ']' :: rest)
        wellFormed.1 shorter (endsNumber_newline layout level' (by decide) rest)
      rw [itemsText, writeItems, List.append_nil, readItems]
      simp only [read, skip_append (newline_blank layout level'), skip_cons mark]
  | x :: y :: ys, level, level', fuel + 1, rest, _, wellFormed, enough => by
      obtain ⟨blanks, comma, blank⟩ := sound.separator level
      have text : (itemsText layout level (x :: y :: ys)).length =
          (writeValue layout level x).length + (blanks.length +
            (itemsText layout level (y :: ys)).length + 1) := by
        rw [itemsText, writeItems_cons, comma]
        simp
      have mark : isSpace ',' = false := by decide
      have starts := startsValue_itemsText layout level y ys
      have read := readValue_writeValue sound x level fuel
        (',' :: (blanks ++ (itemsText layout level (y :: ys) ++
          (newline layout level' ++ ']' :: rest)))) wellFormed.1 (by omega)
        (endsNumber_cons (by decide) _)
      have more := readItems_itemsText sound (y :: ys) level level' fuel rest
        (List.cons_ne_nil y ys) wellFormed.2 (by omega)
      rw [itemsText, writeItems_cons, comma, readItems]
      simp only [List.append_assoc, List.cons_append]
      simp only [read, skip_cons mark, skip_append blank, (starts.append _).skip, more,
        Option.map_some]

/-- The written members of an object are read up to its closing brace. -/
theorem readFields_fieldsText (sound : layout.Sound) :
    ∀ (fields : List (String × Value)) (level level' fuel : Nat) (rest : List Char),
      fields ≠ [] → Value.FieldsWellFormed fields →
      (fieldsText layout level fields).length + 1 ≤ fuel →
      readFields fuel (fieldsText layout level fields ++
        (newline layout level' ++ '\x7d' :: rest)) = some (fields, rest)
  | [], _, _, _, _, some', _, _ => absurd rfl some'
  | [(key, x)], level, level', fuel + 1, rest, _, wellFormed, enough => by
      have shorter : (writeValue layout level x).length ≤ fuel := by
        simp only [fieldsText, fieldText, writeFields, List.length_append] at enough
        omega
      have mark : isSpace '\x7d' = false := by decide
      have read := readValue_writeValue sound x level fuel (newline layout level' ++ '\x7d' :: rest)
        wellFormed.1 shorter (endsNumber_newline layout level' (by decide) rest)
      rw [fieldsText, writeFields, List.append_nil, readFields_fieldText sound]
      simp only [read, skip_append (newline_blank layout level'), skip_cons mark]
  | (key, x) :: (key', y) :: ys, level, level', fuel + 1, rest, _, wellFormed, enough => by
      -- Both the first member and the rest are shorter than the whole, as the fuel demands.
      obtain ⟨blanks, comma, blank⟩ := sound.separator level
      have text : (fieldsText layout level ((key, x) :: (key', y) :: ys)).length =
          (fieldText layout level key x).length + (blanks.length +
            (fieldsText layout level ((key', y) :: ys)).length + 1) := by
        rw [fieldsText, writeFields_cons, comma]
        simp
      have longer : (writeValue layout level x).length ≤ (fieldText layout level key x).length := by
        simp only [fieldText, List.length_append]
        omega
      have mark : isSpace ',' = false := by decide
      have starts := startsValue_fieldsText layout level key' y ys
      have read := readValue_writeValue sound x level fuel
        (',' :: (blanks ++ (fieldsText layout level ((key', y) :: ys) ++
          (newline layout level' ++ '\x7d' :: rest)))) wellFormed.1 (by omega)
        (endsNumber_cons (by decide) _)
      have more := readFields_fieldsText sound ((key', y) :: ys) level level' fuel rest
        (List.cons_ne_nil _ ys) wellFormed.2 (by omega)
      rw [fieldsText, writeFields_cons, comma, List.append_assoc, readFields_fieldText sound]
      simp only [List.append_assoc, List.cons_append]
      simp only [read, skip_cons mark, skip_append blank, (starts.append _).skip, more,
        Option.map_some]

end

theorem endsNumber_of_blank {blanks : List Char} (blank : Blank blanks) : EndsNumber blanks := by
  cases blanks with
  | nil => exact nofun
  | cons c cs =>
      refine endsNumber_cons ?_ cs
      have space := blank c List.mem_cons_self
      simp only [isSpace, Bool.or_eq_true, decide_eq_true_eq] at space
      rcases space with ((rfl | rfl) | rfl) | rfl <;> decide

/-- The JSON text of a value reads back as the value, also with blanks behind it. -/
theorem parse?_write_append (sound : layout.Sound) {v : Value} (wellFormed : v.WellFormed)
    {blanks : String} (blank : Blank blanks.toList) :
    parse? (write layout v ++ blanks) = some v := by
  have starts := startsValue_writeValue layout 0 v
  have read := readValue_writeValue sound v 0
    (enoughFuel (writeValue layout 0 v ++ blanks.toList)) blanks.toList wellFormed
    (by rw [enoughFuel, List.length_append]; omega) (endsNumber_of_blank blank)
  have rest : skip blanks.toList = [] := by
    rw [← List.append_nil blanks.toList, skip_append blank]
    rfl
  rw [parse?, write, String.toList_append, String.toList_ofList, (starts.append _).skip]
  simp only [read, rest]
  rfl

/-- The JSON text of a value reads back as the value. -/
theorem parse?_write (sound : layout.Sound) {v : Value} (wellFormed : v.WellFormed) :
    parse? (write layout v) = some v := by
  have nothing : Blank "".toList := List.forall_mem_nil _
  simpa using parse?_write_append sound wellFormed nothing

/-- Two values with the same JSON text are the same. -/
theorem write_injective (sound : layout.Sound) {v w : Value} (hv : v.WellFormed) (hw : w.WellFormed)
    (same : write layout v = write layout w) : v = w := by
  have read := parse?_write sound hv
  rw [same, parse?_write sound hw] at read
  exact (Option.some.inj read).symm

theorem blank_nil : Blank [] :=
  List.forall_mem_nil _

theorem blank_space : Blank [' '] :=
  fun _ hc => List.mem_singleton.1 hc ▸ rfl

theorem spacedAscii_sound : spacedAscii.Sound :=
  ⟨⟨[' '], rfl, blank_space⟩, ⟨[' '], rfl, blank_space⟩⟩

theorem compact_sound : compact.Sound :=
  ⟨⟨[], rfl, blank_nil⟩, ⟨[], rfl, blank_nil⟩⟩

theorem indented_sound (width : Nat) : (indented width).Sound :=
  ⟨⟨[' '], by simp [indented], blank_space⟩, ⟨[], by simp [indented], blank_nil⟩⟩

theorem stored_sound : stored.Sound :=
  ⟨⟨[' '], rfl, blank_space⟩, ⟨[], rfl, blank_nil⟩⟩

end Json

end DocQuery
