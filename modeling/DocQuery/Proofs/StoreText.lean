/-
Module: DocQuery.Proofs.StoreText
Purpose: The text that keeps a store is ASCII and reads back as the store.
Main exports: Json.parse?_object_inv, Json.Printed, Store.printed_text, Store.ofText_text,
  Store.ofText_eq_ok_iff, Store.nodup_of_ofText
-/
import DocQuery.Proofs.JsonRoundTrip
import DocQuery.Store

namespace DocQuery

/-! ### Objects that were read

Of several members of one name reading keeps one, so that the members that were read have different
names and are a store. -/

namespace Json

theorem readScalar_ne_object {cs rest : List Char} {fields : List (String × Value)} :
    readScalar cs ≠ some (.object fields, rest) := by
  intro h
  unfold readScalar at h
  split at h
  · rename_i word v found
    have listed := List.mem_of_find?_eq_some found
    cases h
    simp [words] at listed
  · obtain ⟨⟨n, rest'⟩, _, same⟩ := Option.map_eq_some_iff.1 h
    cases same

/-- An object is read from behind a brace, and no two of its members have one name. -/
theorem readValue_object_inv {fuel : Nat} {cs rest : List Char} {fields : List (String × Value)}
    (h : readValue fuel cs = some (.object fields, rest)) :
    (∃ cs', cs = '\x7b' :: cs') ∧ (Keyed.keys fields).Nodup := by
  cases fuel with
  | zero => cases h
  | succ fuel =>
      unfold readValue at h
      split at h
      · obtain ⟨⟨s, rest'⟩, _, same⟩ := Option.map_eq_some_iff.1 h
        cases same
      · split at h
        · cases h
        · obtain ⟨⟨items, rest'⟩, _, same⟩ := Option.map_eq_some_iff.1 h
          cases same
      · refine ⟨⟨_, rfl⟩, ?_⟩
        split at h
        · cases h
          exact List.nodup_nil
        · obtain ⟨⟨members, rest'⟩, _, same⟩ := Option.map_eq_some_iff.1 h
          cases same
          exact Keyed.nodup_keys_ofList members
      · exact absurd h readScalar_ne_object

/-- The text of an object has a brace, and no two of the members have one name. -/
theorem parse?_object_inv {text : String} {fields : List (String × Value)}
    (h : parse? text = some (.object fields)) :
    '\x7b' ∈ text.toList ∧ (Keyed.keys fields).Nodup := by
  unfold parse? at h
  simp only at h
  split at h
  · rename_i v rest read
    split at h
    · cases h
      obtain ⟨⟨cs, starts⟩, distinct⟩ := readValue_object_inv read
      have brace : '\x7b' ∈ skip text.toList := starts ▸ List.mem_cons_self
      exact ⟨(List.dropWhile_suffix _).subset brace, distinct⟩
    · cases h
  · cases h

/-! ### Texts in printed ASCII

Everything else is written as an escape of ASCII characters.  So the text needs one byte for each
character, and no line end in it is changed when it is read. -/

/-- Only line ends and printed characters of ASCII. -/
def Printed (cs : List Char) : Prop :=
  ∀ c ∈ cs, c = '\n' ∨ 32 ≤ c.toNat ∧ c.toNat ≤ 126

instance (cs : List Char) : Decidable (Printed cs) :=
  List.decidableBAll _ cs

theorem Printed.append {cs ds : List Char} (h : Printed cs) (h' : Printed ds) :
    Printed (cs ++ ds) :=
  List.forall_mem_append.2 ⟨h, h'⟩

theorem Printed.cons {c : Char} {cs : List Char} (h : Printed [c]) (h' : Printed cs) :
    Printed (c :: cs) :=
  h.append h'

theorem printed_newline (layout : Layout) (level : Nat) : Printed (newline layout level) := by
  have space : ' '.toNat = 32 := rfl
  unfold newline
  split
  · exact List.forall_mem_nil _
  · refine Printed.cons (by decide) fun c hc => ?_
    rw [List.eq_of_mem_replicate hc]
    exact .inr (by decide)

theorem printed_hex4 (n : Nat) : Printed (hex4 n) := by
  have digit (m : Nat) : Printed [hexDigit m] := by
    have below : m % 16 < 16 := Nat.mod_lt _ (by decide)
    rw [hexDigit]
    generalize m % 16 = d at below
    interval_cases d <;> decide
  exact (digit _).cons ((digit _).cons ((digit _).cons (digit _)))

theorem printed_unicodeEscape (n : Nat) : Printed (unicodeEscape n) := by
  have mark : Printed ['\\', 'u'] := by decide
  rw [unicodeEscape]
  split
  · exact mark.append (printed_hex4 n)
  · exact (mark.append (printed_hex4 _)).append (mark.append (printed_hex4 _))

/-- In an ASCII text a character of a string is written in printed characters. -/
theorem printed_writeChar (c : Char) : Printed (writeChar true c) := by
  rw [writeChar]
  split
  case isTrue => decide
  split
  case isTrue => decide
  split
  case isTrue => decide
  split
  case isTrue => decide
  split
  case isTrue => decide
  split
  case isTrue => decide
  split
  case isTrue => decide
  split
  case isTrue => exact printed_unicodeEscape _
  case isFalse printed =>
    refine List.forall_mem_singleton.2 (.inr ?_)
    simp only [true_and, not_or, not_lt] at printed
    exact printed

theorem printed_writeString (s : String) : Printed (writeString true s) := by
  have mark : Printed ['"'] := by decide
  have content : Printed (s.toList.flatMap (writeChar true)) := by
    intro c hc
    obtain ⟨d, _, hc⟩ := List.mem_flatMap.1 hc
    exact printed_writeChar d c hc
  exact (mark.append content).append mark

end Json

/-! ### The text of a store

An object of strings, in the layout of stores.  It reads back as the store because values read
back. -/

namespace Store

open Json

/-- A store as a JSON object. -/
def object (s : Store) : Value :=
  .object (s.map fun (name, text) => (name, .string text))

theorem wellFormed_object {s : Store} (distinct : (Keyed.keys s).Nodup) :
    s.object.WellFormed := by
  refine ⟨?_, Value.fieldsWellFormed_iff.2 fun field hf => ?_⟩
  · rw [Keyed.keys, List.map_map]
    exact distinct
  · obtain ⟨entry, _, rfl⟩ := List.mem_map.1 hf
    trivial

theorem printed_fields (s : Store) (level : Nat) :
    Printed (writeFields stored level (s.map fun (name, text) => (name, .string text))) := by
  have comma : Printed [','] := by decide
  have colon : Printed stored.colon.toList := by decide
  induction s with
  | nil => exact List.forall_mem_nil _
  | cons entry s ih =>
      exact ((((comma.append (printed_newline stored level)).append
        (printed_writeString entry.1)).append colon).append (printed_writeString entry.2)).append ih

/-- The text that keeps a store is printed ASCII. -/
theorem printed_text (s : Store) : Printed s.text.toList := by
  have colon : Printed stored.colon.toList := by decide
  have opening : Printed ['\x7b'] := by decide
  have closing : Printed ['\x7d'] := by decide
  have value : Printed (writeValue stored 0 s.object) := by
    cases s with
    | nil => decide
    | cons entry s =>
        exact ((((((opening.append (printed_newline stored 1)).append
          (printed_writeString entry.1)).append colon).append
          (printed_writeString entry.2)).append (printed_fields s 1)).append
          (printed_newline stored 0)).append closing
  have end' : Printed "\n".toList := by decide
  rw [text, storedText, write, String.toList_append, String.toList_ofList]
  exact value.append end'

/-- The text that keeps a store shows a brace at least. -/
theorem isBlankText_text (s : Store) : isBlankText s.text = false := by
  obtain ⟨rest, starts⟩ : ∃ rest, writeValue stored 0 s.object = '\x7b' :: rest := by
    cases s <;> exact ⟨_, rfl⟩
  have brace : Text.isBlank '\x7b' = false := by decide
  have text' : s.text.toList = '\x7b' :: (rest ++ "\n".toList) := by
    rw [text, storedText, write, String.toList_append, String.toList_ofList]
    exact congrArg (· ++ "\n".toList) starts
  rw [isBlankText, text', List.all_cons, brace, Bool.false_and]

/-- The text that keeps a store reads back as the store. -/
theorem ofText_text {s : Store} (distinct : (Keyed.keys s).Nodup) : ofText s.text = .ok s := by
  have blank : Blank "\n".toList := List.forall_mem_singleton.2 rfl
  have read : parse? s.text = some s.object :=
    parse?_write_append stored_sound (wellFormed_object distinct) blank
  simp only [ofText, isBlankText_text, read, object, Bool.false_eq_true, if_false, List.map_map]
  exact congrArg Except.ok (List.map_id s)

/-- A text keeps a store if it is blank or a JSON object. -/
theorem ofText_eq_ok_iff {text : String} {s : Store} :
    ofText text = .ok s ↔ (isBlankText text = true ∧ s = []) ∨
      ∃ fields, parse? text = some (.object fields) ∧
        s = fields.map fun (name, v) => (name, v.plain) := by
  unfold ofText
  by_cases blank : isBlankText text = true
  · rw [if_pos blank]
    constructor
    · intro h
      cases h
      exact .inl ⟨blank, rfl⟩
    · rintro (⟨_, rfl⟩ | ⟨fields, parsed, _⟩)
      · rfl
      · have brace := List.all_eq_true.1 blank _ (parse?_object_inv parsed).1
        exact absurd brace (by decide)
  · rw [if_neg blank]
    constructor
    · intro h
      split at h
      · cases h
      · rename_i fields parsed
        cases h
        exact .inr ⟨fields, parsed, rfl⟩
      · cases h
    · rintro (⟨blank', _⟩ | ⟨fields, parsed, rfl⟩)
      · exact absurd blank' blank
      · rw [parsed]

/-- A store that was read has no name twice. -/
theorem nodup_of_ofText {text : String} {s : Store} (h : ofText text = .ok s) :
    (Keyed.keys s).Nodup := by
  rcases ofText_eq_ok_iff.1 h with ⟨_, rfl⟩ | ⟨fields, parsed, rfl⟩
  · exact List.nodup_nil
  · rw [Keyed.keys, List.map_map]
    exact (parse?_object_inv parsed).2

end Store

end DocQuery
