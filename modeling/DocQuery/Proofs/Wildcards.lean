/-
Module: DocQuery.Proofs.Wildcards
Purpose: A text is like a pattern exactly if it splits into one piece for each character of the
  pattern, and this is what the regular expression of the pattern says.
Main exports: StandsFor, Splits, likeMatches_iff, Text.sameLetter_iff, Text.sameLetter_ascii_iff,
  Text.sameLetter_equivalence, RegexItem, readRegex, FullyMatches, readRegex_likeRegex,
  Condition.eval_like
-/
import DocQuery.Condition.Eval
import DocQuery.Proofs.Outcome

namespace DocQuery

open Outcome

/-! ### Splitting a text

The specification: a text is cut into as many pieces as the pattern has characters, and each piece
is one that its character stands for. -/

/-- The pieces of a text that a character of a pattern stands for: any piece for `%`, any one
character for `_`, and one that is `same` for every other character. -/
inductive StandsFor (same : Char → Char → Bool) : Char → List Char → Prop where
  | run (piece : List Char) : StandsFor same '%' piece
  | one (c : Char) : StandsFor same '_' [c]
  | letter {p c : Char} : p ≠ '%' → p ≠ '_' → same p c = true → StandsFor same p [c]

/-- A text splits into consecutive pieces, one for each character of a pattern in turn. -/
def Splits (same : Char → Char → Bool) (pattern text : List Char) : Prop :=
  ∃ pieces : List (List Char), pieces.flatten = text ∧ List.Forall₂ (StandsFor same) pattern pieces

section Splitting

variable {same : Char → Char → Bool}

theorem standsFor_run {piece : List Char} : StandsFor same '%' piece :=
  .run piece

/-- Every character but `%` stands for a single one. -/
theorem standsFor_iff_of_ne {p : Char} {piece : List Char} (single : p ≠ '%') :
    StandsFor same p piece ↔ ∃ c, piece = [c] ∧ (p = '_' ∨ same p c = true) := by
  constructor
  · rintro (_ | c | ⟨_, _, letter⟩)
    · exact absurd rfl single
    · exact ⟨c, rfl, .inl rfl⟩
    · exact ⟨_, rfl, .inr letter⟩
  · rintro ⟨c, rfl, any⟩
    by_cases one : p = '_'
    · exact one ▸ .one c
    · exact .letter single one (any.resolve_left one)

theorem splits_nil_iff {text : List Char} : Splits same [] text ↔ text = [] := by
  constructor
  · rintro ⟨pieces, rfl, split⟩
    cases split
    rfl
  · rintro rfl
    exact ⟨[], rfl, .nil⟩

/-- The first character of a pattern stands for the beginning of a text, the others for its rest. -/
theorem splits_cons_iff {p : Char} {pattern text : List Char} :
    Splits same (p :: pattern) text ↔
      ∃ piece rest, text = piece ++ rest ∧ StandsFor same p piece ∧ Splits same pattern rest := by
  constructor
  · rintro ⟨pieces, rfl, split⟩
    cases split with
    | cons first others => exact ⟨_, _, List.flatten_cons, first, _, rfl, others⟩
  · rintro ⟨piece, rest, rfl, first, pieces, rfl, others⟩
    exact ⟨piece :: pieces, List.flatten_cons, .cons first others⟩

/-! ### Matching

By induction on the pattern; a run tries every suffix of the text. -/

theorem anySuffix_eq_true_iff {P : List Char → Bool} {cs : List Char} :
    anySuffix P cs = true ↔ ∃ front back, cs = front ++ back ∧ P back = true := by
  induction cs with
  | nil => simp [anySuffix]
  | cons c cs ih =>
      rw [anySuffix, Bool.or_eq_true, ih]
      constructor
      · rintro (all | ⟨front, back, rfl, found⟩)
        · exact ⟨[], c :: cs, rfl, all⟩
        · exact ⟨c :: front, back, rfl, found⟩
      · rintro ⟨_ | ⟨first, front⟩, back, split, found⟩
        · exact .inl (split ▸ found)
        · obtain ⟨-, rest⟩ := List.cons.inj split
          exact .inr ⟨front, back, rest, found⟩

/-- A pattern matches the texts that split as it says. -/
theorem likeMatches_iff {pattern text : List Char} :
    likeMatches same pattern text = true ↔ Splits same pattern text := by
  induction pattern generalizing text with
  | nil => simp [likeMatches, splits_nil_iff]
  | cons p pattern ih =>
      rw [splits_cons_iff]
      simp only [likeMatches]
      by_cases run : p = '%'
      · subst run
        rw [if_pos rfl, anySuffix_eq_true_iff]
        simp only [ih, standsFor_run, true_and]
      · rw [if_neg run]
        simp only [standsFor_iff_of_ne run]
        cases text with
        | nil => simp
        | cons c text =>
            simp only [Bool.and_eq_true, Bool.or_eq_true, decide_eq_true_iff, ih]
            constructor
            · rintro ⟨any, rest⟩
              exact ⟨[c], text, rfl, ⟨c, rfl, any⟩, rest⟩
            · rintro ⟨_, rest, split, ⟨c', rfl, any⟩, others⟩
              obtain ⟨rfl, rfl⟩ := List.cons.inj split
              exact ⟨any, others⟩

end Splitting

/-! ### Letters in different case

Two characters are the same letter if their lower-case forms are the same or are variants of each
other.  The variants are a short list, so that what holds of all of them is checked on it. -/

namespace Text

/-- The variants of a lower-case character besides itself. -/
def variantsOf (code : Nat) : List Nat :=
  (caseVariants.lookup code).getD []

theorem exists_of_mem_variantsOf {code other : Nat} (h : other ∈ variantsOf code) :
    (code, variantsOf code) ∈ caseVariants := by
  unfold variantsOf at h ⊢
  cases found : caseVariants.lookup code with
  | none => simp [found] at h
  | some others =>
      obtain ⟨before, after, entries, -⟩ := List.lookup_eq_some_iff.1 found
      simp [entries]

theorem variantsOf_symm {code other : Nat} (h : other ∈ variantsOf code) :
    code ∈ variantsOf other := by
  have table : ∀ entry ∈ caseVariants, ∀ other ∈ entry.2, entry.1 ∈ variantsOf other := by
    decide
  exact table _ (exists_of_mem_variantsOf h) other h

theorem variantsOf_trans {code other third : Nat} (h : other ∈ variantsOf code)
    (h' : third ∈ variantsOf other) : third = code ∨ third ∈ variantsOf code := by
  have table : ∀ entry ∈ caseVariants, ∀ other ∈ entry.2, ∀ third ∈ variantsOf other,
      third = entry.1 ∨ third ∈ entry.2 := by
    decide
  exact table _ (exists_of_mem_variantsOf h) other h third h'

/-- Two characters are the same letter exactly if they have one lower-case form, or lower-case forms
that are variants of one letter. -/
theorem sameLetter_iff (p c : Char) :
    sameLetter p c = true ↔
      lowerCode c.toNat = lowerCode p.toNat ∨
        lowerCode c.toNat ∈ variantsOf (lowerCode p.toNat) := by
  simp [sameLetter, variantsOf]

theorem lowerCode_of_ascii {c : Char} (ascii : c.toNat < 128) :
    lowerCode c.toNat = c.toLower.toNat := by
  have table : ∀ n < 128, lowerCode n = (Char.ofNat n).toLower.toNat := by decide +kernel
  simpa using table c.toNat ascii

/-- The variants of an ASCII letter are not ASCII letters themselves. -/
theorem le_of_mem_variantsOf_ascii {code other : Nat} (ascii : code < 128)
    (h : other ∈ variantsOf code) : 128 ≤ other := by
  have table : ∀ entry ∈ caseVariants, entry.1 < 128 → ∀ other ∈ entry.2, 128 ≤ other := by decide
  exact table _ (exists_of_mem_variantsOf h) ascii other h

/-- Two ASCII characters are the same letter exactly if they agree in small letters. -/
theorem sameLetter_ascii_iff {p c : Char} (hp : p.toNat < 128) (hc : c.toNat < 128) :
    sameLetter p c = true ↔ c.toLower = p.toLower := by
  have small (d : Char) (hd : d.toNat < 128) : d.toLower.toNat < 128 := by
    have table : ∀ n < 128, (Char.ofNat n).toLower.toNat < 128 := by decide +kernel
    simpa using table d.toNat hd
  have apart : c.toLower.toNat ∉ variantsOf p.toLower.toNat := by
    intro variant
    have beyond := le_of_mem_variantsOf_ascii (small p hp) variant
    have within := small c hc
    omega
  rw [sameLetter_iff, lowerCode_of_ascii hp, lowerCode_of_ascii hc, or_iff_left apart]
  exact Char.toNat_inj

/-- To be the same letter, apart from case, is an equivalence. -/
theorem sameLetter_equivalence : Equivalence fun p c => sameLetter p c = true where
  refl c := by simp [sameLetter_iff]
  symm {p c} h := by
    rw [sameLetter_iff] at h ⊢
    exact h.imp Eq.symm variantsOf_symm
  trans {p c d} hpc hcd := by
    rw [sameLetter_iff] at hpc hcd ⊢
    rcases hpc with same | variant
    · rwa [← same]
    · rcases hcd with same | variant'
      · exact .inr (same ▸ variant)
      · exact variantsOf_trans variant variant'

end Text

/-! ### The regular expression of a pattern

The program turns a pattern into a regular expression.  Its text is read back here item by item,
which shows that every character that has a meaning in regular expressions was escaped. -/

/-- What the regular expression of a pattern consists of: any run of characters, any one character,
or a letter.  A line end is a character like any other. -/
inductive RegexItem where
  | anyRun
  | anyChar
  | letter (c : Char)
deriving DecidableEq, Repr

/-- Reads a regular expression of such items.  A character with a meaning of its own is a letter
only behind a backslash. -/
def readRegex : List Char → Option (List RegexItem)
  | [] => some []
  | '.' :: '*' :: cs => (readRegex cs).map (.anyRun :: ·)
  | '.' :: cs => (readRegex cs).map (.anyChar :: ·)
  | '\\' :: c :: cs =>
      if regexSpecials.contains c then (readRegex cs).map (.letter c :: ·) else none
  | c :: cs =>
      if regexSpecials.contains c then none else (readRegex cs).map (.letter c :: ·)

/-- The pieces of a text that an item matches. -/
inductive RegexItem.Matches (same : Char → Char → Bool) : RegexItem → List Char → Prop where
  | anyRun (piece : List Char) : Matches same .anyRun piece
  | anyChar (c : Char) : Matches same .anyChar [c]
  | letter {p c : Char} : same p c = true → Matches same (.letter p) [c]

/-- A regular expression matches a text from its beginning to its end. -/
def FullyMatches (same : Char → Char → Bool) (items : List RegexItem) (text : List Char) : Prop :=
  ∃ pieces : List (List Char), pieces.flatten = text ∧
    List.Forall₂ (RegexItem.Matches same) items pieces

/-- What a character of a pattern becomes in the regular expression. -/
def RegexItem.ofPattern (p : Char) : RegexItem :=
  if p = '%' then .anyRun else if p = '_' then .anyChar else .letter p

/-- The text of what a character of a pattern becomes. -/
def regexText (p : Char) : List Char :=
  if p = '%' then ['.', '*']
  else if p = '_' then ['.']
  else if regexSpecials.contains p then ['\\', p]
  else [p]

theorem toList_likeRegex (pattern : String) :
    (likeRegex pattern).toList = pattern.toList.flatMap regexText := by
  rw [likeRegex, String.toList_ofList]
  rfl

/-- No character becomes something that starts with a star, so none can be taken for the star of
another one. -/
theorem head?_flatMap_regexText (pattern : List Char) :
    (pattern.flatMap regexText).head? ≠ some '*' := by
  cases pattern with
  | nil => simp
  | cons p pattern =>
      rw [List.flatMap_cons, regexText]
      split
      · simp
      · split
        · simp
        · split
          · simp
          · rename_i plain
            rintro h
            obtain rfl : p = '*' := by simpa using h
            exact plain (by decide)

theorem readRegex_plain {c : Char} {cs : List Char} (plain : regexSpecials.contains c = false) :
    readRegex (c :: cs) = (readRegex cs).map (.letter c :: ·) := by
  have dot : c ≠ '.' := by
    rintro rfl
    revert plain
    decide
  have backslash : c ≠ '\\' := by
    rintro rfl
    revert plain
    decide
  rw [readRegex]
  · simp only [plain, Bool.false_eq_true, if_false]
  · exact fun _ h => absurd h dot
  · exact fun h => absurd h dot
  · exact fun _ _ h => absurd h backslash

theorem readRegex_dot {cs : List Char} (h : cs.head? ≠ some '*') :
    readRegex ('.' :: cs) = (readRegex cs).map (.anyChar :: ·) := by
  rw [readRegex]
  rintro rest rfl
  exact h rfl

/-- Each character of a pattern is read back as what it becomes. -/
theorem readRegex_regexText (p : Char) {rest : List Char} (h : rest.head? ≠ some '*') :
    readRegex (regexText p ++ rest) = (readRegex rest).map (.ofPattern p :: ·) := by
  unfold regexText RegexItem.ofPattern
  by_cases run : p = '%'
  · rw [if_pos run, if_pos run]
    rfl
  rw [if_neg run, if_neg run]
  by_cases one : p = '_'
  · rw [if_pos one, if_pos one]
    exact readRegex_dot h
  rw [if_neg one, if_neg one]
  by_cases special : regexSpecials.contains p = true
  · rw [if_pos special]
    exact if_pos special
  · rw [if_neg special]
    exact readRegex_plain (Bool.eq_false_iff.2 special)

/-- The regular expression of a pattern is read as what its characters become. -/
theorem readRegex_likeRegex (pattern : String) :
    readRegex (likeRegex pattern).toList = some (pattern.toList.map .ofPattern) := by
  rw [toList_likeRegex]
  induction pattern.toList with
  | nil => rfl
  | cons p ps ih =>
      rw [List.flatMap_cons, readRegex_regexText p (head?_flatMap_regexText ps), ih]
      rfl

variable {same : Char → Char → Bool}

theorem matches_ofPattern_iff {p : Char} {piece : List Char} :
    (RegexItem.ofPattern p).Matches same piece ↔ StandsFor same p piece := by
  unfold RegexItem.ofPattern
  by_cases run : p = '%'
  · subst run
    exact iff_of_true (.anyRun piece) standsFor_run
  rw [if_neg run, standsFor_iff_of_ne run]
  by_cases one : p = '_'
  · subst one
    rw [if_pos rfl]
    constructor
    · intro matched
      cases matched with
      | anyChar c => exact ⟨c, rfl, .inl rfl⟩
    · rintro ⟨c, rfl, -⟩
      exact .anyChar c
  · rw [if_neg one]
    constructor
    · intro matched
      cases matched with
      | letter letter => exact ⟨_, rfl, .inr letter⟩
    · rintro ⟨c, rfl, any⟩
      exact .letter (any.resolve_left one)

/-- The items that a pattern becomes match the texts that split as the pattern says. -/
theorem fullyMatches_iff {pattern text : List Char} :
    FullyMatches same (pattern.map .ofPattern) text ↔ Splits same pattern text := by
  simp only [FullyMatches, Splits, List.forall₂_map_left_iff, matches_ofPattern_iff]

/-! ### Conditions with patterns

The two readings are put together: what matching computes is what the regular expression says, and
that is splitting. -/

namespace Condition

variable {scope : Scope} {r : Record} {operand : Operand} {v : Value}

/-- Whether a text is like a pattern, and that nothing else is like or unlike one.  A text is like a
pattern exactly if it splits into consecutive pieces, one for each character of the pattern.
Letters are told apart, or are the same under an equivalence if case is ignored: those with one
lower-case form or with variants of one letter as lower-case forms, which in ASCII are the small
letter and its capital.  The regular expression of the pattern, in which all characters with a
meaning of their own are escaped, says the same. -/
theorem eval_like (read : operand.valueIn scope r = .ok v) (pattern : String) (ignoreCase : Bool) :
    (∀ s, v = .string s → ∃ found : Bool,
      (found = true ↔ Splits (likeLetter ignoreCase) pattern.toList s.toList) ∧
        eval scope r (.like operand pattern ignoreCase false) = .ok found ∧
        eval scope r (.like operand pattern ignoreCase true) = .ok !found) ∧
    ((∀ s, v ≠ .string s) →
      ∀ negated, eval scope r (.like operand pattern ignoreCase negated) = .ok false) ∧
    (∀ p c, likeLetter false p c = true ↔ p = c) ∧
    (Equivalence fun p c => likeLetter true p c = true) ∧
    (∀ p c, likeLetter true p c = true ↔
      Text.lowerCode c.toNat = Text.lowerCode p.toNat ∨
        Text.lowerCode c.toNat ∈ Text.variantsOf (Text.lowerCode p.toNat)) ∧
    (∀ p c : Char, p.toNat < 128 → c.toNat < 128 →
      (likeLetter true p c = true ↔ c.toLower = p.toLower)) ∧
    ∃ items, readRegex (likeRegex pattern).toList = some items ∧
      ∀ text, FullyMatches (likeLetter ignoreCase) items text ↔
        Splits (likeLetter ignoreCase) pattern.toList text := by
  refine ⟨?_, ?_, fun p c => beq_iff_eq, Text.sameLetter_equivalence, Text.sameLetter_iff,
    fun p c => Text.sameLetter_ascii_iff, _, readRegex_likeRegex pattern,
    fun text => fullyMatches_iff⟩
  · rintro s rfl
    refine ⟨likeMatches (likeLetter ignoreCase) pattern.toList s.toList, likeMatches_iff, ?_, ?_⟩
    · simp [eval, read]
    · simp [eval, read]
  · intro other negated
    cases v with
    | string s => exact absurd rfl (other s)
    | _ => simp [eval, read]

/-- A point stands for itself, a run takes line ends, and with case ignored the long s is an S. -/
theorem eval_like_longS :
    let scope : Scope := ⟨[("t", ["name"])]⟩
    let r : Record := ⟨[("name", .string "A.b\nxſ")], some "t"⟩
    Operand.valueIn (.field "name") scope r = .ok (.string "A.b\nxſ") ∧
      Splits (likeLetter true) "a.%_S".toList "A.b\nxſ".toList ∧
      eval scope r (.like (.field "name") "a.%_S" true false) = .ok true ∧
      eval scope r (.like (.field "name") "a.%_S" true true) = .ok false := by
  intro scope r
  have read : Operand.valueIn (.field "name") scope r = .ok (.string "A.b\nxſ") := rfl
  have split : Splits (likeLetter true) "a.%_S".toList "A.b\nxſ".toList := by
    refine ⟨[['A'], ['.'], ['b', '\n'], ['x'], ['ſ']], rfl, ?_⟩
    exact .cons (.letter (by decide) (by decide) (by decide))
      (.cons (.letter (by decide) (by decide) (by decide))
        (.cons (.run _) (.cons (.one _)
          (.cons (.letter (by decide) (by decide) (by decide)) .nil))))
  obtain ⟨found, found_iff, like, unlike⟩ := (eval_like read "a.%_S" true).1 _ rfl
  obtain rfl := found_iff.2 split
  exact ⟨read, split, like, unlike⟩

end Condition

end DocQuery
