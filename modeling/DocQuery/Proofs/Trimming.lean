/-
Module: DocQuery.Proofs.Trimming
Purpose: Texts without the characters of a class at their end, and texts without white space at
  either end.
Main exports: Text.exists_dropEnd, Text.dropEnd_append, Text.dropEnd_eq_self, Text.dropEnd_dropBlank,
  Text.Trimmed, Text.trimmed_trimBlank, Text.trimBlank_eq_self_iff, Text.trimBlank_append,
  Text.trimText_trimText
-/
import DocQuery.Text.Blank
import Mathlib.Data.List.TakeWhile

namespace DocQuery.Text

variable {p : Char → Bool} {c : Char} {cs ds : List Char}

/-! ### Characters dropped at the end

Dropping at the end is dropping at the start of the reversed text.  These lemmas say it without the
reversal. -/

theorem exists_dropEnd (p : Char → Bool) (cs : List Char) :
    ∃ ds, cs = dropEnd p cs ++ ds ∧ ∀ d ∈ ds, p d = true := by
  refine ⟨(cs.reverse.takeWhile p).reverse, ?_, ?_⟩
  · rw [dropEnd, ← List.reverse_append, List.takeWhile_append_dropWhile, List.reverse_reverse]
  · intro d hd
    exact List.mem_takeWhile_imp (List.mem_reverse.1 hd)

/-- A character that is not dropped keeps what stands before it. -/
theorem dropEnd_append {m : Char} (h : p m = false) (cs ds : List Char) :
    dropEnd p (cs ++ m :: ds) = cs ++ m :: dropEnd p ds := by
  simp [dropEnd, List.dropWhile_append, h]

theorem dropEnd_eq_self (h : ∀ c, cs.getLast? = some c → p c = false) : dropEnd p cs = cs := by
  rw [dropEnd, ← List.reverse_inj, List.reverse_reverse]
  cases start : cs.reverse with
  | nil => rfl
  | cons c rest =>
      have last : p c = false := h c (by rw [List.getLast?_eq_head?_reverse, start]; rfl)
      simp [last]

theorem dropEnd_concat (h : p c = true) (cs : List Char) :
    dropEnd p (cs ++ [c]) = dropEnd p cs := by
  simp [dropEnd, h]

theorem dropEnd_concat_of_stays (h : p c = false) (cs : List Char) :
    dropEnd p (cs ++ [c]) = cs ++ [c] :=
  dropEnd_append h cs []

theorem dropEnd_eq_nil (h : ∀ d ∈ cs, p d = true) : dropEnd p cs = [] := by
  simpa [dropEnd] using h

theorem dropEnd_cons (p : Char → Bool) (c : Char) (cs : List Char) :
    dropEnd p (c :: cs) = if dropEnd p cs = [] ∧ p c = true then [] else c :: dropEnd p cs := by
  by_cases all : dropEnd p cs = []
  · have none : cs.reverse.dropWhile p = [] := List.reverse_eq_nil_iff.1 all
    cases h : p c <;> simp [dropEnd, List.dropWhile_append, none, h]
  · have some : cs.reverse.dropWhile p ≠ [] := fun none => all (by rw [dropEnd, none]; rfl)
    simp [dropEnd, List.dropWhile_append, some]

theorem getLast?_dropEnd (h : (dropEnd p cs).getLast? = some c) : p c = false := by
  rw [dropEnd, List.getLast?_reverse] at h
  have stops := List.head?_dropWhile_not p cs.reverse
  rw [h] at stops
  simpa using stops

/-- What a text starts with and what it ends with can be dropped in either order. -/
theorem dropEnd_dropBlank (p : Char → Bool) (cs : List Char) :
    dropEnd p (dropBlank cs) = dropBlank (dropEnd p cs) := by
  induction cs with
  | nil => rfl
  | cons c cs ih =>
      rw [dropEnd_cons]
      cases blank : isBlank c with
      | true =>
          have shorter : dropBlank (c :: cs) = dropBlank cs := by
            simp [dropBlank, blank]
          rw [shorter, ih]
          split
          · rename_i gone
            rw [gone.1]
          · simp [dropBlank, blank]
      | false =>
          have stays (ds : List Char) : dropBlank (c :: ds) = c :: ds := by
            simp [dropBlank, blank]
          rw [stays, dropEnd_cons]
          split
          · rfl
          · rw [stays]

/-! ### Texts without white space around them

What is left of a text is characterized by its two ends, so that trimming need not be opened
again. -/

theorem head?_trimBlank (h : (trimBlank cs).head? = some c) : isBlank c = false := by
  rw [trimBlank, dropEnd_dropBlank, dropBlank] at h
  have stops := List.head?_dropWhile_not isBlank (dropEnd isBlank cs)
  rw [h] at stops
  simpa using stops

theorem getLast?_trimBlank (h : (trimBlank cs).getLast? = some c) : isBlank c = false :=
  getLast?_dropEnd h

/-- What is left of a text when white space is left out at both its ends, and nothing else. -/
structure Trimmed (text cs : List Char) : Prop where
  whole : ∃ before after, text = before ++ cs ++ after ∧
    (∀ c ∈ before, isBlank c = true) ∧ ∀ c ∈ after, isBlank c = true
  first : ∀ c, cs.head? = some c → isBlank c = false
  last : ∀ c, cs.getLast? = some c → isBlank c = false

theorem trimmed_trimBlank (text : List Char) : Trimmed text (trimBlank text) := by
  refine ⟨?_, fun _ => head?_trimBlank, fun _ => getLast?_trimBlank⟩
  obtain ⟨after, parts, blank⟩ := exists_dropEnd isBlank (dropBlank text)
  refine ⟨text.takeWhile isBlank, after, ?_, fun c hc => List.mem_takeWhile_imp hc, blank⟩
  rw [List.append_assoc, trimBlank, ← parts, dropBlank, List.takeWhile_append_dropWhile]

/-- A text stays as it is exactly if it neither starts nor ends with white space. -/
theorem trimBlank_eq_self_iff : trimBlank cs = cs ↔
    (∀ c, cs.head? = some c → isBlank c = false) ∧
      ∀ c, cs.getLast? = some c → isBlank c = false := by
  constructor
  · intro tidy
    exact ⟨fun c first => head?_trimBlank (tidy.symm ▸ first),
      fun c last => getLast?_trimBlank (tidy.symm ▸ last)⟩
  · rintro ⟨first, last⟩
    have starts : dropBlank cs = cs := by
      cases cs with
      | nil => rfl
      | cons c cs => simp [dropBlank, first c rfl]
    rw [trimBlank, starts, dropEnd_eq_self last]

@[simp] theorem trimBlank_trimBlank (cs : List Char) : trimBlank (trimBlank cs) = trimBlank cs :=
  trimBlank_eq_self_iff.2 ⟨fun _ => head?_trimBlank, fun _ => getLast?_trimBlank⟩

/-- A text has no white space around it once that was left out. -/
@[simp] theorem trimText_trimText (s : String) : trimText (trimText s) = trimText s := by
  rw [trimText, trimText, String.toList_ofList, trimBlank_trimBlank]

/-- Texts without white space around them can be put together. -/
theorem trimBlank_append (hcs : trimBlank cs = cs) (hds : trimBlank ds = ds) :
    trimBlank (cs ++ ds) = cs ++ ds := by
  obtain ⟨first, last⟩ := trimBlank_eq_self_iff.1 hcs
  obtain ⟨first', last'⟩ := trimBlank_eq_self_iff.1 hds
  apply trimBlank_eq_self_iff.2
  constructor
  · intro c h
    rw [List.head?_append, Option.or_eq_some_iff] at h
    rcases h with h | ⟨-, h⟩
    · exact first c h
    · exact first' c h
  · intro c h
    rw [List.getLast?_append, Option.or_eq_some_iff] at h
    rcases h with h | ⟨-, h⟩
    · exact last' c h
    · exact last c h

end DocQuery.Text
