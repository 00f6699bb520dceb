/-
Module: DocQuery.Format.Markup
Purpose: Texts in which bracketed tags would be read as styles: how to keep them from it, and what a
  terminal then shows.
Main exports: Markup.escape, Markup.shown, Value.cellMarkup, Value.cellShown
-/
import DocQuery.Json.Writer
import DocQuery.Text.Emoji
import DocQuery.Value.Inspect

namespace DocQuery

namespace Markup

/-- A part of a text: plain characters, or a tag with the number of backslashes in front of it. -/
inductive Part where
  | plain (c : Char)
  | tag (backslashes : Nat) (text : List Char)
deriving DecidableEq, Repr, Inhabited

/-- A character that may follow the opening bracket of a tag. -/
def startsTag (c : Char) : Bool :=
  ('a' ≤ c && c ≤ 'z') || c = '#' || c = '/' || c = '@'

/-- A tag at the start of a text, brackets included. -/
def readTag : List Char → Option (List Char × List Char)
  | '[' :: c :: rest =>
      if startsTag c then
        let inside (d : Char) : Bool := d ≠ '[' && d ≠ ']'
        match rest.dropWhile inside with
        | ']' :: rest' => some ('[' :: c :: rest.takeWhile inside ++ [']'], rest')
        | _ => none
      else none
  | _ => none

/-- A tag behind any number of backslashes at the start of a text. -/
def readEscapedTag (cs : List Char) : Option (Nat × List Char × List Char) :=
  let backslashes := (cs.takeWhile (· = '\\')).length
  (readTag (cs.dropWhile (· = '\\'))).map fun (tag, rest) => (backslashes, tag, rest)

theorem length_lt_of_readTag {cs tag rest : List Char} (h : readTag cs = some (tag, rest)) :
    rest.length < cs.length := by
  unfold readTag at h
  split at h
  · rename_i c r
    split at h
    · simp only at h
      split at h
      · rename_i r' hr
        obtain ⟨-, rfl⟩ := Prod.mk.inj (Option.some.inj h)
        have := congrArg List.length hr
        have hle := (List.dropWhile_sublist (fun d => d ≠ '[' && d ≠ ']') (l := r)).length_le
        simp only [List.length_cons] at this ⊢
        omega
      · simp at h
    · simp at h
  · simp at h

theorem length_lt_of_readEscapedTag {cs tag rest : List Char} {n : Nat}
    (h : readEscapedTag cs = some (n, tag, rest)) : rest.length < cs.length := by
  obtain ⟨⟨tag', rest'⟩, hr, hc⟩ := Option.map_eq_some_iff.1 h
  have hlt := length_lt_of_readTag hr
  have hle := (List.dropWhile_sublist (· = '\\') (l := cs)).length_le
  simp only [Prod.mk.injEq] at hc
  obtain ⟨-, -, rfl⟩ := hc
  omega

/-- The parts of a text. -/
def parts (cs : List Char) : List Part :=
  match cs with
  | [] => []
  | c :: rest =>
      match _h : readEscapedTag (c :: rest) with
      | some (n, tag, rest') => .tag n tag :: parts rest'
      | none => .plain c :: parts rest
termination_by cs.length
decreasing_by
  · exact length_lt_of_readEscapedTag _h
  · simp

/-- A text that ends in a single backslash gets a second one. -/
def closeBackslash (cs : List Char) : List Char :=
  match cs.reverse with
  | '\\' :: '\\' :: _ => cs
  | '\\' :: _ => cs ++ ['\\']
  | _ => cs

/-- A text in which no tag is read as a style: the backslashes in front of a tag are doubled, and
one more is put there. -/
def escape (s : String) : String :=
  String.ofList <| closeBackslash <| (parts s.toList).flatMap fun p =>
    match p with
    | .plain c => [c]
    | .tag n tag => List.replicate (2 * n + 1) '\\' ++ tag

/-- Characters that a terminal does not show: bell, backspace, vertical tab, form feed and carriage
return. -/
def isDropped (c : Char) : Bool :=
  c.toNat = 7 || c.toNat = 8 || c.toNat = 11 || c.toNat = 12 || c.toNat = 13

/-- A text in which no backslash stands in front of a bracket. -/
def openBrackets : List Char → List Char
  | [] => []
  | '\\' :: '[' :: rest => '[' :: openBrackets rest
  | c :: rest => c :: openBrackets rest

/-- The characters that a terminal shows for plain characters in a row. -/
def shownRun (cs : List Char) : List Char :=
  Text.withEmoji (openBrackets cs)

/-- The plain characters that parts of an escaped text start with, and what a terminal shows for the
parts behind them.  A tag ends a run of plain characters, so the colons of a name that asks for an
emoji may not stand on two sides of it. -/
def splitRun : List Part → List Char × List Char
  | [] => ([], [])
  | .plain c :: rest =>
      let (run, behind) := splitRun rest
      (c :: run, behind)
  | .tag n tag :: rest =>
      let (run, behind) := splitRun rest
      ([], List.replicate n '\\' ++ Text.withEmoji tag ++ shownRun run ++ behind)

/-- What a terminal shows for an escaped text. -/
def shown (s : String) : String :=
  let (run, behind) := splitRun (parts (closeBackslash s.toList))
  String.ofList ((shownRun run ++ behind).filter (!isDropped ·))

end Markup

/-- The text of a value in a table cell, before it is escaped.  Null has none. -/
def Value.cellText? : Value → Option String
  | .null => none
  | .bool b => some (if b then "true" else "false")
  | .array items => some (Json.spacedText (.array items))
  | .object fields => some (Json.spacedText (.object fields))
  | v => some v.plain

/-- The cell of a value with its styles: null is dimmed, and all other text is escaped. -/
def Value.cellMarkup (v : Value) : String :=
  match v.cellText? with
  | none => "[dim]NULL[/dim]"
  | some text => Markup.escape text

/-- What a terminal shows for the cell of a value. -/
def Value.cellShown (v : Value) : String :=
  match v.cellText? with
  | none => "NULL"
  | some text => Markup.shown text

end DocQuery
