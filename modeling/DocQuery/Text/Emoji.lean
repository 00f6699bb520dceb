/-
Module: DocQuery.Text.Emoji
Purpose: Emoji that a text asks for by a name between colons.
Main exports: emojiTable, emoji?, readColonName, withEmoji
-/
import DocQuery.Text.Blank
import DocQuery.Text.Case
import DocQuery.Text.EmojiNames
import DocQuery.Text.Split
import DocQuery.Text.Width

namespace DocQuery.Text

/-! ### Names -/

/-- The words of a text. -/
def words (cs : List Char) : List (List Char) :=
  (partsWhere isBlank cs).filter (!·.isEmpty)

/-- Every name with its emoji, out of words in which the two take turns. -/
def pairUp : List (List Char) → List (String × List Char)
  | name :: emoji :: rest => (String.ofList name, emoji) :: pairUp rest
  | _ => []

/-- All emoji by name. -/
def emojiTable : List (String × List Char) :=
  pairUp (words emojiNames.toList)

/-- The character that asks for the uncoloured form of the one before. -/
def textSelector : Char := '\ufe0e'

/-- The endings by which a name asks for one of the two forms of its emoji. -/
def emojiForms : List (List Char × Char) :=
  [("-emoji".toList, emojiSelector), ("-text".toList, textSelector)]

/-- A name without the ending that asks for a form, and the selector of that form. -/
def splitForm (name : List Char) : List Char × List Char :=
  match emojiForms.find? fun (ending, _) => ending.isSuffixOf name with
  | some (ending, selector) => (name.take (name.length - ending.length), [selector])
  | none => (name, [])

/-- The emoji of a name, in the form that the name asks for.  The case of its letters is ignored. -/
def emoji? (name : List Char) : Option (List Char) :=
  let (plain, selector) := splitForm name
  (emojiTable.lookup (lowerText (String.ofList plain))).map (· ++ selector)

/-! ### Texts -/

/-- A character that may be part of a name between colons. -/
def isInName (c : Char) : Bool :=
  c ≠ ':' && !isBlank c

/-- A name between colons at the start of a text, and what stands behind the second colon. -/
def readColonName : List Char → Option (List Char × List Char)
  | ':' :: cs =>
      match cs.dropWhile isInName with
      | ':' :: rest => some (cs.takeWhile isInName, rest)
      | _ => none
  | _ => none

theorem length_lt_of_readColonName {cs name rest : List Char}
    (h : readColonName cs = some (name, rest)) : rest.length < cs.length := by
  unfold readColonName at h
  split at h
  · rename_i cs'
    split at h
    · rename_i r hr
      obtain ⟨-, rfl⟩ := Prod.mk.inj (Option.some.inj h)
      have hlen := congrArg List.length hr
      have hle := (List.dropWhile_sublist isInName (l := cs')).length_le
      simp only [List.length_cons] at hlen ⊢
      omega
    · simp at h
  · simp at h

/-- A text with the emoji that it asks for.  Colons around a name that no emoji has stay, and the
second of them does not start another name. -/
def withEmoji (cs : List Char) : List Char :=
  match cs with
  | [] => []
  | c :: rest =>
      match _h : readColonName (c :: rest) with
      | some (name, rest') => (emoji? name).getD (':' :: name ++ [':']) ++ withEmoji rest'
      | none => c :: withEmoji rest
termination_by cs.length
decreasing_by
  · exact length_lt_of_readColonName _h
  · simp

end DocQuery.Text
