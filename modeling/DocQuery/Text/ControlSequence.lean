/-
Module: DocQuery.Text.ControlSequence
Purpose: Control sequences, by which a text changes colours or moves the cursor of a terminal.
Main exports: readControlSequence, withoutControlSequences
-/

namespace DocQuery.Text

/-- The characters with codes from `first` to `last`. -/
def isBetween (first last : Nat) (c : Char) : Bool :=
  first ≤ c.toNat && c.toNat ≤ last

/-- What stands behind a control sequence at the start of a text: escape and an opening bracket,
parameters, intermediate characters, and a final character. -/
def readControlSequence : List Char → Option (List Char)
  | '\x1b' :: '[' :: cs =>
      match (cs.dropWhile (isBetween 0x30 0x3f)).dropWhile (isBetween 0x20 0x2f) with
      | c :: rest => if isBetween 0x40 0x7e c then some rest else none
      | [] => none
  | _ => none

theorem length_lt_of_readControlSequence {cs rest : List Char}
    (h : readControlSequence cs = some rest) : rest.length < cs.length := by
  unfold readControlSequence at h
  split at h
  · rename_i cs'
    split at h
    · rename_i c r hr
      split at h
      · obtain rfl := Option.some.inj h
        have hlen := congrArg List.length hr
        have hparams := (List.dropWhile_sublist (isBetween 0x30 0x3f) (l := cs')).length_le
        have hall := (List.dropWhile_sublist (isBetween 0x20 0x2f)
          (l := cs'.dropWhile (isBetween 0x30 0x3f))).length_le
        simp only [List.length_cons] at hlen ⊢
        omega
      · simp at h
    · simp at h
  · simp at h

/-- A text without its control sequences. -/
def dropControlSequences (cs : List Char) : List Char :=
  match cs with
  | [] => []
  | c :: rest =>
      match _h : readControlSequence (c :: rest) with
      | some rest' => dropControlSequences rest'
      | none => c :: dropControlSequences rest
termination_by cs.length
decreasing_by
  · exact length_lt_of_readControlSequence _h
  · simp

/-- A text as it is written where no terminal reads it: without control sequences. -/
def withoutControlSequences (s : String) : String :=
  String.ofList (dropControlSequences s.toList)

end DocQuery.Text
