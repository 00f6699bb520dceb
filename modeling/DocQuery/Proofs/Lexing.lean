/-
Module: DocQuery.Proofs.Lexing
Purpose: The texts that consist of given tokens, and that these are the texts whose tokens are read.
Main exports: readQuoted_doubled, Token.IsWritten, Token.takes, LaidOut, lex_eq_ok_iff, lex_append,
  LaidOut.append
-/
import DocQuery.Proofs.Outcome
import DocQuery.Proofs.Trimming
import DocQuery.Sql.Lexer
import Mathlib.Data.Bool.AllAny
import Mathlib.Data.List.Induction
import Mathlib.Data.List.TakeWhile

namespace DocQuery.Sql

open Outcome

/-! ### Strings

A mark in a string is doubled.  Two marks in a row are taken for one of these wherever a closing
mark follows, and else the first one closes the string. -/

@[simp] theorem doubled_nil (mark : Char) : doubled mark [] = [] :=
  rfl

@[simp] theorem doubled_cons_self (mark : Char) (cs : List Char) :
    doubled mark (mark :: cs) = mark :: mark :: doubled mark cs := by
  simp [doubled]

@[simp] theorem doubled_cons_of_ne {mark c : Char} (h : c ≠ mark) (cs : List Char) :
    doubled mark (c :: cs) = c :: doubled mark cs := by
  simp [doubled, h]

theorem readQuoted_cons_of_ne {mark c : Char} (h : c ≠ mark) (cs : List Char) :
    readQuoted mark (c :: cs) =
      (readQuoted mark cs).map fun (content, rest) => (c :: content, rest) := by
  cases cs with
  | nil => simp [readQuoted, h]
  | cons d cs => simp [readQuoted, h]

/-- A string is read up to its closing mark, behind which there is not another one. -/
theorem readQuoted_doubled {mark : Char} {rest : List Char} (h : rest.head? ≠ some mark)
    (content : List Char) :
    readQuoted mark (doubled mark content ++ mark :: rest) = some (content, rest) := by
  induction content with
  | nil =>
      cases rest with
      | nil => simp [readQuoted]
      | cons d rest =>
          have other : d ≠ mark := by simpa using h
          simp [readQuoted, other]
  | cons c content ih =>
      by_cases hc : c = mark
      · subst hc
        simp [readQuoted, ih]
      · simp [hc, readQuoted_cons_of_ne hc, ih]

/-- What is read as a string is the content with its marks doubled and a closing mark.  Another mark
behind that one is the start of a string without an end. -/
theorem eq_doubled_of_readQuoted {mark : Char} {cs content rest : List Char}
    (h : readQuoted mark cs = some (content, rest)) :
    cs = doubled mark content ++ mark :: rest ∧
      ∀ behind, rest = mark :: behind → readQuoted mark behind = none := by
  -- The cases are those of the reader: a doubled mark goes on with the content, and if no string
  -- is found behind it, its first half closed this one.
  fun_induction readQuoted mark cs generalizing content rest with
  | case1 => cases h
  | case2 =>
      cases h
      refine ⟨rfl, ?_⟩
      rintro behind ⟨⟩
  | case3 => cases h
  | case4 cs content' rest' read ih =>
      cases h
      obtain ⟨rfl, behind⟩ := ih read
      exact ⟨by simp, behind⟩
  | case5 cs unread ih =>
      cases h
      refine ⟨rfl, ?_⟩
      rintro behind same
      cases same
      exact unread
  | case6 d cs other =>
      cases h
      refine ⟨rfl, ?_⟩
      rintro behind same
      cases same
      exact absurd rfl other
  | case7 c d cs other ih =>
      obtain ⟨⟨content', rest'⟩, read, same⟩ := Option.map_eq_some_iff.1 h
      cases same
      obtain ⟨text, behind⟩ := ih read
      exact ⟨by simp [other, text], behind⟩

/-! ### Single tokens

A token is as long as it can be.  So a token in front of a text is read if it does not take the next
character, and what is read stands in front of the text. -/

namespace Token

/-- A token that can stand in a text: a word has characters, all of them those of words. -/
def IsWritten : Token → Prop
  | .word text => text.toList ≠ [] ∧ ∀ c ∈ text.toList, isWordChar c = true
  | _ => True

/-- The characters of a token. -/
def chars (t : Token) : List Char :=
  t.text.toList

/-- A token takes the next character of a text too. -/
def takes : Token → Char → Bool
  | .quoted mark _, d => d = mark.char
  | .sign .lt, d => d = '=' || d = '>'
  | .sign .gt, d => d = '='
  | .sign _, _ => false
  | .word _, d => isWordChar d

/-- A token ends where it does not take the next character. -/
def EndsAt (t : Token) (rest : List Char) : Prop :=
  ∀ d, rest.head? = some d → t.takes d = false

theorem chars_quoted (mark : Quote) (content : String) :
    (Token.quoted mark content).chars =
      mark.char :: (doubled mark.char content.toList ++ [mark.char]) := by
  simp [chars, text]

@[simp] theorem chars_word (text : String) : (Token.word text).chars = text.toList :=
  rfl

end Token

/-- A string is printed as one token in single quotes. -/
theorem toList_literalText_string (v : String) :
    (Value.string v).literalText.toList = (Token.quoted .single v).chars := by
  simp [Value.literalText, Token.chars_quoted, Quote.char]

theorem readToken?_quote (mark : Quote) (cs : List Char) :
    readToken? (mark.char :: cs) = quotedToken? mark cs := by
  cases mark <;> rfl

/-- A character that begins a word is none of those that begin other tokens. -/
theorem readToken?_of_wordChar {c : Char} (h : isWordChar c = true) (cs : List Char) :
    readToken? (c :: cs) = wordToken? c cs := by
  have apart {d : Char} {ds : List Char} (hd : d ∈ wordEnds) (same : c :: cs = d :: ds) :
      False := by
    cases same
    simp [isWordChar, hd] at h
  generalize written : c :: cs = text
  unfold readToken?
  split
  case h_1 => cases written
  case h_14 =>
    cases written
    rfl
  all_goals exact (apart (by decide) written).elim

/-- A prefix of one class of characters ends where the next character is not of that class. -/
theorem takeWhile_append_stop {p : Char → Bool} {cs rest : List Char} (all : ∀ c ∈ cs, p c = true)
    (stop : ∀ d, rest.head? = some d → p d = false) :
    (cs ++ rest).takeWhile p = cs ∧ (cs ++ rest).dropWhile p = rest := by
  rw [List.takeWhile_append_of_pos all, List.dropWhile_append_of_pos all]
  cases rest with
  | nil => simp
  | cons d rest => simp [stop d rfl]

/-- Characters are taken up to the first one that stops them. -/
theorem takeWhile_cons_stop {p : Char → Bool} {cs : List Char} {c : Char}
    (all : ∀ d ∈ cs, p d = true) (stop : p c = false) (rest : List Char) :
    (cs ++ c :: rest).takeWhile p = cs ∧ (cs ++ c :: rest).dropWhile p = c :: rest := by
  refine takeWhile_append_stop all ?_
  rintro _ ⟨⟩
  exact stop

/-- A token that stands in front of a text and ends there is read. -/
theorem readToken?_chars {t : Token} (written : t.IsWritten) {rest : List Char}
    (ends : t.EndsAt rest) : readToken? (t.chars ++ rest) = some (t, rest) := by
  cases t with
  | quoted mark content =>
      have behind : rest.head? ≠ some mark.char := by
        intro same
        simpa [Token.takes] using ends mark.char same
      have read := readQuoted_doubled behind content.toList
      simp [Token.chars_quoted, readToken?_quote, quotedToken?, read]
  | sign s =>
      cases s
      case lt =>
        rcases rest with _ | ⟨d, rest⟩
        · rfl
        · have other := ends d rfl
          simp [Token.takes] at other
          simp [Token.chars, Token.text, Sign.text, readToken?, other]
      case gt =>
        rcases rest with _ | ⟨d, rest⟩
        · rfl
        · have other := ends d rfl
          simp [Token.takes] at other
          simp [Token.chars, Token.text, Sign.text, readToken?, other]
      all_goals rfl
  | word text =>
      obtain ⟨some', all⟩ := written
      obtain ⟨c, cs, same⟩ := List.exists_cons_of_ne_nil some'
      rw [same] at all
      have first := all c List.mem_cons_self
      obtain ⟨taken, left⟩ :=
        takeWhile_append_stop (fun d hd => all d (List.mem_cons_of_mem c hd)) ends
      rw [Token.chars_word, same, List.cons_append, readToken?_of_wordChar first, wordToken?,
        if_pos first, taken, left, ← same, String.ofList_toList]

/-- Behind a token, either the text goes on with what is not part of it, or it stops at a quote
that is not closed. -/
def Stops (t : Token) (rest : List Char) : Prop :=
  t.EndsAt rest ∨ ∃ mark : Quote, rest.head? = some mark.char ∧ readToken? rest = none

theorem eq_chars_of_quotedToken? {mark : Quote} {cs rest : List Char} {t : Token}
    (h : quotedToken? mark cs = some (t, rest)) :
    mark.char :: cs = t.chars ++ rest ∧ t.IsWritten ∧ Stops t rest := by
  obtain ⟨⟨content, rest'⟩, read, same⟩ := Option.map_eq_some_iff.1 h
  cases same
  obtain ⟨rfl, behind⟩ := eq_doubled_of_readQuoted read
  refine ⟨by simp [Token.chars_quoted], trivial, ?_⟩
  by_cases another : rest.head? = some mark.char
  · -- Such a quote would have been taken for a doubled one, if a closing one came later.
    right
    refine ⟨mark, another, ?_⟩
    rcases rest with _ | ⟨d, rest⟩
    · cases another
    · cases another
      simp [readToken?_quote, quotedToken?, behind rest rfl]
  · left
    intro d hd
    have other : d ≠ mark.char := by
      rintro rfl
      exact another hd
    simp [Token.takes, other]

theorem eq_chars_of_wordToken? {c : Char} {cs rest : List Char} {t : Token}
    (h : wordToken? c cs = some (t, rest)) :
    c :: cs = t.chars ++ rest ∧ t.IsWritten ∧ Stops t rest := by
  obtain ⟨first, same⟩ := Option.ite_none_right_eq_some.1 h
  cases same
  have all (d : Char) (hd : d ∈ c :: cs.takeWhile isWordChar) : isWordChar d = true := by
    rcases List.mem_cons.1 hd with rfl | hd
    · exact first
    · exact List.mem_takeWhile_imp hd
  refine ⟨by simp [List.takeWhile_append_dropWhile], by simpa [Token.IsWritten] using all,
    .inl fun d hd => ?_⟩
  have stop := List.head?_dropWhile_not isWordChar cs
  rw [hd] at stop
  exact stop

/-- What is read as a token stands in front of the rest. -/
theorem eq_chars_of_readToken? {cs rest : List Char} {t : Token}
    (h : readToken? cs = some (t, rest)) : cs = t.chars ++ rest ∧ t.IsWritten ∧ Stops t rest := by
  -- The cases are those of the reader.  A sign that begins a longer one is read only where the
  -- longer one is not.
  unfold readToken? at h
  split at h
  case h_1 => cases h
  case h_2 => exact eq_chars_of_quotedToken? h
  case h_3 => exact eq_chars_of_quotedToken? h
  case h_9 another =>
    cases h
    refine ⟨rfl, trivial, .inl fun d hd => ?_⟩
    have other : d ≠ '=' := by
      rintro rfl
      exact another _ (List.eq_cons_of_mem_head? hd)
    simp [Token.takes, other]
  case h_10 another another' =>
    cases h
    refine ⟨rfl, trivial, .inl fun d hd => ?_⟩
    have other : d ≠ '>' := by
      rintro rfl
      exact another _ (List.eq_cons_of_mem_head? hd)
    have other' : d ≠ '=' := by
      rintro rfl
      exact another' _ (List.eq_cons_of_mem_head? hd)
    simp [Token.takes, other, other']
  case h_14 => exact eq_chars_of_wordToken? h
  all_goals
    cases h
    exact ⟨rfl, trivial, .inl fun _ _ => rfl⟩

/-! ### Texts of tokens

`LaidOut` says which tokens a text has without mentioning the reader.  That the reader gives these
tokens and fails on all other texts is shown by induction on the text, a step at a time. -/

/-- A text that consists of the given tokens, with white space before, between and behind them.
Where no white space stands behind a token, it has to end anyway. -/
inductive LaidOut : List Char → List Token → Prop
  | nil : LaidOut [] []
  | blank {c : Char} {cs : List Char} {ts : List Token} (h : Text.isBlank c = true)
      (rest : LaidOut cs ts) : LaidOut (c :: cs) ts
  | token {t : Token} {cs : List Char} {ts : List Token} (written : t.IsWritten)
      (ends : t.EndsAt cs) (rest : LaidOut cs ts) : LaidOut (t.chars ++ cs) (t :: ts)

theorem isBlank_of_isWordChar {c : Char} (h : isWordChar c = true) : Text.isBlank c = false := by
  simp [isWordChar] at h
  exact h.1

/-- A token starts with a character that is no white space. -/
theorem Token.exists_chars_eq_cons {t : Token} (written : t.IsWritten) :
    ∃ c cs, t.chars = c :: cs ∧ Text.isBlank c = false := by
  cases t with
  | quoted mark content =>
      refine ⟨_, _, chars_quoted mark content, ?_⟩
      cases mark <;> rfl
  | sign s => cases s <;> exact ⟨_, _, rfl, rfl⟩
  | word text =>
      obtain ⟨some', all⟩ := written
      obtain ⟨c, cs, same⟩ := List.exists_cons_of_ne_nil some'
      exact ⟨c, cs, same, isBlank_of_isWordChar (all c (same ▸ List.mem_cons_self))⟩

section

variable {n : Nat} {c : Char} {cs ds : List Char} {t : Token} {ts us : List Token}

/-- Lexing by its steps. -/
theorem lex_eq (n : Nat) (cs : List Char) :
    lex n cs =
      match Text.dropBlank cs with
      | [] => .ok []
      | c :: more =>
          match readToken? (c :: more) with
          | none => .error (tokenFault c (n - (more.length + 1)))
          | some (t, rest) => (t :: ·) <$> lex n rest := by
  rw [lex]
  split
  case h_1 nothing => rw [nothing]
  case h_2 c more same =>
    rw [same]
    split
    case h_1 unread => simp only [unread]
    case h_2 read =>
      simp only [read]
      rfl

/-- Lexing with a bound on the number of tokens, which can be computed on a fixed text. -/
def lexWithin : Nat → List Char → Option (List Token)
  | 0, _ => none
  | bound + 1, cs =>
      match Text.dropBlank cs with
      | [] => some []
      | c :: more =>
          match readToken? (c :: more) with
          | none => none
          | some (t, rest) => (lexWithin bound rest).map (t :: ·)

theorem lex_of_lexWithin (n : Nat) {bound : Nat} (h : lexWithin bound cs = some ts) :
    lex n cs = .ok ts := by
  induction bound generalizing cs ts with
  | zero => cases h
  | succ bound ih =>
      rw [lexWithin] at h
      cases same : Text.dropBlank cs with
      | nil =>
          simp only [same, Option.some.injEq] at h
          simp only [lex_eq, same, h]
      | cons c more =>
          cases read : readToken? (c :: more) with
          | none => simp [same, read] at h
          | some found =>
              rcases found with ⟨t, rest⟩
              simp only [same, read, Option.map_eq_some_iff] at h
              obtain ⟨us, hus, rfl⟩ := h
              simp only [lex_eq n cs, same, read, ih hus]
              rfl

theorem lex_nil (n : Nat) : lex n [] = .ok [] :=
  lex_eq n []

/-- White space before a token does not matter. -/
theorem lex_blank (h : Text.isBlank c = true) : lex n (c :: cs) = lex n cs := by
  have same : Text.dropBlank (c :: cs) = Text.dropBlank cs := by
    simp [Text.dropBlank, h]
  rw [lex_eq n (c :: cs), lex_eq n cs, same]

/-- Lexing stops at a character where there is no token. -/
theorem lex_unread (h : Text.isBlank c = false) (unread : readToken? (c :: cs) = none) :
    lex n (c :: cs) = .error (tokenFault c (n - (cs.length + 1))) := by
  have same : Text.dropBlank (c :: cs) = c :: cs := by
    simp [Text.dropBlank, h]
  rw [lex_eq, same]
  simp only [unread]

/-- A token that is read is the first one, and the others are those of the rest. -/
theorem lex_read (read : readToken? cs = some (t, ds)) : lex n cs = (t :: ·) <$> lex n ds := by
  obtain ⟨text, written, -⟩ := eq_chars_of_readToken? read
  obtain ⟨c, chars, start, visible⟩ := Token.exists_chars_eq_cons written
  rw [start, List.cons_append] at text
  rw [text] at read
  have here : Text.dropBlank cs = c :: (chars ++ ds) := by
    simp [text, Text.dropBlank, visible]
  rw [lex_eq, here]
  simp only [read]

/-- A token that ends where the rest of the text starts is the first one read. -/
theorem lex_token (written : t.IsWritten) (ends : t.EndsAt cs) :
    lex n (t.chars ++ cs) = (t :: ·) <$> lex n cs :=
  lex_read (readToken?_chars written ends)

theorem LaidOut.blanks {bs : List Char} (h : ∀ b ∈ bs, Text.isBlank b = true)
    (rest : LaidOut cs ts) : LaidOut (bs ++ cs) ts := by
  induction bs with
  | nil => exact rest
  | cons b bs ih =>
      exact .blank (h b List.mem_cons_self) (ih fun b' hb' => h b' (List.mem_cons_of_mem b hb'))

theorem laidOut_of_dropBlank (h : LaidOut (Text.dropBlank cs) ts) : LaidOut cs ts := by
  rw [← List.takeWhile_append_dropWhile (p := Text.isBlank) (l := cs)]
  exact .blanks (fun b hb => List.mem_takeWhile_imp hb) h

/-- Where lexing succeeds, nothing is left of the text or its first token is read. -/
theorem lex_cases (h : lex n cs = .ok ts) :
    Text.dropBlank cs = [] ∧ ts = [] ∨
      ∃ t rest us, readToken? (Text.dropBlank cs) = some (t, rest) ∧ lex n rest = .ok us ∧
        ts = t :: us := by
  rw [lex_eq] at h
  split at h
  case h_1 nothing =>
    cases h
    exact .inl ⟨nothing, rfl⟩
  case h_2 same =>
    rw [same]
    split at h
    case h_1 => cases h
    case h_2 t rest read =>
      obtain ⟨us, later, rfl⟩ := map_eq_ok.1 h
      exact .inr ⟨t, rest, us, read, later, rfl⟩

/-- Lexing succeeds on the texts that consist of tokens, and reads them. -/
theorem lex_eq_ok_iff : lex n cs = .ok ts ↔ LaidOut cs ts := by
  constructor
  · intro h
    induction ts generalizing cs with
    | nil =>
        rcases lex_cases h with ⟨nothing, -⟩ | ⟨t, rest, us, -, -, same⟩
        · exact laidOut_of_dropBlank (nothing ▸ .nil)
        · cases same
    | cons t ts ih =>
        rcases lex_cases h with ⟨-, same⟩ | ⟨t', rest, us, read, later, same⟩
        · cases same
        · cases same
          obtain ⟨text, written, ends | ⟨mark, head, unread⟩⟩ := eq_chars_of_readToken? read
          · exact laidOut_of_dropBlank (text ▸ .token written ends (ih later))
          · -- A mark behind a string would start another one, but that one does not end.
            rcases rest with _ | ⟨d, rest⟩
            · cases head
            · cases head
              rw [lex_unread (by cases mark <;> rfl) unread] at later
              cases later
  · intro laid
    induction laid with
    | nil => exact lex_nil n
    | blank h rest ih => rw [lex_blank h, ih]
    | token written ends rest ih =>
        rw [lex_token written ends, ih]
        rfl

/-- A fault of a token that could not be read. -/
theorem lex_failsOnly (n : Nat) (cs : List Char) :
    FailsOnly (fun e => ∃ c position, e = tokenFault c position) (lex n cs) := by
  fun_induction lex n cs with
  | case1 => exact .ok []
  | case2 => exact .error ⟨_, _, rfl⟩
  | case3 cs c more start t rest read ih => exact ih.map _

/-! ### Texts next to each other

Tokens of two texts are joined where the texts meet only if the characters there stick together,
such as two characters of words. -/

/-- Two characters that can belong to one token where they stand next to each other and the token
does not end before the second of them. -/
def sticks (c d : Char) : Bool :=
  isWordChar c && isWordChar d || (c = '\'' || c = '"') && d = c ||
    c = '<' && (d = '=' || d = '>') || c = '>' && d = '='

theorem Token.sticks_of_takes (written : t.IsWritten) {c d : Char}
    (last : t.chars.getLast? = some c) (takes : t.takes d = true) : sticks c d = true := by
  cases t with
  | quoted mark content =>
      rw [chars_quoted, ← List.cons_append, List.getLast?_concat] at last
      cases last
      cases mark <;> simp_all [Token.takes, sticks, Quote.char]
  | sign s =>
      cases s
      case lt =>
        have here : c = '<' := by simpa [chars, text, Sign.text, eq_comm] using last
        simp [Token.takes] at takes
        simp [sticks, here, takes]
      case gt =>
        have here : c = '>' := by simpa [chars, text, Sign.text, eq_comm] using last
        simp [Token.takes] at takes
        simp [sticks, here, takes]
      all_goals cases takes
  | word text =>
      have word := written.2 c (List.mem_of_getLast? last)
      simp_all [Token.takes, sticks]

/-- The tokens of a text come before those of the text behind it, where no token can reach from one
into the other. -/
theorem lex_append (laid : LaidOut cs ts)
    (apart : ∀ c d, cs.getLast? = some c → ds.head? = some d → sticks c d = false) :
    lex n (cs ++ ds) = (ts ++ ·) <$> lex n ds := by
  induction laid with
  | nil => simp
  | @blank b cs ts h rest ih =>
      rw [List.cons_append, lex_blank h]
      refine ih fun c d last => apart c d ?_
      rw [List.getLast?_cons, last]
      rfl
  | @token t cs ts written ends rest ih => 
      have ends' : t.EndsAt (cs ++ ds) := by
        intro d head
        cases cs with
        | cons c cs => exact ends d head
        | nil =>
            obtain ⟨b, bs, start, -⟩ := Token.exists_chars_eq_cons written
            have last : t.chars.getLast? = some (bs.getLast?.getD b) := by
              rw [start, List.getLast?_cons]
            rw [List.append_nil] at apart
            refine Bool.eq_false_iff.2 fun takes => ?_
            exact Bool.eq_false_iff.1 (apart _ d last head) (t.sticks_of_takes written last takes)
      rw [List.append_assoc, lex_token written ends', ih fun c d last => apart c d ?_]
      · simp
      · simp [List.getLast?_append, last]

/-- What consists of tokens before and behind a place consists of tokens as a whole. -/
theorem LaidOut.append (first : LaidOut cs ts) (second : LaidOut ds us)
    (apart : ∀ c d, cs.getLast? = some c → ds.head? = some d → sticks c d = false) :
    LaidOut (cs ++ ds) (ts ++ us) := by
  rw [← lex_eq_ok_iff (n := 0), lex_append first apart, lex_eq_ok_iff.2 second]
  rfl

/-- A token that takes white space or a character of words is a word. -/
theorem Token.eq_word_of_takes {d : Char} (h : Text.isBlank d = true ∨ isWordChar d = true)
    (takes : t.takes d = true) : ∃ word, t = .word word := by
  have visible (m : Char) (hm : m ∈ wordEnds) : d ≠ m := by
    have apart : ∀ m ∈ wordEnds, Text.isBlank m = false := List.all_iff_forall_prop.1 (by decide)
    rintro rfl
    rcases h with blank | word
    · rw [apart d hm] at blank
      cases blank
    · simp [isWordChar, hm] at word
  cases t with
  | word word => exact ⟨word, rfl⟩
  | quoted mark content =>
      have same : d = mark.char := of_decide_eq_true takes
      exact absurd same (visible _ (by cases mark <;> decide))
  | sign s =>
      have equal := visible '=' (by decide)
      have greater := visible '>' (by decide)
      cases s <;> simp [Token.takes, equal, greater] at takes

theorem Token.endsAt_nil (t : Token) : t.EndsAt [] := by
  intro d head
  cases head

theorem LaidOut.single (written : t.IsWritten) : LaidOut t.chars [t] := by
  simpa using LaidOut.token written t.endsAt_nil .nil

/-- A text of tokens can go on with white space or with a character of words. -/
theorem LaidOut.exists_concat {d : Char} (laid : LaidOut cs ts)
    (h : Text.isBlank d = true ∨ isWordChar d = true) : ∃ us, LaidOut (cs ++ [d]) us := by
  have alone : ∃ us, LaidOut [d] us := by
    rcases h with blank | word
    · exact ⟨[], .blank blank .nil⟩
    · have written : (Token.word (String.ofList [d])).IsWritten := by
        simpa [Token.IsWritten] using word
      exact ⟨[.word (String.ofList [d])], by simpa using LaidOut.single written⟩
  induction laid with
  | nil => exact alone
  | blank blank rest ih =>
      obtain ⟨us, ih⟩ := ih
      exact ⟨us, .blank blank ih⟩
  | @token t cs ts written ends rest ih =>
      rw [List.append_assoc]
      cases cs with
      | cons c cs =>
          obtain ⟨us, ih⟩ := ih
          exact ⟨t :: us, .token written (fun d head => ends d head) ih⟩
      | nil =>
          -- The character is a token of its own, unless it makes the last word longer.
          cases takes : t.takes d with
          | false =>
              obtain ⟨us, alone⟩ := alone
              exact ⟨t :: us, .token written (by simpa [Token.EndsAt] using takes) alone⟩
          | true =>
              obtain ⟨word, rfl⟩ := t.eq_word_of_takes h takes
              have longer : (Token.word (String.ofList (word.toList ++ [d]))).IsWritten := by
                have last : isWordChar d = true := takes
                refine ⟨by simp, ?_⟩
                simp only [String.toList_ofList, List.forall_mem_append]
                exact ⟨written.2, by simpa using last⟩
              refine ⟨[.word (String.ofList (word.toList ++ [d]))], ?_⟩
              simpa using LaidOut.single longer

theorem LaidOut.exists_append (laid : LaidOut cs ts)
    (h : ∀ d ∈ ds, Text.isBlank d = true ∨ isWordChar d = true) : ∃ us, LaidOut (cs ++ ds) us := by
  induction ds generalizing cs ts with
  | nil => exact ⟨ts, by simpa using laid⟩
  | cons d ds ih =>
      obtain ⟨us, longer⟩ := laid.exists_concat (h d List.mem_cons_self)
      have done := ih longer fun d' hd' => h d' (List.mem_cons_of_mem d hd')
      simpa using done

end

/-! ### Statements

A query may end in white space and semicolons, which are dropped before it is split into tokens.  A
semicolon is a character of words, so that this can shorten the last word. -/

/-- A text without the white space and the semicolons that end it. -/
def withoutEnd (cs : List Char) : List Char :=
  Text.dropEnd Text.isBlank (Text.dropEnd (· = ';') (Text.dropEnd Text.isBlank cs))

theorem statementText_eq (sql : String) :
    statementText sql = withoutEnd (Text.dropBlank sql.toList) :=
  rfl

theorem exists_withoutEnd (cs : List Char) :
    ∃ ds, cs = withoutEnd cs ++ ds ∧ ∀ d ∈ ds, Text.isBlank d = true ∨ d = ';' := by
  obtain ⟨xs, hx, blankX⟩ := Text.exists_dropEnd Text.isBlank cs
  obtain ⟨ys, hy, semicolons⟩ := Text.exists_dropEnd (· = ';') (Text.dropEnd Text.isBlank cs)
  obtain ⟨zs, hz, blankZ⟩ :=
    Text.exists_dropEnd Text.isBlank (Text.dropEnd (· = ';') (Text.dropEnd Text.isBlank cs))
  refine ⟨zs ++ ys ++ xs, ?_, ?_⟩
  · rw [List.append_assoc, ← List.append_assoc, withoutEnd, ← hz, ← List.append_assoc, ← hy, ← hx]
  · simp only [List.forall_mem_append]
    refine ⟨⟨fun d hd => .inl (blankZ d hd), fun d hd => .inr ?_⟩, fun d hd => .inl (blankX d hd)⟩
    exact of_decide_eq_true (semicolons d hd)

/-- The last character of a token is no white space. -/
theorem Token.visible_of_getLast? {t : Token} (written : t.IsWritten) {c : Char}
    (last : t.chars.getLast? = some c) : Text.isBlank c = false := by
  cases t with
  | quoted mark content =>
      rw [chars_quoted, ← List.cons_append, List.getLast?_concat] at last
      cases last
      cases mark <;> rfl
  | sign s => cases s <;> cases last <;> rfl
  | word text => exact isBlank_of_isWordChar (written.2 c (List.mem_of_getLast? last))

namespace LaidOut

variable {cs bs : List Char} {ts : List Token}

theorem of_concat {b : Char} (blank : Text.isBlank b = true) (laid : LaidOut (cs ++ [b]) ts) :
    LaidOut cs ts := by
  generalize whole : cs ++ [b] = text at laid
  induction laid generalizing cs with
  | nil => simp at whole
  | blank h rest ih =>
      cases cs with
      | nil =>
          cases whole
          exact rest
      | cons c cs =>
          cases whole
          exact .blank h (ih rfl)
  | @token t after ts written ends rest ih =>
      rcases List.eq_nil_or_concat after with rfl | ⟨before, d, rfl⟩
      · -- The blank would be the last character of the token.
        have last : t.chars.getLast? = some b := by
          rw [← List.append_nil t.chars, ← whole, List.getLast?_concat]
        rw [Token.visible_of_getLast? written last] at blank
        cases blank
      · rw [List.concat_eq_append] at ends ih
        rw [List.concat_eq_append, ← List.append_assoc] at whole
        obtain ⟨rfl, same⟩ := List.append_inj' whole rfl
        cases same
        refine .token written (fun c head => ends c ?_) (ih rfl)
        rw [List.head?_append, head]
        rfl

/-- White space at the end of a text does not matter. -/
theorem dropEnd_blank (laid : LaidOut cs ts) : LaidOut (Text.dropEnd Text.isBlank cs) ts := by
  obtain ⟨bs, whole, blank⟩ := Text.exists_dropEnd Text.isBlank cs
  rw [whole] at laid
  generalize Text.dropEnd Text.isBlank cs = before at laid ⊢
  clear whole
  induction bs using List.reverseRecOn with
  | nil => simpa using laid
  | append_singleton bs b ih =>
      rw [← List.append_assoc] at laid
      exact ih (fun d hd => blank d (by simp [hd])) (laid.of_concat (blank b (by simp)))

theorem dropBlank (laid : LaidOut cs ts) : LaidOut (Text.dropBlank cs) ts := by
  induction laid with
  | nil => exact .nil
  | @blank c cs ts h rest ih => simpa [Text.dropBlank, h] using ih
  | @token t cs ts written ends rest ih =>
      obtain ⟨c, start, chars, visible⟩ := Token.exists_chars_eq_cons written
      have stays : Text.dropBlank (t.chars ++ cs) = t.chars ++ cs := by
        simp [Text.dropBlank, chars, visible]
      rw [stays]
      exact .token written ends rest

/-- The last character of a text ends one of its tokens, if it is not white space. -/
theorem exists_getLast? (laid : LaidOut cs ts) {c : Char} (last : cs.getLast? = some c)
    (visible : Text.isBlank c = false) : ∃ t ∈ ts, t.chars.getLast? = some c := by
  induction laid with
  | nil => cases last
  | @blank b cs ts h rest ih =>
      cases cs with
      | nil =>
          obtain rfl : b = c := by simpa using last
          rw [h] at visible
          cases visible
      | cons d cs => exact ih (by simpa using last)
  | @token t cs ts written ends rest ih =>
      cases cs with
      | nil => exact ⟨t, List.mem_cons_self, by simpa using last⟩
      | cons d cs =>
          obtain ⟨u, hu, last⟩ := ih (by simpa [List.getLast?_append] using last)
          exact ⟨u, List.mem_cons_of_mem t hu, last⟩

/-- A text none of whose tokens ends in a semicolon keeps them without its end. -/
theorem withoutEnd (laid : LaidOut cs ts) (whole : ∀ t ∈ ts, t.chars.getLast? ≠ some ';') :
    LaidOut (withoutEnd cs) ts := by
  have trimmed := laid.dropEnd_blank
  have stays : Text.dropEnd (· = ';') (Text.dropEnd Text.isBlank cs) =
      Text.dropEnd Text.isBlank cs := by
    refine Text.dropEnd_eq_self fun c last => decide_eq_false ?_
    rintro rfl
    obtain ⟨t, ht, ends⟩ := trimmed.exists_getLast? last rfl
    exact whole t ht ends
  rw [Sql.withoutEnd, stays]
  exact trimmed.dropEnd_blank

end LaidOut

/-- Dropping what ends a statement keeps the start of a text. -/
theorem head?_withoutEnd {cs : List Char} {d : Char} (h : (withoutEnd cs).head? = some d) :
    cs.head? = some d := by
  obtain ⟨ds, whole, -⟩ := exists_withoutEnd cs
  rw [whole, List.head?_append, h]
  rfl

theorem withoutEnd_append {m : Char} (visible : Text.isBlank m = false) (other : m ≠ ';')
    (cs ds : List Char) : withoutEnd (cs ++ m :: ds) = cs ++ m :: withoutEnd ds := by
  have stays : decide (m = ';') = false := decide_eq_false other
  rw [withoutEnd, Text.dropEnd_append visible, Text.dropEnd_append stays,
    Text.dropEnd_append visible, withoutEnd]

end DocQuery.Sql
