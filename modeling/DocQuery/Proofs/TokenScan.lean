/-
Module: DocQuery.Proofs.TokenScan
Purpose: Lexing as a scan that takes the longest token at each place, and that loses nothing of a
  text but white space.
Main exports: TokenKind, Token.kind, LongestToken, readToken?_eq_some_iff, Stuck, Scan, lex_of_scan,
  exists_scan, LaidOut.exists_pieces, lex_lossless
-/
import DocQuery.Proofs.Lexing

namespace DocQuery.Sql

open Outcome

/-! ### Kinds of tokens

The kinds are told apart by their first characters, so that a token is of one kind only. -/

/-- The kinds of tokens, as they can be told apart by their texts. -/
inductive TokenKind where
  | string
  | operator
  | punctuation
  | word
deriving DecidableEq, Repr

/-- The texts of a kind.  A string is closed by the mark that opens it, and between the two each
mark is doubled. -/
inductive TokenKind.Spells : TokenKind → List Char → Prop
  | string (mark : Quote) (content : List Char) :
      Spells .string (mark.char :: (doubled mark.char content ++ [mark.char]))
  | operator {cs : List Char}
      (h : cs ∈ ["=", "!=", "<>", ">", "<", ">=", "<="].map String.toList) : Spells .operator cs
  | punctuation {cs : List Char} (h : cs ∈ [",", "(", ")"].map String.toList) :
      Spells .punctuation cs
  | word {cs : List Char} (nonempty : cs ≠ []) (all : ∀ c ∈ cs, isWordChar c = true) :
      Spells .word cs

/-- The kind of the tokens that start with a character. -/
def TokenKind.ofStart (c : Char) : TokenKind :=
  if c = '\'' || c = '"' then .string
  else if [',', '(', ')'].contains c then .punctuation
  else if ['=', '<', '>', '!'].contains c then .operator
  else .word

/-- The kind of a token. -/
def Token.kind : Token → TokenKind
  | .quoted .. => .string
  | .sign .comma | .sign .openParen | .sign .closeParen => .punctuation
  | .sign _ => .operator
  | .word _ => .word

/-- A text of at least two characters that starts and ends with the same mark. -/
def isEnclosed (cs : List Char) : Bool :=
  2 ≤ cs.length && (cs.head? = some '\'' || cs.head? = some '"') && cs.getLast? = cs.head?

/-- Texts of different kinds start with different characters. -/
theorem TokenKind.Spells.ofStart {k : TokenKind} {cs : List Char} (h : k.Spells cs) :
    cs.head?.map TokenKind.ofStart = some k := by
  cases h with
  | string mark content => cases mark <;> rfl
  | operator h =>
      have all : ∀ cs ∈ ["=", "!=", "<>", ">", "<", ">=", "<="].map String.toList,
          cs.head?.map TokenKind.ofStart = some .operator := by decide
      exact all cs h
  | punctuation h =>
      have all : ∀ cs ∈ [",", "(", ")"].map String.toList,
          cs.head?.map TokenKind.ofStart = some .punctuation := by decide
      exact all cs h
  | word nonempty all =>
      obtain ⟨c, cs', rfl⟩ := List.exists_cons_of_ne_nil nonempty
      have first := all c List.mem_cons_self
      have other (m : Char) (hm : m ∈ wordEnds) : c ≠ m := by
        rintro rfl
        simp [isWordChar, hm] at first
      have outside : c ∉ wordEnds := fun h => other c h rfl
      simp [wordEnds] at outside
      simp [TokenKind.ofStart, outside]

theorem Token.spells_kind {t : Token} (written : t.IsWritten) : t.kind.Spells t.chars := by
  cases t with
  | quoted mark content =>
      rw [chars_quoted]
      exact .string mark content.toList
  | sign s =>
      cases s
      case comma | openParen | closeParen => exact .punctuation (by decide)
      all_goals exact .operator (by decide)
  | word text => exact .word written.1 written.2

/-- The text of a token is of the token's kind and of no other. -/
theorem Token.spells_iff {t : Token} (written : t.IsWritten) {k : TokenKind} :
    k.Spells t.chars ↔ k = t.kind := by
  constructor
  · intro h
    have same := h.ofStart
    rw [(spells_kind written).ofStart] at same
    exact (Option.some.inj same).symm
  · rintro rfl
    exact spells_kind written

/-- Strings are the tokens that start and end with the same mark. -/
theorem Token.isEnclosed_iff {t : Token} (written : t.IsWritten) :
    isEnclosed t.chars = true ↔ t.kind = .string := by
  constructor
  · intro h
    simp only [isEnclosed, Bool.and_eq_true, Bool.or_eq_true, decide_eq_true_eq] at h
    obtain ⟨⟨-, mark⟩, -⟩ := h
    have start := (spells_kind written).ofStart
    rcases mark with mark | mark
    · rw [mark] at start
      exact (Option.some.inj start).symm
    · rw [mark] at start
      exact (Option.some.inj start).symm
  · intro h
    cases t with
    | quoted mark content =>
        rw [chars_quoted, isEnclosed, List.getLast?_cons, List.getLast?_concat]
        cases mark <;> simp [Quote.char]
    | sign s => cases s <;> cases h
    | word text => cases h

/-! ### The longest token

The lexer reads a token in the way that the first character asks for.  That no longer token would
fit is shown against every token that could stand there. -/

/-- A token at the start of a text, and the rest of the text behind it: no other token there is
longer. -/
structure LongestToken (cs : List Char) (t : Token) (rest : List Char) : Prop where
  written : t.IsWritten
  text : cs = t.chars ++ rest
  longest : ∀ (u : Token) (behind : List Char), u.IsWritten → cs = u.chars ++ behind →
    rest.length ≤ behind.length

/-- A string is closed as late as possible. -/
theorem exists_readQuoted (mark : Char) (content rest : List Char) :
    ∃ content' rest', readQuoted mark (doubled mark content ++ mark :: rest) =
      some (content', rest') ∧ rest'.length ≤ rest.length := by
  induction content with
  | nil =>
      rw [doubled_nil, List.nil_append]
      rcases rest with _ | ⟨d, rest⟩
      · exact ⟨[], [], by simp [readQuoted], Nat.le_refl _⟩
      · by_cases another : d = mark
        · subst another
          cases read : readQuoted d rest with
          | none => exact ⟨[], d :: rest, by simp [readQuoted, read], Nat.le_refl _⟩
          | some found =>
              obtain ⟨content', rest'⟩ := found
              have shorter := length_lt_of_readQuoted d rest content' rest' read
              exact ⟨d :: content', rest', by simp [readQuoted, read],
                Nat.le_succ_of_le shorter.le⟩
        · exact ⟨[], d :: rest, by simp [readQuoted, another], Nat.le_refl _⟩
  | cons c content ih =>
      obtain ⟨content', rest', read, le⟩ := ih
      by_cases hc : c = mark
      · subst hc
        exact ⟨c :: content', rest', by simp [readQuoted, read], le⟩
      · exact ⟨c :: content', rest', by simp [hc, readQuoted_cons_of_ne hc, read], le⟩

/-- Where a token stands, a token is read that is no shorter. -/
theorem exists_readToken? {u : Token} (written : u.IsWritten) (behind : List Char) :
    ∃ t rest, readToken? (u.chars ++ behind) = some (t, rest) ∧ rest.length ≤ behind.length := by
  cases u with
  | quoted mark content =>
      obtain ⟨content', rest, read, le⟩ := exists_readQuoted mark.char content.toList behind
      refine ⟨.quoted mark (String.ofList content'), rest, ?_, le⟩
      simp [Token.chars_quoted, readToken?_quote, quotedToken?, read]
  | sign s =>
      by_cases ends : (Token.sign s).EndsAt behind
      · exact ⟨.sign s, behind, readToken?_chars written ends, Nat.le_refl _⟩
      · -- Only two signs are the first half of another one.
        simp only [Token.EndsAt, not_forall, Bool.not_eq_false] at ends
        obtain ⟨d, head, takes⟩ := ends
        obtain ⟨rest, rfl⟩ := List.head?_eq_some_iff.1 head
        cases s with
        | lt =>
            simp only [Token.takes, Bool.or_eq_true, decide_eq_true_eq] at takes
            rcases takes with rfl | rfl
            · exact ⟨.sign .le, rest, rfl, Nat.le_succ _⟩
            · exact ⟨.sign .lessGreater, rest, rfl, Nat.le_succ _⟩
        | gt =>
            simp only [Token.takes, decide_eq_true_eq] at takes
            subst takes
            exact ⟨.sign .ge, rest, rfl, Nat.le_succ _⟩
        | comma | openParen | closeParen | eq | ne | lessGreater | ge | le => cases takes
  | word text =>
      obtain ⟨nonempty, all⟩ := written
      obtain ⟨c, cs, same⟩ := List.exists_cons_of_ne_nil nonempty
      rw [same] at all
      have rest := fun d hd => all d (List.mem_cons_of_mem c hd)
      refine ⟨.word (String.ofList (c :: (cs ++ behind).takeWhile isWordChar)),
        (cs ++ behind).dropWhile isWordChar, ?_, ?_⟩
      · rw [Token.chars_word, same, List.cons_append,
          readToken?_of_wordChar (all c List.mem_cons_self), wordToken?,
          if_pos (all c List.mem_cons_self)]
      · rw [List.dropWhile_append_of_pos rest]
        exact (List.dropWhile_sublist _).length_le

/-- Tokens with the same text are the same. -/
theorem Token.chars_inj {t u : Token} (written : t.IsWritten) (written' : u.IsWritten)
    (same : t.chars = u.chars) : t = u := by
  have read := readToken?_chars written t.endsAt_nil
  have read' := readToken?_chars written' u.endsAt_nil
  rw [same, read'] at read
  exact (Prod.mk.inj (Option.some.inj read)).1.symm

/-- What is read at the start of a text is the longest token there. -/
theorem readToken?_eq_some_iff {cs rest : List Char} {t : Token} :
    readToken? cs = some (t, rest) ↔ LongestToken cs t rest := by
  constructor
  · intro read
    obtain ⟨text, written, -⟩ := eq_chars_of_readToken? read
    refine ⟨written, text, fun u behind written' text' => ?_⟩
    obtain ⟨t', rest', read', le⟩ := exists_readToken? written' behind
    rw [← text', read] at read'
    cases read'
    exact le
  · intro h
    obtain ⟨t', rest', read, le⟩ := exists_readToken? h.written rest
    rw [← h.text] at read
    obtain ⟨text', written', -⟩ := eq_chars_of_readToken? read
    -- Neither of the two tokens is longer than the other.
    have ge := h.longest t' rest' written' text'
    have texts := h.text.symm.trans text'
    have lengths := congrArg List.length texts
    rw [List.length_append, List.length_append] at lengths
    obtain ⟨chars, rests⟩ := List.append_inj texts (by omega)
    rw [read, Token.chars_inj h.written written' chars, rests]

/-! ### Places without a token

Two faults are left when a place is neither white space nor the start of a token. -/

/-- A place of a text at which the scan cannot go on, and the fault: a mark that occurs nowhere
behind it, or an exclamation mark without an equals sign. -/
inductive Stuck : List Char → (Nat → ParseError) → Prop
  | unclosed (mark : Quote) {rest : List Char} (h : mark.char ∉ rest) :
      Stuck (mark.char :: rest) .unterminatedString
  | exclamation {rest : List Char} (h : rest.head? ≠ some '=') :
      Stuck ('!' :: rest) (.unexpectedCharacter '!')

theorem doubled_of_notMem {mark : Char} {cs : List Char} (h : mark ∉ cs) :
    doubled mark cs = cs := by
  induction cs with
  | nil => rfl
  | cons c cs ih =>
      rw [List.mem_cons, not_or] at h
      rw [doubled_cons_of_ne (Ne.symm h.1), ih h.2]

/-- A string is not closed exactly if its mark does not occur again. -/
theorem readQuoted_eq_none_iff {mark : Char} {cs : List Char} :
    readQuoted mark cs = none ↔ mark ∉ cs := by
  constructor
  · intro unread occurs
    obtain ⟨content, rest, rfl, fresh⟩ := List.eq_append_cons_of_mem occurs
    obtain ⟨content', rest', read, -⟩ := exists_readQuoted mark content rest
    rw [doubled_of_notMem fresh, unread] at read
    cases read
  · intro absent
    cases read : readQuoted mark cs with
    | none => rfl
    | some found =>
        obtain ⟨text, -⟩ := eq_doubled_of_readQuoted read
        exact absurd (by simp [text]) absent

/-- Where the scan cannot go on there is no token, and the fault is reported. -/
theorem readToken?_of_stuck {cs : List Char} {fault : Nat → ParseError} (h : Stuck cs fault) :
    ∃ c rest, cs = c :: rest ∧ Text.isBlank c = false ∧ readToken? cs = none ∧
      ∀ n, tokenFault c n = fault n := by
  cases h with
  | @unclosed mark rest absent =>
      have unread := readQuoted_eq_none_iff.2 absent
      refine ⟨mark.char, rest, rfl, ?_, ?_, fun n => ?_⟩
      · cases mark <;> rfl
      · rw [readToken?_quote, quotedToken?, unread, Option.map_none]
      · cases mark <;> rfl
  | @exclamation rest other =>
      refine ⟨'!', rest, rfl, rfl, ?_, fun n => rfl⟩
      rcases rest with _ | ⟨d, rest⟩
      · rfl
      · have apart : d ≠ '=' := by simpa using other
        simp [readToken?, apart, wordToken?, isWordChar, wordEnds]

/-- A place without white space and without a token is one of those. -/
theorem exists_stuck {c : Char} {rest : List Char} (visible : Text.isBlank c = false)
    (unread : readToken? (c :: rest) = none) : ∃ fault, Stuck (c :: rest) fault := by
  have noToken {u : Token} (written : u.IsWritten) (behind : List Char) :
      c :: rest ≠ u.chars ++ behind := by
    intro text
    obtain ⟨t, rest', read, -⟩ := exists_readToken? written behind
    rw [← text, unread] at read
    cases read
  have unclosed (mark : Quote) (start : c = mark.char) : ∃ fault, Stuck (c :: rest) fault := by
    subst start
    rw [readToken?_quote, quotedToken?, Option.map_eq_none_iff, readQuoted_eq_none_iff] at unread
    exact ⟨_, .unclosed mark unread⟩
  have ends : c ∈ wordEnds := by
    by_contra other
    have word : isWordChar c = true := by simp [isWordChar, visible, other]
    have written : (Token.word (String.ofList [c])).IsWritten := by simp [Token.IsWritten, word]
    exact noToken written rest (by simp)
  -- Of the characters that end words, all but the marks and `!` are tokens by themselves.
  simp only [wordEnds, List.mem_cons, List.not_mem_nil, or_false] at ends
  rcases ends with h | h | rfl | rfl | rfl | rfl | rfl | rfl | rfl
  · exact unclosed .single h
  · exact unclosed .double h
  · exact absurd rfl (noToken (u := .sign .comma) trivial rest)
  · exact absurd rfl (noToken (u := .sign .openParen) trivial rest)
  · exact absurd rfl (noToken (u := .sign .closeParen) trivial rest)
  · exact absurd rfl (noToken (u := .sign .eq) trivial rest)
  · exact absurd rfl (noToken (u := .sign .lt) trivial rest)
  · exact absurd rfl (noToken (u := .sign .gt) trivial rest)
  · refine ⟨_, .exclamation fun head => ?_⟩
    obtain ⟨behind, rfl⟩ := List.head?_eq_some_iff.1 head
    exact absurd rfl (noToken (u := .sign .ne) trivial behind)

/-! ### The scan

A scan is the lexer as a sequence of steps.  It stops after at most as many steps as there are
characters. -/

/-- The scan of a text: in a number of steps, each of which skips white space or takes the longest
token, tokens are read and a rest is left. -/
inductive Scan : Nat → List Char → List Token → List Char → Prop
  | start (cs : List Char) : Scan 0 cs [] cs
  | blank {n : Nat} {c : Char} {cs rest : List Char} {ts : List Token}
      (h : Text.isBlank c = true) (later : Scan n cs ts rest) : Scan (n + 1) (c :: cs) ts rest
  | token {n : Nat} {t : Token} {cs behind rest : List Char} {ts : List Token}
      (first : LongestToken cs t behind) (later : Scan n behind ts rest) :
      Scan (n + 1) cs (t :: ts) rest

section

variable {n total : Nat} {cs rest : List Char} {ts : List Token} {t : Token}

/-- Every step takes a character at least. -/
theorem Scan.steps_le (h : Scan n cs ts rest) : n + rest.length ≤ cs.length := by
  induction h with
  | start cs => exact (Nat.zero_add _).le
  | blank blank later ih =>
      rw [List.length_cons]
      omega
  | token first later ih =>
      have shorter := length_lt_of_readToken? (readToken?_eq_some_iff.2 first)
      omega

/-- Lexing goes on where a scan has come to. -/
theorem lex_of_scan (h : Scan n cs ts rest) : lex total cs = (ts ++ ·) <$> lex total rest := by
  induction h with
  | start cs => simp
  | blank blank later ih => rw [lex_blank blank, ih]
  | token first later ih =>
      rw [lex_read (readToken?_eq_some_iff.2 first), ih]
      simp

/-- Lexing fails where the scan cannot go on. -/
theorem lex_of_stuck {fault : Nat → ParseError} (h : Stuck cs fault) :
    lex total cs = .error (fault (total - cs.length)) := by
  obtain ⟨c, rest, rfl, visible, unread, same⟩ := readToken?_of_stuck h
  rw [lex_unread visible unread, same, List.length_cons]

/-- Every text is scanned to its end or to a place at which the scan cannot go on. -/
theorem exists_scan (cs : List Char) :
    ∃ n ts rest, Scan n cs ts rest ∧ (rest = [] ∨ ∃ fault, Stuck rest fault) := by
  induction size : cs.length using Nat.strongRecOn generalizing cs with
  | ind size ih =>
      rcases cs with _ | ⟨c, cs⟩
      · exact ⟨0, [], [], .start [], .inl rfl⟩
      · by_cases blank : Text.isBlank c = true
        · obtain ⟨n, ts, rest, scan, ends⟩ := ih cs.length (size ▸ Nat.lt_succ_self _) cs rfl
          exact ⟨n + 1, ts, rest, .blank blank scan, ends⟩
        · rw [Bool.not_eq_true] at blank
          cases read : readToken? (c :: cs) with
          | none => exact ⟨0, [], c :: cs, .start _, .inr (exists_stuck blank read)⟩
          | some found =>
              obtain ⟨t, behind⟩ := found
              have shorter := length_lt_of_readToken? read
              obtain ⟨n, ts, rest, scan, ends⟩ := ih behind.length (size ▸ shorter) behind rfl
              exact ⟨n + 1, t :: ts, rest, .token (readToken?_eq_some_iff.1 read) scan, ends⟩

end

/-! ### What is kept of a text

With the white space between them, the tokens give the text back.  With a blank between them
instead, they give a text with the same tokens. -/

namespace LaidOut

variable {cs : List Char} {ts : List Token}

theorem written (laid : LaidOut cs ts) : ∀ t ∈ ts, t.IsWritten := by
  induction laid with
  | nil => exact nofun
  | blank blank rest ih => exact ih
  | token written ends rest ih => exact List.forall_mem_cons.2 ⟨written, ih⟩

/-- A text of tokens is cut into pieces, each of them white space with a token behind it, and white
space at its end. -/
theorem exists_pieces (laid : LaidOut cs ts) :
    ∃ (pieces : List (List Char × Token)) (last : List Char),
      pieces.map Prod.snd = ts ∧
        (∀ gap ∈ last :: pieces.map Prod.fst, ∀ c ∈ gap, Text.isBlank c = true) ∧
        cs = (pieces.flatMap fun (gap, t) => gap ++ t.chars) ++ last := by
  induction laid with
  | nil => exact ⟨[], [], rfl, by simp, rfl⟩
  | @blank c cs ts blank rest ih =>
      obtain ⟨pieces, last, tokens, blanks, text⟩ := ih
      rcases pieces with _ | ⟨⟨gap, t⟩, pieces⟩
      · refine ⟨[], c :: last, tokens, ?_, by simp [text]⟩
        simpa [blank] using blanks
      · refine ⟨(c :: gap, t) :: pieces, last, tokens, ?_, by simp [text]⟩
        simpa [blank] using blanks
  | @token t cs ts written ends rest ih =>
      obtain ⟨pieces, last, tokens, blanks, text⟩ := ih
      refine ⟨([], t) :: pieces, last, by rw [List.map_cons, tokens], ?_, by simp [text]⟩
      simpa using blanks

/-- Tokens with a blank between any two of them. -/
theorem spaced (written : ∀ t ∈ ts, t.IsWritten) :
    LaidOut (" ".intercalate (ts.map Token.text)).toList ts := by
  induction ts with
  | nil => exact .nil
  | cons t ts ih =>
      obtain ⟨first, others⟩ := List.forall_mem_cons.1 written
      rcases ts with _ | ⟨u, ts⟩
      · simpa [Token.chars] using LaidOut.single first
      · have ends : t.EndsAt (' ' :: (" ".intercalate ((u :: ts).map Token.text)).toList) := by
          rintro d ⟨⟩
          cases t with
          | quoted mark content => cases mark <;> rfl
          | sign s => cases s <;> rfl
          | word text => rfl
        have laid := LaidOut.token first ends (.blank rfl (ih others))
        simpa [String.intercalate_cons_cons, Token.chars] using laid

end LaidOut

/-- Nothing of a text is lost in its tokens. -/
structure Lossless (cs : List Char) (ts : List Token) : Prop where
  /-- The text is the tokens in their order, with nothing but white space around them. -/
  pieces : ∃ (pieces : List (List Char × Token)) (last : List Char),
    pieces.map Prod.snd = ts ∧
      (∀ gap ∈ last :: pieces.map Prod.fst, ∀ c ∈ gap, Text.isBlank c = true) ∧
      cs = (pieces.flatMap fun (gap, t) => gap ++ t.chars) ++ last
  kind : ∀ t ∈ ts, ∀ k : TokenKind, k.Spells t.chars ↔ k = t.kind
  enclosed : ∀ t ∈ ts, isEnclosed t.chars = true ↔ t.kind = .string
  /-- The tokens with blanks between them are a text that has the same tokens. -/
  again : let spaced := (" ".intercalate (ts.map Token.text)).toList
    lex spaced.length spaced = .ok ts

/-- Lexing a text loses nothing of it where it succeeds.  The scan of every text ends, after no more
steps than the text has characters, either behind its last token or at a place where it cannot go on,
and it fails exactly if it comes to such a place. -/
theorem lex_lossless (cs : List Char) :
    (∀ ts, lex cs.length cs = .ok ts → Lossless cs ts) ∧
      (∃ n ts rest, Scan n cs ts rest ∧ n ≤ cs.length ∧
        (rest = [] ∧ lex cs.length cs = .ok ts ∨
          ∃ fault, Stuck rest fault ∧
            lex cs.length cs = .error (fault (cs.length - rest.length)))) ∧
      ((∃ e, lex cs.length cs = .error e) ↔
        ∃ n ts rest fault, Scan n cs ts rest ∧ Stuck rest fault) := by
  have fails {n : Nat} {ts : List Token} {rest : List Char} {fault : Nat → ParseError}
      (scan : Scan n cs ts rest) (stuck : Stuck rest fault) :
      lex cs.length cs = .error (fault (cs.length - rest.length)) := by
    rw [lex_of_scan scan, lex_of_stuck stuck]
    rfl
  have succeeds {n : Nat} {ts : List Token} (scan : Scan n cs ts []) :
      lex cs.length cs = .ok ts := by
    rw [lex_of_scan scan, lex_nil]
    simp [Functor.map, Except.map]
  obtain ⟨n, ts, rest, scan, ends⟩ := exists_scan cs
  have steps : n ≤ cs.length := Nat.le_trans (Nat.le_add_right n rest.length) scan.steps_le
  refine ⟨fun us read => ?_, ⟨n, ts, rest, scan, steps, ?_⟩, ?_, ?_⟩
  · have laid := lex_eq_ok_iff.1 read
    exact ⟨laid.exists_pieces, fun t ht k => Token.spells_iff (laid.written t ht),
      fun t ht => Token.isEnclosed_iff (laid.written t ht), lex_eq_ok_iff.2 (.spaced laid.written)⟩
  · rcases ends with rfl | ⟨fault, stuck⟩
    · exact .inl ⟨rfl, succeeds scan⟩
    · exact .inr ⟨fault, stuck, fails scan stuck⟩
  · rintro ⟨e, failed⟩
    rcases ends with rfl | ⟨fault, stuck⟩
    · rw [succeeds scan] at failed
      cases failed
    · exact ⟨n, ts, rest, fault, scan, stuck⟩
  · rintro ⟨n, ts, rest, fault, scan, stuck⟩
    exact ⟨_, fails scan stuck⟩

/-- No white space is needed around operators and strings, and a doubled mark does not end a string
that is closed behind it. -/
theorem lex_lossless_unspaced :
    let cs := "name<>'it''s',\"\"".toList
    let ts : List Token :=
      [.word "name", .sign .lessGreater, .quoted .single "it's", .sign .comma, .quoted .double ""]
    lex cs.length cs = .ok ts ∧ Lossless cs ts := by
  intro cs ts
  have within : lexWithin 6 cs = some ts := by decide
  have read : lex cs.length cs = .ok ts := lex_of_lexWithin cs.length within
  exact ⟨read, (lex_lossless cs).1 ts read⟩

/-- A mark that is doubled and not followed by another one closes the string and opens the next. -/
example : lex 4 "'a''".toList = .error (.unterminatedString 3) := by cbv

end DocQuery.Sql
