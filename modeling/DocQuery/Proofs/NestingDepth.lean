/-
Module: DocQuery.Proofs.NestingDepth
Purpose: Conditions are read however deep they are nested.
Main exports: tooDeep, Within, Takes, negation_within, query_within, parse_depth
-/
import DocQuery.Proofs.Lexing
import DocQuery.Proofs.Reading

namespace DocQuery.Sql

open Outcome

/-- The error of a reader of conditions that has no depth left. -/
def tooDeep : ParseError :=
  .endOfQuery "condition"

/-- Where at most `n` tokens are left, a reader leaves no more than `n`, and it does not fail for
want of depth. -/
structure Within (n : Nat) {α : Type} (x : Parse α) : Prop where
  leaves : ∀ c a c', c.rest.length ≤ n → x.run c = .ok (a, c') → c'.rest.length ≤ n
  fails : ∀ c, c.rest.length ≤ n → FailsOnly (· ≠ tooDeep) (x.run c)

/-- A reader that tells whether the wanted token is at the cursor and, if so, moves past it. -/
def Takes (x : Parse Bool) : Prop :=
  ∀ c, c.rest ≠ [] ∧ x.run c = .ok (true, c.next) ∨ x.run c = .ok (false, c)

theorem Cursor.length_next_le (c : Cursor) : c.next.rest.length ≤ c.rest.length := by
  rw [Cursor.next, List.length_drop]
  exact Nat.sub_le _ _

theorem Cursor.length_next_lt {c : Cursor} (some' : c.rest ≠ []) :
    c.next.rest.length < c.rest.length := by
  have positive := List.length_pos_of_ne_nil some'
  rw [Cursor.next, List.length_drop]
  omega

variable {n : Nat} {α β : Type}

/-! ### Readers one after another

A reader leaves no more tokens than it found, and fewer where it took one.  With that, readers that
never lack depth can be put together. -/

namespace Within

/-- A reader that never fails and moves past one token at most. -/
theorem of_run {x : Parse α} (h : ∀ c, ∃ a c', x.run c = .ok (a, c') ∧ (c' = c ∨ c' = c.next)) :
    Within n x := by
  constructor
  · intro c a c' few read
    obtain ⟨b, d, read', moved⟩ := h c
    rw [read'] at read
    cases read
    rcases moved with rfl | rfl
    · exact few
    · exact c.length_next_le.trans few
  · intro c _
    obtain ⟨b, d, read, _⟩ := h c
    exact .of_eq_ok read

/-- A reader that always fails, but for other reasons. -/
theorem of_fails {x : Parse α} (h : ∀ c, ∃ e, x.run c = .error e ∧ e ≠ tooDeep) : Within n x := by
  constructor
  · intro c a c' _ read
    obtain ⟨e, failed, _⟩ := h c
    rw [failed] at read
    cases read
  · intro c _ e failed
    obtain ⟨e', failed', other⟩ := h c
    rw [failed'] at failed
    cases failed
    exact other

theorem pure (a : α) : Within n (pure a) :=
  of_run fun c => ⟨a, c, rfl, .inl rfl⟩

theorem throw {e : ParseError} (other : e ≠ tooDeep) : Within n (throw e : Parse α) :=
  of_fails fun _ => ⟨e, rfl, other⟩

theorem bind {x : Parse α} {f : α → Parse β} (hx : Within n x) (hf : ∀ a, Within n (f a)) :
    Within n (x >>= f) := by
  constructor
  · intro c b c' few read
    obtain ⟨a, d, first, second⟩ := run_bind_eq_ok.1 read
    exact (hf a).leaves d b c' (hx.leaves c a d few first) second
  · intro c few
    rw [StateT.run_bind]
    refine (hx.fails c few).bind fun read first => ?_
    exact (hf read.1).fails read.2 (hx.leaves c read.1 read.2 few first)

theorem map {x : Parse α} {f : α → β} (hx : Within n x) : Within n (do return f (← x)) :=
  hx.bind fun a => pure (f a)

/-- A reader that first looks what is left. -/
theorem sized {f : Cursor → Parse α}
    (h : ∀ c, c.rest.length ≤ n → Within c.rest.length (f c)) : Within n (get >>= f) := by
  have unfolded (c : Cursor) : ((get : Parse Cursor) >>= f).run c = (f c).run c := rfl
  constructor
  · intro c a c' few read
    rw [unfolded] at read
    exact ((h c few).leaves c a c' le_rfl read).trans few
  · intro c few
    rw [unfolded]
    exact (h c few).fails c le_rfl

end Within

namespace Takes

theorem within {x : Parse Bool} (h : Takes x) : Within n x :=
  .of_run fun c => (h c).elim (fun taken => ⟨true, c.next, taken.2, .inr rfl⟩)
    fun kept => ⟨false, c, kept, .inl rfl⟩

/-- Behind a token that was taken there are fewer left. -/
theorem bind {x : Parse Bool} {f : Bool → Parse α} (h : Takes x)
    (taken : ∀ m < n, Within m (f true)) (kept : Within n (f false)) : Within n (x >>= f) := by
  have run (c : Cursor) :
      c.rest ≠ [] ∧ (x >>= f).run c = (f true).run c.next ∨
        (x >>= f).run c = (f false).run c := by
    rw [StateT.run_bind]
    rcases h c with ⟨some', read⟩ | read
    · exact .inl ⟨some', by rw [read]; rfl⟩
    · exact .inr (by rw [read]; rfl)
  constructor
  · intro c a c' few read
    rcases run c with ⟨some', next⟩ | same
    · have fewer := (Cursor.length_next_lt some').trans_le few
      rw [next] at read
      exact ((taken _ fewer).leaves c.next a c' le_rfl read).trans fewer.le
    · rw [same] at read
      exact kept.leaves c a c' few read
  · intro c few
    rcases run c with ⟨some', next⟩ | same
    · rw [next]
      exact (taken _ ((Cursor.length_next_lt some').trans_le few)).fails c.next le_rfl
    · rw [same]
      exact kept.fails c few

end Takes

/-! ### Single tokens -/

theorem accept_takes (k : Keyword) : Takes (accept k) := by
  intro c
  rw [accept_run]
  split
  case isTrue seen =>
    refine .inl ⟨?_, rfl⟩
    rintro none'
    simp [none'] at seen
  case isFalse => exact .inr rfl

theorem acceptSign_takes (s : Sign) : Takes (acceptSign s) := by
  intro c
  rw [acceptSign_run]
  split
  case isTrue seen =>
    refine .inl ⟨?_, rfl⟩
    rintro none'
    simp [none'] at seen
  case isFalse => exact .inr rfl

theorem sees_within (k : Keyword) : Within n (sees k) :=
  .of_run fun c => ⟨_, c, rfl, .inl rfl⟩

theorem acceptIdentifier_within : Within n acceptIdentifier := by
  refine .of_run fun c => ?_
  rw [acceptIdentifier_run]
  split
  · exact ⟨_, _, rfl, .inr rfl⟩
  · exact ⟨_, _, rfl, .inl rfl⟩

theorem acceptQuoted_within : Within n acceptQuoted := by
  refine .of_run fun c => ?_
  rw [acceptQuoted_run]
  split
  · exact ⟨_, _, rfl, .inr rfl⟩
  · exact ⟨_, _, rfl, .inl rfl⟩

theorem get_within : Within n (get : Parse Cursor) :=
  .of_run fun c => ⟨c, c, rfl, .inl rfl⟩

theorem current_within : Within n current :=
  .of_run fun c => ⟨_, c, rfl, .inl rfl⟩

theorem expected_within {text : String} (other : text ≠ "condition") :
    Within n (expected text : Parse α) := by
  refine current_within.bind fun t => ?_
  cases t with
  | none => exact .throw (by simpa [tooDeep])
  | some t => exact get_within.bind fun c => .throw nofun

theorem expectedName_within (what : String) : Within n (expectedName what : Parse α) :=
  .of_fails fun c => ⟨.expectedName what c.rest.head? c.position, rfl, nofun⟩

theorem expect_within (k : Keyword) : Within n (expect k) := by
  have other : k.text ≠ "condition" := by cases k <;> decide
  refine (accept_takes k).within.bind fun accepted => ?_
  cases accepted with
  | false => exact expected_within other
  | true => exact .pure ()

theorem expectSign_within (s : Sign) : Within n (expectSign s) := by
  have other : s.text ≠ "condition" := by cases s <;> decide
  refine (acceptSign_takes s).within.bind fun accepted => ?_
  cases accepted with
  | false => exact expected_within other
  | true => exact .pure ()

theorem identifier_within (what : String) : Within n (identifier what) := by
  refine acceptIdentifier_within.bind fun name => ?_
  cases name with
  | none => exact expectedName_within what
  | some name => exact .pure name

theorem advance_within : Within n advance :=
  .of_run fun c => ⟨(), c.next, rfl, .inr rfl⟩

theorem anyToken_within {text : String} (other : text ≠ "condition") :
    Within n (anyToken text) := by
  refine current_within.bind fun t => ?_
  cases t with
  | none => exact .throw (by simpa [tooDeep])
  | some t => exact advance_within.map

/-! ### Lists -/

theorem chain_within {item : Parse α} {more : Parse Bool} (hItem : Within n item)
    (hMore : Within n more) (fuel : Nat) : Within n (chain item more fuel) := by
  induction fuel with
  | zero => exact hItem.map
  | succ fuel ih =>
      refine hItem.bind fun first => hMore.bind fun another => ?_
      cases another with
      | false => exact .pure [first]
      | true => exact ih.map

theorem separated_within {item : Parse α} {more : Parse Bool} (hItem : ∀ m ≤ n, Within m item)
    (hMore : Takes more) : Within n (separated item more) :=
  .sized fun _ few => chain_within (hItem _ few) hMore.within _

theorem many_within {starts : Parse Bool} {item : Parse α} (hStarts : Within n starts)
    (hItem : Within n item) (fuel : Nat) : Within n (many starts item fuel) := by
  induction fuel with
  | zero => exact .pure []
  | succ fuel ih =>
      refine hStarts.bind fun another => ?_
      cases another with
      | false => exact .pure []
      | true => exact hItem.bind fun first => ih.map

/-! ### Conditions

The depth that is left is compared with the number of tokens that are left: a negation or a
parenthesis uses up one of each. -/

theorem operand_within : Within n operand := by
  refine current_within.bind fun t => ?_
  cases t with
  | none => exact .throw (by decide)
  | some t =>
      cases means : tokenOperand t with
      | none => simpa only [means] using expectedName_within _
      | some o => simpa only [means] using advance_within.map

theorem listValue_within : Within n listValue := by
  refine operand_within.bind fun o => ?_
  cases o with
  | literal v => exact .pure v
  | field name => exact .throw nofun

theorem valueList_within : Within n valueList := by
  refine (expectSign_within .openParen).bind fun _ => ?_
  refine (separated_within (fun _ _ => listValue_within) (acceptSign_takes .comma)).bind
    fun values => ?_
  exact (expectSign_within .closeParen).map

theorem pattern_within : Within n pattern := by
  refine acceptQuoted_within.bind fun content => ?_
  cases content with
  | none => exact .of_fails fun c => ⟨.patternNotQuoted c.position, rfl, nofun⟩
  | some content => exact .pure content

theorem comparator_within : Within n comparator := by
  refine current_within.bind fun t => ?_
  match t with
  | none | some (.quoted _ _) | some (.word _) => exact expectedName_within _
  | some (.sign s) =>
      cases means : s.comparator? with
      | none => simpa only [means] using expectedName_within _
      | some c => simpa only [means] using advance_within.map

theorem predicateTail_within (left : Operand) : Within n (predicateTail left) := by
  refine (accept_takes .is).within.bind fun isNull => ?_
  cases isNull with
  | true =>
      refine (accept_takes .not).within.bind fun negated => ?_
      exact (expect_within .null).map
  | false =>
      refine (accept_takes .not).within.bind fun negated => ?_
      refine (accept_takes .in).within.bind fun isList => ?_
      cases isList with
      | true => exact valueList_within.map
      | false =>
          refine (accept_takes .like).within.bind fun isLike => ?_
          cases isLike with
          | true => exact pattern_within.map
          | false =>
              refine (accept_takes .ilike).within.bind fun isIlike => ?_
              cases isIlike with
              | true => exact pattern_within.map
              | false =>
                  cases negated with
                  | true => exact .of_fails fun c => ⟨.danglingNot c.position, rfl, nofun⟩
                  | false =>
                      refine comparator_within.bind fun o => ?_
                      exact operand_within.map

theorem conjunction_within {item : Parse Condition} (h : ∀ m ≤ n, Within m item) :
    Within n (conjunction item) :=
  (separated_within h (accept_takes .and)).map

theorem disjunction_within {item : Parse Condition} (h : ∀ m ≤ n, Within m item) :
    Within n (disjunction item) := by
  refine (separated_within (fun m few => ?_) (accept_takes .or)).map
  exact conjunction_within fun k fewer => h k (fewer.trans few)

/-- Each negation and each pair of parentheses takes a token, so that a depth greater than the
number of tokens is never used up. -/
theorem negation_within {fuel : Nat} (enough : n < fuel) : Within n (negation fuel) := by
  induction fuel generalizing n with
  | zero => exact absurd enough (Nat.not_lt_zero n)
  | succ fuel ih =>
      have deeper (m : Nat) (fewer : m < n) : m < fuel := by omega
      refine (accept_takes .not).bind (fun m fewer => ?_) ?_
      · exact (ih (deeper m fewer)).map
      · refine (acceptSign_takes .openParen).bind (fun _ fewer => ?_) ?_
        · refine (disjunction_within fun k few => ih (deeper k (few.trans_lt fewer))).bind
            fun c => ?_
          exact (expectSign_within .closeParen).map
        · exact operand_within.bind predicateTail_within

theorem condition_within : Within n condition :=
  .sized fun _ _ => disjunction_within fun _ few => negation_within (Nat.lt_succ_of_le few)

/-! ### Clauses -/

theorem count_within (k : Keyword) : Within n (count k) := by
  refine (anyToken_within (by decide)).bind fun t => ?_
  cases integerOfWord? t.text with
  | none => exact .throw nofun
  | some i =>
      by_cases negative : i < 0
      · simp only [negative, if_true]
        exact .throw nofun
      · simp only [negative, if_false]
        exact .pure _

theorem aliasName_within (what : String) : Within n (aliasName what) := by
  refine (accept_takes .as).within.bind fun named => ?_
  cases named with
  | true => exact (identifier_within what).map
  | false => exact acceptIdentifier_within

theorem selectItem_within : Within n selectItem := by
  refine (identifier_within "column name").bind fun source => ?_
  refine (aliasName_within "column alias").bind fun given => ?_
  cases given.isSome && endsInAsterisk source with
  | false => exact .pure _
  | true => exact .throw nofun

theorem tableRef_within : Within n tableRef := by
  refine acceptQuoted_within.bind fun name => ?_
  cases name with
  | some name => exact (aliasName_within "table alias").map
  | none =>
      refine (identifier_within "table name").bind fun name => ?_
      exact (aliasName_within "table alias").map

theorem unnest_within : Within n unnest := by
  refine (accept_takes .unnest).within.bind fun word => ?_
  cases word with
  | false => exact .of_fails fun c => ⟨_, rfl, nofun⟩
  | true =>
      refine (acceptSign_takes .openParen).within.bind fun shaped => ?_
      cases shaped with
      | false => exact .throw nofun
      | true =>
          refine (identifier_within "array field").bind fun field => ?_
          refine (expectSign_within .closeParen).bind fun _ => ?_
          refine (accept_takes .as).within.bind fun _ => ?_
          refine acceptIdentifier_within.bind fun given => ?_
          cases given with
          | none => exact .throw nofun
          | some given =>
              refine (acceptSign_takes .openParen).within.bind fun named => ?_
              cases named with
              | false => exact .pure _
              | true =>
                  refine (identifier_within "UNNEST column name").bind fun column => ?_
                  exact (expectSign_within .closeParen).map

theorem seesJoin_within : Within n seesJoin := by
  refine (sees_within .inner).bind fun inner => ?_
  refine (sees_within .left).bind fun left => ?_
  exact (sees_within .join).map

theorem joinKind_within : Within n joinKind := by
  refine (accept_takes .inner).within.bind fun inner => ?_
  cases inner with
  | true => exact .pure _
  | false =>
      refine (accept_takes .left).within.bind fun left => ?_
      cases left with
      | true => exact (accept_takes .outer).within.map
      | false => exact .pure _

theorem join_within : Within n join := by
  refine joinKind_within.bind fun kind => (expect_within .join).bind fun _ => ?_
  exact tableRef_within.bind fun table => (expect_within .on).bind fun _ => condition_within.map

theorem direction_within : Within n direction := by
  refine (accept_takes .asc).within.bind fun asc => ?_
  cases asc with
  | true => exact .pure _
  | false =>
      refine (accept_takes .desc).within.bind fun desc => ?_
      cases desc with
      | true => exact .pure _
      | false => exact .pure _

theorem orderKey_within : Within n orderKey :=
  (identifier_within "ORDER BY column").bind fun _ => direction_within.map

theorem orderBy_within : Within n orderBy := by
  refine (accept_takes .order).within.bind fun ordered => ?_
  cases ordered with
  | false => exact .pure []
  | true =>
      refine (expect_within .by).bind fun _ => ?_
      exact separated_within (fun _ _ => orderKey_within) (acceptSign_takes .comma)

theorem limit_within (top : Option Value) : Within n (limit top) := by
  refine (sees_within .limit).bind fun given => ?_
  cases given with
  | false => exact .pure top
  | true =>
      cases top with
      | some v => exact .throw nofun
      | none => exact advance_within.bind fun _ => (count_within .limit).map

/-- A phrase that may be left out, in front of what is read next. -/
theorem clause_within {k : Keyword} {p : Parse α} {f : Option α → Parse β} (hp : Within n p)
    (hf : ∀ o, Within n (f o)) :
    Within n (accept k >>= fun given => if given then some <$> p >>= f else pure none >>= f) := by
  refine (accept_takes k).within.bind fun given => ?_
  cases given with
  | false => exact hf none
  | true =>
      change Within n (some <$> p >>= f)
      rw [map_eq_pure_bind, bind_assoc]
      exact hp.bind fun a => hf (some a)

theorem query_within : Within n query := by
  refine (expect_within .select).bind fun _ => clause_within (count_within .top) fun top => ?_
  refine (separated_within (fun _ _ => selectItem_within) (acceptSign_takes .comma)).bind
    fun select => ?_
  refine (expect_within .from).bind fun _ => tableRef_within.bind fun table => ?_
  refine .sized fun c _ => ?_
  refine (many_within (acceptSign_takes .comma).within unnest_within _).bind fun unnests => ?_
  refine .sized fun d _ => ?_
  refine (many_within seesJoin_within join_within _).bind fun joins => ?_
  refine clause_within condition_within fun on => ?_
  exact orderBy_within.bind fun order => (limit_within top).map

/-! ### Texts

The reader of a condition starts with a depth greater than the number of tokens, so that it never
runs out of it. -/

/-- However deep the conditions of a query are nested, that is never why a text is no query. -/
theorem parse_depth (sql : String) : FailsOnly (· ≠ tooDeep) (parse sql) := by
  refine FailsOnly.bind (fun e failed => ?_) fun ts _ => ?_
  · obtain ⟨c, position, rfl⟩ := lex_failsOnly _ _ e failed
    rw [tokenFault]
    split <;> exact nofun
  · cases ts with
    | nil => exact .error nofun
    | cons t ts =>
        refine (query_within.fails ⟨0, t :: ts⟩ le_rfl).bind ?_
        rintro ⟨p, ⟨position, _ | ⟨u, us⟩⟩⟩ _
        · exact .ok p
        · exact .error nofun

end DocQuery.Sql
