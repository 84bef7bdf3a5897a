/-
This file shows that a parse always comes to a decision: it refuses the tokens, or its tree is one that the
tokens it consumes build.
-/

import Reckon.Proofs.Parse.Building

namespace Reckon

open Grammar

theorem Grammar.numeralReports_append (first second : List Token) :
    numeralReports (first ++ second) = numeralReports first ++ numeralReports second :=
  List.flatMap_append

theorem Grammar.numeralReports_plain {token : Token} (notInteger : token.kind ≠ .integer)
    (notFloat : token.kind ≠ .float) : numeralReports [token] = [] := by
  simp only [numeralReports, List.flatMap_singleton]

namespace Parser

variable {A B C R : Type}

/-- A parser decides on every list of tokens up to a length: it refuses them, or it yields a good
value on the first of them. -/
def Decides (parser : Parser A) (bound : Nat) (Good : List Token → A → Prop) : Prop :=
  ∀ tokens : List Token, tokens.length ≤ bound → parser.Refuses tokens ∨
    ∃ consumed rest value, tokens = consumed ++ rest ∧ Good consumed value ∧
      parser.Yields tokens value (numeralReports consumed) rest

theorem Decides.imp {parser : Parser A} {bound : Nat} {Good Good' : List Token → A → Prop}
    (decides : parser.Decides bound Good) (good : ∀ consumed value, Good consumed value →
      Good' consumed value) : parser.Decides bound Good' := by
  intro tokens short
  rcases decides tokens short with refuses | ⟨consumed, rest, value, split, found, yields⟩
  · exact .inl refuses
  · exact .inr ⟨consumed, rest, value, split, good consumed value found, yields⟩

theorem Decides.lower {parser : Parser A} {bound lower : Nat} {Good : List Token → A → Prop}
    (decides : parser.Decides bound Good) (below : lower ≤ bound) : parser.Decides lower Good :=
  fun tokens short => decides tokens (Nat.le_trans short below)

/-- A decision does not depend on what is made of the value. -/
theorem Decides.map {parser : Parser A} {bound : Nat} {Good : List Token → A → Prop}
    {Good' : List Token → B → Prop} (decides : parser.Decides bound Good) {f : A → B}
    (good : ∀ consumed value, Good consumed value → Good' consumed (f value)) :
    (parser.map f).Decides bound Good' := by
  intro tokens short
  rcases decides tokens short with refuses | ⟨consumed, rest, value, split, found, yields⟩
  · exact .inl (refuses.map f)
  · exact .inr ⟨consumed, rest, f value, split, good consumed value found, yields.map f⟩

/-- A token of a kind that is no number is consumed without a report. -/
theorem decides_token (kind : Kind) (goesOn : kind ≠ .endOfInput) (notInteger : kind ≠ .integer)
    (notFloat : kind ≠ .float) (bound : Nat) :
    (token kind).Decides bound fun consumed found => consumed = [found] ∧ found.kind = kind := by
  intro tokens _
  cases tokens with
  | nil => exact .inl (refuses_nil _)
  | cons first rest =>
      by_cases same : first.kind = kind
      · refine .inr ⟨[first], rest, first, rfl, ⟨rfl, same⟩, ?_⟩
        rw [numeralReports_plain (same ▸ notInteger) (same ▸ notFloat)]
        exact yields_token same goesOn rest
      · exact .inl (refuses_token rest same)

/-- A pair is decided when its second part decides on all that the first one leaves. -/
theorem Decides.pair {first : Parser A} {second : Parser B} {bound bound' : Nat}
    {Left : List Token → A → Prop} {Right : List Token → B → Prop} {Good : List Token → R → Prop}
    (left : first.Decides bound Left) (right : second.Decides bound' Right)
    (room : ∀ consumed a, Left consumed a → bound ≤ consumed.length + bound') {f : A → B → R}
    (good : ∀ consumed a consumed' b, Left consumed a → Right consumed' b →
      Good (consumed ++ consumed') (f a b)) :
    (Parser.pair first second f).Decides bound Good := by
  intro tokens short
  rcases left tokens short with refuses | ⟨consumed, rest, a, rfl, found, yields⟩
  · exact .inl (refuses.pair _ _)
  · have space := room consumed a found
    rw [List.length_append] at short
    rcases right rest (by omega) with refuses | ⟨consumed', rest', b, rfl, found', yields'⟩
    · exact .inl (yields.refuses_pair refuses _)
    · refine .inr ⟨consumed ++ consumed', rest', f a b, by rw [List.append_assoc],
        good consumed a consumed' b found found', ?_⟩
      rw [numeralReports_append]
      exact yields.pair yields' f

/-- A triple is decided part by part. -/
theorem Decides.triple {first : Parser A} {second : Parser B} {third : Parser C} {bound bound' : Nat}
    {Left : List Token → A → Prop} {Middle : List Token → B → Prop} {Right : List Token → C → Prop}
    {Good : List Token → R → Prop} (left : first.Decides bound Left)
    (middle : second.Decides bound' Middle) (right : third.Decides bound' Right)
    (room : ∀ consumed a, Left consumed a → bound ≤ consumed.length + bound') {f : A → B → C → R}
    (good : ∀ consumed a consumed' b consumed'' c, Left consumed a → Middle consumed' b →
      Right consumed'' c → Good (consumed ++ (consumed' ++ consumed'')) (f a b c)) :
    (Parser.triple first second third f).Decides bound Good := by
  intro tokens short
  rcases left tokens short with refuses | ⟨consumed, rest, a, rfl, found, yields⟩
  · exact .inl (refuses.triple _ _ _)
  · have space := room consumed a found
    rw [List.length_append] at short
    rcases middle rest (by omega) with refuses | ⟨consumed', rest', b, rfl, found', yields'⟩
    · exact .inl (yields.refuses_triple refuses _ _)
    · rw [List.length_append] at short
      rcases right rest' (by omega) with refuses | ⟨consumed'', rest'', c, rfl, found'', yields''⟩
      · exact .inl (yields.refuses_triple_last yields' refuses _)
      · refine .inr ⟨consumed ++ (consumed' ++ consumed''), rest'', f a b c, by simp,
          good consumed a consumed' b consumed'' c found found' found'', ?_⟩
        rw [numeralReports_append, numeralReports_append]
        exact yields.triple yields' yields'' f

/-- A choice is decided when all alternatives are. -/
theorem decides_choice {parsers : List (Parser A)} {bound : Nat} {Good : List Token → A → Prop}
    (decides : ∀ parser ∈ parsers, parser.Decides bound Good) :
    (choice parsers).Decides bound Good := by
  intro tokens short
  induction parsers with
  | nil => exact .inl (refuses_choice_nil tokens)
  | cons parser parsers ih =>
      have later := ih fun other member => decides other (List.mem_cons_of_mem _ member)
      rcases decides parser List.mem_cons_self tokens short with
        refuses | ⟨consumed, rest, value, split, found, yields⟩
      · rcases later with others | ⟨consumed, rest, value, split, found, yields⟩
        · exact .inl (refuses.choice_cons others)
        · exact .inr ⟨consumed, rest, value, split, found, refuses.choice yields⟩
      · exact .inr ⟨consumed, rest, value, split, found, yields.choice parsers⟩

/-- A repetition does not refuse. -/
theorem Decides.many {parser : Parser A} {bound : Nat} {Good : List Token → A → Prop}
    {Good' : List Token → List A → Prop} (decides : parser.Decides bound Good)
    (some : ∀ consumed value, Good consumed value → consumed ≠ []) (nil : Good' [] [])
    (cons : ∀ consumed value consumed' values, Good consumed value → Good' consumed' values →
      Good' (consumed ++ consumed') (value :: values)) : (many parser).Decides bound Good' := by
  intro tokens short
  suffices repeated : ∃ consumed rest values, tokens = consumed ++ rest ∧ Good' consumed values ∧
      Repeats parser tokens values (numeralReports consumed) rest by
    obtain ⟨consumed, rest, values, split, found, repeats⟩ := repeated
    exact .inr ⟨consumed, rest, values, split, found, repeats.many⟩
  induction length : tokens.length using Nat.strongRecOn generalizing tokens with
  | ind length ih =>
      rcases decides tokens short with refuses | ⟨consumed, rest, value, rfl, found, yields⟩
      · exact ⟨[], tokens, [], rfl, nil, .done refuses⟩
      · have positive := List.length_pos_iff.2 (some consumed value found)
        rw [List.length_append] at short length
        obtain ⟨consumed', rest', values, rfl, found', repeats⟩ :=
          ih rest.length (by omega) rest (by omega) rfl
        refine ⟨consumed ++ consumed', rest', value :: values, by rw [List.append_assoc],
          cons consumed value consumed' values found found', ?_⟩
        rw [numeralReports_append]
        exact .step yields (by simp only [List.length_append] at *; omega) repeats

/-- What may be absent is always yielded. -/
theorem Decides.optional {parser : Parser A} {bound : Nat} {Good : List Token → A → Prop}
    {Good' : List Token → Option A → Prop} (decides : parser.Decides bound Good)
    (none : Good' [] none) (some : ∀ consumed value, Good consumed value →
      Good' consumed (some value)) : (optional parser).Decides bound Good' := by
  intro tokens short
  rcases decides tokens short with refuses | ⟨consumed, rest, value, split, found, yields⟩
  · exact .inr ⟨[], tokens, _, rfl, none, refuses.optional⟩
  · exact .inr ⟨consumed, rest, _, split, some consumed value found, yields.optional⟩

/-- A lookahead decides as its parser does, and consumes nothing. -/
theorem Decides.lookahead {parser : Parser A} {bound : Nat} {Good : List Token → A → Prop}
    (decides : parser.Decides bound Good) :
    (lookahead parser).Decides bound fun consumed _ => consumed = [] := by
  intro tokens short
  rcases decides tokens short with refuses | ⟨consumed, rest, value, split, found, yields⟩
  · exact .inl refuses.lookahead
  · exact .inr ⟨[], tokens, value, rfl, rfl, yields.lookahead⟩

end Parser

namespace Grammar

open Reckon.Parser Reckon.Symbol

/-- Numbers are decided by their first token. -/
theorem decides_number (bound : Nat) : number.Decides bound (Gives .number) := by
  intro tokens _
  cases tokens with
  | nil => exact .inl (refuses_nil _)
  | cons first rest =>
      by_cases numeral : first.kind = .integer ∨ first.kind = .float
      · exact .inr ⟨[first], rest, _, rfl, .number numeral, yields_number rest numeral⟩
      · rw [not_or] at numeral
        refine .inl (refuses_number ?_ ?_)
        · simpa [headKind] using numeral.1
        · simpa [headKind] using numeral.2

/-- Identifiers are decided by their first token. -/
theorem decides_ident {whole : Symbol} (names : Names whole) (bound : Nat) :
    ident.Decides bound (Gives whole) := by
  refine (decides_token .identifier (by decide) (by decide) (by decide) bound).map ?_
  rintro _ name ⟨rfl, kind⟩
  exact .name names kind

/-- The unit is decided by its two parentheses. -/
theorem decides_unit (bound : Nat) : unit.Decides bound (Gives .unit) := by
  refine (decides_token .leftParen (by decide) (by decide) (by decide) bound).pair
    (decides_token .rightParen (by decide) (by decide) (by decide) bound) ?_ ?_
  · intros
    omega
  · rintro _ opening _ closing ⟨rfl, isLeft⟩ ⟨rfl, isRight⟩
    exact .unit isLeft isRight

section Rules

variable {expr : Parser Expression} {bound : Nat}

theorem decides_passed {parser : Parser Expression} {part whole : Symbol} (passes : Passes part whole)
    (decides : parser.Decides bound (Gives part)) : parser.Decides bound (Gives whole) :=
  decides.imp fun _ _ => .passed passes

/-- What is between brackets is decided on when there is a token less. -/
theorem decides_between {parser : Parser Expression} {part whole : Symbol} {left right : Kind}
    (decides : parser.Decides bound (Gives part)) (encloses : Encloses part whole left right)
    (opens : left ≠ .endOfInput ∧ left ≠ .integer ∧ left ≠ .float)
    (closes : right ≠ .endOfInput ∧ right ≠ .integer ∧ right ≠ .float) :
    (between (token left) parser (token right)).Decides (bound + 1) (Gives whole) := by
  refine (decides_token left opens.1 opens.2.1 opens.2.2 _).triple decides
    (decides_token right closes.1 closes.2.1 closes.2.2 bound) ?_ ?_
  · rintro _ opening ⟨rfl, _⟩
    simp only [List.length_singleton]
    omega
  · rintro _ opening consumed value _ closing ⟨rfl, isLeft⟩ inner ⟨rfl, isRight⟩
    rw [← isLeft, ← isRight] at encloses
    exact .enclosed encloses inner

/-- Either there are no elements, or they are separated by commas. -/
theorem decides_elements (decides : expr.Decides bound (Gives .expression)) :
    (elements expr).Decides bound fun consumed elems =>
      (consumed = [] ∧ elems = []) ∨ Builds .elements consumed elems := by
  have other : (pair (token .comma) expr fun _ elem => elem).Decides bound fun consumed elem =>
      ∃ comma word, consumed = comma :: word ∧ comma.kind = .comma ∧ Gives .expression word elem := by
    refine (decides_token .comma (by decide) (by decide) (by decide) bound).pair decides ?_ ?_
    · intros
      omega
    · rintro _ comma consumed elem ⟨rfl, isComma⟩ gives
      exact ⟨comma, consumed, rfl, isComma, gives⟩
  have others : (many (pair (token .comma) expr fun _ elem => elem)).Decides bound
      fun consumed elems => ∀ earlier before, Builds .elements earlier before →
        Builds .elements (earlier ++ consumed) (before ++ elems) := by
    refine other.many ?_ ?_ ?_
    · rintro _ elem ⟨comma, word, rfl, _⟩
      exact List.cons_ne_nil _ _
    · intro earlier before builds
      rwa [List.append_nil, List.append_nil]
    · rintro _ elem consumed' elems ⟨comma, word, rfl, isComma, gives⟩ more earlier before builds
      have longer := more _ _ (.elements builds isComma gives)
      rwa [List.append_assoc, List.append_assoc] at longer
  refine decides_choice ?_
  rintro parser (_ | ⟨_, _ | ⟨_, ⟨⟩⟩⟩)
  · refine decides.pair others (by intros; omega) ?_
    intro consumed elem consumed' elems gives more
    exact .inr (more consumed [elem] (.passed .element gives))
  · refine (decides_token .rightBracket (by decide) (by decide) (by decide) bound).lookahead.map ?_
    rintro _ closing rfl
    exact .inl ⟨rfl, rfl⟩

/-- Lists are decided when their elements are. -/
theorem decides_list (decides : expr.Decides bound (Gives .expression)) :
    (list expr).Decides (bound + 1) (Gives .list) := by
  refine (decides_token .leftBracket (by decide) (by decide) (by decide) _).triple
    (decides_elements decides) (decides_token .rightBracket (by decide) (by decide) (by decide) bound)
    ?_ ?_
  · rintro _ opening ⟨rfl, _⟩
    simp only [List.length_singleton]
    omega
  · rintro _ opening consumed elems _ closing ⟨rfl, isLeft⟩ (⟨rfl, rfl⟩ | builds) ⟨rfl, isRight⟩
    · exact .list_empty isLeft isRight
    · exact .list isLeft isRight builds

/-- Terms are decided when the expressions inside are, and take one token more. -/
theorem decides_term (decides : expr.Decides bound (Gives .expression)) :
    (term expr).Decides (bound + 1) (Gives .term) := by
  refine decides_choice ?_
  rintro parser (_ | ⟨_, _ | ⟨_, _ | ⟨_, _ | ⟨_, _ | ⟨_, _ | ⟨_, ⟨⟩⟩⟩⟩⟩⟩⟩)
  · exact decides_passed .number (decides_number _)
  · exact decides_ident .term _
  · exact decides_passed .unit (decides_unit _)
  · exact decides_between decides .paren (by decide) (by decide)
  · exact decides_between decides .brace (by decide) (by decide)
  · exact decides_passed .list (decides_list decides)

/-- An operator token is consumed with the operator that it stands for. -/
theorem decides_tokenAmong {operators : List (Kind × Operator)} (bound : Nat)
    (plain : ∀ kind operator, operators.lookup kind = some operator →
      kind ≠ .endOfInput ∧ kind ≠ .integer ∧ kind ≠ .float) :
    (tokenAmong (operators.map Prod.fst)).Decides bound fun consumed found =>
      consumed = [found] ∧ operators.lookup found.kind = some (operatorIn operators found) := by
  intro tokens _
  cases tokens with
  | nil => exact .inl (refuses_nil _)
  | cons first rest =>
      cases known : operators.lookup first.kind with
      | none =>
          refine .inl (refuses_tokenAmong fun kind here => ?_)
          cases here
          exact known
      | some operator =>
          obtain ⟨goesOn, notInteger, notFloat⟩ := plain _ _ known
          refine .inr ⟨[first], rest, first, rfl, ⟨rfl, ?_⟩, ?_⟩
          · rw [operatorIn_eq known, known]
          · rw [numeralReports_plain notInteger notFloat]
            exact yields_tokenAmong goesOn known rest

/-- The operators of sums are neither numerals nor the end of input. -/
theorem sumOperators_plain (kind : Kind) (operator : Operator)
    (known : sumOperators.lookup kind = some operator) :
    kind ≠ .endOfInput ∧ kind ≠ .integer ∧ kind ≠ .float := by
  rcases lookup_sumOperators.1 known with ⟨rfl, _⟩ | ⟨rfl, _⟩ <;> decide

/-- The operators of products are neither numerals nor the end of input. -/
theorem productOperators_plain (kind : Kind) (operator : Operator)
    (known : productOperators.lookup kind = some operator) :
    kind ≠ .endOfInput ∧ kind ≠ .integer ∧ kind ≠ .float := by
  rcases lookup_productOperators.1 known with ⟨rfl, _⟩ | ⟨rfl, _⟩ | ⟨rfl, _⟩ <;> decide

/-- Unary expressions are decided when their operands are. -/
theorem decides_unary (decides : expr.Decides bound (Gives .expression)) :
    (unary expr).Decides (bound + 1) (Gives .unary) := by
  rw [unary_eq]
  refine (decides_tokenAmong _ sumOperators_plain).pair (decides_term decides) (by intros; omega) ?_
  rintro _ found consumed operand ⟨rfl, known⟩ gives
  exact .unary known gives

/-- Functions are decided when their bodies are. -/
theorem decides_function (decides : expr.Decides bound (Gives .expression)) :
    (function expr).Decides (bound + 1) (Gives .function) := by
  refine (decides_token .identifier (by decide) (by decide) (by decide) _).triple
    (decides_token .colon (by decide) (by decide) (by decide) _) decides ?_ ?_
  · rintro _ name ⟨rfl, _⟩
    simp only [List.length_singleton]
    omega
  · rintro _ name _ colon consumed body ⟨rfl, isName⟩ ⟨rfl, isColon⟩ gives
    exact .function isName isColon gives

/-- Callees are decided when the functions in parentheses are. -/
theorem decides_callee (decides : expr.Decides bound (Gives .expression)) :
    (callee expr).Decides (bound + 1) (Gives .callee) := by
  refine decides_choice ?_
  rintro parser (_ | ⟨_, _ | ⟨_, ⟨⟩⟩⟩)
  · exact (decides_between (decides_function decides) .callee (by decide) (by decide)).lower
      (Nat.le_succ _)
  · exact decides_ident .callee _

/-- Tokens with a sign in front are no argument. -/
theorem decides_argument (decides : expr.Decides bound (Gives .expression)) :
    (argument expr).Decides bound fun consumed value =>
      Gives .expression consumed value ∧ Unsigned (consumed.map Token.kind) := by
  intro tokens short
  cases tokens with
  | nil => exact .inl (refuses_nil _)
  | cons first rest =>
      cases known : sumOperators.lookup first.kind with
      | some operator =>
          exact .inl (refuses_argument_sign known (sumOperators_plain _ _ known).1 rest)
      | none =>
          have unsigned : ∀ kind, headKind (first :: rest) = some kind → isSign kind = false := by
            rintro _ ⟨⟩
            rw [isSign, known]
            rfl
          rcases decides (first :: rest) short with
            refuses | ⟨consumed, others, value, split, gives, yields⟩
          · exact .inl (refuses_argument unsigned refuses)
          · refine .inr ⟨consumed, others, value, split, ⟨gives, ?_⟩,
              yields_argument unsigned yields⟩
            rintro kind member sign
            have here : headKind (first :: rest) = some kind := by
              rw [split, headKind]
              cases consumed with
              | nil => cases member
              | cons head tail => simpa using member
            have none := unsigned kind here
            rw [isSign_iff.2 sign] at none
            cases none

/-- Applications are decided when the expressions inside are. -/
theorem decides_application (decides : expr.Decides bound (Gives .expression)) :
    (application expr).Decides (bound + 1) (Gives .application) := by
  have arg : (optional (argument expr)).Decides bound fun consumed value =>
      (consumed = [] ∧ value = none) ∨ ∃ arg, value = some arg ∧
        Gives .expression consumed arg ∧ Unsigned (consumed.map Token.kind) :=
    (decides_argument decides).optional (.inl ⟨rfl, rfl⟩)
      fun consumed value good => .inr ⟨value, rfl, good⟩
  refine (decides_callee decides).pair arg ?_ ?_
  · intro consumed value gives
    have positive := gives.length_pos
    omega
  · rintro consumed callee consumed' _ gives (⟨rfl, rfl⟩ | ⟨arg, rfl, gives', unsigned⟩)
    · rw [List.append_nil]
      exact .passed .callee gives
    · exact .application gives gives' unsigned

/-- Factors are decided when the expressions inside are. -/
theorem decides_factor (decides : expr.Decides bound (Gives .expression)) :
    (factor expr).Decides (bound + 1) (Gives .factor) := by
  refine decides_choice ?_
  rintro parser (_ | ⟨_, _ | ⟨_, _ | ⟨_, ⟨⟩⟩⟩⟩)
  · exact decides_passed .unary (decides_unary decides)
  · exact decides_passed .application (decides_application decides)
  · exact decides_passed .term (decides_term decides)

/-- A chain is decided on as its operands are. -/
theorem decides_chained {operand : Parser Expression} {operators : List (Kind × Operator)}
    {part whole : Symbol} (decides : operand.Decides bound (Gives part))
    (plain : ∀ kind operator, operators.lookup kind = some operator →
      kind ≠ .endOfInput ∧ kind ≠ .integer ∧ kind ≠ .float)
    (joins : Joins part whole operators) :
    (chained operand operators).Decides bound (Gives whole) := by
  have other : (operation operand operators).Decides bound fun consumed step =>
      ∃ token word, consumed = token :: word ∧ operators.lookup token.kind = some step.1 ∧
        Gives part word step.2 := by
    refine (decides_tokenAmong bound plain).pair decides (by intros; omega) ?_
    rintro _ found consumed right ⟨rfl, known⟩ gives
    exact ⟨found, consumed, rfl, known, gives⟩
  have others : (many (operation operand operators)).Decides bound fun consumed steps =>
      ∀ earlier left, Gives whole earlier left →
        Gives whole (earlier ++ consumed) (chainLeft left steps) := by
    refine other.many ?_ ?_ ?_
    · rintro _ step ⟨token, word, rfl, _⟩
      exact List.cons_ne_nil _ _
    · intro earlier left gives
      rwa [List.append_nil]
    · rintro _ ⟨operator, right⟩ consumed' steps ⟨token, word, rfl, known, gives⟩
      intro later earlier left before
      have longer := later _ _ (.joined joins before known gives)
      rwa [List.append_assoc] at longer
  refine decides.pair others (by intros; omega) ?_
  intro consumed first consumed' steps gives later
  exact later consumed first (.passed joins.passes gives)

/-- Sums are decided when the expressions inside are. -/
theorem decides_sum (decides : expr.Decides bound (Gives .expression)) :
    (sum expr).Decides (bound + 1) (Gives .sum) := by
  rw [sum_eq, product_eq]
  have products := decides_chained (decides_factor decides) productOperators_plain .product
  exact decides_chained products sumOperators_plain .sum

/-- The rule of expressions is decided on one token more than the expressions inside. -/
theorem decides_expressionRule (decides : expr.Decides bound (Gives .expression)) :
    (expressionRule expr).Decides (bound + 1) (Gives .expression) := by
  refine decides_choice ?_
  rintro parser (_ | ⟨_, _ | ⟨_, ⟨⟩⟩⟩)
  · exact decides_passed .function (decides_function decides)
  · exact decides_passed .sum (decides_sum decides)

/-- Statements are decided when expressions are. -/
theorem decides_statementRule (decides : expr.Decides bound (Gives .expression)) :
    (statementRule expr).Decides bound BuildsStatement := by
  refine decides_choice ?_
  rintro parser (_ | ⟨_, _ | ⟨_, ⟨⟩⟩⟩)
  · refine (decides_token .identifier (by decide) (by decide) (by decide) _).triple
      (decides_token .equal (by decide) (by decide) (by decide) _) decides (by intros; omega) ?_
    rintro _ name _ equal consumed value ⟨rfl, isName⟩ ⟨rfl, isEqual⟩ gives
    exact .assignment isName isEqual gives
  · exact decides.map fun consumed value gives => .expression gives

end Rules

/-- The parse of an expression comes to a decision when there are no more tokens than the depth. -/
theorem decides_expressionWithin (depth : Nat) :
    (expressionWithin depth).Decides depth (Gives .expression) := by
  induction depth with
  | zero =>
      intro tokens short
      obtain rfl := List.length_eq_zero_iff.1 (Nat.le_zero.1 short)
      exact .inl (refuses_nil _)
  | succ depth ih => exact decides_expressionRule ih

end Grammar

end Reckon
