/-
This file shows that every token in the place of an operator denotes one. An operation can be parsed as if
its operator came together with its token.
-/

import Reckon.Parse.Grammar
import Reckon.Proofs.Parse.Watch

namespace Reckon

/-- What is pushed is the current token. -/
theorem State.current_of_push {state next : State} {role : Role} {handle : Handle}
    (pushed : state.push role = .ok (handle, next)) :
    state.current = .ok handle ∧ next.input = state.input := by
  obtain ⟨found, consumable, same⟩ := Parser.exists_of_map_ok pushed
  cases same
  rw [State.consumable] at consumable
  split at consumable
  · cases consumable
  · exact ⟨consumable, rfl⟩
  · cases consumable

namespace Parser

variable {A B R S : Type} {parser first : Parser A} {second : Parser B} {Good : A → Prop}
  {Good' : B → Prop}

/-- A parser ensures a property when no value without it comes out. -/
def Ensures (parser : Parser A) (Good : A → Prop) : Prop :=
  ∀ state value next, parser state = .success value next → Good value

/-- A return to a save is no success. -/
theorem backtrack_ne_success (save : Save) (state next : State) (value : A) :
    backtrack save state ≠ .success value next := by
  intro outcome
  unfold backtrack at outcome
  split at outcome <;> cases outcome

/-- A sequence succeeds only when both of its parts do. -/
theorem exists_of_andThen_success {next : A → Parser B} {state final : State} {value : B}
    (outcome : parser.andThen next state = .success value final) : ∃ first middle,
      parser state = .success first middle ∧ next first middle = .success value final := by
  unfold andThen at outcome
  split at outcome
  · rename_i first middle found
    exact ⟨first, middle, found, outcome⟩
  · cases outcome
  · cases outcome

/-- An attempt succeeds only where its parser does. -/
theorem success_of_attempt {state next : State} {value : A}
    (outcome : parser.attempt state = .success value next) : parser state = .success value next := by
  unfold attempt at outcome
  split at outcome
  · exact absurd outcome (backtrack_ne_success _ _ _ _)
  · exact outcome

/-- A token that was consumed is of the kind that was asked for. -/
theorem ensures_token (kind : Kind) : (token kind).Ensures fun found => found.kind = kind := by
  intro state found next outcome
  unfold token emit consume at outcome
  split at outcome
  · cases outcome
  · cases outcome
  rename_i isKind
  split at outcome
  · cases outcome
  rename_i handle pushed
  obtain ⟨current, input⟩ := State.current_of_push pushed
  split at outcome
  · rename_i token there
    cases outcome
    obtain ⟨other, looked, same⟩ := exists_of_map_ok isKind
    rw [State.kind, current] at looked
    rw [input] at there
    have known := (Buffer.kind_of_token there).symm.trans looked
    rw [Except.ok.inj known]
    exact of_decide_eq_true same
  · cases outcome

/-- A choice ensures what all of its alternatives do. -/
theorem Ensures.choice {parsers : List (Parser A)} (all : ∀ parser ∈ parsers, parser.Ensures Good) :
    (choice parsers).Ensures Good := by
  induction parsers with
  | nil =>
      intro state value next outcome
      cases outcome
  | cons parser parsers ih =>
      obtain ⟨here, later⟩ := List.forall_mem_cons.1 all
      intro state value next outcome
      unfold Parser.choice at outcome
      split at outcome
      · exact ih later _ _ _ outcome
      · exact here _ _ _ (success_of_attempt outcome)

/-- What is joined from a pair keeps what its first part ensures. -/
theorem Ensures.pair (left : first.Ensures Good) {f : A → B → R} {Good' : R → Prop}
    (joins : ∀ a b, Good a → Good' (f a b)) : (pair first second f).Ensures Good' := by
  intro state value next outcome
  obtain ⟨a, middle, found, outcome⟩ := exists_of_andThen_success (success_of_attempt outcome)
  obtain ⟨b, last, _, outcome⟩ := exists_of_andThen_success outcome
  cases outcome
  exact joins a b (left _ _ _ found)

/-- A repetition only gathers values of its parser. -/
theorem Ensures.manyWithin (ensures : parser.Ensures Good) {values : List A}
    (before : ∀ value ∈ values, Good value) (bound : Nat) :
    (manyWithin parser values bound).Ensures fun values => ∀ value ∈ values, Good value := by
  induction bound generalizing values with
  | zero =>
      intro state _ next outcome
      cases outcome
  | succ bound ih =>
      intro state gathered next outcome
      have reversed : ∀ value ∈ values.reverse, Good value := fun value member =>
        before value (List.mem_reverse.1 member)
      unfold Parser.manyWithin at outcome
      dsimp only at outcome
      split at outcome
      · rename_i value state' found
        split at outcome
        · -- The last application stood still, so the values before it are all.
          split at outcome
          · cases outcome
            exact reversed
          · cases outcome
        · exact ih (List.forall_mem_cons.2 ⟨ensures _ _ _ found, before⟩) _ _ _ outcome
      · split at outcome
        · cases outcome
          exact reversed
        · cases outcome
      · cases outcome

theorem Ensures.many (ensures : parser.Ensures Good) :
    (many parser).Ensures fun values => ∀ value ∈ values, Good value :=
  fun state => ensures.manyWithin (fun _ member => absurd member List.not_mem_nil) _ state

/-- Where what comes out is no fault, it need not be checked. -/
theorem checked_pair (left : first.Ensures Good) (right : second.Ensures Good')
    {f : A → B → Except Fault R} {g : A → B → R} (sound : ∀ a b, Good a → Good' b → f a b = .ok (g a b)) :
    checked (pair first second f) = pair first second g := by
  funext state
  simp only [checked, pair, attempt, andThen, map, succeed]
  cases found : first state with
  | success a middle =>
      cases found' : second middle with
      | success b last => simp only [found', sound a b (left _ _ _ found) (right _ _ _ found')]
      | failure last =>
          simp only [found', backtrack]
          cases last.restore state.save <;> rfl
      | fault fault last => simp only [found']
  | failure middle =>
      simp only [backtrack]
      cases middle.restore state.save <;> rfl
  | fault fault middle => rfl

/-- A function of the values can be applied to each of them as it is gathered. -/
theorem many_map (h : A → R) : many (parser.map h) = (many parser).map (List.map h) := by
  have within (bound : Nat) (values : List A) (state : State) :
      manyWithin (parser.map h) (values.map h) bound state =
        (manyWithin parser values bound).map (List.map h) state := by
    induction bound generalizing values state with
    | zero => rfl
    | succ bound ih =>
        simp only [manyWithin, map, andThen, succeed]
        cases found : parser state with
        | success value next =>
            by_cases stays : next.position = state.position
            · simp only [if_pos stays, ← List.map_reverse]
              cases next.restore state.save <;> rfl
            · simp only [if_neg stays]
              exact ih (value :: values) next
        | failure next =>
            simp only [← List.map_reverse]
            cases next.restore state.save <;> rfl
        | fault fault next => rfl
  funext state
  exact within _ [] state

/-- Two changes of a value are one. -/
theorem map_map (h : A → R) (f : R → S) : (parser.map h).map f = parser.map fun value => f (h value) := by
  funext state
  simp only [map, andThen, succeed]
  cases parser state <;> rfl

theorem pair_map_right (h : B → S) (f : A → S → R) :
    pair first (second.map h) f = pair first second fun a b => f a (h b) := by
  simp only [pair, map_map]

/-- A change of the last value can be made in the last part. -/
theorem map_andThen (next : A → Parser R) (f : R → S) :
    (parser.andThen next).map f = parser.andThen fun value => (next value).map f := by
  funext state
  simp only [map, andThen]
  cases parser state <;> rfl

/-- A change of the value can be made inside of an attempt. -/
theorem map_attempt (f : A → R) : parser.attempt.map f = (parser.map f).attempt := by
  funext state
  simp only [map, andThen, succeed, attempt]
  cases found : parser state with
  | success value next => rfl
  | failure next =>
      simp only [backtrack]
      cases next.restore state.save <;> rfl
  | fault fault next => rfl

theorem map_pair (f : A → B → R) (h : R → S) :
    (pair first second f).map h = pair first second fun a b => h (f a b) := by
  simp only [pair, map_attempt, map_andThen, map_map]

end Parser

namespace Grammar

open Reckon.Parser

/-- These are the operators of a sum, by the kinds of their tokens. -/
def sumOperators : List (Kind × Operator) := [(.plus, .add), (.dash, .sub)]

/-- These are the operators of a product. -/
def productOperators : List (Kind × Operator) :=
  [(.star, .mul), (.slash, .div), (.percent, .mod)]

/-- Each of these kinds denotes its operator. -/
def Denoted (operators : List (Kind × Operator)) : Prop :=
  ∀ entry ∈ operators, Operator.ofKind? entry.1 = some entry.2

theorem denoted_sumOperators : Denoted sumOperators := by
  unfold Denoted
  decide

theorem denoted_productOperators : Denoted productOperators := by
  unfold Denoted
  decide

/-- This is the operator of a token among the given ones. -/
def operatorIn (operators : List (Kind × Operator)) (found : Token) : Operator :=
  (operators.lookup found.kind).getD default

/-- A known kind has the operator of its table. -/
theorem operatorIn_eq {operators : List (Kind × Operator)} {found : Token} {operator : Operator}
    (known : operators.lookup found.kind = some operator) : operatorIn operators found = operator := by
  rw [operatorIn, known]
  rfl

/-- A token of an operator denotes one. -/
theorem operatorOf_eq {operators : List (Kind × Operator)} (denoted : Denoted operators) {found : Token}
    (member : found.kind ∈ operators.map Prod.fst) :
    operatorOf found = .ok (operatorIn operators found) := by
  obtain ⟨operator, known⟩ : ∃ operator, operators.lookup found.kind = some operator := by
    rw [← Option.isSome_iff_exists, List.lookup_isSome_iff]
    obtain ⟨entry, member, same⟩ := List.mem_map.1 member
    exact ⟨entry, member, by simpa using same.symm⟩
  obtain ⟨before, after, split, _⟩ := List.lookup_eq_some_iff.1 known
  have meant := denoted (found.kind, operator) (by simp [split])
  rw [operatorOf, meant, operatorIn_eq known]

/-- A token among some kinds is of one of them. -/
theorem ensures_tokenAmong (kinds : List Kind) :
    (tokenAmong kinds).Ensures fun found => found.kind ∈ kinds := by
  refine Ensures.choice fun parser member => ?_
  obtain ⟨kind, known, rfl⟩ := List.mem_map.1 member
  intro state found next outcome
  rw [ensures_token kind _ _ _ outcome]
  exact known

/-- The operands are joined from left to right. -/
def chainLeft (first : Expression) (others : List (Operator × Expression)) : Expression :=
  others.foldl (fun left (operator, right) =>
    .binary (left.extent.around right.extent) operator left right) first

/-- No operation of a chain faults. -/
theorem foldLeft_eq {operators : List (Kind × Operator)} (denoted : Denoted operators)
    {others : List (Token × Expression)} (all : ∀ other ∈ others, other.1.kind ∈ operators.map Prod.fst)
    (first : Expression) : foldLeft first others =
      .ok (chainLeft first (others.map fun other => (operatorIn operators other.1, other.2))) := by
  induction others generalizing first with
  | nil => rfl
  | cons other others ih =>
      obtain ⟨here, later⟩ := List.forall_mem_cons.1 all
      obtain ⟨found, right⟩ := other
      rw [foldLeft, operatorOf_eq denoted here]
      exact ih later _

/-- This parses an operator and its right operand. -/
def operation (operand : Parser Expression) (operators : List (Kind × Operator)) :
    Parser (Operator × Expression) :=
  pair (tokenAmong (operators.map Prod.fst)) operand
    fun found right => (operatorIn operators found, right)

/-- This parses operations of one level whose operators come together with their tokens. -/
def chained (operand : Parser Expression) (operators : List (Kind × Operator)) : Parser Expression :=
  pair operand (many (operation operand operators)) chainLeft

/-- A unary operation is parsed without a check of its operator. -/
theorem unary_eq (expr : Parser Expression) : unary expr =
    pair sign (term expr) fun found operand =>
      .unary (found.span.around operand.extent) (operatorIn sumOperators found) operand := by
  have right : (term expr).Ensures fun _ => True := fun _ _ _ _ => trivial
  refine checked_pair (ensures_tokenAmong sumKinds) right fun found operand member _ => ?_
  rw [operatorOf_eq denoted_sumOperators member]
  rfl

/-- A chain is parsed without a check of its operators. -/
theorem chain_eq (operand : Parser Expression) {operators : List (Kind × Operator)}
    (denoted : Denoted operators) :
    chain operand (operators.map Prod.fst) = chained operand operators := by
  let other := pair (tokenAmong (operators.map Prod.fst)) operand fun found right => (found, right)
  have ensured : other.Ensures fun step => step.1.kind ∈ operators.map Prod.fst :=
    (ensures_tokenAmong _).pair fun _ _ member => member
  have unchecked : checked (pair operand (many other) foldLeft) = pair operand (many other)
      fun first others =>
        chainLeft first (others.map fun other => (operatorIn operators other.1, other.2)) :=
    checked_pair (fun _ _ _ _ => trivial) ensured.many
      fun first others _ all => foldLeft_eq denoted all first
  have named : operation operand operators =
      other.map fun step => (operatorIn operators step.1, step.2) := by
    rw [map_pair]
    rfl
  rw [chained, named, many_map, pair_map_right]
  exact unchecked

theorem product_eq (expr : Parser Expression) :
    product expr = chained (factor expr) productOperators := by
  have kinds : productKinds = productOperators.map Prod.fst := rfl
  rw [product, kinds, chain_eq (factor expr) denoted_productOperators]

theorem sum_eq (expr : Parser Expression) : sum expr = chained (product expr) sumOperators := by
  have kinds : sumKinds = sumOperators.map Prod.fst := rfl
  rw [sum, kinds, chain_eq (product expr) denoted_sumOperators]

end Grammar

end Reckon
