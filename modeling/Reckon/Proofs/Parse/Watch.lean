/-
This file defines what it means that the run of a rule pops no entry older than its save, and what a run does
to a state in the end, when all that it undid on its way is left out.
-/

import Mathlib.Data.List.Basic
import Mathlib.Logic.Relation
import Reckon.Parse.Rule

namespace Reckon

/-- A watch tells of a run from a state whether it pops no entry of the shift stack below a floor. -/
abbrev Watch := Nat → State → Bool

namespace Watch

variable {A : Type}

/-- This is the watch of a parser that pops nothing. -/
def idle : Watch := fun _ _ => true

/-- A parser that takes a save raises the floor to the height of the stack. -/
def saved (watch : Watch) : Watch := fun _ state => watch state.stack.size state

/-- The second watch starts where the first parser succeeds. -/
def andThen (parser : Parser A) (first second : Watch) : Watch := fun floor state =>
  first floor state &&
    match parser state with
    | .success _ next => second floor next
    | _ => true

def inOrder : List (Parser A × Watch) → Watch
  | [] => idle
  | (parser, watch) :: others => andThen parser watch (inOrder others)

/-- Every alternative starts where the one before it fails. -/
def choice : List (Parser A × Watch) → Watch
  | [] => idle
  | (parser, watch) :: others => fun floor state =>
      watch.saved floor state &&
        match parser.attempt state with
        | .failure failed => choice others floor failed
        | _ => true

/-- Every application takes its own save. -/
def manyWithin (parser : Parser A) (watch : Watch) : Nat → Watch
  | 0 => idle
  | bound + 1 => fun floor state =>
      watch.saved floor state &&
        match parser state with
        | .success _ next =>
            if next.position = state.position then true
            else manyWithin parser watch bound floor next
        | _ => true

def many (parser : Parser A) (watch : Watch) : Watch := fun floor state =>
  manyWithin parser watch (state.significant.size + 1) floor state

end Watch

namespace Rule

mutual

/-- This watches the run of a rule whose references are watched by `calls`. -/
def watchWith (call : String → Parser Yield) (calls : String → Watch) : Rule → Watch
  | pop => fun floor state => floor < state.stack.size
  | sequence rules => (Watch.inOrder (watchesWith call calls rules)).saved
  | pair first second =>
      (Watch.andThen (first.parserWith call) (watchWith call calls first)
        (watchWith call calls second)).saved
  | triple first second third =>
      (Watch.andThen (first.parserWith call) (watchWith call calls first)
        (Watch.andThen (second.parserWith call) (watchWith call calls second)
          (watchWith call calls third))).saved
  | choice rules => Watch.choice (watchesWith call calls rules)
  | many rule => Watch.many (rule.parserWith call) (watchWith call calls rule)
  | several rule =>
      (Watch.andThen (rule.parserWith call) (watchWith call calls rule)
        (Watch.many (rule.parserWith call) (watchWith call calls rule))).saved
  | labelled _ rule => watchWith call calls rule
  | optional rule => (watchWith call calls rule).saved
  | lookahead rule => (watchWith call calls rule).saved
  | absent rule => (watchWith call calls rule).saved
  | between opening rule closing =>
      (Watch.andThen (opening.parserWith call) (watchWith call calls opening)
        (Watch.andThen (rule.parserWith call) (watchWith call calls rule)
          (watchWith call calls closing))).saved
  | discard rule => watchWith call calls rule
  | reference name => calls name
  | emit _ _ | defer _ _ | mark _ | endOfInput | report _ | reject _ => Watch.idle

def watchesWith (call : String → Parser Yield) (calls : String → Watch) :
    List Rule → List (Parser Yield × Watch)
  | [] => []
  | rule :: rules => (rule.parserWith call, watchWith call calls rule) :: watchesWith call calls rules

end

end Rule

namespace RuleSet

/-- This watches the run of a named rule. -/
def watchWithin (rules : RuleSet) : Nat → String → Watch
  | 0, _ => Watch.idle
  | depth + 1, name =>
      match rules.lookup name with
      | some rule => rule.watchWith (rules.parserWithin depth) (watchWithin rules depth)
      | none => Watch.idle

/-- This is the parser of a rule whose references nest at most `depth` deep. -/
def ruleWithin (rules : RuleSet) (depth : Nat) (rule : Rule) : Parser Yield :=
  rule.parserWith (rules.parserWithin depth)

/-- A rule keeps its saves when none of its parts that takes a save pops an entry that was on the
stack at that time. -/
def KeepsSaves (rules : RuleSet) (depth : Nat) (rule : Rule) (state : State) : Prop :=
  rule.watchWith (rules.parserWithin depth) (rules.watchWithin depth) 0 state = true

instance (rules : RuleSet) (depth : Nat) (rule : Rule) (state : State) :
    Decidable (rules.KeepsSaves depth rule state) :=
  inferInstanceAs (Decidable (_ = true))

end RuleSet

namespace State

/-- Two states differ at most in the furthest failure. -/
def SameBefore (before after : State) : Prop := after = { before with furthest := after.furthest }

/-- A state extends another one when it has the same stack below the floor, and more output. -/
structure Extends (floor : Nat) (before after : State) : Prop where
  input : after.input = before.input
  significant : after.significant = before.significant
  nodes : before.nodes.toList <+: after.nodes.toList
  stack : before.stack.toList.take floor <+: after.stack.toList
  height : floor ≤ after.stack.size
  reports : before.reports.toList <+: after.reports.toList

theorem SameBefore.refl (state : State) : state.SameBefore state := rfl

theorem SameBefore.trans {first second third : State} (left : first.SameBefore second)
    (right : second.SameBefore third) : first.SameBefore third := by
  rw [SameBefore, right, left]

/-- The furthest failure does not matter to the position. -/
theorem SameBefore.position {before after : State} (same : before.SameBefore after) :
    after.position = before.position := by
  rw [same]
  rfl

theorem SameBefore.expect (state : State) (what : String) : state.SameBefore (state.expect what) := by
  fun_cases State.expect state what <;> rfl

theorem Extends.refl {floor : Nat} {state : State} (height : floor ≤ state.stack.size) :
    Extends floor state state where
  input := rfl
  significant := rfl
  nodes := List.prefix_rfl
  stack := List.take_prefix _ _
  height := height
  reports := List.prefix_rfl

theorem Extends.trans {floor : Nat} {first second third : State} (left : Extends floor first second)
    (right : Extends floor second third) : Extends floor first third where
  input := right.input.trans left.input
  significant := right.significant.trans left.significant
  nodes := left.nodes.trans right.nodes
  stack := by
    have short : (first.stack.toList.take floor).length ≤ floor := List.length_take_le _ _
    have below := List.prefix_take_iff.2 ⟨left.stack, short⟩
    exact below.trans right.stack
  height := right.height
  reports := left.reports.trans right.reports

/-- A state that is extended above a height is extended above every lower one. -/
theorem Extends.lower {floor lower : Nat} {before after : State} (extended : Extends floor before after)
    (below : lower ≤ floor) : Extends lower before after where
  input := extended.input
  significant := extended.significant
  nodes := extended.nodes
  stack := (List.take_prefix_take_left below).trans extended.stack
  height := Nat.le_trans below extended.height
  reports := extended.reports

/-- A state with another furthest failure is an extension. -/
theorem SameBefore.extends {floor : Nat} {before after : State} (same : before.SameBefore after)
    (height : floor ≤ before.stack.size) : Extends floor before after := by
  rw [same]
  exact { Extends.refl height with }

/-- An array is cut back to the one that it goes on from. -/
theorem shrink_longer {A : Type} {old new : Array A} (longer : old.toList <+: new.toList) :
    new.shrink old.size = old := by
  apply Array.ext'
  rw [Array.toList_shrink, ← Array.length_toList]
  exact (List.prefix_iff_eq_take.1 longer).symm

/-- An array is cut to any size up to its own. -/
theorem cutTo_inside {A : Type} {items : Array A} {size : Nat} (inside : size ≤ items.size) :
    cutTo items size = .ok (items.shrink size) := if_pos inside

/-- What goes on from an array can be cut back to it. -/
theorem cutTo_longer {A : Type} {old new : Array A} (longer : old.toList <+: new.toList) :
    cutTo new old.size = .ok old := by
  have inside : old.size ≤ new.size := longer.length_le
  rw [cutTo_inside inside, shrink_longer longer]

/-- A truncation undoes an extension above the whole stack, and cuts nothing beyond its end. -/
theorem Extends.restore {before after : State} (extended : Extends before.stack.size before after) :
    after.restore before.save = .ok { before with furthest := after.furthest } := by
  obtain ⟨input, significant, nodes, stack, height, reports⟩ := extended
  rw [← Array.length_toList, List.take_length] at stack
  rw [State.restore, if_neg (by simp only [save]; omega)]
  simp only [save, cutTo_longer nodes, cutTo_longer stack, cutTo_longer reports]
  rw [← input, ← significant]
  rfl

end State

namespace Parser

variable {A B : Type}

/-- A value that was changed came from a value. -/
theorem exists_of_map_ok {E : Type} {value : Except E A} {f : A → B} {result : B}
    (mapped : value.map f = .ok result) : ∃ found, value = .ok found ∧ f found = result := by
  cases value with
  | ok found => exact ⟨found, rfl, Except.ok.inj mapped⟩
  | error fault => cases mapped

/-- A computation in two parts ends well only when both parts do. -/
theorem exists_of_bind_ok {E : Type} {value : Except E A} {f : A → Except E B} {result : B}
    (bound : value >>= f = .ok result) : ∃ found, value = .ok found ∧ f found = .ok result := by
  cases value with
  | ok found => exact ⟨found, rfl, bound⟩
  | error fault => cases bound

/-- A change of the value adds no fault. -/
theorem error_of_map_error {E : Type} {value : Except E A} {f : A → B} {fault : E}
    (mapped : value.map f = .error fault) : value = .error fault := by
  cases value with
  | ok found => cases mapped
  | error fault => exact congrArg Except.error (Except.error.inj mapped)

/-- A fault of a computation in two parts is a fault of one of them. -/
theorem error_of_bind_error {E : Type} {value : Except E A} {f : A → Except E B} {fault : E}
    (bound : value >>= f = .error fault) :
    value = .error fault ∨ ∃ found, f found = .error fault := by
  cases value with
  | ok found => exact .inr ⟨found, bound⟩
  | error fault => exact .inl (congrArg Except.error (Except.error.inj bound))

/-- What is tested to be a value is one. -/
theorem exists_of_isOk {E : Type} {value : Except E A} (isOk : value.isOk = true) :
    ∃ found, value = .ok found := by
  cases value with
  | ok found => exact ⟨found, rfl⟩
  | error fault => cases isOk

end Parser

/-- The kind of a token is that of its entry. -/
theorem Buffer.kind_of_token {buffer : Buffer} {handle : Handle} {found : Token}
    (there : buffer.token handle = .ok found) : buffer.kind handle = .ok found.kind := by
  rw [Buffer.token] at there
  rw [Buffer.kind]
  cases here : buffer.entry handle with
  | error fault =>
      rw [here] at there
      cases there
  | ok entry =>
      rw [here] at there
      obtain ⟨lexeme, _, rfl⟩ := Parser.exists_of_map_ok there
      rfl

namespace State

variable {floor : Nat} {state next before after : State} {role : Role} {handle : Handle}

/-- A push only adds an output node. -/
theorem extends_push (pushed : state.push role = .ok (handle, next))
    (height : floor ≤ state.stack.size) : Extends floor state next := by
  obtain ⟨_, _, same⟩ := Parser.exists_of_map_ok pushed
  cases same
  exact { Extends.refl height with nodes := by simp }

/-- A shift only adds an entry of the stack. -/
theorem extends_shift (shifted : state.shift role = .ok (handle, next))
    (height : floor ≤ state.stack.size) : Extends floor state next := by
  obtain ⟨_, _, same⟩ := Parser.exists_of_map_ok shifted
  cases same
  have below := (List.take_prefix floor state.stack.toList).trans
    (List.prefix_append _ [⟨role, handle, state.position + 1⟩])
  have higher : floor ≤ state.stack.size + 1 := by omega
  exact { Extends.refl height with
    stack := by simpa using below
    height := by simpa using higher }

/-- A mark extends the state. -/
theorem extends_mark (marked : state.mark role = .ok next) (height : floor ≤ state.stack.size) :
    Extends floor state next := by
  obtain ⟨_, _, same⟩ := Parser.exists_of_map_ok marked
  cases same
  exact { Extends.refl height with nodes := by simp }

/-- An entry above the floor can be popped. -/
theorem extends_pop (popped : state.pop = .ok next) (above : floor < state.stack.size) :
    Extends floor state next := by
  revert popped
  fun_cases State.pop state with
  | case1 top found =>
      intro popped
      cases popped
      have below : state.stack.toList.take floor <+: state.stack.toList.dropLast := by
        rw [List.dropLast_eq_take]
        exact List.take_prefix_take_left (by simp; omega)
      exact { Extends.refl (Nat.le_of_lt above) with
        nodes := by simp
        stack := by simpa using below
        height := by simp; omega }
  | case2 =>
      intro popped
      cases popped

/-- An effect is one operation on a state that is no return, and that pops no entry below the floor. -/
inductive Effect (floor : Nat) (before after : State) : Prop where
  | same (same : before.SameBefore after)
  | push {role : Role} {handle : Handle} (pushed : before.push role = .ok (handle, after))
  | shift {role : Role} {handle : Handle} (shifted : before.shift role = .ok (handle, after))
  | pop (above : floor < before.stack.size) (popped : before.pop = .ok after)
  | mark {role : Role} (marked : before.mark role = .ok after)
  | report (report : Report) (reported : before.report report = after)

/-- A state leads to another one by any number of effects. -/
abbrev Leads (floor : Nat) : State → State → Prop := Relation.ReflTransGen (Effect floor)

/-- An operation above a height is one above every lower one. -/
theorem Effect.lower {lower : Nat} (effect : Effect floor before after) (below : lower ≤ floor) :
    Effect lower before after := by
  cases effect with
  | same same => exact .same same
  | push pushed => exact .push pushed
  | shift shifted => exact .shift shifted
  | pop above popped => exact .pop (Nat.lt_of_le_of_lt below above) popped
  | mark marked => exact .mark marked
  | report report reported => exact .report report reported

theorem Leads.lower {lower : Nat} (leads : Leads floor before after) (below : lower ≤ floor) :
    Leads lower before after := leads.lift id fun _ _ effect => effect.lower below

theorem SameBefore.leads (same : before.SameBefore after) : Leads floor before after :=
  .single (.same same)

/-- An operation above a height extends the state above it. -/
theorem Effect.extends (effect : Effect floor before after) (height : floor ≤ before.stack.size) :
    Extends floor before after := by
  cases effect with
  | same same => exact same.extends height
  | push pushed => exact extends_push pushed height
  | shift shifted => exact extends_shift shifted height
  | pop above popped => exact extends_pop popped above
  | mark marked => exact extends_mark marked height
  | report report reported =>
      subst reported
      exact { Extends.refl height with reports := by simp [State.report] }

/-- Operations above a height extend the state above it. -/
theorem Leads.extends (leads : Leads floor before after) (height : floor ≤ before.stack.size) :
    Extends floor before after := by
  induction leads with
  | refl => exact .refl height
  | tail _ effect ih => exact ih.trans (effect.extends ih.height)

end State

end Reckon
