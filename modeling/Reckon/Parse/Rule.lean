/-
This file defines rules: parsers as data, which can refer to each other by name.
-/

import Reckon.Parse.Parser

namespace Reckon

/-- Each constructor stands for the parser of the same name. -/
inductive Rule where
  | emit (kind : Kind) (role : Role)
  | defer (kind : Kind) (role : Role)
  | pop
  | mark (role : Role)
  | endOfInput
  | sequence (rules : List Rule)
  | pair (first second : Rule)
  | triple (first second third : Rule)
  | choice (rules : List Rule)
  | many (rule : Rule)
  | several (rule : Rule)
  /-- The value of the rule gets a label. -/
  | labelled (label : String) (rule : Rule)
  | optional (rule : Rule)
  | lookahead (rule : Rule)
  | absent (rule : Rule)
  | between (opening rule closing : Rule)
  | discard (rule : Rule)
  | reference (name : String)
  /-- This adds a report and succeeds. -/
  | report (text : String)
  /-- This fails, and tells what it expected unless the text is empty. -/
  | reject (expected : String)
  deriving Repr, Inhabited

/-- A yield is the value of a rule. -/
inductive Yield where
  | nothing
  | unit
  | reported
  | token (token : Token)
  | list (yields : List Yield)
  | labelled (label : String) (yield : Yield)
  deriving Repr, Inhabited

namespace Rule

mutual

/-- This is the parser of a rule whose references are looked up by `call`. -/
def parserWith (call : String → Parser Yield) : Rule → Parser Yield
  | emit kind role => (Parser.emit kind role).map .token
  | defer kind role => (Parser.defer kind role).map .token
  | pop => Parser.pop.map fun _ => .unit
  | mark role => (Parser.mark role).map fun _ => .unit
  | endOfInput => Parser.endOfInput.map fun _ => .unit
  | sequence rules => (Parser.sequence (parsersWith call rules)).map .list
  | pair first second =>
      Parser.pair (parserWith call first) (parserWith call second) fun a b => .list [a, b]
  | triple first second third =>
      Parser.triple (parserWith call first) (parserWith call second) (parserWith call third)
        fun a b c => .list [a, b, c]
  | choice rules => Parser.choice (parsersWith call rules)
  | many rule => (Parser.many (parserWith call rule)).map .list
  | several rule => (Parser.several (parserWith call rule)).map .list
  | labelled label rule => (parserWith call rule).map (.labelled label)
  | optional rule => (Parser.optional (parserWith call rule)).map fun value => value.getD .nothing
  | lookahead rule => Parser.lookahead (parserWith call rule)
  | absent rule => (Parser.absent (parserWith call rule)).map fun _ => .unit
  | between opening rule closing =>
      Parser.between (parserWith call opening) (parserWith call rule) (parserWith call closing)
  | discard rule => (Parser.discard (parserWith call rule)).map fun _ => .unit
  | reference name => call name
  | report text => fun state => .success .reported (state.report (.single (.plain text)))
  | reject expected => fun state =>
      .failure (if expected.isEmpty then state else state.expect expected)

def parsersWith (call : String → Parser Yield) : List Rule → List (Parser Yield)
  | [] => []
  | rule :: rules => parserWith call rule :: parsersWith call rules

end

end Rule

/-- A rule set gives names to rules. -/
abbrev RuleSet := List (String × Rule)

namespace RuleSet

/-- This is the parser of a named rule whose references nest at most `depth` deep. An unknown
name fails. -/
def parserWithin (rules : RuleSet) : Nat → String → Parser Yield
  | 0, _ => fun state => .fault .exhausted state
  | depth + 1, name =>
      match rules.lookup name with
      | some rule => rule.parserWith (parserWithin rules depth)
      | none => Parser.fail

/-- A rule that ends enters no reference twice without consuming a token or popping an entry in
between, which bounds the depth of its references. -/
def parser (rules : RuleSet) (name : String) : Parser Yield := fun state =>
  rules.parserWithin ((rules.length + 1) * (3 * state.significant.size + 1)) name state

end RuleSet

end Reckon
