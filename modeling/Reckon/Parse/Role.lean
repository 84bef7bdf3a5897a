/-
This file defines the roles that tokens play in a parse.
-/

namespace Reckon

/-- A parse notes the role of every token that it consumes. The parts of a construct come before
the construct itself. The roles have the codes from zero on in this order. -/
inductive Role where
  /-- The token has no meaning of its own. -/
  | token
  /-- The colon of a function. -/
  | functionDeclaration
  /-- The parameter of a function. -/
  | functionArgument
  /-- The equal sign of an assignment. -/
  | assignment
  /-- The name that an assignment binds. -/
  | assignmentTarget
  /-- The end of an application. It is the only role without a token. -/
  | application
  | atomBegin
  | atomEnd
  /-- The use of a variable. -/
  | nameUse
  | other (code : Int)
  deriving DecidableEq, Repr, Inhabited

namespace Role

def ofCode (code : Int) : Role :=
  match code with
  | 0 => token
  | 1 => functionDeclaration
  | 2 => functionArgument
  | 3 => assignment
  | 4 => assignmentTarget
  | 5 => application
  | 6 => atomBegin
  | 7 => atomEnd
  | 8 => nameUse
  | code => other code

def text : Role → String
  | token => "Token"
  | functionDeclaration => "Function Declaration"
  | functionArgument => "Function Argument"
  | assignment => "Assign statement"
  | assignmentTarget => "Left side of the assignment"
  | application => "Function Application"
  | atomBegin => "Atom Begin"
  | atomEnd => "Atom End"
  | nameUse => "Ident as value"
  | other code => "NodeKind(" ++ toString code ++ ")"

end Role

/-- A node is a role together with the handle of the token that plays it. -/
structure Node where
  role : Role
  handle : Int
  deriving DecidableEq, Repr

def Node.text (node : Node) : String := node.role.text ++ "@" ++ toString node.handle

end Reckon
