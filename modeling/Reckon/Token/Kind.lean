/-
This file defines the kinds of tokens and the words and symbols that name them.
-/

namespace Reckon

/-- The kinds have the codes from zero on in this order. A code beyond them is a kind without
a meaning. -/
inductive Kind where
  | endOfInput
  | unrecognized
  | comment
  | identifier
  | integer
  | float
  | string
  | colon
  | equal
  | leftParen
  | rightParen
  | leftBracket
  | rightBracket
  | leftBrace
  | rightBrace
  | atSign
  | dollar
  | dot
  | comma
  | bar
  | less
  | greater
  | plus
  | dash
  | star
  | slash
  | percent
  | letWord
  | fnWord
  | ifWord
  | thenWord
  | elseWord
  | matchWord
  | withWord
  | typeWord
  | other (code : Int)
  deriving DecidableEq, Repr, Inhabited

namespace Kind

/-- These are the kinds with a meaning in the order of their codes. -/
def all : List Kind :=
  [endOfInput, unrecognized, comment, identifier, integer, float, string, colon, equal,
    leftParen, rightParen, leftBracket, rightBracket, leftBrace, rightBrace, atSign, dollar, dot,
    comma, bar, less, greater, plus, dash, star, slash, percent, letWord, fnWord, ifWord,
    thenWord, elseWord, matchWord, withWord, typeWord]

/-- This is the kind with the given code. -/
def ofCode (code : Int) : Kind :=
  match code with
  | .ofNat index => all.getD index (other code)
  | .negSucc _ => other code

/-- A kind is named by its class, or by its only spelling between backquotes. -/
def name : Kind → String
  | endOfInput => "end of input"
  | unrecognized => "unrecognized"
  | comment => "comment"
  | identifier => "identifier"
  | integer => "integer"
  | float => "float"
  | string => "string"
  | colon => "`:`"
  | equal => "`=`"
  | leftParen => "`(`"
  | rightParen => "`)`"
  | leftBracket => "`[`"
  | rightBracket => "`]`"
  | leftBrace => "`\x7b`"
  | rightBrace => "`\x7d`"
  | atSign => "`@`"
  | dollar => "`$`"
  | dot => "`.`"
  | comma => "`,`"
  | bar => "`|`"
  | less => "`<`"
  | greater => "`>`"
  | plus => "`+`"
  | dash => "`-`"
  | star => "`*`"
  | slash => "`/`"
  | percent => "`%`"
  | letWord => "`let`"
  | fnWord => "`fn`"
  | ifWord => "`if`"
  | thenWord => "`then`"
  | elseWord => "`else`"
  | matchWord => "`match`"
  | withWord => "`with`"
  | typeWord => "`type`"
  | other code => "Kind(" ++ toString code ++ ")"

/-- This is the kind with the given name. -/
def ofName? (name : String) : Option Kind := all.find? fun kind => kind.name == name

def isKeyword : Kind → Bool
  | letWord | fnWord | ifWord | thenWord | elseWord | matchWord | withWord | typeWord => true
  | _ => false

def isOperator : Kind → Bool
  | less | greater | plus | dash | star | slash | percent => true
  | _ => false

def isDelimiter : Kind → Bool
  | colon | equal | leftParen | rightParen | leftBracket | rightBracket | leftBrace
  | rightBrace | atSign | dollar | dot | comma | bar => true
  | _ => false

def isLiteral : Kind → Bool
  | integer | float | string => true
  | _ => false

/-- This is the keyword that is spelled like the given word. -/
def ofKeyword? (word : String) : Option Kind :=
  match word with
  | "let" => some letWord
  | "fn" => some fnWord
  | "if" => some ifWord
  | "then" => some thenWord
  | "else" => some elseWord
  | "match" => some matchWord
  | "with" => some withWord
  | "type" => some typeWord
  | _ => none

/-- A word is a keyword or an identifier. -/
def ofWord (word : String) : Kind := (ofKeyword? word).getD identifier

/-- This is the kind of a symbol that forms a token by itself. A dash is absent because it may
open a comment. -/
def ofSymbol? (symbol : Char) : Option Kind :=
  match symbol with
  | ':' => some colon
  | '=' => some equal
  | '(' => some leftParen
  | ')' => some rightParen
  | '[' => some leftBracket
  | ']' => some rightBracket
  | '\x7b' => some leftBrace
  | '\x7d' => some rightBrace
  | '@' => some atSign
  | '$' => some dollar
  | '<' => some less
  | '>' => some greater
  | '.' => some dot
  | ',' => some comma
  | '+' => some plus
  | '*' => some star
  | '/' => some slash
  | '%' => some percent
  | '|' => some bar
  | _ => none

end Kind

end Reckon
