/-
This file reads settings documents: lines that assign a value to a key, with tables of keys below
headers.
-/

import Reckon.Decimal.Reading
import Reckon.Text.Quoted

namespace Reckon

open Text

/-- Numbers are of no use to any setting, so only their form matters. -/
inductive SettingValue where
  | text (text : String)
  | flag (flag : Bool)
  | number
  | table
  deriving DecidableEq, Repr

/-- An item is a header or an assignment. The key of an assignment starts with its table. -/
structure SettingItem where
  key : List String
  value : SettingValue
  deriving DecidableEq, Repr

namespace Document

def isBlank (character : Char) : Bool := character == ' ' || character == '\t'

def skipBlanks (characters : List Char) : List Char := characters.dropWhile isBlank

/-- A bare key part needs no quotes. -/
def isBare (character : Char) : Bool :=
  character.isAlphanum || character == '_' || character == '-'

/-- Strings and comments hold no control characters but tabs. -/
def isPlain (character : Char) : Bool :=
  character == '\t' || (0x20 ≤ character.toNat && character.toNat != 0x7F)

/-- This is the character with the given hexadecimal digits. -/
def codePoint? (digits : List Char) : Option Char := do
  let values ← digits.mapM (Decimal.radixDigit? 16)
  let code := values.foldl (fun code digit => code * 16 + digit) 0
  if code < 0xD800 || (0xE000 ≤ code && code < 0x110000) then some (Char.ofNat code) else none

def escapedCharacter? (letter : Char) : Option Char :=
  match letter with
  | 'b' => some (Char.ofNat 0x08)
  | 't' => some '\t'
  | 'n' => some '\n'
  | 'f' => some (Char.ofNat 0x0C)
  | 'r' => some '\r'
  | '"' => some '"'
  | '\\' => some '\\'
  | _ => none

/-- This reads the rest of a string in double quotes. The text so far is given in reverse. -/
def basicString? (read : List Char) : List Char → Option (String × List Char)
  | '"' :: rest => some (String.ofList read.reverse, rest)
  | '\\' :: 'u' :: a :: b :: c :: d :: rest =>
      match codePoint? [a, b, c, d] with
      | some character => basicString? (character :: read) rest
      | none => none
  | '\\' :: 'U' :: a :: b :: c :: d :: e :: f :: g :: h :: rest =>
      match codePoint? [a, b, c, d, e, f, g, h] with
      | some character => basicString? (character :: read) rest
      | none => none
  | '\\' :: letter :: rest =>
      match escapedCharacter? letter with
      | some character => basicString? (character :: read) rest
      | none => none
  | character :: rest =>
      if isPlain character then basicString? (character :: read) rest else none
  | [] => none

/-- This reads the rest of a string in single quotes, which has no escapes. -/
def literalString? (read : List Char) : List Char → Option (String × List Char)
  | '\'' :: rest => some (String.ofList read.reverse, rest)
  | character :: rest =>
      if isPlain character then literalString? (character :: read) rest else none
  | [] => none

def keyPart? (characters : List Char) : Option (String × List Char) :=
  match characters with
  | '"' :: rest => basicString? [] rest
  | '\'' :: rest => literalString? [] rest
  | _ =>
      match characters.takeWhile isBare with
      | [] => none
      | part => some (String.ofList part, characters.dropWhile isBare)

/-- This reads the parts of a key with dots between them, at most `bound` of them. -/
def key? (characters : List Char) : Nat → Option (List String × List Char)
  | 0 => none
  | bound + 1 => do
      let (part, rest) ← keyPart? (skipBlanks characters)
      match skipBlanks rest with
      | '.' :: rest =>
          let (parts, rest) ← key? rest bound
          return (part :: parts, rest)
      | rest => return ([part], rest)

/-- The digits of a number may have single underscores between them. -/
def areDigits (isDigit : Char → Bool) (characters : List Char) : Bool :=
  characters.any isDigit && Decimal.underscoresFit isDigit false false characters &&
    characters.all fun character => isDigit character || character == '_'

def hasLeadingZero (digits : List Char) : Bool :=
  digits.head? == some '0' && digits.length > 1

/-- A number in another radix has a mark before its digits, and no sign. -/
def isRadixInteger (characters : List Char) : Bool :=
  let fits (radix : Nat) (digits : List Char) : Bool :=
    let isDigit (character : Char) : Bool := (Decimal.radixDigit? radix character).isSome
    let values := digits.filterMap (Decimal.radixDigit? radix)
    areDigits isDigit digits &&
      values.foldl (fun value digit => value * radix + digit) 0 < Decimal.twoTo 63
  match characters with
  | '0' :: 'x' :: digits => fits 16 digits
  | '0' :: 'o' :: digits => fits 8 digits
  | '0' :: 'b' :: digits => fits 2 digits
  | _ => false

/-- A decimal integer has sixty-four bits. -/
def isInteger (characters : List Char) : Bool :=
  let (negative, digits) := Decimal.splitSign characters
  let values := digits.filterMap Decimal.decimalDigit?
  let value := values.foldl (fun value digit => value * 10 + digit) 0
  areDigits Char.isDigit digits && !hasLeadingZero digits &&
    (if negative then value ≤ Decimal.twoTo 63 else value < Decimal.twoTo 63)

/-- A float has a fraction or an exponent, with digits on both sides of its point. -/
def isFloat (characters : List Char) : Bool :=
  let (_, unsigned) := Decimal.splitSign characters
  let whole := unsigned.takeWhile fun character => character.isDigit || character == '_'
  let rest := unsigned.drop whole.length
  let isExponent (characters : List Char) : Bool :=
    match characters with
    | mark :: digits =>
        (mark == 'e' || mark == 'E') &&
          areDigits Char.isDigit (Decimal.splitSign digits).2
    | [] => true
  unsigned == "inf".toList || unsigned == "nan".toList ||
    (areDigits Char.isDigit whole && !hasLeadingZero whole &&
      match rest with
      | '.' :: rest =>
          let fraction := rest.takeWhile fun character => character.isDigit || character == '_'
          areDigits Char.isDigit fraction && isExponent (rest.drop fraction.length)
      | [] => false
      | rest => isExponent rest)

def endsValue (character : Char) : Bool := isBlank character || character == '#'

/-- A value is a string, a flag or a number. -/
def value? (characters : List Char) : Option (SettingValue × List Char) :=
  match characters with
  | '"' :: rest => (basicString? [] rest).map fun (text, rest) => (.text text, rest)
  | '\'' :: rest => (literalString? [] rest).map fun (text, rest) => (.text text, rest)
  | _ =>
      let word := characters.takeWhile fun character => !endsValue character
      let rest := characters.drop word.length
      if word == "true".toList then some (.flag true, rest)
      else if word == "false".toList then some (.flag false, rest)
      else if isInteger word || isRadixInteger word || isFloat word then some (.number, rest)
      else none

/-- Only blanks and a comment may follow on a line. -/
def endsLine (characters : List Char) : Bool :=
  match skipBlanks characters with
  | [] => true
  | '#' :: comment => comment.all isPlain
  | _ => false

/-- A key has one value, and a table one header. A table whose name only leads to other tables may
still have its header. -/
def isFree (items : List SettingItem) (item : SettingItem) : Bool :=
  items.all fun other =>
    other.key != item.key &&
      !(other.value != .table && other.key.isPrefixOf item.key) &&
      !(item.value != .table && item.key.isPrefixOf other.key)

/-- This reads one line below the header `table`. -/
def line? (table : List String) (characters : List Char) :
    Option (List String × List SettingItem) :=
  match skipBlanks characters with
  | '[' :: rest => do
      let (key, rest) ← key? rest (rest.length + 1)
      match rest with
      | ']' :: rest => if endsLine rest then some (key, [⟨key, .table⟩]) else none
      | _ => none
  | rest =>
      if endsLine rest then some (table, [])
      else do
        let (key, rest) ← key? rest (rest.length + 1)
        match rest with
        | '=' :: rest =>
            let (value, rest) ← value? (skipBlanks rest)
            if endsLine rest then some (table, [⟨table ++ key, value⟩]) else none
        | _ => none

/-- This reads the lines of a document after the given items. -/
def lines? (table : List String) (items : List SettingItem) :
    List (List Char) → Option (List SettingItem)
  | [] => some items
  | line :: lines => do
      let (table, found) ← line? table line
      if found.all (isFree items) then lines? table (items ++ found) lines else none

/-- A line ends with a newline, or with a carriage return and a newline. The last line has no end,
so a carriage return stays there. -/
def trimReturns : List String → List (List Char)
  | [] => []
  | [last] => [last.toList]
  | line :: lines =>
      let line := line.toList
      (if line.getLast? == some '\r' then line.dropLast else line) :: trimReturns lines

/-- A byte order mark at the start is passed over. -/
def withoutMark (content : Bytes) : Bytes :=
  match content.toList with
  | 0xEF :: 0xBB :: 0xBF :: rest => rest.toArray
  | 0xFF :: 0xFE :: rest => rest.toArray
  | 0xFE :: 0xFF :: rest => rest.toArray
  | _ => content

/-- These are the items of a document in order. A document that breaks the form has none. -/
def items? (content : Bytes) : Option (List SettingItem) :=
  let content := withoutMark content
  if content.isWellFormed then lines? [] [] (trimReturns (content.decode.splitOn "\n"))
  else none

/-- Only quotes, backslashes and the control characters of ASCII are escaped in a key. -/
def escapedInKey (character : Char) : String :=
  match character with
  | '"' => "\\\""
  | '\\' => "\\\\"
  | '\x08' => "\\b"
  | '\t' => "\\t"
  | '\n' => "\\n"
  | '\x0C' => "\\f"
  | '\r' => "\\r"
  | character =>
      if character.toNat < 0x20 || character.toNat == 0x7F then
        "\\u" ++ hexadecimal 4 character.toNat
      else String.singleton character

/-- A key is written with dots between its parts, which are quoted if they are not bare. -/
def keyText (key : List String) : String :=
  let partText (part : String) : String :=
    if !part.isEmpty && part.toList.all isBare then part
    else "\"" ++ String.join (part.toList.map escapedInKey) ++ "\""
  String.intercalate "." (key.map partText)

end Document

end Reckon
