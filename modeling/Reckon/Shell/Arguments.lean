/-
This file reads the arguments of the command line.
-/

import Reckon.Text.Lower
import Reckon.Text.Quoted

namespace Reckon

open Text

/-- Without a command the prompt is started. -/
inductive Command where
  | root
  | repl
  | run
  | tokens
  | parse
  | version
  | completion
  | help
  deriving DecidableEq, Repr

/-- This is the name of a command, and of the program itself. -/
def Command.name : Command → String
  | root => "shade"
  | repl => "repl"
  | run => "run"
  | tokens => "tokens"
  | parse => "parse"
  | version => "version"
  | completion => "completion"
  | help => "help"

/-- These are the commands below the program. -/
def Command.all : List Command := [repl, run, tokens, parse, version, help, completion]

def Command.ofName? (name : String) : Option Command :=
  Command.all.find? fun command => command.name == name

/-- The path of a command starts with the program. -/
def Command.path (command : Command) : String :=
  match command with
  | root => root.name
  | command => root.name ++ " " ++ command.name

/-- A use of the command line can be wrong in one of these ways. -/
inductive UsageProblem where
  | unknownCommand (name : String) (suggestions : List String)
  | badFlag (argument : String)
  | unknownFlag (name : String)
  | unknownShorthand (letters : String)
  | missingValue (argument : String)
  | invalidFlagValue (value flag : String)
  | unexpectedArgument (argument : String) (command : Command)
  | wrongCount (expected received : Nat)
  | tooMany (limit received : Nat)
  deriving DecidableEq, Repr

/-- The byte that a text starts with stands for the letter of a shorthand. -/
def leadingByte (text : String) : Char :=
  match (encode text).toList with
  | byte :: _ => Char.ofNat byte.toNat
  | [] => ' '

def suggestionText (suggestions : List String) : String :=
  if suggestions.isEmpty then ""
  else "\n\nDid you mean this?\n" ++
    String.join (suggestions.map fun suggestion => "\t" ++ suggestion ++ "\n")

def UsageProblem.message : UsageProblem → String
  | unknownCommand name suggestions =>
      "unknown command " ++ quoted name ++ " for " ++ quoted Command.root.name ++
        suggestionText suggestions
  | badFlag argument => "bad flag syntax: " ++ argument
  | unknownFlag name => "unknown flag: --" ++ name
  | unknownShorthand letters =>
      "unknown shorthand flag: " ++ quotedCharacter (leadingByte letters) ++ " in -" ++ letters
  | missingValue argument => "flag needs an argument: " ++ argument
  | invalidFlagValue value flag =>
      "invalid argument " ++ quoted value ++ " for " ++ quoted flag ++
        " flag: strconv.ParseBool: parsing " ++ quoted value ++ ": invalid syntax"
  | unexpectedArgument argument command =>
      "unknown command " ++ quoted argument ++ " for " ++ quoted command.path
  | wrongCount expected received =>
      "accepts " ++ toString expected ++ " arg(s), received " ++ toString received
  | tooMany limit received =>
      "accepts at most " ++ toString limit ++ " arg(s), received " ++ toString received

/-- This is what is printed for a wrong use. -/
def UsageProblem.printed (problem : UsageProblem) : String :=
  let message := "Error: " ++ problem.message ++ "\n"
  match problem with
  | unknownCommand _ _ => message ++ "Run '" ++ Command.root.name ++ " --help' for usage.\n"
  | _ => message

structure Flags where
  config : String
  verbose : Bool
  noColor : Bool
  trace : Bool
  help : Bool
  deriving DecidableEq, Repr

def Flags.none : Flags := ⟨"", false, false, false, false⟩

/-- A flag of the command line is on or off, except for the path of the settings. -/
inductive FlagName where
  | config
  | verbose
  | noColor
  | trace
  | help
  deriving DecidableEq, Repr

/-- Only one command has a flag of its own. -/
def FlagName.ofName? (command : Command) (name : String) : Option FlagName :=
  match name with
  | "config" => some .config
  | "verbose" => some .verbose
  | "no-color" => some .noColor
  | "help" => some .help
  | "trace" => if command = .parse then some .trace else none
  | _ => none

/-- A flag is shown by its shorthand, if it has one, and its name. -/
def FlagName.shown : FlagName → String
  | config => "--config"
  | verbose => "-v, --verbose"
  | noColor => "--no-color"
  | trace => "--trace"
  | help => "-h, --help"

def truth? (text : String) : Option Bool :=
  if ["1", "t", "T", "TRUE", "true", "True"].contains text then some true
  else if ["0", "f", "F", "FALSE", "false", "False"].contains text then some false
  else none

/-- This gives a flag its value. -/
def Flags.set (flags : Flags) (name : FlagName) (value : String) : Except UsageProblem Flags :=
  let switched (update : Bool → Flags) : Except UsageProblem Flags :=
    match truth? value with
    | some truth => .ok (update truth)
    | Option.none => .error (.invalidFlagValue value name.shown)
  match name with
  | .config => .ok { flags with config := value }
  | .verbose => switched fun verbose => { flags with verbose }
  | .noColor => switched fun noColor => { flags with noColor }
  | .trace => switched fun trace => { flags with trace }
  | .help => switched fun help => { flags with help }

/-- A command is looked for before the help flag is known. -/
def takesNextArgument (command : Command) (argument : String) : Bool :=
  if argument.contains '=' then false
  else
    match argument.toList with
    | '-' :: '-' :: name =>
        match FlagName.ofName? command (String.ofList name) with
        | some .verbose | some .noColor | some .trace => false
        | _ => true
    | ['-', letter] => letter.toNat < 0x80 && letter != 'v'
    | _ => false

def startsWithDash (argument : String) : Bool := argument.toList.head? == some '-'

/-- These are the arguments that are no flags and no values of flags. -/
def positional (command : Command) : List String → List String
  | [] => []
  | argument :: rest =>
      if argument == "--" then []
      else if takesNextArgument command argument then
        match rest with
        | _ :: next :: rest => positional command (next :: rest)
        | _ => []
      else if argument.isEmpty || startsWithDash argument then positional command rest
      else argument :: positional command rest

/-- This drops the name of the command from the arguments. -/
def withoutCommand (command : Command) (name : String) : List String → List String
  | [] => []
  | argument :: rest =>
      if argument == "--" then argument :: rest
      else if takesNextArgument command argument then
        match rest with
        | value :: rest => argument :: value :: withoutCommand command name rest
        | [] => [argument]
      else if argument == name then rest
      else argument :: withoutCommand command name rest

/-- This is the number of single byte edits between two texts. -/
def editDistance (first second : List UInt8) : Nat :=
  let nextRow (row : List Nat) (index : Nat) (byte : UInt8) : List Nat :=
    let step (state : List Nat × Nat × List Nat) (other : UInt8) : List Nat × Nat × List Nat :=
      match state with
      | (left :: built, diagonal, above :: row) =>
          let best :=
            if byte = other then diagonal
            else 1 + min diagonal (min above left)
          (best :: left :: built, above, row)
      | state => state
    match row with
    | diagonal :: row =>
        (second.foldl step ([index + 1], diagonal, row)).1.reverse
    | [] => []
  let rows := first.foldl (fun (row, index) byte => (nextRow row index byte, index + 1))
    (List.range (second.length + 1), 0)
  rows.1.getLastD 0

/-- A command is suggested in place of a name that is close to its own, or that it starts
with. -/
def suggestions (name : String) : List String :=
  let typed := String.ofList (name.toList.map lower)
  let isClose (command : Command) : Bool :=
    command != .help &&
      (editDistance (encode typed).toList (encode command.name).toList ≤ 2 ||
        command.name.startsWith typed)
  (Command.all.filter isClose).map Command.name

/-- This is the command that the arguments name, with the other arguments. -/
def findCommand (arguments : List String) : Except UsageProblem (Command × List String) :=
  match positional .root arguments with
  | [] => .ok (.root, arguments)
  | name :: _ =>
      match Command.ofName? name with
      | some command => .ok (command, withoutCommand .root name arguments)
      | none => .error (.unknownCommand name (suggestions name))

/-- This reads a flag with its full name. The value follows an equal sign, or is the next argument
for the flag that has no default. -/
def readLongFlag (command : Command) (flags : Flags) (argument : String) (rest : List String) :
    Except UsageProblem (Flags × List String) :=
  let text := argument.toList.drop 2
  let name := text.takeWhile fun character => character != '='
  if text.isEmpty || text.head? == some '-' || text.head? == some '=' then
    .error (.badFlag argument)
  else
    match FlagName.ofName? command (String.ofList name) with
    | none => .error (.unknownFlag (String.ofList name))
    | some flag =>
        if name.length < text.length then
          (flags.set flag (String.ofList (text.drop (name.length + 1)))).map fun flags =>
            (flags, rest)
        else if flag = .config then
          match rest with
          | value :: rest => (flags.set flag value).map fun flags => (flags, rest)
          | [] => .error (.missingValue argument)
        else (flags.set flag "true").map fun flags => (flags, rest)

/-- This reads a row of shorthands. An equal sign gives a value to the last of them. -/
def readShorthands (flags : Flags) : List Char → Except UsageProblem Flags
  | [] => .ok flags
  | letter :: rest =>
      if "test.".toList.isPrefixOf (letter :: rest) then .ok flags
      else
        let flag? := if letter == 'v' then some FlagName.verbose
          else if letter == 'h' then some FlagName.help else none
        match flag? with
        | none => .error (.unknownShorthand (String.ofList (letter :: rest)))
        | some flag =>
            match rest with
            | '=' :: first :: value => flags.set flag (String.ofList (first :: value))
            | rest =>
                match flags.set flag "true" with
                | .ok flags => readShorthands flags rest
                | .error problem => .error problem

/-- This reads flags and arguments in any order, at most `bound` of them. Two dashes end the
flags. The arguments so far are given in reverse. -/
def readFlags (command : Command) (flags : Flags) (read : List String) :
    Nat → List String → Except UsageProblem (Flags × List String)
  | 0, _ => .ok (flags, read.reverse)
  | _ + 1, [] => .ok (flags, read.reverse)
  | bound + 1, argument :: rest =>
      match argument.toList with
      | ['-', '-'] => .ok (flags, read.reverse ++ rest)
      | '-' :: '-' :: _ =>
          match readLongFlag command flags argument rest with
          | .ok (flags, rest) => readFlags command flags read bound rest
          | .error problem => .error problem
      | '-' :: letter :: letters =>
          match readShorthands flags (letter :: letters) with
          | .ok flags => readFlags command flags read bound rest
          | .error problem => .error problem
      | _ => readFlags command flags (argument :: read) bound rest

/-- Each command accepts a number of arguments. -/
def checkArguments (command : Command) (arguments : List String) : Except UsageProblem Unit :=
  match command, arguments with
  | .repl, argument :: _ => .error (.unexpectedArgument argument command)
  | .version, argument :: _ => .error (.unexpectedArgument argument command)
  | .run, arguments =>
      if arguments.length = 1 then .ok () else .error (.wrongCount 1 arguments.length)
  | .tokens, arguments | .parse, arguments =>
      if arguments.length ≤ 1 then .ok () else .error (.tooMany 1 arguments.length)
  | _, _ => .ok ()

/-- An invocation is a command with its flags and its arguments. -/
structure Invocation where
  command : Command
  flags : Flags
  arguments : List String
  deriving DecidableEq, Repr

/-- This reads all arguments of the command line. Help is given whatever the arguments are. -/
def Invocation.ofArguments (arguments : List String) : Except UsageProblem Invocation := do
  let (command, arguments) ← findCommand arguments
  let (flags, arguments) ← readFlags command .none [] (arguments.length + 1) arguments
  if flags.help then return ⟨.help, flags, arguments⟩
  checkArguments command arguments
  return ⟨command, flags, arguments⟩

end Reckon
