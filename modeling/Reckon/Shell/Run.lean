/-
This file runs the commands of the command line against a tree of files.
-/

import Reckon.Script
import Reckon.Shell.Arguments
import Reckon.Shell.Prompt

namespace Reckon

open Text

/-- A run of a command ends with what it printed and whether all went well. -/
structure Ended where
  printed : Printed
  succeeded : Bool
  deriving DecidableEq, Repr

namespace Ended

def well (printed : Printed) : Ended := ⟨printed, true⟩

/-- A failed run prints a last message. -/
def badly (printed : Printed) (message : String) : Ended :=
  ⟨printed ++ .toErrors ("Error: " ++ message ++ "\n"), false⟩

end Ended

namespace Shell

def versionText : String := "shade 0.1.0\n"

/-- Flags can only turn the log on and the style off. -/
def withFlags (settings : Settings) (flags : Flags) : Settings :=
  { settings with
    verbose := settings.verbose || flags.verbose
    color := settings.color && !flags.noColor }

/-- This is the path of the settings document before its references are expanded. -/
def settingsPath (environment : Environment) (flags : Flags) : String :=
  if flags.config.isEmpty then Settings.environmentPath environment else flags.config

/-- The source is the argument, or else the standard input without its final newline. -/
def sourceOf (arguments : List String) (input : Bytes) : Bytes :=
  match arguments with
  | [argument] => encode argument
  | _ => input.withoutFinalNewline

/-- This prints the tokens of a source, also of one with something wrong. -/
def tokens (settings : Settings) (source : Bytes) : Ended :=
  let read := Session.tokens source
  let log := Printed.toErrors (logText settings.verbose read.notes)
  let (buffer, report) := read.value
  let shown := match buffer.tokens with
    | .ok tokens => String.join (tokens.map fun token => token.text ++ "\n")
    | .error _ => ""
  match report with
  | none => .well (log ++ .toOutput shown)
  | some report => .badly (log ++ .toOutput shown) report.message

/-- A role is followed by blanks up to this width. -/
def roleWidth : Nat := 28

/-- A node is printed with its role and its quoted lexeme. -/
def nodeLine (buffer : Buffer) (node : Node) : String :=
  let role := node.role.text
  let lexeme := match buffer.lexeme node.handle.toNat with
    | .ok lexeme => lexeme.quoted
    | .error _ => ""
  role ++ String.ofList (List.replicate (roleWidth - role.length) ' ') ++ " " ++ lexeme ++ "\n"

/-- This prints the nodes of a source by the outline grammar. -/
def outline (settings : Settings) (source : Bytes) : Ended :=
  let traced := Session.outline source
  let log := Printed.toErrors (logText settings.verbose traced.notes)
  match traced.value with
  | (buffer, .ok nodes) =>
      .well (log ++ .toOutput (String.join (nodes.map (nodeLine buffer))))
  | (_, .error trouble) => .badly log trouble.message

/-- This prints the statement of a source. -/
def parse (settings : Settings) (source : Bytes) : Ended :=
  let parsed := Session.parse source
  let log := Printed.toErrors (logText settings.verbose parsed.notes)
  match parsed.value with
  | .ok statement => .well (log ++ .toOutput (shownOrFault statement.text ++ "\n"))
  | .error trouble => .badly log trouble.message

/-- This runs the script with the given content and prints its values. -/
def script (settings : Settings) (content : Bytes) : Ended :=
  let (script, trouble) := Script.run .empty content
  let log := Printed.toErrors (logText settings.verbose script.notes.toList)
  let values := Printed.toOutput
    (String.join (script.values.toList.map (Value.printed settings.color)))
  match trouble with
  | none => .well (log ++ values)
  | some trouble =>
      .badly (log ++ values ++ .toErrors (trouble.printed settings.color)) "evaluation failed"

/-- A script that cannot be opened is named, and one that cannot be read fails like a script. -/
def scriptAt (settings : Settings) (path : String) (content : Except FileProblem Bytes) : Ended :=
  match content with
  | .ok content => script settings content
  | .error .isFolder =>
      let report := Report.single (.plain (FileProblem.isFolder.message path))
      .badly (.toErrors (report.printed settings.color)) "evaluation failed"
  | .error problem => .badly .nothing (problem.message path)

/-- This is the history before the first line, and what is wrong with its file. A file that cannot
be opened is passed over. -/
def openHistory (path : String) (content : Except FileProblem Bytes) : History × Printed :=
  match content with
  | .ok content =>
      match History.ofContent content with
      | (history, none) => (history, .nothing)
      | (history, some problem) => (history, .toErrors (problem ++ "\n"))
  | .error .isFolder => ([], .toErrors (FileProblem.isFolder.message path ++ "\n"))
  | .error _ => ([], .nothing)

/-- A prompt that cannot be shown has this message. -/
def promptProblem : String := "invalid prompt"

/-- This runs the prompt on a whole input. -/
def prompt (settings : Settings) (history : History) (input : Bytes) : Ended × History :=
  let prompt : Prompt := ⟨settings, .empty, history⟩
  if prompt.isShowable then
    let (printed, history) := prompt.run .nothing (Piece.all input)
    (.well printed, history)
  else (.badly .nothing promptProblem, history)

/-- This is printed if the named folder cannot be made. -/
def foldersProblem (named : String) (problem : FileProblem) : Printed :=
  .toErrors ("mkdir " ++ named ++ ": " ++ problem.text ++ "\n")

/-- This writes the history file, with the folders around it. -/
def saveHistory (files : FileTree) (path : String) (history : History) : FileTree × Printed :=
  match files.makeFolders (Path.parent path) with
  | .ok files => (files.write path history.content, .nothing)
  | .error (named, problem) =>
      (files.write path history.content, foldersProblem named problem)

/-- The history is saved also when the prompt cannot be shown. -/
def interact (settings : Settings) (files : FileTree) (input : Bytes) : Ended × FileTree :=
  let path := settings.historyFile
  let (history, opening) := openHistory path (files.read path)
  let (ended, history) := prompt settings history input
  let (files, closing) := saveHistory files path history
  let printed := ended.printed
  -- The history is saved before the last message is printed.
  if ended.succeeded then (⟨opening ++ printed ++ closing, true⟩, files)
  else (⟨opening ++ closing ++ printed, false⟩, files)

/-- This runs a command with its settings. -/
def runCommand (invocation : Invocation) (settings : Settings) (files : FileTree)
    (input : Bytes) : Ended × FileTree :=
  let source := sourceOf invocation.arguments input
  match invocation.command with
  | .tokens => (tokens settings source, files)
  | .parse =>
      (if invocation.flags.trace then outline settings source else parse settings source, files)
  | .run =>
      let path := invocation.arguments.headD ""
      (scriptAt settings path (files.read path), files)
  | _ => interact settings files input

/-- This runs the command line. -/
def run (environment : Environment) (files : FileTree) (input : Bytes)
    (arguments : List String) : Ended × FileTree :=
  match Invocation.ofArguments arguments with
  | .error problem => (⟨.toErrors problem.printed, false⟩, files)
  | .ok invocation =>
      match invocation.command with
      | .version => (.well (.toOutput versionText), files)
      | .help | .completion => (.well .nothing, files)
      | _ =>
          let path := settingsPath environment invocation.flags
          match Settings.load environment files path with
          | .error problem => (.badly .nothing problem.message, files)
          | .ok settings =>
              runCommand invocation (withFlags settings invocation.flags) files input

end Shell

end Reckon
