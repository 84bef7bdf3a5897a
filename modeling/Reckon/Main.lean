/-
This file runs the command line on the files and the standard streams of the system.
-/

import Reckon.Shell.Run

namespace Reckon

open Text

/-- This is the problem with a file that an error of the system stands for. -/
def FileProblem.ofError? : IO.Error → Option FileProblem
  | .noFileOrDirectory .. => some .notFound
  | .permissionDenied .. => some .denied
  | .inappropriateType _ code _ => some (if code == 21 then .isFolder else .notFolder)
  | _ => none

namespace Main

/-- This is the content of a file, or the reason why it cannot be read. -/
def readFile (path : String) : IO (Except FileProblem Bytes) := do
  try
    return .ok (← IO.FS.readBinFile path).data
  catch error =>
    match FileProblem.ofError? error with
    | some problem => return .error problem
    | none => throw error

/-- This writes a file. Nothing happens where no file can be. -/
def writeFile (path : String) (content : Bytes) : IO Unit := do
  try
    IO.FS.writeBinFile path ⟨content⟩
  catch _ =>
    return

/-- This makes the folders of a path below the folder `made`, and names the first one that cannot
be made with the reason. -/
def makeFolders (made : String) : List String → IO (Option (String × FileProblem))
  | [] => return none
  | part :: rest => do
      let made := if made.isEmpty || made == "/" then made ++ part else made ++ "/" ++ part
      match ← readFile made with
      | .error .isFolder => makeFolders made rest
      | .ok _ => return some (made, .notFolder)
      | .error _ =>
          try
            IO.FS.createDir made
          catch error =>
            return some (made, (FileProblem.ofError? error).getD .denied)
          makeFolders made rest

def write (printed : Printed) : IO Unit := do
  let output ← IO.getStdout
  let errors ← IO.getStderr
  output.putStr printed.output
  output.flush
  errors.putStr printed.errors
  errors.flush

/-- This reads the rest of the standard input. -/
partial def readInput (read : Bytes) : IO Bytes := do
  let more ← (← IO.getStdin).read 4096
  if more.isEmpty then return read else readInput (read ++ more.data)

/-- This reads the rest of a line of the standard input with its newline. -/
partial def readLine (read : Bytes) : IO Bytes := do
  let more ← (← IO.getStdin).read 1
  let read := read ++ more.data
  if more.isEmpty || more.data.back? == some 0x0A then return read else readLine read

/-- These are the entries of the environment with the given names. -/
def environmentOf (names : List String) : IO Environment :=
  names.filterMapM fun name => do
    return (← IO.getEnv name).map fun text => (name, text)

/-- This loads the settings. -/
def loadSettings (flags : Flags) : IO (Except SettingsProblem Settings) := do
  let names := Settings.environmentNames
  let environment ← environmentOf names
  let defaults := Settings.defaults environment
  let path := Shell.settingsPath environment flags
  let path := (← environmentOf (Environment.namesIn path)).expand path
  match Settings.ofContent defaults path (← readFile path) with
  | .error problem => return .error problem
  | .ok none => return .ok defaults
  | .ok (some settings) =>
      let environment ← environmentOf (Environment.namesIn settings.historyFile)
      return .ok (settings.expanded environment)

/-- This answers lines of the standard input until one of them ends the prompt, or the input ends.
The pieces of a line wait until those before them are answered. -/
partial def converse (prompt : Prompt) (waiting : List Piece) : IO History := do
  write (.toOutput prompt.settings.prompt)
  let pieces ← if waiting.isEmpty then Piece.all <$> readLine #[] else pure waiting
  match pieces with
  | [] => return prompt.history
  | piece :: pieces =>
      let (answer, next, history) := prompt.step piece.text
      write answer
      match next with
      | some prompt => converse prompt pieces
      | none => return history

/-- This writes the history file, with the folders around it. -/
def saveHistory (path : String) (history : History) : IO Unit := do
  let parent := Path.parent path
  let parts := (Path.parts parent).filter fun part => !part.isEmpty
  match ← makeFolders (if Path.isAbsolute parent then "/" else "") parts with
  | some (named, problem) => write (Shell.foldersProblem named problem)
  | none => pure ()
  writeFile path history.content

/-- This runs the prompt on the standard input. The history is saved also when the prompt cannot be
shown. -/
def interact (settings : Settings) : IO Ended := do
  let path := settings.historyFile
  let (history, opening) := Shell.openHistory path (← readFile path)
  write opening
  let prompt : Prompt := ⟨settings, .empty, history⟩
  if prompt.isShowable then
    saveHistory path (← converse prompt [])
    return .well .nothing
  else
    saveHistory path history
    return .badly .nothing Shell.promptProblem

/-- This runs a command with its settings. -/
def runCommand (invocation : Invocation) (settings : Settings) : IO Ended := do
  let source : IO Bytes := do
    if invocation.arguments.length = 1 then return Shell.sourceOf invocation.arguments #[]
    else return Shell.sourceOf [] (← readInput #[])
  match invocation.command with
  | .tokens => return Shell.tokens settings (← source)
  | .parse =>
      if invocation.flags.trace then return Shell.outline settings (← source)
      else return Shell.parse settings (← source)
  | .run =>
      let path := invocation.arguments.headD ""
      return Shell.scriptAt settings path (← readFile path)
  | _ => interact settings

/-- This runs the command line. -/
def run (arguments : List String) : IO Ended := do
  match Invocation.ofArguments arguments with
  | .error problem => return ⟨.toErrors problem.printed, false⟩
  | .ok invocation =>
      match invocation.command with
      | .version => return .well (.toOutput Shell.versionText)
      | .help | .completion => return .well .nothing
      | _ =>
          match ← loadSettings invocation.flags with
          | .error problem => return .badly .nothing problem.message
          | .ok settings =>
              runCommand invocation (Shell.withFlags settings invocation.flags)

end Main

end Reckon

/-- The exit code is one if something went wrong. -/
def main (arguments : List String) : IO UInt32 := do
  let ended ← Reckon.Main.run arguments
  Reckon.Main.write ended.printed
  return if ended.succeeded then 0 else 1
