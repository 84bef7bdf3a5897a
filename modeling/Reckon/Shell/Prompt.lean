/-
This file defines the interactive prompt, which runs a statement for every line of input.
-/

import Reckon.Settings.Basic
import Reckon.Shell.History
import Reckon.Shell.Log
import Reckon.Shell.Style
import Reckon.Text.Control

namespace Reckon

open Text

/-- This is what is written to the standard output and to the standard error. -/
structure Printed where
  output : String
  errors : String
  deriving DecidableEq, Repr

namespace Printed

def nothing : Printed := ⟨"", ""⟩

def toOutput (text : String) : Printed := ⟨text, ""⟩

def toErrors (text : String) : Printed := ⟨"", text⟩

def append (first second : Printed) : Printed :=
  ⟨first.output ++ second.output, first.errors ++ second.errors⟩

instance : Append Printed := ⟨append⟩

end Printed

/-- A prompt keeps the session and the history from line to line. -/
structure Prompt where
  settings : Settings
  session : Session
  history : History

namespace Prompt

/-- A prompt with a control character cannot be shown. -/
def isShowable (prompt : Prompt) : Bool := !prompt.settings.prompt.toList.any isControl

/-- This shows the tokens of a text that has nothing wrong. -/
def showTokens (settings : Settings) (input : Bytes) : Printed :=
  let read := Session.tokens input
  let log := Printed.toErrors (logText settings.verbose read.notes)
  match read.value with
  | (buffer, none) =>
      match buffer.tokens with
      | .ok tokens =>
          log ++ .toOutput (String.join (tokens.map fun token =>
            layOut settings.color token.text ++ "\n"))
      | .error _ => log
  | (_, some _) => log

/-- This runs a statement and prints its value, or what is wrong with it. -/
def runStatement (prompt : Prompt) (input : Bytes) : Printed × Prompt :=
  let settings := prompt.settings
  let (ran, session) := prompt.session.run input
  let log := Printed.toErrors (logText settings.verbose ran.notes)
  let result := match ran.value with
    | .ok value => Printed.toOutput (value.printed settings.color)
    | .error trouble => Printed.toErrors (trouble.printed settings.color)
  (log ++ result, { prompt with session })

/-- This answers a line of input. The line `exit` ends the prompt. -/
def step (prompt : Prompt) (line : Bytes) : Printed × Option Prompt × History :=
  let input := line.trimmed
  if input.isEmpty then (.nothing, some prompt, prompt.history)
  else
    let history := prompt.history.add input
    let prompt := { prompt with history }
    if input == encode "exit" then (.nothing, none, history)
    else
      let shown := if prompt.settings.showTokens then showTokens prompt.settings input
        else .nothing
      let (printed, prompt) := prompt.runStatement input
      (shown ++ printed, some prompt, history)

/-- This answers lines of input until one of them ends the prompt, or the input ends. The prompt is
shown before every line, and at the end of the input. -/
def run (prompt : Prompt) (printed : Printed) : List Piece → Printed × History
  | [] => (printed ++ .toOutput prompt.settings.prompt, prompt.history)
  | piece :: pieces =>
      let asked := printed ++ .toOutput prompt.settings.prompt
      match prompt.step piece.text with
      | (answer, some prompt, _) => run prompt (asked ++ answer) pieces
      | (answer, none, history) => (asked ++ answer, history)

end Prompt

end Reckon
