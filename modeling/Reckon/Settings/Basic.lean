/-
This file defines the settings of the interactive prompt and where they come from.
-/

import Reckon.Files.Tree
import Reckon.Settings.Document
import Reckon.Settings.Environment

namespace Reckon

open Text

structure Settings where
  prompt : String
  historyFile : String
  color : Bool
  verbose : Bool
  showTokens : Bool
  deriving DecidableEq, Repr

/-- Settings can fail to load in one of these ways. -/
inductive SettingsProblem where
  /-- The document cannot be read. -/
  | unreadable (path : String) (problem : FileProblem)
  /-- The document breaks the form, or gives a setting a value of the wrong sort. -/
  | malformed
  | unknownKeys (path : String) (keys : List (List String))
  deriving DecidableEq, Repr

def SettingsProblem.message : SettingsProblem → String
  | unreadable path problem => "failed to parse config: " ++ problem.message path
  | malformed => "failed to parse config: toml: invalid document"
  | unknownKeys path keys =>
      "unknown config keys in " ++ path ++ ": [" ++
        String.intercalate " " (keys.map Document.keyText) ++ "]"

namespace Environment

def home (environment : Environment) : String :=
  let home := environment.get "HOME"
  if home.isEmpty then "/" else home

/-- A path may start with a tilde or with the name of the home folder. -/
def expandHome (environment : Environment) (path : String) : String :=
  match path.toList with
  | '~' :: rest => Path.join [environment.home, String.ofList rest]
  | '$' :: 'H' :: 'O' :: 'M' :: 'E' :: rest => Path.join [environment.home, String.ofList rest]
  | _ => path

/-- A base folder is the one that the environment names, if that is an absolute path, or else a
folder below the home folder. -/
def baseFolder (environment : Environment) (name : String) (below : List String) : String :=
  let named := environment.expandHome (environment.get name)
  if Path.isAbsolute named then named else Path.join (environment.home :: below)

def settingsFolder (environment : Environment) : String :=
  environment.baseFolder "XDG_CONFIG_HOME" [".config"]

def dataFolder (environment : Environment) : String :=
  environment.baseFolder "XDG_DATA_HOME" [".local", "share"]

end Environment

namespace Settings

/-- This is the path of the settings document if nothing else is said. -/
def defaultPath (environment : Environment) : String :=
  Path.join [environment.settingsFolder, "shade", "config.toml"]

def defaults (environment : Environment) : Settings where
  prompt := "> "
  historyFile := Path.join [environment.dataFolder, "shade", ".shade_history"]
  color := true
  verbose := false
  showTokens := false

/-- This gives a setting its value. A name that is no setting changes nothing, and a value of the
wrong sort has no result. -/
def assign (settings : Settings) (name : String) (value : SettingValue) : Option Settings :=
  match name, value with
  | "prompt", .text text => some { settings with prompt := text }
  | "history_file", .text text => some { settings with historyFile := text }
  | "color", .flag flag => some { settings with color := flag }
  | "verbose", .flag flag => some { settings with verbose := flag }
  | "show_tokens", .flag flag => some { settings with showTokens := flag }
  | _, _ => none

def names : List String := ["prompt", "history_file", "color", "verbose", "show_tokens"]

/-- This is the small letter that a character differs from in case only, among the letters of the
names of settings. The long s and the kelvin sign are such characters, too. -/
def smallLetter (character : Char) : Char :=
  match character with
  | '\u017F' => 's'
  | '\u212A' => 'k'
  | character => character.toLower

/-- Names of settings are matched without regard to case. -/
def settingName? (part : String) : Option String :=
  names.find? fun name => name.toList == part.toList.map smallLetter

/-- This assigns the items of a document in order. A table in place of a setting has the wrong
sort. -/
def assignAll (settings : Settings) : List SettingItem → Option Settings
  | [] => some settings
  | item :: items =>
      match item.key with
      | [] => settings.assignAll items
      | part :: below =>
          match settingName? part with
          | none => settings.assignAll items
          | some name =>
              match settings.assign name (if below.isEmpty then item.value else .table) with
              | some settings => settings.assignAll items
              | none => none

/-- These are the keys of a document that name no setting. -/
def unknownKeys (items : List SettingItem) : List (List String) :=
  (items.map SettingItem.key).filter fun key =>
    match key with
    | [part] => (settingName? part).isNone
    | _ => true

/-- An empty prompt and an empty path stand for the default ones. -/
def completed (settings defaults : Settings) : Settings :=
  { settings with
    prompt := if settings.prompt.isEmpty then defaults.prompt else settings.prompt
    historyFile :=
      if settings.historyFile.isEmpty then defaults.historyFile else settings.historyFile }

/-- This reads the content of the document at a path on top of the default settings. A document
that is not there has no settings. -/
def ofContent (defaults : Settings) (path : String) (content : Except FileProblem Bytes) :
    Except SettingsProblem (Option Settings) :=
  match content with
  | .error .notFound => .ok none
  | .error problem => .error (.unreadable path problem)
  | .ok content =>
      match Document.items? content with
      | none => .error .malformed
      | some items =>
          match defaults.assignAll items with
          | none => .error .malformed
          | some settings =>
              match unknownKeys items with
              | [] => .ok (some (settings.completed defaults))
              | keys => .error (.unknownKeys path keys)

/-- The references in the path of the history file are expanded. -/
def expanded (environment : Environment) (settings : Settings) : Settings :=
  { settings with historyFile := environment.expand settings.historyFile }

/-- This loads the settings from the document at a path, whose references are expanded. Without a
document the default settings are taken as they are. -/
def load (environment : Environment) (files : FileTree) (path : String) :
    Except SettingsProblem Settings :=
  let path := environment.expand path
  let defaults := defaults environment
  match ofContent defaults path (files.read path) with
  | .ok (some settings) => .ok (settings.expanded environment)
  | .ok none => .ok defaults
  | .error problem => .error problem

/-- The settings and where they are found depend on these names of the environment, and on those
that the settings refer to. -/
def environmentNames : List String := ["HOME", "XDG_CONFIG_HOME", "XDG_DATA_HOME", "SHADE_CONFIG"]

/-- This is the path that the environment names, or the default one. -/
def environmentPath (environment : Environment) : String :=
  let named := environment.get "SHADE_CONFIG"
  if named.isEmpty then defaultPath environment else named

end Settings

end Reckon
