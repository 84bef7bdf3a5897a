/-
This file defines how a terminal tells the bytes that it shows from those of a control sequence.
-/

namespace Reckon.Text

/-- This is where a terminal stands in a control sequence. On the ground it stands in none. -/
inductive TerminalMode where
  | ground
  | escape
  | escapeIntermediate
  | controlEntry
  | controlParameter
  | controlIntermediate
  | deviceEntry
  | deviceParameter
  | deviceIntermediate
  | deviceString
  | commandString
  | otherString
  deriving DecidableEq

/-- A sequence goes on after these bytes as if they were not there. -/
def isSkipped (byte : UInt8) : Bool :=
  byte < 0x20 || byte == 0x7F

def isIntermediate (byte : UInt8) : Bool :=
  0x20 ≤ byte && byte < 0x30

def isParameter (byte : UInt8) : Bool :=
  0x30 ≤ byte && byte < 0x40

/-- This byte after an escape says which kind of sequence it begins. -/
def TerminalMode.ofIntroducer (byte : UInt8) : TerminalMode :=
  if byte == 0x50 then .deviceEntry
  else if byte == 0x58 || byte == 0x5E || byte == 0x5F then .otherString
  else if byte == 0x5B then .controlEntry
  else if byte == 0x5D then .commandString
  else .ground

/-- A sequence that names a device turns into a string when its entry ends. Blank control bytes end
it too when they come first. -/
def TerminalMode.afterDevice (mode : TerminalMode) (byte : UInt8) : TerminalMode :=
  if mode == .deviceEntry && 0x08 ≤ byte && byte ≤ 0x0D then .deviceString
  else if isSkipped byte then mode
  else if isIntermediate byte then .deviceIntermediate
  else if isParameter byte && mode != .deviceIntermediate then .deviceParameter
  else .deviceString

/-- A control sequence ends with the first byte that is neither a parameter nor an intermediate
one. -/
def TerminalMode.afterControl (mode : TerminalMode) (byte : UInt8) : TerminalMode :=
  if isSkipped byte then mode
  else if isIntermediate byte then .controlIntermediate
  else if isParameter byte && mode != .controlIntermediate then .controlParameter
  else .ground

/-- This is the mode after an ASCII byte that neither begins nor cancels a sequence. -/
def TerminalMode.afterAscii (mode : TerminalMode) (byte : UInt8) : TerminalMode :=
  match mode with
  | .ground => .ground
  | .escape =>
    if isSkipped byte then .escape
    else if isIntermediate byte then .escapeIntermediate
    else .ofIntroducer byte
  | .escapeIntermediate =>
    if isSkipped byte || isIntermediate byte then .escapeIntermediate else .ground
  | .controlEntry | .controlParameter | .controlIntermediate => mode.afterControl byte
  | .deviceEntry | .deviceParameter | .deviceIntermediate => mode.afterDevice byte
  | .commandString => if byte == 0x07 then .ground else .commandString
  | .deviceString => .deviceString
  | .otherString => .otherString

/-- A string of these kinds may hold bytes beyond ASCII. -/
def TerminalMode.holdsText (mode : TerminalMode) : Bool :=
  mode == .commandString || mode == .deviceString

/-- One byte beyond ASCII ends a string. Elsewhere such bytes can begin a sequence. -/
def TerminalMode.afterHigh (mode : TerminalMode) (byte : UInt8) : TerminalMode :=
  if mode.holdsText then
    if byte == 0x9C then .ground else mode
  else if byte == 0x90 then .deviceEntry
  else if byte == 0x98 || byte == 0x9E || byte == 0x9F then .otherString
  else if byte == 0x9B then .controlEntry
  else if byte == 0x9D then .commandString
  else .ground

/-- Two bytes cancel every sequence. An escape begins a new one, except where a device is about to
be named. -/
def TerminalMode.next (mode : TerminalMode) (byte : UInt8) : TerminalMode :=
  if 0x80 ≤ byte then mode.afterHigh byte
  else if byte == 0x18 || byte == 0x1A then .ground
  else if byte == 0x1B then
    if mode == .deviceEntry then .deviceString else .escape
  else mode.afterAscii byte

end Reckon.Text
