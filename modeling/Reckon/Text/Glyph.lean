/-
This file reads bytes as UTF-8 text, one glyph at a time. A byte that starts no
well-formed sequence is a glyph of its own, so every byte belongs to exactly one glyph.
-/

namespace Reckon.Text

/-- A source text is a sequence of bytes, well-formed or not. -/
abbrev Bytes := Array UInt8

/-- This character stands for a byte that starts no well-formed sequence. -/
def replacement : Char := '\uFFFD'

/-- A glyph is a decoded character together with the bytes it was read from. -/
structure Glyph where
  character : Char
  bytes : List UInt8
  deriving DecidableEq, Repr, Inhabited

def Glyph.width (glyph : Glyph) : Nat := glyph.bytes.length

/-- A stray glyph stands for a single byte beyond ASCII. -/
def Glyph.isStray (glyph : Glyph) : Bool :=
  glyph.character == replacement && glyph.width == 1

def Glyph.is (glyph : Glyph) (character : Char) : Bool := glyph.character == character

namespace Utf8

def isTail (byte : UInt8) : Bool := 0x80 ≤ byte && byte ≤ 0xBF

/-- The second byte of a three byte sequence excludes short forms and surrogates. -/
def isSecondOfThree (lead second : UInt8) : Bool :=
  if lead == 0xE0 then 0xA0 ≤ second && second ≤ 0xBF
  else if lead == 0xED then 0x80 ≤ second && second ≤ 0x9F
  else isTail second

/-- The second byte of a four byte sequence excludes short forms and large code points. -/
def isSecondOfFour (lead second : UInt8) : Bool :=
  if lead == 0xF0 then 0x90 ≤ second && second ≤ 0xBF
  else if lead == 0xF4 then 0x80 ≤ second && second ≤ 0x8F
  else isTail second

def payload (byte : UInt8) : Nat := byte.toNat % 0x40

/-- This is the glyph at the start of the bytes `lead :: rest`. -/
def glyph (lead : UInt8) (rest : List UInt8) : Glyph :=
  let stray : Glyph := ⟨replacement, [lead]⟩
  if lead < 0x80 then ⟨Char.ofNat lead.toNat, [lead]⟩
  else if 0xC2 ≤ lead && lead ≤ 0xDF then
    match rest with
    | second :: _ =>
        if isTail second then
          ⟨Char.ofNat (lead.toNat % 0x20 * 0x40 + payload second), [lead, second]⟩
        else stray
    | [] => stray
  else if 0xE0 ≤ lead && lead ≤ 0xEF then
    match rest with
    | second :: third :: _ =>
        if isSecondOfThree lead second && isTail third then
          ⟨Char.ofNat (lead.toNat % 0x10 * 0x1000 + payload second * 0x40 + payload third),
            [lead, second, third]⟩
        else stray
    | _ => stray
  else if 0xF0 ≤ lead && lead ≤ 0xF4 then
    match rest with
    | second :: third :: fourth :: _ =>
        if isSecondOfFour lead second && isTail third && isTail fourth then
          ⟨Char.ofNat (lead.toNat % 0x08 * 0x40000 + payload second * 0x1000 +
              payload third * 0x40 + payload fourth),
            [lead, second, third, fourth]⟩
        else stray
    | _ => stray
  else stray

/-- This reads glyphs after passing over `skip` bytes that belong to the last one. -/
def glyphsAfter (read : List Glyph) : Nat → List UInt8 → List Glyph
  | _, [] => read.reverse
  | skip + 1, _ :: rest => glyphsAfter read skip rest
  | 0, lead :: rest =>
      let next := glyph lead rest
      glyphsAfter (next :: read) (next.width - 1) rest

end Utf8

/-- These are the glyphs of a text from left to right. -/
def Bytes.glyphs (text : Bytes) : List Glyph := Utf8.glyphsAfter [] 0 text.toList

/-- This is the text that the glyphs were read from. -/
def glyphBytes (glyphs : List Glyph) : Bytes := (glyphs.flatMap Glyph.bytes).toArray

/-- A decoded text shows each stray byte as the replacement character. -/
def Bytes.decode (text : Bytes) : String := String.ofList (text.glyphs.map Glyph.character)

/-- A text is well-formed when it has no stray byte. -/
def Bytes.isWellFormed (text : Bytes) : Bool := text.glyphs.all fun glyph => !glyph.isStray

/-- These are the bytes of a string. -/
def encode (text : String) : Bytes := text.toUTF8.data

/-- This holds when every glyph of the text shows a character of the given class. -/
def Bytes.consistsOf (text : Bytes) (predicate : Char → Bool) : Bool :=
  text.glyphs.all fun glyph => predicate glyph.character

end Reckon.Text
