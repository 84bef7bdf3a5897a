/-
This file defines token buffers: the tokens of a source text in order, found by their handles.
-/

import Reckon.Fault
import Reckon.Token.Basic

namespace Reckon

open Text

/-- An entry of a buffer is a token without its text. -/
structure Entry where
  kind : Kind
  span : Span
  deriving DecidableEq, Repr, Inhabited

/-- A handle is the position of an entry in its buffer. -/
abbrev Handle := Nat

/-- A buffer that was read from a text ends with the end of input. -/
structure Buffer where
  source : Bytes
  entries : Array Entry
  deriving Repr, Inhabited

/-- This is the part of a source text that a span delimits. -/
def Span.slice (span : Span) (source : Bytes) : Except Fault Bytes :=
  if 0 ≤ span.start.offset ∧ span.start.offset ≤ span.stop.offset ∧
      span.stop.offset ≤ source.size then
    .ok (source.extract span.start.offset.toNat span.stop.offset.toNat)
  else .error .outOfBounds

namespace Buffer

/-- This pairs each kind with its span. -/
def ofColumns (source : Bytes) (kinds : List Kind) (spans : List Span) : Except Fault Buffer :=
  if kinds.length = spans.length then
    .ok ⟨source, (List.zipWith Entry.mk kinds spans).toArray⟩
  else .error .unevenBuffer

def size (buffer : Buffer) : Nat := buffer.entries.size

/-- This is the position of the last entry, one before the first when there is none. -/
def last (buffer : Buffer) : Int := buffer.size - 1

def isValid (buffer : Buffer) (handle : Handle) : Bool := handle < buffer.size

def entry (buffer : Buffer) (handle : Handle) : Except Fault Entry :=
  match buffer.entries[handle]? with
  | some entry => .ok entry
  | none => .error .outOfBounds

def kind (buffer : Buffer) (handle : Handle) : Except Fault Kind :=
  (buffer.entry handle).map Entry.kind

def span (buffer : Buffer) (handle : Handle) : Except Fault Span :=
  (buffer.entry handle).map Entry.span

/-- This is the source text that a span delimits. -/
def slice (buffer : Buffer) (span : Span) : Except Fault Bytes := span.slice buffer.source

def lexeme (buffer : Buffer) (handle : Handle) : Except Fault Bytes :=
  match buffer.entry handle with
  | .ok entry => buffer.slice entry.span
  | .error fault => .error fault

/-- This is the token of an entry. -/
def materialize (buffer : Buffer) (entry : Entry) : Except Fault Token :=
  (buffer.slice entry.span).map fun lexeme => ⟨entry.kind, lexeme, entry.span⟩

def token (buffer : Buffer) (handle : Handle) : Except Fault Token :=
  match buffer.entry handle with
  | .ok entry => buffer.materialize entry
  | .error fault => .error fault

/-- These are all tokens, the end of input included. -/
def tokens (buffer : Buffer) : Except Fault (List Token) :=
  buffer.entries.toList.mapM buffer.materialize

end Buffer

end Reckon
