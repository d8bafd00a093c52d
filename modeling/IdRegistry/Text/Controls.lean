namespace IdRegistry.Text

/-! Some characters do not show on a terminal but steer it, most of them in sequences that begin with the
escape character. A tab or a line break inside a sequence shows nevertheless, and with it the characters
that follow, up to the next one that cannot be read; the sequence goes on after that.
-/

inductive SequencePart where
  | entry
  | parameters
  | intermediates
  /-- The sequence makes no sense. -/
  | ignored
deriving DecidableEq, Repr

inductive ControlSequence where
  | none
  | escape
  /-- After the escape character and signs that only narrow down what follows. -/
  | escapeIntermediates
  | command (part : SequencePart)
  /-- The head of a text for a device. -/
  | device (part : SequencePart)
  | deviceText
  | systemText
  | privateText
deriving DecidableEq, Repr

def codeWithin (low high : Nat) (c : Char) : Bool := low ≤ c.toNat && c.toNat ≤ high

/-- A character that is no letter, digit or sign but is kept like one. -/
def isLayout (c : Char) : Bool := c = '\t' || c = '\n' || c = '\x0c' || c = '\r'

def isReadable (c : Char) : Bool := codeWithin 0x20 0x7E c || isLayout c || 0x80 ≤ c.toNat

namespace SequencePart

def next (part : SequencePart) (c : Char) : SequencePart :=
  match part with
  | .entry =>
      if codeWithin 0x20 0x2F c then .intermediates
      else if codeWithin 0x30 0x3F c then .parameters
      else .entry
  | .parameters =>
      if codeWithin 0x20 0x2F c then .intermediates
      else if codeWithin 0x3C 0x3F c then .ignored
      else .parameters
  | .intermediates => if codeWithin 0x30 0x3F c then .ignored else .intermediates
  | .ignored => .ignored

end SequencePart

namespace ControlSequence

def afterEscape (c : Char) : ControlSequence :=
  if c = '[' then .command .entry
  else if c = ']' then .systemText
  else if c = 'P' then .device .entry
  else if c = 'X' ∨ c = '^' ∨ c = '_' then .privateText
  else if codeWithin 0x20 0x2F c then .escapeIntermediates
  else if codeWithin 0x30 0x7E c then .none
  else .escape

/-- Whether a character ends a text, which one of its bytes can do. -/
def endsText (c : Char) : Bool := (String.utf8EncodeChar c).contains 0x9C

def next (sequence : ControlSequence) (c : Char) : ControlSequence :=
  if c = '\x18' ∨ c = '\x1a' then .none
  else if c = '\x1b' then .escape
  else
    match sequence with
    | .none => .none
    | .escape => afterEscape c
    | .escapeIntermediates => if codeWithin 0x30 0x7E c then .none else .escapeIntermediates
    | .command part => if codeWithin 0x40 0x7E c then .none else .command (part.next c)
    | .device .ignored => if endsText c then .none else .device .ignored
    | .device part => if codeWithin 0x40 0x7E c then .deviceText else .device (part.next c)
    | .deviceText => if endsText c then .none else .deviceText
    | .systemText => if c = '\x07' then .none else .systemText
    | .privateText => if endsText c then .none else .privateText

def shows (sequence : ControlSequence) (c : Char) : Bool :=
  match sequence with
  | .none => isReadable c
  | .escape => isLayout c
  | .escapeIntermediates => isLayout c
  | .command _ => isLayout c
  | _ => false

/-- The characters that show. `showing` tells whether the character before did. -/
def shown (sequence : ControlSequence) (showing : Bool) : List Char → List Char
  | [] => []
  | c :: rest =>
      if showing && isReadable c then
        c :: shown (if c.toNat < 0x80 then sequence else .none) true rest
      else if sequence.shows c then
        c :: shown (if c.toNat < 0x80 then sequence else .none) true rest
      else shown (sequence.next c) false rest

end ControlSequence

def withoutControls (text : List Char) : List Char := ControlSequence.none.shown false text

end IdRegistry.Text
