namespace IdRegistry.Markup

inductive ByteOrder where
  | big
  | little
deriving DecidableEq, Repr

inductive Encoding where
  | utf8
  | latin1
  | utf16
  | ascii
deriving DecidableEq, Repr

/-- A UTF-8 sequence under way: how many bytes are missing, the value so far, and the least value
that a sequence of this length may have. -/
structure Utf8Partial where
  missing : Nat
  value : Nat
  least : Nat
deriving DecidableEq, Repr

/-- A UTF-16 sequence under way: the units that are complete, at most one, which is a high
surrogate, and the first byte of the next unit. -/
structure Utf16Partial where
  high : Option Nat
  byte : Option Nat
deriving DecidableEq, Repr

/-- What has been found out about the encoding, and the character under way. -/
inductive Decoder where
  | opening
  /-- After the first byte of a mark that orders the bytes of 16-bit units. -/
  | halfMark (order : ByteOrder)
  /-- UTF-8; `marked` if a mark said so, `untouched` before the first character. -/
  | utf8 (marked untouched : Bool) (part : Utf8Partial)
  | latin1
  | ascii
  | utf16 (order : ByteOrder) (part : Utf16Partial)
deriving DecidableEq, Repr

def scalar? (value : Nat) : Option Char :=
  if h : value.isValidChar then some (Char.ofNatAux value h) else none

def Utf8Partial.none : Utf8Partial := ⟨0, 0, 0⟩

def Utf8Partial.step (part : Utf8Partial) (byte : Nat) : Option (Utf8Partial × Option Char) :=
  if part.missing = 0 then
    if byte < 0x80 then some (.none, scalar? byte)
    else if byte < 0xC0 then Option.none
    else if byte < 0xE0 then some (⟨1, byte - 0xC0, 0x80⟩, Option.none)
    else if byte < 0xF0 then some (⟨2, byte - 0xE0, 0x800⟩, Option.none)
    else if byte < 0xF8 then some (⟨3, byte - 0xF0, 0x10000⟩, Option.none)
    else Option.none
  else if byte < 0x80 ∨ 0xC0 ≤ byte then Option.none
  else
    let value := part.value * 0x40 + (byte - 0x80)
    if part.missing = 1 then
      if value < part.least then Option.none
      else (scalar? value).map fun c => (.none, some c)
    else some (⟨part.missing - 1, value, part.least⟩, Option.none)

def Utf16Partial.none : Utf16Partial := ⟨Option.none, Option.none⟩

def Utf16Partial.unit (high : Option Nat) (unit : Nat) : Option (Utf16Partial × Option Char) :=
  match high with
  | Option.none =>
      if 0xD800 ≤ unit ∧ unit < 0xDC00 then some (⟨some unit, Option.none⟩, Option.none)
      else (scalar? unit).map fun c => (.none, some c)
  | some first =>
      if 0xDC00 ≤ unit ∧ unit < 0xE000 then
        (scalar? (0x10000 + (first - 0xD800) * 0x400 + (unit - 0xDC00))).map
          fun c => (.none, some c)
      else Option.none

def Utf16Partial.step (order : ByteOrder) (part : Utf16Partial) (byte : Nat) :
    Option (Utf16Partial × Option Char) :=
  match part.byte with
  | Option.none => some (⟨part.high, some byte⟩, Option.none)
  | some first =>
      unit part.high (match order with
        | .big => first * 0x100 + byte
        | .little => byte * 0x100 + first)

namespace Decoder

/-- One more byte of a document in UTF-8. A byte order mark is no character of the document. -/
def stepUtf8 (marked untouched : Bool) (part : Utf8Partial) (byte : Nat) :
    Option (Decoder × Option Char) :=
  match part.step byte with
  | none => none
  | some (part, none) => some (.utf8 marked untouched part, none)
  | some (part, some c) =>
      if untouched ∧ c = '\uFEFF' then some (.utf8 true false part, none)
      else some (.utf8 marked false part, some c)

/-- Read one byte: the decoder after it, and the character that it completes. There is no result
if the bytes stand for no character. -/
def step (decoder : Decoder) (byte : UInt8) : Option (Decoder × Option Char) :=
  let byte := byte.toNat
  match decoder with
  | .opening =>
      if byte = 0xFE then some (.halfMark .big, none)
      else if byte = 0xFF then some (.halfMark .little, none)
      else stepUtf8 false true .none byte
  | .halfMark .big => if byte = 0xFF then some (.utf16 .big .none, none) else none
  | .halfMark .little => if byte = 0xFE then some (.utf16 .little .none, none) else none
  | .utf8 marked untouched part => stepUtf8 marked untouched part byte
  | .latin1 => some (.latin1, some (Char.ofNat byte))
  | .ascii => if byte < 0x80 then some (.ascii, some (Char.ofNat byte)) else none
  | .utf16 order part =>
      match part.step order byte with
      | none => none
      | some (part, found) => some (.utf16 order part, found)

/-- Whether a label names an encoding: case does not matter, and the longer of the two is cut to the
length of the shorter. -/
def labelled (name : String) (label : List Char) : Bool :=
  (name.toList.zip label).all fun (expected, c) => expected = c.toLower

def encoding? (label : List Char) : Option Encoding :=
  if labelled "utf-8" label || labelled "utf8" label then some .utf8
  else if labelled "iso-8859-1" label || labelled "latin1" label then some .latin1
  else if labelled "utf-16" label || labelled "utf16" label then some .utf16
  else if labelled "ascii" label || labelled "us-ascii" label then some .ascii
  else none

/-- Go on in the declared encoding. A declaration may not contradict a byte order mark, and cannot
introduce 16-bit units. -/
def declare (decoder : Decoder) (encoding : Encoding) : Option Decoder :=
  match decoder, encoding with
  | .utf8 true untouched part, .utf8 => some (.utf8 true untouched part)
  | .utf8 true _ _, _ => none
  | .utf8 false untouched part, .utf8 => some (.utf8 false untouched part)
  | .utf8 false _ _, .latin1 => some .latin1
  | .utf8 false _ _, .ascii => some .ascii
  | .utf16 order part, .utf16 => some (.utf16 order part)
  | _, _ => none

end Decoder

end IdRegistry.Markup
