import IdRegistry.Pattern.Basic
import IdRegistry.Pattern.Fault
import IdRegistry.Unicode.Blank

namespace IdRegistry.Pattern

open Unicode (isBlank)

/-! A pattern is read from left to right. The first fault in its form ends reading. What has the right form
but no use is kept aside, the first of it, and counts only if the form has no fault to its end.
-/

structure Flags where
  caseless : Bool
  /-- Lines begin and end at line breaks. -/
  multiline : Bool
  /-- A dot stands for line breaks too. -/
  dotAll : Bool
  /-- Lines can end with a carriage return. -/
  returns : Bool
  /-- Classes are about all characters, not about bytes. -/
  unicode : Bool
  /-- Blanks and comments in the pattern mean nothing. -/
  loose : Bool
deriving DecidableEq, Repr

def Flags.start : Flags := ⟨false, false, false, false, true, false⟩

structure Reader where
  rest : List Char
  position : Position
  flags : Flags
  names : List (List Char × Span)
  /-- The first part that has no use. -/
  useless : Option Fault
  /-- Whether something depends on words of all alphabets. -/
  needsAlphabets : Bool

abbrev Reading := StateT Reader (Except Fault)

namespace Reader

def start (pattern : List Char) : Reader := ⟨pattern, .start, .start, [], none, false⟩

def advance (reader : Reader) : Reader :=
  match reader.rest with
  | [] => reader
  | c :: rest => { reader with rest := rest, position := reader.position.after c }

def skip (position : Position) (inComment : Bool) : List Char → Position × List Char
  | [] => (position, [])
  | c :: rest =>
      if inComment then skip (position.after c) (c ≠ '\n') rest
      else if isBlank c then skip (position.after c) false rest
      else if c = '#' then skip (position.after c) true rest
      else (position, c :: rest)

/-- Behind blanks and comments, if they mean nothing. -/
def skipBlanks (reader : Reader) : Reader :=
  if reader.flags.loose then
    let (position, rest) := skip reader.position false reader.rest
    { reader with rest := rest, position := position }
  else reader

def spanFrom (reader : Reader) (start : Position) : Span := ⟨start, reader.position⟩

def characterSpan (reader : Reader) : Span := ⟨reader.position, reader.advance.position⟩

end Reader

namespace Reading

def next? : Reading (Option Char) := return (← get).rest.head?

def here : Reading Position := return (← get).position

def flags : Reading Flags := return (← get).flags

def setFlags (flags : Flags) : Reading Unit := modify fun reader => { reader with flags := flags }

def advance : Reading Unit := modify Reader.advance

def skipBlanks : Reading Unit := modify Reader.skipBlanks

/-- Pass the next character and what follows it without meaning anything. -/
def advanceOver : Reading Unit := modify fun reader => reader.advance.skipBlanks

def spanFrom (start : Position) : Reading Span := return (← get).spanFrom start

def characterSpan : Reading Span := return (← get).characterSpan

def fail {α : Type} (flaw : Flaw) (span : Span) : Reading α := throw ⟨flaw, span, none⟩

def failFrom {α : Type} (flaw : Flaw) (start : Position) : Reading α := do
  fail flaw (← spanFrom start)

def failAtCharacter {α : Type} (flaw : Flaw) : Reading α := do
  fail flaw (← characterSpan)

def noteUseless (flaw : Flaw) (span : Span) : Reading Unit :=
  modify fun reader =>
    { reader with useless := reader.useless.or (some ⟨flaw, span, none⟩) }

def passes (text : String) : Reading Bool := do
  let reader ← get
  if text.toList.isPrefixOf reader.rest then
    set (text.toList.foldl (fun (reader : Reader) _ => reader.advance) reader)
    return true
  else return false

/-- Pass the characters that follow as long as they are of a kind, together with what means nothing
between them, at most so many. -/
def passWhile (kind : Char → Bool) : Nat → Reading (List Char)
  | 0 => return []
  | count + 1 => do
      match ← next? with
      | some c =>
          if kind c then
            advanceOver
            return c :: (← passWhile kind count)
          else return []
      | none => return []

def remaining : Reading Nat := return (← get).rest.length

end Reading

end IdRegistry.Pattern
