import IdRegistry.Pattern.Reading

namespace IdRegistry.Pattern

inductive Atom where
  /-- A character; `byCode` if two hexadecimal digits stand for it. -/
  | literal (c : Char) (byCode : Bool)
  | set (set : CharacterClass)
  | condition (look : Look)
deriving DecidableEq, Repr

inductive NamedClass where
  | alnum
  | alpha
  | ascii
  | blank
  | cntrl
  | digit
  | graph
  | lower
  | print
  | punct
  | space
  | upper
  | word
  | xdigit
deriving DecidableEq, Repr

namespace NamedClass

def ofName? (name : String) : Option NamedClass :=
  if name = "alnum" then some .alnum
  else if name = "alpha" then some .alpha
  else if name = "ascii" then some .ascii
  else if name = "blank" then some .blank
  else if name = "cntrl" then some .cntrl
  else if name = "digit" then some .digit
  else if name = "graph" then some .graph
  else if name = "lower" then some .lower
  else if name = "print" then some .print
  else if name = "punct" then some .punct
  else if name = "space" then some .space
  else if name = "upper" then some .upper
  else if name = "word" then some .word
  else if name = "xdigit" then some .xdigit
  else none

def set : NamedClass → CharacterClass
  | .alnum => .ofRanges [(0x30, 0x39), (0x41, 0x5A), (0x61, 0x7A)]
  | .alpha => .ofRanges [(0x41, 0x5A), (0x61, 0x7A)]
  | .ascii => .ofRanges [(0x0, 0x7F)]
  | .blank => .ofRanges [(0x9, 0x9), (0x20, 0x20)]
  | .cntrl => .ofRanges [(0x0, 0x1F), (0x7F, 0x7F)]
  | .digit => .ofRanges [(0x30, 0x39)]
  | .graph => .ofRanges [(0x21, 0x7E)]
  | .lower => .ofRanges [(0x61, 0x7A)]
  | .print => .ofRanges [(0x20, 0x7E)]
  | .punct => .ofRanges [(0x21, 0x2F), (0x3A, 0x40), (0x5B, 0x60), (0x7B, 0x7E)]
  | .space => .ofRanges [(0x9, 0xD), (0x20, 0x20)]
  | .upper => .ofRanges [(0x41, 0x5A)]
  | .word => .ofRanges [(0x30, 0x39), (0x41, 0x5A), (0x5F, 0x5F), (0x61, 0x7A)]
  | .xdigit => .ofRanges [(0x30, 0x39), (0x41, 0x46), (0x61, 0x66)]

end NamedClass

def isSign (c : Char) : Bool := "\\.+*?()|[]\x7b\x7d^$#&-~".toList.contains c

/-- A character that a backslash leaves as it is. Letters and digits are set aside for meanings. -/
def isPlainEscape (c : Char) : Bool :=
  isSign c || c.toNat < 0x80 && !c.isAlphanum && c ≠ '<' && c ≠ '>'

def letterEscape? (c : Char) : Option Char :=
  if c = 'a' then some '\x07'
  else if c = 'f' then some '\x0c'
  else if c = 't' then some '\t'
  else if c = 'n' then some '\n'
  else if c = 'r' then some '\r'
  else if c = 'v' then some '\x0b'
  else none

def isHexDigit (c : Char) : Bool :=
  c.isDigit || 'a' ≤ c && c ≤ 'f' || 'A' ≤ c && c ≤ 'F'

def hexDigitValue (c : Char) : Nat :=
  if c.isDigit then c.toNat - '0'.toNat else c.toLower.toNat - 'a'.toNat + 10

def hexCharacter? (digits : List Char) : Option Char :=
  let code := digits.foldl (fun code c => code * 16 + hexDigitValue c) 0
  if code.isValidChar then some (Char.ofNat code) else none

namespace Reading

def hexDigits : Nat → Reading (List Char)
  | 0 => return []
  | count + 1 => do
      match ← next? with
      | none => failFrom .unfinishedEscape (← here)
      | some c =>
          if isHexDigit c then
            advanceOver
            return c :: (← hexDigits count)
          else failAtCharacter .invalidHexDigit

def hexFixed (count : Nat) : Reading Char := do
  let start ← here
  match hexCharacter? (← hexDigits count) with
  | some c => return c
  | none => failFrom .invalidHex start

def hexInBraces : Reading Char := do
  let brace ← here
  let opening ← characterSpan
  advanceOver
  let digits ← passWhile isHexDigit (← remaining)
  match ← next? with
  | none => failFrom .unfinishedEscape brace
  | some '\x7d' =>
      let stop ← here
      advanceOver
      if digits.isEmpty then failFrom .emptyHex brace
      else
        match hexCharacter? digits with
        | some c => return c
        | none => fail .invalidHex ⟨opening.stop, stop⟩
  | some _ => failAtCharacter .invalidHexDigit

def hex (letter : Char) : Reading Atom := do
  advanceOver
  match ← next? with
  | none => failFrom .unfinishedEscape (← here)
  | some '\x7b' => return .literal (← hexInBraces) false
  | some _ =>
      if letter = 'x' then return .literal (← hexFixed 2) true
      else return .literal (← hexFixed (if letter = 'u' then 4 else 8)) false

/-- A class by a property of its characters. No properties are known. -/
def property (start : Position) : Reading Atom := do
  advanceOver
  match ← next? with
  | none => failFrom .unfinishedEscape (← here)
  | some '\\' => failAtCharacter .invalidPropertyName
  | some '\x7b' =>
      advanceOver
      let _ ← passWhile (· ≠ '\x7d') (← remaining)
      if (← next?).isNone then failFrom .unfinishedEscape (← here)
      advance
  | some _ => advanceOver
  noteUseless (if (← flags).unicode then .unknownProperty else .unicodeNotAllowed) (← spanFrom start)
  return .set .none

/-- A class by a letter, which is a capital if the class holds all other characters. -/
def letterClass (start : Position) (letter : Char) : Reading Atom := do
  advance
  let named : NamedClass :=
    if letter.toLower = 'd' then .digit else if letter.toLower = 's' then .space else .word
  let negated := letter.isUpper
  if (← flags).unicode then noteUseless .noUnicodeClasses (← spanFrom start)
  else if negated then noteUseless .bytesNotAllowed (← spanFrom start)
  return .set (if negated then .complement named.set else named.set)

/-- A condition on words. Only words of Latin letters are known. -/
def wordCondition (look : WordLook) : Reading Atom := do
  if (← flags).unicode then modify fun reader => { reader with needsAlphabets := true }
  return .condition (.word look)

def wordLook? (name : String) : Option WordLook :=
  if name = "start" then some .wordStart
  else if name = "end" then some .wordEnd
  else if name = "start-half" then some .noneBefore
  else if name = "end-half" then some .noneAfter
  else none

/-- A condition on words in braces, after the letter `b`. Braces around anything else tell how often
the letter itself counts, and are left for later. -/
def bracedWordLook (start : Position) : Reading WordLook := do
  let before ← get
  let brace ← here
  let isLetter := fun (c : Char) => c.isAlpha || c = '-'
  advanceOver
  let first ← here
  match ← next? with
  | none => failFrom .unfinishedWordLook start
  | some c =>
      if isLetter c then
        let name ← passWhile isLetter (← remaining)
        if (← next?) ≠ some '\x7d' then failFrom .unclosedWordLook brace
        let stop ← here
        advance
        match wordLook? (String.ofList name) with
        | some look => return look
        | none => fail .unknownWordLook ⟨first, stop⟩
      else
        set before
        return .boundary

def simpleEscape (start : Position) (c : Char) : Reading Atom := do
  advance
  if isPlainEscape c then return .literal c false
  else
    match letterEscape? c with
    | some found => return .literal found false
    | none =>
        if c = 'A' then return .condition .textStart
        else if c = 'z' then return .condition .textEnd
        else if c = 'B' then wordCondition .notBoundary
        else if c = '<' then wordCondition .wordStart
        else if c = '>' then wordCondition .wordEnd
        else if c = 'b' then
          let look ← if (← next?) = some '\x7b' then bracedWordLook start else pure .boundary
          wordCondition look
        else failFrom .unknownEscape start

def escape : Reading (Atom × Span) := do
  let start ← here
  advance
  match ← next? with
  | none => failFrom .unfinishedEscape start
  | some c =>
      let atom ←
        if c.isDigit then fail .backreference ⟨start, (← characterSpan).stop⟩
        else if c = 'x' ∨ c = 'u' ∨ c = 'U' then hex c
        else if c = 'p' ∨ c = 'P' then property start
        else if "dswDSW".toList.contains c then letterClass start c
        else simpleEscape start c
      return (atom, ← spanFrom start)

end Reading

end IdRegistry.Pattern
