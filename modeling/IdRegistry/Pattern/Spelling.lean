import IdRegistry.Pattern.Bracket
import IdRegistry.Pattern.Group

namespace IdRegistry

namespace Pattern

def ofParts : List Pattern → Pattern
  | [] => .empty
  | [part] => part
  | part :: earlier => .sequence (ofParts earlier) part

structure Level where
  choices : Option Pattern
  /-- The parts after it, newest first. Flags are parts, but cannot be repeated. -/
  parts : List (Option Pattern)
deriving DecidableEq, Repr

namespace Level

def start : Level := ⟨none, []⟩

def add (level : Level) (part : Pattern) : Level :=
  { level with parts := some part :: level.parts }

def addFlags (level : Level) : Level := { level with parts := none :: level.parts }

def pattern (level : Level) : Pattern :=
  let last := ofParts (level.parts.filterMap id)
  match level.choices with
  | none => last
  | some choices => .choice choices last

def nextChoice (level : Level) : Level := ⟨some level.pattern, []⟩

def takePart? (level : Level) : Option (Pattern × Level) :=
  match level.parts with
  | some part :: earlier => some (part, { level with parts := earlier })
  | _ => none

end Level

/-- A group that has begun: what stands before it, the flags there, and its parenthesis. -/
structure OpenGroup where
  outer : Level
  flags : Flags
  opened : Span
deriving DecidableEq, Repr

namespace Reading

def literalPattern (c : Char) (byCode : Bool) (span : Span) : Reading Pattern := do
  let flags ← flags
  if flags.unicode then
    if flags.caseless then noteUseless .noUnicodeCase span
    return .one (.single c)
  else
    if byCode && 0x80 ≤ c.toNat then noteUseless .bytesNotAllowed span
    return .one (if flags.caseless then .caseless (.single c) else .single c)

def atomPattern (atom : Atom) (span : Span) : Reading Pattern := do
  match atom with
  | .literal c byCode => literalPattern c byCode span
  | .set set => return .one set
  | .condition look => return .condition look

/-- The pattern of a dot: any character, but none that ends a line unless flags say so. -/
def dot (span : Span) : Reading Pattern := do
  let flags ← flags
  if !flags.unicode then noteUseless .bytesNotAllowed span
  let ends : CharacterClass :=
    if flags.dotAll then .none
    else if flags.returns then .ofRanges [(0xA, 0xA), (0xD, 0xD)]
    else .ofRanges [(0xA, 0xA)]
  return .one (.complement ends)

/-- The pattern of a character that is no sign of its own, or of a sign for a place or a character. -/
def single (c : Char) : Reading Pattern := do
  if c = '\\' then
    let (atom, span) ← escape
    atomPattern atom span
  else
    let span ← characterSpan
    advance
    let flags ← flags
    if c = '.' then dot span
    else if c = '^' then
      return .condition (if flags.multiline then .lineStart flags.returns else .textStart)
    else if c = '$' then
      return .condition (if flags.multiline then .lineEnd flags.returns else .textEnd)
    else literalPattern c false span

def takePart (level : Level) : Reading (Pattern × Level) := do
  match level.takePart? with
  | some found => return found
  | none => failFrom .nothingToRepeat (← here)

def passQuestion : Reading Unit := do
  if (← next?) = some '?' then advance

def signRepetition (level : Level) (least : Nat) (most : Option Nat) : Reading Level := do
  let (part, level) ← takePart level
  advance
  passQuestion
  return level.add (.repeated part least most)

def countLimit : Nat := 4294967295

/-- A number in decimal. A missing or too large number is a fault that is judged later. -/
def number : Reading (Except Fault Nat) := do
  let length ← remaining
  let _ ← passWhile Unicode.isBlank length
  let start ← here
  let digits ← passWhile Char.isDigit length
  let span ← spanFrom start
  let _ ← passWhile Unicode.isBlank length
  match Text.natural? digits with
  | none => return .error ⟨.repetitionCount, span, none⟩
  | some value =>
      if value ≤ countLimit then return .ok value else return .error ⟨.invalidDecimal, span, none⟩

def counts (start : Position) : Reading (Nat × Option Nat) := do
  let least ← number
  match ← next? with
  | none => failFrom .unclosedRepetition start
  | some ',' =>
      advanceOver
      match ← next? with
      | none => failFrom .unclosedRepetition start
      | some '\x7d' => return (← liftExcept least, none)
      | some _ =>
          let least ← liftExcept least
          let most ← liftExcept (← number)
          return (least, some most)
  | some _ =>
      let least ← liftExcept least
      return (least, some least)
where
  /-- A fault that was put off. -/
  liftExcept (result : Except Fault Nat) : Reading Nat := fun reader =>
    result.map fun value => (value, reader)

def countedRepetition (level : Level) : Reading Level := do
  let start ← here
  let (part, level) ← takePart level
  advanceOver
  if (← next?).isNone then failFrom .unclosedRepetition start
  let (least, most) ← counts start
  if (← next?) ≠ some '\x7d' then failFrom .unclosedRepetition start
  advanceOver
  passQuestion
  if most.any (· < least) then failFrom .repetitionOrder start
  return level.add (.repeated part least most)

/-- The rest of a pattern, inside of groups that have begun, innermost first. -/
def patternRest (fuel : Nat) (groups : List OpenGroup) (level : Level) : Reading Pattern :=
  match fuel with
  | 0 => return level.pattern
  | fuel + 1 => do
      skipBlanks
      match ← next? with
      | none =>
          match groups with
          | [] => return level.pattern
          | group :: _ => fail .unclosedGroup group.opened
      | some '(' =>
          let parenthesis ← characterSpan
          let outside ← flags
          match ← opening with
          | .flags flags =>
              setFlags flags
              patternRest fuel groups level.addFlags
          | .group flags =>
              setFlags flags
              patternRest fuel (⟨level, outside, parenthesis⟩ :: groups) .start
      | some ')' =>
          match groups with
          | [] => failAtCharacter .unopenedGroup
          | group :: groups =>
              setFlags group.flags
              advance
              patternRest fuel groups (group.outer.add level.pattern)
      | some '|' =>
          advance
          patternRest fuel groups level.nextChoice
      | some '[' =>
          let set ← bracket (2 * (← remaining) + 2)
          patternRest fuel groups (level.add (.one set))
      | some '?' => patternRest fuel groups (← signRepetition level 0 (some 1))
      | some '*' => patternRest fuel groups (← signRepetition level 0 none)
      | some '+' => patternRest fuel groups (← signRepetition level 1 none)
      | some '\x7b' => patternRest fuel groups (← countedRepetition level)
      | some c => patternRest fuel groups (level.add (← single c))

end Reading

inductive Refusal where
  | fault (fault : Fault)
  /-- The pattern depends on words of all alphabets. -/
  | alphabets
  | tooLarge
deriving DecidableEq, Repr

/-- The number of bytes that a search may take to prepare. -/
def sizeLimit : Nat := 10485760

/-- About how many bytes each step of a search takes. -/
def stepBytes : Nat := 32

def Refusal.message (refusal : Refusal) (text : List Char) : List Char :=
  match refusal with
  | .fault found => found.report text
  | .alphabets => "error building NFA".toList
  | .tooLarge => "Compiled regex exceeds size limit of 10485760 bytes.".toList

def ofText (text : List Char) : Except Refusal Pattern :=
  match (Reading.patternRest (text.length + 1) [] .start).run (.start text) with
  | .error fault => .error (.fault fault)
  | .ok (pattern, reader) =>
      match reader.useless with
      | some fault => .error (.fault fault)
      | none =>
          if sizeLimit < stepBytes * pattern.size then .error .tooLarge
          else if reader.needsAlphabets then .error .alphabets
          else .ok pattern

end Pattern

end IdRegistry
