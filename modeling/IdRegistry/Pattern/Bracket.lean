import IdRegistry.Pattern.Escape

namespace IdRegistry.Pattern

inductive SetOperation where
  | intersection
  | difference
  | symmetricDifference
deriving DecidableEq, Repr

def SetOperation.ofSign? (c : Char) : Option SetOperation :=
  if c = '&' then some .intersection
  else if c = '-' then some .difference
  else if c = '~' then some .symmetricDifference
  else none

def SetOperation.apply (operation : SetOperation) (first second : CharacterClass) :
    CharacterClass :=
  match operation with
  | .intersection => .intersection first second
  | .difference => .difference first second
  | .symmetricDifference => .symmetricDifference first second

structure BracketSets where
  /-- What stands before the last sign of an operation, and the operation. -/
  before : Option (CharacterClass × SetOperation)
  /-- What follows it so far. -/
  current : CharacterClass
deriving DecidableEq, Repr

namespace BracketSets

def total (sets : BracketSets) : CharacterClass :=
  match sets.before with
  | none => sets.current
  | some (first, operation) => operation.apply first sets.current

def add (sets : BracketSets) (set : CharacterClass) : BracketSets :=
  { sets with current := .union sets.current set }

def operate (sets : BracketSets) (operation : SetOperation) : BracketSets :=
  ⟨some (sets.total, operation), .none⟩

end BracketSets

namespace Reading

/-- The set of a class that is complete. Bytes beyond ASCII are no characters. -/
def finishSet (span : Span) (negated : Bool) (set : CharacterClass) : Reading CharacterClass := do
  let flags ← flags
  if flags.caseless && flags.unicode then noteUseless .noUnicodeCase span
  let set := if flags.caseless then .caseless set else set
  let set := if negated then .complement set else set
  if !flags.unicode && !set.isAscii then noteUseless .bytesNotAllowed span
  return set

def namedClass? : Reading (Option CharacterClass) := do
  let reader ← get
  match reader.rest with
  | '[' :: ':' :: body =>
      let negated := body.head? = some '^'
      let body := if negated then body.tail else body
      let name := body.takeWhile (· ≠ ':')
      match NamedClass.ofName? (String.ofList name), body.drop name.length with
      | some named, ':' :: ']' :: rest =>
          let length := reader.rest.length - rest.length
          set ((reader.rest.take length).foldl (fun (reader : Reader) _ => reader.advance) reader)
          return some (← finishSet (← spanFrom reader.position) negated named.set)
      | _, _ => return none
  | _ => return none

def literalSet (c : Char) (byCode : Bool) (span : Span) : Reading CharacterClass := do
  if !(← flags).unicode && 0x80 ≤ c.toNat then
    noteUseless (if byCode then .bytesNotAllowed else .unicodeNotAllowed) span
  return .single c

def bracketAtom (c : Char) : Reading (Atom × Span) := do
  if c = '\\' then escape
  else
    let span ← characterSpan
    advance
    return (.literal c false, span)

def atomSet (atom : Atom) (span : Span) : Reading CharacterClass := do
  match atom with
  | .literal c byCode => literalSet c byCode span
  | .set set => return set
  | .condition _ => fail .classEscape span

def rangeSet (first last : Atom × Span) : Reading CharacterClass := do
  match first.1, last.1 with
  | .literal low lowByCode, .literal high highByCode =>
      if high < low then fail .classRangeOrder ⟨first.2.start, last.2.stop⟩
      let _ ← literalSet low lowByCode first.2
      let _ ← literalSet high highByCode last.2
      return .ofRanges [(low.toNat, high.toNat)]
  | .literal _ _, _ => fail .classRangeLiteral last.2
  | _, _ => fail .classRangeLiteral first.2

/-- Whether a dash that follows makes a range: not before the end of the brackets or another dash. -/
def atRange : Reading Bool := do
  let reader ← get
  match reader.rest with
  | '-' :: _ =>
      let after := reader.advance.skipBlanks.rest.head?
      return after ≠ some ']' && after ≠ some '-'
  | _ => return false

def bracketItem (opened : Span) (c : Char) : Reading CharacterClass := do
  let first ← bracketAtom c
  skipBlanks
  if (← next?).isNone then fail .unclosedClass opened
  else if ← atRange then
    advanceOver
    match ← next? with
    | none => fail .unclosedClass opened
    | some c => rangeSet first (← bracketAtom c)
  else atomSet first.1 first.2

/-- The beginning of brackets: whether they hold all other characters, and what they hold so far. A
dash or a closing bracket directly after the beginning is one of the characters. -/
def bracketOpening : Reading (Bool × CharacterClass) := do
  let start ← here
  advanceOver
  let negated := (← next?) = some '^'
  if negated then advanceOver
  if (← next?).isNone then failFrom .unclosedClass start
  let dashes ← passWhile (· = '-') (← remaining)
  if dashes.isEmpty then
    if (← next?) = some ']' then
      advanceOver
      if (← next?).isNone then failFrom .unclosedClass start
      return (negated, .single ']')
    else return (negated, .none)
  else
    if (← next?).isNone then fail .unclosedClass ⟨start, start⟩
    return (negated, .single '-')

mutual

def bracket : Nat → Reading CharacterClass
  | 0 => do failAtCharacter .unclosedClass
  | fuel + 1 => do
      let start ← here
      let (negated, initial) ← bracketOpening
      let set ← bracketRest fuel (← spanFrom start) ⟨none, initial⟩
      finishSet (← spanFrom start) negated set

/-- The rest of a class in brackets, of which the beginning and the sets so far are given. -/
def bracketRest (fuel : Nat) (opened : Span) (sets : BracketSets) : Reading CharacterClass :=
  match fuel with
  | 0 => fail .unclosedClass opened
  | fuel + 1 => do
      skipBlanks
      match ← next? with
      | none => fail .unclosedClass opened
      | some ']' =>
          advance
          return sets.total
      | some '[' =>
          match ← namedClass? with
          | some set => bracketRest fuel opened (sets.add set)
          | none =>
              let set ← bracket fuel
              bracketRest fuel opened (sets.add set)
      | some c =>
          let doubled := (← get).rest.tail.head? = some c
          match (if doubled then SetOperation.ofSign? c else none) with
          | some operation =>
              advance
              advance
              bracketRest fuel opened (sets.operate operation)
          | none =>
              let set ← bracketItem opened c
              bracketRest fuel opened (sets.add set)

end

end Reading

end IdRegistry.Pattern
