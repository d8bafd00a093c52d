import IdRegistry.Pattern.Reading
import IdRegistry.Unicode.Alphanumeric

namespace IdRegistry.Pattern

open Unicode (isAlphanumeric)

inductive Flag where
  | caseless
  | multiline
  | dotAll
  | returns
  | unicode
  | loose
  /-- Which of several repetitions is tried first, which does not matter here. -/
  | greed
deriving DecidableEq, Repr

def Flag.ofLetter? (c : Char) : Option Flag :=
  if c = 'i' then some .caseless
  else if c = 'm' then some .multiline
  else if c = 's' then some .dotAll
  else if c = 'R' then some .returns
  else if c = 'u' then some .unicode
  else if c = 'x' then some .loose
  else if c = 'U' then some .greed
  else none

def Flags.switch (flags : Flags) (flag : Flag) (on : Bool) : Flags :=
  match flag with
  | .caseless => { flags with caseless := on }
  | .multiline => { flags with multiline := on }
  | .dotAll => { flags with dotAll := on }
  | .returns => { flags with returns := on }
  | .unicode => { flags with unicode := on }
  | .loose => { flags with loose := on }
  | .greed => flags

structure FlagList where
  /-- The flags so far and where they stand, newest first. -/
  given : List (Flag × Span)
  /-- Where the dash stands, and how many flags stand before it. -/
  dash : Option (Span × Nat)
deriving Repr

namespace FlagList

def apply (list : FlagList) (flags : Flags) : Flags :=
  let before := match list.dash with
    | some (_, count) => count
    | none => list.given.length
  let inOrder := list.given.reverse
  let flags := (inOrder.take before).foldl (fun flags entry => flags.switch entry.1 true) flags
  (inOrder.drop before).foldl (fun flags entry => flags.switch entry.1 false) flags

end FlagList

inductive Opening where
  | group (flags : Flags)
  | flags (flags : Flags)
deriving DecidableEq, Repr

namespace Reading

def failTwice {α : Type} (flaw : Flaw) (span other : Span) : Reading α :=
  throw ⟨flaw, span, some other⟩

def isGroupNameChar (first : Bool) (c : Char) : Bool :=
  if first then c = '_' || isAlphanumeric c && !c.isDigit
  else c = '_' || c = '.' || c = '[' || c = ']' || isAlphanumeric c

def groupNameFrom : Nat → Bool → Reading (List Char)
  | 0, _ => return []
  | fuel + 1, first => do
      match ← next? with
      | none => return []
      | some c =>
          if c = '>' then return []
          else if isGroupNameChar first c then
            advance
            return c :: (← groupNameFrom fuel false)
          else failAtCharacter .invalidGroupName

/-- The name of a group and the angle bracket behind it. No two groups have one name. -/
def groupName : Reading Unit := do
  let start ← here
  let name ← groupNameFrom (← remaining) true
  let span ← spanFrom start
  if (← next?).isNone then failFrom .unfinishedGroupName (← here)
  advance
  if name.isEmpty then fail .emptyGroupName ⟨start, start⟩
  match (← get).names.find? fun entry => entry.1 = name with
  | some (_, earlier) => failTwice .repeatedGroupName span earlier
  | none => modify fun reader => { reader with names := reader.names ++ [(name, span)] }

def flagList : Nat → FlagList → Reading FlagList
  | 0, list => return list
  | fuel + 1, list => do
      match ← next? with
      | none => failFrom .unfinishedFlags (← here)
      | some c =>
          let span ← characterSpan
          if c = ':' ∨ c = ')' then
            match list.dash with
            | some (dash, before) =>
                if before = list.given.length then fail .danglingNegation dash
                return list
            | none => return list
          else if c = '-' then
            match list.dash with
            | some (dash, _) => failTwice .repeatedNegation span dash
            | none =>
                advance
                flagList fuel { list with dash := some (span, list.given.length) }
          else
            match Flag.ofLetter? c with
            | none => fail .unknownFlag span
            | some flag =>
                match list.given.find? fun entry => entry.1 = flag with
                | some (_, earlier) => failTwice .repeatedFlag span earlier
                | none =>
                    advance
                    flagList fuel { list with given := (flag, span) :: list.given }

def passesOne : List String → Reading Bool
  | [] => return false
  | text :: others => do if ← passes text then return true else passesOne others

def opening : Reading Opening := do
  let start ← here
  let parenthesis ← characterSpan
  advance
  skipBlanks
  let question ← here
  if ← passesOne ["?=", "?!", "?<=", "?<!"] then failFrom .lookAround start
  if ← passesOne ["?P<", "?<"] then
    groupName
    return .group (← flags)
  else if ← passes "?" then
    if (← next?).isNone then fail .unclosedGroup parenthesis
    let list ← flagList ((← remaining) + 1) ⟨[], none⟩
    let switched := list.apply (← flags)
    let closed := (← next?) = some ')'
    advance
    if closed then
      if list.given.isEmpty && list.dash.isNone then fail .nothingToRepeat ⟨question, question⟩
      return .flags switched
    else return .group switched
  else return .group (← flags)

end Reading

end IdRegistry.Pattern
