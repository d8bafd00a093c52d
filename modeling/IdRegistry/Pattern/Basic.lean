namespace IdRegistry

/-! Searching goes through a pattern once and keeps all places in the text that the pattern read so far can
lead to; a place is a gap between two characters.
-/

inductive CharacterClass where
  | ofRanges (ranges : List (Nat × Nat))
  | union (first second : CharacterClass)
  | intersection (first second : CharacterClass)
  | complement (inner : CharacterClass)
  /-- With each letter of the Latin alphabet, the same letter of the other case. -/
  | caseless (inner : CharacterClass)
deriving DecidableEq, Repr

namespace CharacterClass

def otherCase (code : Nat) : Nat :=
  if 0x41 ≤ code ∧ code ≤ 0x5A then code + 0x20
  else if 0x61 ≤ code ∧ code ≤ 0x7A then code - 0x20
  else code

def holds : CharacterClass → Nat → Bool
  | .ofRanges ranges, code => ranges.any fun range => range.1 ≤ code && code ≤ range.2
  | .union first second, code => first.holds code || second.holds code
  | .intersection first second, code => first.holds code && second.holds code
  | .complement inner, code => !inner.holds code
  | .caseless inner, code => inner.holds code || inner.holds (otherCase code)

def none : CharacterClass := .ofRanges []

def single (c : Char) : CharacterClass := .ofRanges [(c.toNat, c.toNat)]

def difference (first second : CharacterClass) : CharacterClass :=
  .intersection first (.complement second)

def symmetricDifference (first second : CharacterClass) : CharacterClass :=
  .union (difference first second) (difference second first)

/-- Whether the codes of a byte that are in the set are those of single characters. -/
def isAscii (found : CharacterClass) : Bool :=
  (List.range 0x80).all fun code => !found.holds (0x80 + code)

end CharacterClass

structure Gap where
  before : Option Char
  after : Option Char
deriving DecidableEq, Repr

/-- What can be asked about a place with regard to words of Latin letters, digits and underscores. -/
inductive WordLook where
  | boundary
  | notBoundary
  | wordStart
  | wordEnd
  | noneBefore
  | noneAfter
deriving DecidableEq, Repr

inductive Look where
  | textStart
  | textEnd
  /-- The beginning of a line. With `returns`, a carriage return ends lines too. -/
  | lineStart (returns : Bool)
  | lineEnd (returns : Bool)
  | word (look : WordLook)
deriving DecidableEq, Repr

namespace Gap

def ofText (before : Option Char) : List Char → List Gap
  | [] => [⟨before, none⟩]
  | c :: rest => ⟨before, some c⟩ :: ofText (some c) rest

def isWord (c : Char) : Bool := c.isAlphanum || c = '_'

def suitsWord (gap : Gap) (look : WordLook) : Bool :=
  let before := gap.before.any isWord
  let after := gap.after.any isWord
  match look with
  | .boundary => before != after
  | .notBoundary => before == after
  | .wordStart => !before && after
  | .wordEnd => before && !after
  | .noneBefore => !before
  | .noneAfter => !after

/-- Whether a place is as a condition says. No line ends between a carriage return and a line feed. -/
def suits (gap : Gap) : Look → Bool
  | .textStart => gap.before.isNone
  | .textEnd => gap.after.isNone
  | .lineStart returns =>
      gap.before.isNone || gap.before = some '\n'
        || returns && gap.before = some '\r' && gap.after ≠ some '\n'
  | .lineEnd false => gap.after.isNone || gap.after = some '\n'
  | .lineEnd true =>
      gap.after.isNone || gap.after = some '\r'
        || gap.after = some '\n' && gap.before ≠ some '\r'
  | .word look => gap.suitsWord look

end Gap

inductive Pattern where
  | empty
  | one (set : CharacterClass)
  | condition (look : Look)
  | sequence (first second : Pattern)
  | choice (first second : Pattern)
  /-- So many times at least, and so many at most if there is a limit. -/
  | repeated (inner : Pattern) (least : Nat) (most : Option Nat)
deriving DecidableEq, Repr

/-- A set of places of a text, from its beginning on. -/
abbrev Places := List Bool

namespace Places

def union (first second : Places) : Places := List.zipWith (· || ·) first second

def after (step : Places → Places) : Nat → Places → Places
  | 0, places => places
  | count + 1, places => after step count (step places)

def within (step : Places → Places) : Nat → Places → Places
  | 0, places => places
  | count + 1, places =>
      if places.any id then places.union (within step count (step places)) else places

/-- What comes of a set after any number of steps, found in so many rounds at most. -/
def closure (step : Places → Places) : Nat → Places → Places
  | 0, places => places
  | count + 1, places =>
      let more := places.union (step places)
      if more = places then places else closure step count more

end Places

namespace Pattern

/-- The places that the pattern can lead to from the given ones. A repetition that goes on for more
rounds than there are places goes nowhere new. -/
def ends (gaps : List Gap) : Pattern → Places → Places
  | .empty, starts => starts
  | .one set, starts =>
      false ::
        (List.zipWith (fun gap start => start && gap.after.any fun c => set.holds c.toNat) gaps
          starts).dropLast
  | .condition look, starts => List.zipWith (fun gap start => start && gap.suits look) gaps starts
  | .sequence first second, starts => second.ends gaps (first.ends gaps starts)
  | .choice first second, starts => (first.ends gaps starts).union (second.ends gaps starts)
  | .repeated inner least none, starts =>
      Places.closure (inner.ends gaps) gaps.length
        (Places.after (inner.ends gaps) (min least gaps.length) starts)
  | .repeated inner least (some most), starts =>
      let least := min least gaps.length
      Places.within (inner.ends gaps) (min most gaps.length - least)
        (Places.after (inner.ends gaps) least starts)

def occursIn (pattern : Pattern) (text : List Char) : Bool :=
  let gaps := Gap.ofText none text
  (pattern.ends gaps (gaps.map fun _ => true)).any id

def isEmpty : Pattern → Bool
  | .empty => true
  | .one _ => false
  | .condition _ => true
  | .sequence first second => first.isEmpty && second.isEmpty
  | .choice first second => first.isEmpty && second.isEmpty
  | .repeated inner _ most => inner.isEmpty || most = some 0

/-- The number of bytes of the longest character in some ranges of codes. -/
def bytesOf (code : Nat) : Nat :=
  if code < 0x80 then 1 else if code < 0x800 then 2 else if code < 0x10000 then 3 else 4

/-- About how many steps a search for the pattern has to tell apart. -/
def size : Pattern → Nat
  | .empty => 1
  | .one (.ofRanges [(low, high)]) => if low = high then bytesOf low else 2
  | .one _ => 2
  | .condition _ => 1
  | .sequence first second => first.size + second.size
  | .choice first second => first.size + second.size + 1
  | .repeated inner least most =>
      if inner.isEmpty then inner.size + 1
      else
        match most with
        | none => max least 1 * inner.size + 1
        | some most => least * inner.size + (most - least) * (inner.size + 1)

end Pattern

end IdRegistry
