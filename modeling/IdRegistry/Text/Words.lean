import IdRegistry.Unicode.Alphanumeric
import IdRegistry.Unicode.WordBreak

namespace IdRegistry.Text

open Unicode (WordClass wordClass isPictograph isAlphanumeric)

/-! Text is cut at the word boundaries of Unicode's text segmentation. Whether a boundary stands before
a character depends on the segment before it, of which `Left` keeps what matters, on the character,
and on the next character that is not a mere mark, of which `Right` keeps what matters.
-/

/-- A character that belongs to the one before it and is otherwise not seen by the rules. -/
def isMark (kind : WordClass) : Bool :=
  kind = .extend || kind = .format || kind = .joiner

def isAlphabetic (kind : WordClass) : Bool :=
  kind = .letter || kind = .hebrewLetter

def joinsLetters (kind : WordClass) : Bool :=
  kind = .midLetter || kind = .midEither || kind = .singleQuote

def joinsDigits (kind : WordClass) : Bool :=
  kind = .midNumber || kind = .midEither || kind = .singleQuote

def endsLine (kind : WordClass) : Bool :=
  kind = .carriageReturn || kind = .lineFeed || kind = .newline

/-- What the rules see of the segment that ends here. -/
structure Left where
  /-- The class of the last character that is not a mark. -/
  last : WordClass
  /-- The class of the one before that, `other` if there is none. -/
  before : WordClass
  /-- Whether no mark stands after the last character. -/
  bare : Bool
  /-- Whether a joiner stands directly before this place. -/
  joined : Bool
  /-- Whether an odd number of regional indicators ends here. -/
  halfFlag : Bool

/-- What the rules see of the text after a character: the next character that is not a mark. -/
structure Right where
  /-- Its class, `other` if there is none. -/
  kind : WordClass
  /-- Whether it is a pictograph directly after a joiner, which takes the place of whatever a mark
  between two characters needs on its right. -/
  joined : Bool

def Right.ofText (afterJoiner : Bool) : List Char → Right
  | [] => ⟨.other, false⟩
  | c :: rest =>
      if isMark (wordClass c) then ofText (wordClass c = .joiner) rest
      else ⟨wordClass c, afterJoiner && isPictograph c⟩

/-- Whether a character can follow a mark that needs one of the classes on its right. -/
def Right.suits (right : Right) (allowed : WordClass → Bool) : Bool :=
  right.joined || allowed right.kind

namespace Left

/-- A segment of one character. A mark that begins a segment counts as an ordinary character. -/
def first (c : Char) : Left where
  last := if isMark (wordClass c) then .other else wordClass c
  before := .other
  bare := true
  joined := wordClass c = .joiner
  halfFlag := wordClass c = .regionalIndicator

/-- The segment with one more character. A pictograph after a joiner is no letter, even if it is one
elsewhere. -/
def push (left : Left) (c : Char) : Left :=
  if isMark (wordClass c) then
    { left with bare := false, joined := wordClass c = .joiner }
  else
    { last := if left.joined && isPictograph c then .other else wordClass c
      before := left.last
      bare := true
      joined := false
      halfFlag := wordClass c = .regionalIndicator && !left.halfFlag }

/-- Whether the segment goes on with a character of this class, given what follows it. -/
def admits (left : Left) (kind : WordClass) (right : Right) : Bool :=
  isAlphabetic left.last && isAlphabetic kind
  || isAlphabetic left.last && joinsLetters kind && right.suits isAlphabetic
  || isAlphabetic left.before && joinsLetters left.last && isAlphabetic kind
  || left.last = .hebrewLetter && kind = .singleQuote
  || left.last = .hebrewLetter && kind = .doubleQuote
        && right.suits (· = .hebrewLetter)
  || left.before = .hebrewLetter && left.last = .doubleQuote && kind = .hebrewLetter
  || (left.last = .number || isAlphabetic left.last) && kind = .number
  || left.last = .number && isAlphabetic kind
  || left.before = .number && joinsDigits left.last && kind = .number
  || left.last = .number && joinsDigits kind && right.suits (· = .number)
  || left.last = .katakana && kind = .katakana
  || (isAlphabetic left.last || left.last = .number || left.last = .katakana
        || left.last = .connector) && kind = .connector
  || left.last = .connector && (isAlphabetic kind || kind = .number || kind = .katakana)
  || left.halfFlag && kind = .regionalIndicator

def continues (left : Left) (c : Char) (right : Right) : Bool :=
  let kind := wordClass c
  if left.last = .carriageReturn && left.bare && kind = .lineFeed then true
  else if endsLine left.last || endsLine kind then false
  else
    left.joined && isPictograph c
    || left.last = .space && left.bare && kind = .space
    || isMark kind
    || left.admits kind right

end Left

def segmentsAfter (left : Left) : List Char → List Char × List (List Char)
  | [] => ([], [])
  | c :: rest =>
      if left.continues c (Right.ofText false rest) then
        let (here, later) := segmentsAfter (left.push c) rest
        (c :: here, later)
      else
        let (here, later) := segmentsAfter (Left.first c) rest
        ([], (c :: here) :: later)

def segments : List Char → List (List Char)
  | [] => []
  | c :: rest =>
      let (here, later) := segmentsAfter (Left.first c) rest
      (c :: here) :: later

def words (text : List Char) : List (List Char) :=
  (segments text).filter fun segment => segment.any isAlphanumeric

theorem flatten_segmentsAfter (left : Left) (text : List Char) :
    (segmentsAfter left text).1 ++ (segmentsAfter left text).2.flatten = text := by
  induction text generalizing left with
  | nil => rfl
  | cons c rest ih =>
      simp only [segmentsAfter]
      split
      · simp [ih]
      · simp [ih]

theorem flatten_segments (text : List Char) : (segments text).flatten = text := by
  cases text with
  | nil => rfl
  | cons c rest => simp [segments, flatten_segmentsAfter]

theorem segmentsAfter_nonempty (left : Left) (text : List Char) :
    ∀ segment ∈ (segmentsAfter left text).2, segment ≠ [] := by
  induction text generalizing left with
  | nil => simp [segmentsAfter]
  | cons c rest ih =>
      simp only [segmentsAfter]
      split
      · simpa using ih _
      · simpa using ih _

theorem segments_nonempty (text : List Char) : ∀ segment ∈ segments text, segment ≠ [] := by
  cases text with
  | nil => simp [segments]
  | cons c rest => simpa [segments] using segmentsAfter_nonempty _ _

end IdRegistry.Text
