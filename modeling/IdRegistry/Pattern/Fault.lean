import IdRegistry.Text.Decimal
import IdRegistry.Text.Lines

namespace IdRegistry.Pattern

open Text (decimal lines)

/-- A place in the spelling of a pattern. Lines and columns are counted from one. -/
structure Position where
  line : Nat
  column : Nat
deriving DecidableEq, Repr

namespace Position

def start : Position := ⟨1, 1⟩

def after (position : Position) (c : Char) : Position :=
  if c = '\n' then ⟨position.line + 1, 1⟩ else ⟨position.line, position.column + 1⟩

end Position

structure Span where
  start : Position
  stop : Position
deriving DecidableEq, Repr

inductive Flaw where
  | classEscape
  | classRangeOrder
  | classRangeLiteral
  | unclosedClass
  | invalidDecimal
  | emptyHex
  | invalidHex
  | invalidHexDigit
  | unfinishedEscape
  | unknownEscape
  | danglingNegation
  | repeatedFlag
  | repeatedNegation
  | unfinishedFlags
  | unknownFlag
  | repeatedGroupName
  | emptyGroupName
  | invalidGroupName
  | unfinishedGroupName
  | unclosedGroup
  | unopenedGroup
  | repetitionOrder
  | repetitionCount
  | unclosedRepetition
  | nothingToRepeat
  | unclosedWordLook
  | unknownWordLook
  | unfinishedWordLook
  | invalidPropertyName
  | backreference
  | lookAround
  | unicodeNotAllowed
  | bytesNotAllowed
  | unknownProperty
  | noUnicodeClasses
  | noUnicodeCase
deriving DecidableEq, Repr

def Flaw.message : Flaw → String
  | .classEscape => "invalid escape sequence found in character class"
  | .classRangeOrder => "invalid character class range, the start must be <= the end"
  | .classRangeLiteral => "invalid range boundary, must be a literal"
  | .unclosedClass => "unclosed character class"
  | .invalidDecimal => "decimal literal invalid"
  | .emptyHex => "hexadecimal literal empty"
  | .invalidHex => "hexadecimal literal is not a Unicode scalar value"
  | .invalidHexDigit => "invalid hexadecimal digit"
  | .unfinishedEscape => "incomplete escape sequence, reached end of pattern prematurely"
  | .unknownEscape => "unrecognized escape sequence"
  | .danglingNegation => "dangling flag negation operator"
  | .repeatedFlag => "duplicate flag"
  | .repeatedNegation => "flag negation operator repeated"
  | .unfinishedFlags => "expected flag but got end of regex"
  | .unknownFlag => "unrecognized flag"
  | .repeatedGroupName => "duplicate capture group name"
  | .emptyGroupName => "empty capture group name"
  | .invalidGroupName => "invalid capture group character"
  | .unfinishedGroupName => "unclosed capture group name"
  | .unclosedGroup => "unclosed group"
  | .unopenedGroup => "unopened group"
  | .repetitionOrder => "invalid repetition count range, the start must be <= the end"
  | .repetitionCount => "repetition quantifier expects a valid decimal"
  | .unclosedRepetition => "unclosed counted repetition"
  | .nothingToRepeat => "repetition operator missing expression"
  | .unclosedWordLook =>
      "special word boundary assertion is either unclosed or contains an invalid character"
  | .unknownWordLook =>
      "unrecognized special word boundary assertion, valid choices are: start, end, start-half or "
        ++ "end-half"
  | .unfinishedWordLook =>
      "found either the beginning of a special word boundary or a bounded repetition on a \\b with "
        ++ "an opening brace, but no closing brace"
  | .invalidPropertyName => "invalid Unicode character class"
  | .backreference => "backreferences are not supported"
  | .lookAround => "look-around, including look-ahead and look-behind, is not supported"
  | .unicodeNotAllowed => "Unicode not allowed here"
  | .bytesNotAllowed => "pattern can match invalid UTF-8"
  | .unknownProperty => "Unicode property not found"
  | .noUnicodeClasses =>
      "Unicode-aware Perl class not found (make sure the unicode-perl feature is enabled)"
  | .noUnicodeCase =>
      "Unicode-aware case insensitivity matching is not available (make sure the unicode-case "
        ++ "feature is enabled)"

/-- A flaw and where it is. `other` is an earlier part that it has to do with. -/
structure Fault where
  flaw : Flaw
  span : Span
  other : Option Span
deriving DecidableEq, Repr

namespace Fault

def spans (fault : Fault) : List Span := fault.other.toList ++ [fault.span]

/-- Carets below the parts of a line, from a column on. A part without characters has one too. -/
def carets (column : Nat) : List Span → List Char
  | [] => []
  | span :: rest =>
      let width := max 1 (span.stop.column - span.start.column)
      List.replicate (span.start.column - column) ' ' ++ List.replicate width '^'
        ++ carets (max column span.start.column + width) rest

/-- A line of the pattern, and the marks below it if there are any. Lines are numbered if `width` is
not zero, which is then the width of the numbers. -/
def markedLine (fault : Fault) (width number : Nat) (line : List Char) : List (List Char) :=
  let digits := decimal number
  let margin := if width = 0 then List.replicate 4 ' '
    else List.replicate (width - digits.length) ' ' ++ digits ++ [':', ' ']
  let marked := fault.spans.filter fun span => span.start.line = number && span.stop.line = number
  let below := if marked.isEmpty then []
    else [List.replicate margin.length ' ' ++ carets 1 marked]
  (margin ++ line) :: below

def markedLines (fault : Fault) (width number : Nat) : List (List Char) → List (List Char)
  | [] => []
  | line :: rest => fault.markedLine width number line ++ fault.markedLines width (number + 1) rest

/-- Where a part is that goes over several lines. -/
def describeSpan (span : Span) : List Char :=
  let place := fun (line column : Nat) =>
    "line ".toList ++ decimal line ++ " (column ".toList ++ decimal column ++ [')']
  "on ".toList ++ place span.start.line span.start.column ++ " through ".toList
    ++ place span.stop.line (span.stop.column - 1)

def report (fault : Fault) (pattern : List Char) : List Char :=
  let several := pattern.contains '\n'
  let found := lines pattern
  let count := found.length + if pattern.getLast? = some '\n' then 1 else 0
  let width := if count ≤ 1 then 0 else (decimal count).length
  let rule := if several then [List.replicate 79 '~'] else []
  let long := fault.spans.filter fun span => span.start.line ≠ span.stop.line
  let shown := "regex parse error:".toList :: rule ++ fault.markedLines width 1 found ++ rule
    ++ (if several then long.map describeSpan else [])
    ++ [("error: " ++ fault.flaw.message).toList]
  ['\n'].intercalate shown

end Fault

end IdRegistry.Pattern
