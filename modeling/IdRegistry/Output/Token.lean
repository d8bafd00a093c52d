import IdRegistry.Text.Decimal
import IdRegistry.Text.Escape

namespace IdRegistry

inductive Token where
  | word (spelling : List Char)
  | number (value : Nat)
  | text (content : List Char)
  /-- A single mark of punctuation, parentheses and brackets included. -/
  | mark (c : Char)
deriving DecidableEq, Repr

namespace Token

def spelling : Token → List Char
  | .word spelling => spelling
  | .number value => Nat.toDigits 10 value
  | .text content => Text.literal content
  | .mark c => [c]

/-- Whether a token holds its follower close. -/
def opens (token : Token) : Bool :=
  token = .mark '(' || token = .mark '['

/-- Whether a token stays close to its predecessor. -/
def closes (token : Token) : Bool :=
  token = .mark ')' || token = .mark ']'

def gap (left right : Token) : List Char :=
  if left.opens || right.closes then [] else [' ']

def spellAfter (left : Token) : List Token → List Char
  | [] => []
  | token :: rest => left.gap token ++ token.spelling ++ spellAfter token rest

def spell : List Token → List Char
  | [] => []
  | token :: rest => token.spelling ++ spellAfter token rest

end Token

end IdRegistry
