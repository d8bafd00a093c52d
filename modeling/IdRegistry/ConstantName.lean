import IdRegistry.Text.CaseCuts
import IdRegistry.Text.Words
import IdRegistry.Unicode.Blank
import IdRegistry.Unicode.IdentifierContinue
import IdRegistry.Unicode.IdentifierStart
import IdRegistry.Unicode.UppercaseMapping

namespace IdRegistry.ConstantName

open Unicode (isBlank isIdentifierStart isIdentifierContinue toUppercase)
open Text (words pieces)

def parts (name : List Char) : List (List Char) :=
  (words name).flatMap pieces

def shouted (name : List Char) : List Char :=
  ['_'].intercalate ((parts name).map fun piece => piece.flatMap toUppercase)

/-- Blanks between tokens. The two marks for the direction of writing count as blanks too. -/
def isTokenBlank (c : Char) : Bool :=
  isBlank c || c = '\u200E' || c = '\u200F'

def keywords : List String :=
  ["_", "abstract", "as", "async", "await", "become", "box", "break", "const", "continue", "crate",
   "do", "dyn", "else", "enum", "extern", "false", "final", "fn", "for", "if", "impl", "in", "let",
   "loop", "macro", "match", "mod", "move", "mut", "override", "priv", "pub", "ref", "return",
   "Self", "self", "static", "struct", "super", "trait", "true", "try", "type", "typeof",
   "unsafe", "unsized", "use", "virtual", "where", "while", "yield"]

def isIdentifier : List Char → Bool
  | [] => false
  | c :: rest =>
      (c = '_' || isIdentifierStart c) && rest.all isIdentifierContinue
        && !keywords.contains (String.ofList (c :: rest))

def withoutMark : List Char → List Char
  | '\uFEFF' :: rest => rest
  | text => text

/-- The single identifier that the text consists of, blanks around it and a byte order mark before
it aside. -/
def identifier? (text : List Char) : Option (List Char) :=
  let text := withoutMark text
  let token := ((text.dropWhile isTokenBlank).reverse.dropWhile isTokenBlank).reverse
  if isIdentifier token then some token else none

end IdRegistry.ConstantName
