import IdRegistry.Unicode.Visible

namespace IdRegistry.Text

open Unicode (isPrintable isGraphemeExtend)

/-- A character that would be drawn into the one before it. The two sound marks of halfwidth katakana
have a width of their own. -/
def merges (c : Char) : Bool :=
  isGraphemeExtend c && c ≠ '\uFF9E' && c ≠ '\uFF9F'

def codePointEscape (c : Char) : List Char :=
  ['\\', 'u', '\x7b'] ++ Nat.toDigits 16 c.toNat ++ ['\x7d']

def escaped (c : Char) : List Char :=
  if c = '\x00' then ['\\', '0']
  else if c = '\t' then ['\\', 't']
  else if c = '\r' then ['\\', 'r']
  else if c = '\n' then ['\\', 'n']
  else if c = '"' then ['\\', '"']
  else if c = '\\' then ['\\', '\\']
  else if merges c || !isPrintable c then codePointEscape c
  else [c]

def shown (text : List Char) : List Char :=
  '"' :: text.flatMap escaped ++ ['"']

/-- Whether the text goes on with a digit that would be read into an octal escape. -/
def startsOctal : List Char → Bool
  | [] => false
  | c :: _ => '0' ≤ c && c ≤ '7'

/-- The inside of a string literal. It differs from the shown form at a null character before an
octal digit only, which is written with two hexadecimal digits. -/
def literalBody : List Char → List Char
  | [] => []
  | c :: rest =>
      (if c = '\x00' ∧ startsOctal rest then ['\\', 'x', '0', '0'] else escaped c)
        ++ literalBody rest

def literal (text : List Char) : List Char :=
  '"' :: literalBody text ++ ['"']

end IdRegistry.Text
