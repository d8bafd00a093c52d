import IdRegistry.Unicode.CodeRanges

namespace IdRegistry.Markup

inductive Edition where
  | first
  | second
deriving DecidableEq, Repr

def isSpace (c : Char) : Bool :=
  c = ' ' || c = '\n' || c = '\t' || c = '\r'

def isAllowed (edition : Edition) (c : Char) : Bool :=
  let code := c.toNat
  match edition with
  | .first =>
      Unicode.inRanges [(0x9, 0xA), (0xD, 0xD), (0x20, 0xFFFD), (0x10000, 0x10FFFF)] code
  | .second => Unicode.inRanges [(0x1, 0xFFFD), (0x10000, 0x10FFFF)] code

def isLiteral (edition : Edition) (c : Char) : Bool :=
  let code := c.toNat
  match edition with
  | .first => isAllowed .first c
  | .second =>
      Unicode.inRanges
        [(0x9, 0xA), (0xD, 0xD), (0x20, 0x7E), (0x85, 0x85), (0xA0, 0xFFFD), (0x10000, 0x10FFFF)]
        code

def isNameStart (c : Char) : Bool :=
  Unicode.inRanges
    [(0x3A, 0x3A), (0x41, 0x5A), (0x5F, 0x5F), (0x61, 0x7A), (0xC0, 0xD6), (0xD8, 0xF6),
     (0xF8, 0x2FF), (0x370, 0x37D), (0x37F, 0x1FFF), (0x200C, 0x200D), (0x2070, 0x218F),
     (0x2C00, 0x2FEF), (0x3001, 0xD7FF), (0xF900, 0xFDCF), (0xFDF0, 0xFFFD), (0x10000, 0xEFFFF)]
    c.toNat

def isNameChar (c : Char) : Bool :=
  isNameStart c || Unicode.inRanges
    [(0x2D, 0x2E), (0x30, 0x39), (0xB7, 0xB7), (0x300, 0x36F), (0x203F, 0x2040)] c.toNat

def trimSpaces (text : List Char) : List Char :=
  ((text.dropWhile isSpace).reverse.dropWhile isSpace).reverse

end IdRegistry.Markup
