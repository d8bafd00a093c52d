import IdRegistry.Markup.Character

namespace IdRegistry.Markup

/-- Declared texts by name, the first declaration of a name before later ones. -/
abbrev Entities := List (List Char × List Char)

/-- A further declaration. A name that has been declared keeps its text. -/
def Entities.declare (entities : Entities) (name text : List Char) : Entities :=
  if entities.any fun entry => entry.1 = name then entities else entities ++ [(name, text)]

def Entities.text? (entities : Entities) (name : List Char) : Option (List Char) :=
  entities.lookup name

inductive Replacement where
  | character (c : Char)
  /-- A declared text, which is read like the document itself. -/
  | declared (text : List Char)
deriving DecidableEq, Repr

def digitIn? (base : Nat) (c : Char) : Option Nat :=
  let value :=
    if '0' ≤ c ∧ c ≤ '9' then c.toNat - '0'.toNat
    else if 'a' ≤ c ∧ c ≤ 'f' then c.toNat - 'a'.toNat + 10
    else if 'A' ≤ c ∧ c ≤ 'F' then c.toNat - 'A'.toNat + 10
    else base
  if value < base then some value else none

def numberFrom (base before : Nat) : List Char → Option Nat
  | [] => some before
  | c :: rest =>
      match digitIn? base c with
      | some digit => numberFrom base (before * base + digit) rest
      | none => none

/-- The number that the digits form. A plus sign may stand before them. -/
def number? (base : Nat) (digits : List Char) : Option Nat :=
  let unsigned := match digits with
    | '+' :: rest => rest
    | _ => digits
  if unsigned.isEmpty then none else numberFrom base 0 unsigned

/-- The character of a number, which is hexadecimal after the letter `x`. -/
def numbered? (edition : Edition) (text : List Char) : Option Char :=
  let value := match text with
    | 'x' :: digits => number? 16 digits
    | digits => number? 10 digits
  match value with
  | none => none
  | some code =>
      if h : code.isValidChar then
        let c := Char.ofNatAux code h
        if isAllowed edition c then some c else none
      else none

def Replacement.ofName? (edition : Edition) (entities : Entities) (name : List Char) :
    Option Replacement :=
  match name with
  | ['l', 't'] => some (.character '<')
  | ['g', 't'] => some (.character '>')
  | ['a', 'm', 'p'] => some (.character '&')
  | ['a', 'p', 'o', 's'] => some (.character '\'')
  | ['q', 'u', 'o', 't'] => some (.character '"')
  | '#' :: number => (numbered? edition number).map .character
  | _ => (entities.text? name).map .declared

def extendsReference (read : List Char) (c : Char) : Bool :=
  if read.isEmpty then isNameStart c || c = '#' else isNameChar c

def Replacement.characters : Replacement → List Char
  | .character c => [c]
  | .declared text => text

end IdRegistry.Markup
