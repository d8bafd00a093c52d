import IdRegistry.Markup.Name

namespace IdRegistry.Markup

structure Element where
  /-- Its name as written, which the end tag has to repeat. -/
  spelling : List Char
  qualifiers : List (List Char)
deriving DecidableEq, Repr

structure Tag where
  name : QualifiedName
  spelling : List Char
  /-- The attributes so far, newest first. -/
  attributes : List (QualifiedName × List Char)
  qualifiers : List (List Char)
deriving DecidableEq, Repr

namespace Tag

def standardPlace (path : String) : List Char :=
  ("http:" ++ "//www.w3.org" ++ path).toList

def standardNames : List Char := standardPlace "/XML/1998/namespace"

def declaringNames : List Char := standardPlace "/2000/xmlns/"

def has (tag : Tag) (name : QualifiedName) : Bool :=
  tag.attributes.any fun entry => entry.1 = name

/-- The tag with one more attribute, or with the qualifier that the attribute declares. -/
def add (tag : Tag) (name : QualifiedName) (value : List Char) : Option Tag :=
  if name.qualifier = some declaringQualifier then
    if name.localName = declaringQualifier then none
    else if name.localName = standardQualifier ∧ value ≠ standardNames then none
    else if value.isEmpty then none
    else some { tag with qualifiers := name.localName :: tag.qualifiers }
  else if name.qualifier = none ∧ name.localName = declaringQualifier then
    if value = declaringQualifier ∨ value = standardQualifier ∨ value = standardNames
        ∨ value = declaringNames then none
    else some tag
  else some { tag with attributes := (name, value) :: tag.attributes }

def inScope (tag : Tag) (elements : List Element) (name : QualifiedName) : Bool :=
  match name.qualifier with
  | none => true
  | some qualifier =>
      qualifier = standardQualifier || tag.qualifiers.contains qualifier
        || elements.any fun element => element.qualifiers.contains qualifier

def visibleAttributes (tag : Tag) : List (String × String) :=
  tag.attributes.reverse.map fun entry =>
    (String.ofList entry.1.localName, String.ofList entry.2)

end Tag

end IdRegistry.Markup
