import IdRegistry.Markup.Character

namespace IdRegistry.Markup

structure QualifiedName where
  qualifier : Option (List Char)
  localName : List Char
deriving DecidableEq, Repr

/-- A character that can follow what has been read of a qualified name. A colon is neither the first one
nor the second of its kind. -/
def extendsName (read : List Char) (c : Char) : Bool :=
  if c = ':' then !read.isEmpty && !read.contains ':'
  else if read.isEmpty then isNameStart c
  else isNameChar c

/-- The qualified name with the given spelling, if it has one colon at most and characters on both
sides of it. -/
def QualifiedName.ofSpelling? (spelling : List Char) : Option QualifiedName :=
  let before := spelling.takeWhile (· ≠ ':')
  match spelling.dropWhile (· ≠ ':') with
  | [] => if before.isEmpty then none else some ⟨none, before⟩
  | _ :: after =>
      if before.isEmpty || after.isEmpty || after.contains ':' then none
      else some ⟨some before, after⟩

def declaringQualifier : List Char := "xmlns".toList

def standardQualifier : List Char := "xml".toList

/-- A qualifier that no element may have. -/
def isReserved (name : QualifiedName) : Bool :=
  name.qualifier = some declaringQualifier || name.qualifier = some standardQualifier

end IdRegistry.Markup
