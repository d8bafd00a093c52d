import IdRegistry.Text.Decimal
import IdRegistry.Text.Escape

namespace IdRegistry

inductive Field where
  | name
  | value
  | item
deriving DecidableEq, Repr

def Field.spelling : Field → String
  | .name => "name"
  | .value => "value"
  | .item => "item"

inductive DocumentFault where
  /-- The document is not well formed, or has markup where only text can stand. What exactly is wrong with
  it is put into words by the reader of the markup and left out here. -/
  | malformed
  /-- An element or a text stands where an entry is expected. -/
  | unknownEntry (found : String)
  | repeatedField (field : Field)
  | missingField (field : Field)
  /-- The items of a list are given as one text. -/
  | textForItems (text : String)
deriving DecidableEq, Repr

/-- The fault in words, unless it lies in the markup. -/
def DocumentFault.detail? : DocumentFault → Option String
  | .malformed => none
  | .unknownEntry found =>
      some ("unknown variant `" ++ found ++ "`, expected one of `constant`, `list`, `helper`")
  | .repeatedField field => some ("duplicate field `" ++ field.spelling ++ "`")
  | .missingField field => some ("missing field `" ++ field.spelling ++ "`")
  | .textForItems text =>
      some ("invalid type: string " ++ String.ofList (Text.shown text.toList)
        ++ ", expected a sequence")

inductive Failure where
  | document (fault : DocumentFault)
  | duplicateEntry (name : String)
  | missingList (name : String)
  | idOutOfRange (name : String) (id : Int)
  | duplicateName (first second item : String)
  | invalidIdentifier (name identifier : String)
deriving DecidableEq, Repr

def Failure.message : Failure → String
  | .document fault =>
      match fault.detail? with
      | none => "invalid registry definition"
      | some detail => "invalid registry definition: custom: '" ++ detail ++ "'"
  | .duplicateEntry name => "registry entry '" ++ name ++ "' is defined more than once"
  | .missingList name => "registry has no integer list named '" ++ name ++ "'"
  | .idOutOfRange name id =>
      "protocol id " ++ String.ofList (Text.decimal id) ++ " of '" ++ name
        ++ "' does not fit in a u32"
  | .duplicateName first second item =>
      "'" ++ first ++ "' and '" ++ second ++ "' both generate the item '" ++ item ++ "'"
  | .invalidIdentifier name identifier =>
      "'" ++ name ++ "' does not produce a valid identifier ('" ++ identifier ++ "')"

end IdRegistry
