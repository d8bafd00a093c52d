import IdRegistry.Definition
import IdRegistry.Notice
import IdRegistry.Registry

namespace IdRegistry

def isPrivate (name : String) : Bool :=
  name.toList.head? = some '_'

inductive Judgement where
  | identifier (entry : ProtocolId)
  | integers (list : IdList)
  | skipped (notice : Notice)
  | ignored
deriving DecidableEq, Repr

def integers? : List String → Option (List Int)
  | [] => some []
  | item :: rest =>
      match Text.integer? item, integers? rest with
      | some value, some values => some (value :: values)
      | _, _ => none

def Definition.judge (definition : Definition) : Judgement :=
  if isPrivate definition.name then .ignored
  else
    match definition with
    | .constant name value =>
        match Text.integer? value with
        | some id => .identifier ⟨name, id⟩
        | none => .skipped (.skippedConstant name value)
    | .list name items =>
        match integers? items with
        | some values => .integers ⟨name, values⟩
        | none => .skipped (.skippedList name)
    | .helper _ => .ignored

def Judgement.notices : Judgement → List Notice
  | .skipped notice => [notice]
  | _ => []

def Judgement.addTo (judgement : Judgement) (registry : Registry) : Registry :=
  match judgement with
  | .identifier entry => { registry with ids := entry :: registry.ids }
  | .integers list => { registry with lists := list :: registry.lists }
  | .skipped _ => registry
  | .ignored => registry

structure Reported (α : Type) where
  notices : List Notice
  result : Except Failure α

/-- Judge the definitions that follow entries of the given names. -/
def classifyAfter (used : List String) : List Definition → Reported Registry
  | [] => ⟨[], .ok .empty⟩
  | definition :: rest =>
      if definition.name ∈ used then ⟨[], .error (.duplicateEntry definition.name)⟩
      else
        let judgement := definition.judge
        let later := classifyAfter (definition.name :: used) rest
        ⟨judgement.notices ++ later.notices, later.result.map judgement.addTo⟩

def classify (definitions : List Definition) : Reported Registry :=
  classifyAfter [] definitions

end IdRegistry
