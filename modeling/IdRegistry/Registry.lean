import IdRegistry.Failure

namespace IdRegistry

structure ProtocolId where
  name : String
  id : Int
deriving DecidableEq, Repr

structure IdList where
  name : String
  values : List Int
deriving DecidableEq, Repr

structure Registry where
  ids : List ProtocolId
  lists : List IdList
deriving DecidableEq, Repr

def normalizeName (name : String) : String :=
  String.ofList (name.toList.filter (· ≠ '_'))

theorem underscore_notMem_normalizeName (name : String) : '_' ∉ (normalizeName name).toList := by
  simp [normalizeName]

def ProtocolId.normalizedName (entry : ProtocolId) : String :=
  normalizeName entry.name

def pushListName : String := "All_PushId"

namespace Registry

def empty : Registry := ⟨[], []⟩

def list? (registry : Registry) (name : String) : Option IdList :=
  registry.lists.find? fun list => list.name = name

def pushIds (registry : Registry) : Except Failure (List Int) :=
  match registry.list? pushListName with
  | some list => .ok list.values
  | none => .error (.missingList pushListName)

end Registry

end IdRegistry
