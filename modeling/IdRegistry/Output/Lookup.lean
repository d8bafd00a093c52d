import IdRegistry.Output.RustTables

namespace IdRegistry.RustTables

def nameOf (tables : RustTables) (id : Nat) : Option String :=
  (tables.idToName.find? fun row => row.1 = id).map fun row => row.2

def idOf (tables : RustTables) (name : String) : Option Nat :=
  (tables.nameToId.find? fun row => row.1 = name).map fun row => row.2

def isPush (tables : RustTables) (id : Nat) : Bool :=
  tables.pushIds.contains id

end IdRegistry.RustTables
