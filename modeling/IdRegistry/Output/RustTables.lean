import IdRegistry.Classification
import IdRegistry.ConstantName
import IdRegistry.Output.Token

namespace IdRegistry

structure TableRow where
  constant : String
  id : Nat
  name : String
deriving DecidableEq, Repr

structure RustTables where
  constants : List (String × Nat)
  idToName : List (Nat × String)
  nameToId : List (String × Nat)
  pushIds : List Nat
deriving DecidableEq, Repr

def ProtocolId.constant (entry : ProtocolId) : Except Failure String :=
  let shouted := ConstantName.shouted entry.normalizedName.toList
  match ConstantName.identifier? shouted with
  | some identifier => .ok (String.ofList identifier)
  | none => .error (.invalidIdentifier entry.name (String.ofList shouted))

def word32 (name : String) (id : Int) : Except Failure Nat :=
  if 0 ≤ id ∧ id ≤ 4294967295 then .ok id.toNat else .error (.idOutOfRange name id)

namespace RustTables

/-- The rows for entries that follow others, whose constants and names are given. -/
def rowsAfter (used : List (String × String)) : List ProtocolId → Except Failure (List TableRow)
  | [] => .ok []
  | entry :: rest => do
      let constant ← entry.constant
      match used.lookup constant with
      | some first => .error (.duplicateName first entry.name constant)
      | none =>
          let id ← word32 entry.name entry.id
          let rows ← rowsAfter ((constant, entry.name) :: used) rest
          .ok (⟨constant, id, entry.normalizedName⟩ :: rows)

def pushWords : List Int → Except Failure (List Nat)
  | [] => .ok []
  | id :: rest => do
      let first ← word32 pushListName id
      let later ← pushWords rest
      .ok (first :: later)

def ofRows (rows : List TableRow) (pushIds : List Nat) : RustTables where
  constants := rows.map fun row => (row.constant, row.id)
  idToName := rows.map fun row => (row.id, row.name)
  nameToId := rows.map fun row => (row.name, row.id)
  pushIds := pushIds

def make (registry : Registry) : Except Failure RustTables := do
  let rows ← rowsAfter [] registry.ids
  let listed ← registry.pushIds
  let pushIds ← pushWords listed
  .ok (ofRows rows pushIds)

def ofRegistry (registry : Registry) : Reported RustTables :=
  match make registry with
  | .error failure => ⟨[], .error failure⟩
  | .ok tables =>
      ⟨[.generated .rust tables.constants.length tables.pushIds.length], .ok tables⟩

/-- The functions that search the tables, which every file begins with. -/
def headerLines : List String :=
  ["// Generated by protoid-gen from the protocol identifier registry. Do not edit.",
   "",
   "/// Returns the name of a protocol id (with underscores removed)",
   "pub fn name_of(id: u32) -> Option<&'static str> \x7b",
   "    ID_TO_NAME.iter().find(|(value, _)| *value == id).map(|(_, name)| *name)",
   "\x7d",
   "",
   "/// Returns the protocol id registered under `name`",
   "pub fn id_of(name: &str) -> Option<u32> \x7b",
   "    NAME_TO_ID.iter().find(|(key, _)| *key == name).map(|(_, id)| *id)",
   "\x7d",
   "",
   "/// Returns true if `id` identifies a push notification",
   "pub fn is_push(id: u32) -> bool \x7b",
   "    PUSH_IDS.contains(&id)",
   "\x7d",
   ""]

def header : List Char :=
  headerLines.flatMap fun line => line.toList ++ ['\n']

private def word (spelling : String) : Token := .word spelling.toList

def constantTokens (constant : String × Nat) : List Token :=
  [word "pub", word "const", .word constant.1.toList, .mark ':', word "u32", .mark '=',
   .number constant.2, .mark ';']

def idRowTokens (row : Nat × String) : List Token :=
  [.mark '(', .number row.1, .mark ',', .text row.2.toList, .mark ')', .mark ',']

def nameRowTokens (row : String × Nat) : List Token :=
  [.mark '(', .text row.1.toList, .mark ',', .number row.2, .mark ')', .mark ',']

def pushTokens (id : Nat) : List Token :=
  [.number id, .mark ',']

def tableTokens (name : String) (rowType rows : List Token) : List Token :=
  [word "pub", word "static", word name, .mark ':', .mark '&', .mark '['] ++ rowType
    ++ [.mark ']', .mark '=', .mark '&', .mark '['] ++ rows ++ [.mark ']', .mark ';']

def tokens (tables : RustTables) : List Token :=
  [.mark '#', .mark '[', word "allow", .mark '(', word "dead_code", .mark ')', .mark ']',
   word "pub", word "mod", word "ids", .mark '\x7b']
    ++ tables.constants.flatMap constantTokens ++ [.mark '\x7d']
    ++ tableTokens "ID_TO_NAME"
        [.mark '(', word "u32", .mark ',', .mark '&', word "str", .mark ')']
        (tables.idToName.flatMap idRowTokens)
    ++ tableTokens "NAME_TO_ID"
        [.mark '(', .mark '&', word "str", .mark ',', word "u32", .mark ')']
        (tables.nameToId.flatMap nameRowTokens)
    ++ tableTokens "PUSH_IDS" [word "u32"] (tables.pushIds.flatMap pushTokens)

def characters (tables : RustTables) : List Char :=
  header ++ Token.spell tables.tokens ++ ['\n']

def render (tables : RustTables) : String := String.ofList tables.characters

end RustTables

end IdRegistry
