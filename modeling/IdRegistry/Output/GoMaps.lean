import IdRegistry.Classification

namespace IdRegistry

structure GoMaps where
  package : String
  /-- One row per identifier: its number and its name without underscores. -/
  rows : List (Int × String)
  pushIds : List Int
deriving DecidableEq, Repr

namespace GoMaps

def defaultPackage : String := "main"

/-- The maps for a registry. The push notifications have to be listed in it. -/
def ofRegistry (registry : Registry) (package : String) : Reported GoMaps :=
  match registry.pushIds with
  | .error failure => ⟨[], .error failure⟩
  | .ok pushIds =>
      let rows := registry.ids.map fun entry => (entry.id, entry.normalizedName)
      ⟨[.generated .go rows.length pushIds.length], .ok ⟨package, rows, pushIds⟩⟩

def quoted (name : String) : List Char :=
  '"' :: name.toList ++ ['"']

def idRow (row : Int × String) : List Char :=
  Text.decimal row.1 ++ [':', ' '] ++ quoted row.2 ++ [',', '\n']

def nameRow (row : Int × String) : List Char :=
  quoted row.2 ++ [':', ' '] ++ Text.decimal row.1 ++ [',', '\n']

def characters (maps : GoMaps) : List Char :=
  "package ".toList ++ maps.package.toList ++ ['\n']
    ++ "var protoid_id2name = map[int]string\x7b\n".toList
    ++ maps.rows.flatMap idRow ++ "\x7d\n".toList
    ++ "var protoid_name2id = map[string]int\x7b\n".toList
    ++ maps.rows.flatMap nameRow ++ "\x7d\n".toList
    ++ "var protoid_push = []int\x7b".toList
    ++ [','].intercalate (maps.pushIds.map Text.decimal) ++ "\x7d\n".toList

def render (maps : GoMaps) : String := String.ofList maps.characters

end GoMaps

end IdRegistry
