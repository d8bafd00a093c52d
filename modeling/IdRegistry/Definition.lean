namespace IdRegistry

inductive Definition where
  /-- A named value, which is an identifier if the value is a whole number. -/
  | constant (name value : String)
  | list (name : String) (items : List String)
  | helper (name : String)
deriving DecidableEq, Repr

def Definition.name : Definition → String
  | .constant name _ => name
  | .list name _ => name
  | .helper name => name

end IdRegistry
