import IdRegistry.Markup.Character

namespace IdRegistry.Markup

inductive Setting where
  | version
  | encoding
  | standalone
deriving DecidableEq, Repr

namespace Setting

/-- The letter that the name of a setting begins with. It stands alone; the others are the local part
of a qualified name. -/
def initial : Setting → Char
  | .version => 'v'
  | .encoding => 'e'
  | .standalone => 's'

def others : Setting → List Char
  | .version => "ersion".toList
  | .encoding => "ncoding".toList
  | .standalone => "tandalone".toList

def later : Setting → List Setting
  | .version => [.encoding, .standalone]
  | .encoding => [.standalone]
  | .standalone => []

def ofInitial? (settings : List Setting) (c : Char) : Option Setting :=
  settings.find? fun setting => setting.initial = c

end Setting

structure Declaration where
  edition : Edition
  label : Option (List Char)
  latest : Option Setting
  /-- Whether a space follows it, so that another can begin. -/
  spaced : Bool
deriving DecidableEq, Repr

namespace Declaration

def start : Declaration := ⟨.first, none, none, true⟩

def possible (declaration : Declaration) : List Setting :=
  if !declaration.spaced then []
  else
    match declaration.latest with
    | none => [.version]
    | some latest => latest.later

def canEnd (declaration : Declaration) : Bool := declaration.latest.isSome

def edition? (version : List Char) : Option Edition :=
  if version = "1.0".toList then some .first
  else if version = "1.1".toList then some .second
  else none

/-- The declaration after the value of a setting, if the setting can have that value. Whether a
document stands alone makes no difference. -/
def give? (declaration : Declaration) (setting : Setting) (value : List Char) :
    Option Declaration :=
  let after := { declaration with latest := some setting, spaced := false }
  match setting with
  | .version => (edition? value).map fun edition => { after with edition := edition }
  | .encoding => some { after with label := some value }
  | .standalone => if value = "yes".toList ∨ value = "no".toList then some after else none

end Declaration

end IdRegistry.Markup
