import IdRegistry.Text.Decimal
import IdRegistry.Text.Escape

namespace IdRegistry

inductive Target where
  | go
  | rust
deriving DecidableEq, Repr

def Target.title : Target → String
  | .go => "Go"
  | .rust => "Rust"

inductive Severity where
  | error
  | warn
  | info
  | debug
  | trace
deriving DecidableEq, Repr

def Severity.rank : Severity → Nat
  | .error => 1
  | .warn => 2
  | .info => 3
  | .debug => 4
  | .trace => 5

def Severity.word : Severity → String
  | .error => "ERROR"
  | .warn => "WARN"
  | .info => "INFO"
  | .debug => "DEBUG"
  | .trace => "TRACE"

inductive Notice where
  | skippedConstant (name value : String)
  | skippedList (name : String)
  | generated (target : Target) (ids pushIds : Nat)
  | reading (path : String)
  | wrote (target : Target) (path : String)
deriving DecidableEq, Repr

namespace Notice

def severity : Notice → Severity
  | .skippedConstant _ _ => .debug
  | .skippedList _ => .debug
  | .generated _ _ _ => .info
  | .reading _ => .debug
  | .wrote _ _ => .info

/-- The part of the program that reports, by which notices can be selected. -/
def source : Notice → String
  | .skippedConstant _ _ => "protoid_codegen::repr"
  | .skippedList _ => "protoid_codegen::repr"
  | .generated _ _ _ => "protoid_codegen::codegen"
  | .reading _ => "protoid_gen"
  | .wrote _ _ => "protoid_gen"

private def count (number : Nat) : String :=
  String.ofList (Text.decimal number)

def message : Notice → String
  | .skippedConstant name value =>
      "skipping non-integer constant " ++ name ++ " = "
        ++ String.ofList (Text.shown value.toList)
  | .skippedList name => "skipping list " ++ name ++ " with non-integer items"
  | .generated .go ids pushIds =>
      "generated go maps for " ++ count ids ++ " protocol ids (" ++ count pushIds ++ " push ids)"
  | .generated .rust ids pushIds =>
      "generated rust tables for " ++ count ids ++ " protocol ids (" ++ count pushIds
        ++ " push ids)"
  | .reading path => "reading registry from " ++ path
  | .wrote target path => "wrote " ++ target.title ++ " code to " ++ path

def heading (notice : Notice) : String := notice.severity.word ++ " " ++ notice.source ++ ": "

def line (notice : Notice) : String := notice.heading ++ notice.message

end Notice

end IdRegistry
