import IdRegistry.Notice
import IdRegistry.Output.GoMaps

namespace IdRegistry.Command

/-! Arguments are read from left to right, and the first thing that is wrong decides. A value that stands
in an argument of its own is judged when the next option begins or when the arguments end, so an unknown
argument right after it is noticed first.
-/

inductive Setting where
  | registry
  | target
  | package
  | output
deriving DecidableEq, Repr

inductive Switch where
  | verbose
  | help
  | version
deriving DecidableEq, Repr

inductive Choice where
  | setting (setting : Setting)
  | switch (switch : Switch)
deriving DecidableEq, Repr

/-- Why the arguments call for no run of the program. -/
inductive Stop where
  | invalidValue
  | unknownArgument
  | repeatedOption
  | unexpectedValue
  | help
  | version
deriving DecidableEq, Repr

/-- The option of a long name. Names cannot be shortened. -/
def Choice.ofName? (name : String) : Option Choice :=
  if name = "registry" then some (.setting .registry)
  else if name = "target" then some (.setting .target)
  else if name = "package" then some (.setting .package)
  else if name = "output" then some (.setting .output)
  else if name = "verbose" then some (.switch .verbose)
  else if name = "help" then some (.switch .help)
  else if name = "version" then some (.switch .version)
  else none

def Choice.ofLetter? (letter : Char) : Option Choice :=
  if letter = 'r' then some (.setting .registry)
  else if letter = 't' then some (.setting .target)
  else if letter = 'p' then some (.setting .package)
  else if letter = 'o' then some (.setting .output)
  else if letter = 'v' then some (.switch .verbose)
  else if letter = 'h' then some (.switch .help)
  else if letter = 'V' then some (.switch .version)
  else none

def targetOfWord? (word : String) : Option Target :=
  if word = "go" then some .go else if word = "rust" then some .rust else none

structure Given where
  registry : Option String
  target : Option Target
  package : Option String
  output : Option String
  verbose : Bool
deriving DecidableEq, Repr

namespace Given

def nothing : Given := ⟨none, none, none, none, false⟩

def has (given : Given) : Setting → Bool
  | .registry => given.registry.isSome
  | .target => given.target.isSome
  | .package => given.package.isSome
  | .output => given.output.isSome

/-- Give an option a value. Files have to have a name, and languages have to be known. -/
def set (given : Given) (setting : Setting) (value : String) : Except Stop Given :=
  if given.has setting then .error .repeatedOption
  else
    match setting with
    | .registry =>
        if value = "" then .error .invalidValue else .ok { given with registry := some value }
    | .target =>
        match targetOfWord? value with
        | some target => .ok { given with target := some target }
        | none => .error .invalidValue
    | .package => .ok { given with package := some value }
    | .output =>
        if value = "" then .error .invalidValue else .ok { given with output := some value }

def turnOn (given : Given) : Switch → Except Stop Given
  | .verbose => if given.verbose then .error .repeatedOption else .ok { given with verbose := true }
  | .help => .error .help
  | .version => .error .version

end Given

structure Reading where
  given : Given
  /-- An option whose value has not been judged, and the value if it has been read. -/
  pending : Option (Setting × Option String)
deriving DecidableEq, Repr

namespace Reading

def settle (reading : Reading) : Except Stop Given :=
  match reading.pending with
  | none => .ok reading.given
  | some (_, none) => .error .invalidValue
  | some (setting, some value) => reading.given.set setting value

def expect (reading : Reading) (setting : Setting) : Except Stop Reading := do
  let given ← reading.settle
  .ok ⟨given, some (setting, none)⟩

def attach (reading : Reading) (setting : Setting) (value : List Char) : Except Stop Reading := do
  let given ← reading.settle
  let given ← given.set setting (String.ofList value)
  .ok ⟨given, none⟩

def turnOn (reading : Reading) (switch : Switch) : Except Stop Reading := do
  let given ← reading.settle
  let given ← given.turnOn switch
  .ok ⟨given, none⟩

/-- An argument that begins with two dashes, which are left out here. -/
def long (reading : Reading) (argument : List Char) : Except Stop Reading :=
  let name := argument.takeWhile (· ≠ '=')
  let value := argument.dropWhile (· ≠ '=')
  match Choice.ofName? (String.ofList name), value with
  | none, _ => .error .unknownArgument
  | some (.setting setting), [] => reading.expect setting
  | some (.setting setting), _ :: value => reading.attach setting value
  | some (.switch switch), [] => reading.turnOn switch
  | some (.switch _), _ :: _ => .error .unexpectedValue

def afterEquals : List Char → List Char
  | '=' :: value => value
  | value => value

def short (reading : Reading) : List Char → Except Stop Reading
  | [] => .ok reading
  | letter :: rest =>
      match Choice.ofLetter? letter with
      | none => .error .unknownArgument
      | some (.switch switch) =>
          match reading.turnOn switch with
          | .ok reading => short reading rest
          | .error stop => .error stop
      | some (.setting setting) =>
          if rest.isEmpty then reading.expect setting
          else reading.attach setting (afterEquals rest)

/-- An argument that is no option. It can only be the value of the option before it. -/
def plain (reading : Reading) (argument : String) : Except Stop Reading :=
  match reading.pending with
  | some (setting, none) => .ok ⟨reading.given, some (setting, some argument)⟩
  | _ => .error .unknownArgument

/-- One argument. A lone dash is no option. -/
def argument (reading : Reading) (argument : String) : Except Stop Reading :=
  match argument.toList with
  | '-' :: '-' :: rest => reading.long rest
  | '-' :: letter :: rest => reading.short (letter :: rest)
  | _ => reading.plain argument

/-- All arguments. Nothing can follow two dashes that stand alone. -/
def arguments (reading : Reading) : List String → Except Stop Given
  | [] => reading.settle
  | first :: rest =>
      if first = "--" then if rest.isEmpty then reading.settle else .error .unknownArgument
      else
        match reading.argument first with
        | .ok reading => arguments reading rest
        | .error stop => .error stop

end Reading

abbrev Environment := List (String × String)

structure Request where
  registry : Option String
  target : Target
  package : String
  output : Option String
  verbose : Bool
deriving DecidableEq, Repr

def registryFrom (given : Given) (environment : Environment) : Except Stop (Option String) :=
  match given.registry, environment.lookup "PROTOID_REGISTRY" with
  | some path, _ => .ok (some path)
  | none, some path => if path = "" then .error .invalidValue else .ok (some path)
  | none, none => .ok none

def packageFrom (given : Given) (environment : Environment) : String :=
  match given.package, environment.lookup "PROTOID_PACKAGE" with
  | some package, _ => package
  | none, some package => package
  | none, none => GoMaps.defaultPackage

/-- The request that arguments and environment make. Arguments come first, then the environment,
then the defaults. -/
def Request.ofArguments (environment : Environment) (arguments : List String) :
    Except Stop Request := do
  let given ← Reading.arguments ⟨.nothing, none⟩ arguments
  let registry ← registryFrom given environment
  .ok
    { registry := registry
      target := given.target.getD .go
      package := packageFrom given environment
      output := given.output
      verbose := given.verbose }

end IdRegistry.Command
