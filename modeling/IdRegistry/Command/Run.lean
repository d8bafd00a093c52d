import IdRegistry.Bundled
import IdRegistry.Command.Arguments
import IdRegistry.Command.Folder
import IdRegistry.Command.Selection

namespace IdRegistry.Command

structure FileAccess (m : Type → Type) where
  read : String → m (Except FileError (List UInt8))
  write : String → String → m (Except FileError Unit)

/-- A piece of what is printed beside the output of the program itself. -/
inductive Diagnostic where
  | notice (notice : Notice)
  | text (text : String)
  /-- The help or the complaint of the argument parser, without its wording. -/
  | usage (stop : Stop)
deriving DecidableEq, Repr

/-- What a run leaves behind, files aside. -/
structure Report where
  exit : Nat
  output : String
  diagnostics : List Diagnostic
deriving DecidableEq, Repr

inductive RunError where
  | failure (failure : Failure)
  | unreadable (path : String) (error : FileError)
  | unwritable (path : String) (error : FileError)
deriving DecidableEq, Repr

def RunError.message : RunError → String
  | .failure found => found.message
  | .unreadable path _ => "failed to read registry " ++ path
  | .unwritable path _ => "failed to write " ++ path

def RunError.cause? : RunError → Option String
  | .failure _ => none
  | .unreadable _ error => some error.message
  | .unwritable _ error => some error.message

def RunError.text (error : RunError) : String :=
  match error.cause? with
  | none => "Error: " ++ error.message
  | some cause => "Error: " ++ error.message ++ "\n\nCaused by:\n    " ++ cause

def Request.limit (request : Request) : Limit :=
  some (if request.verbose then .debug else .info)

def Request.selection (request : Request) (environment : Environment) :
    Selection × List String :=
  let (selection, warnings) := Selection.ofText ((environment.lookup "RUST_LOG").getD "").toList
  (selection.withDefault request.limit, warnings)

def Request.render (request : Request) (registry : Registry) : Reported String :=
  match request.target with
  | .go =>
      let maps := GoMaps.ofRegistry registry request.package
      ⟨maps.notices, maps.result.map GoMaps.render⟩
  | .rust =>
      let tables := RustTables.ofRegistry registry
      ⟨tables.notices, tables.result.map RustTables.render⟩

def Request.complete (request : Request) (registry : Reported Registry) : Reported String :=
  match registry.result with
  | .error failure => ⟨registry.notices, .error failure⟩
  | .ok found =>
      let text := request.render found
      ⟨registry.notices ++ text.notices, text.result⟩

structure Stage (α : Type) where
  notices : List Notice
  result : Except RunError α

def Request.text {m : Type → Type} [Monad m] (request : Request) (files : FileAccess m) :
    m (Stage String) := do
  match request.registry with
  | none =>
      let text := request.complete Bundled.registry
      pure ⟨text.notices, text.result.mapError .failure⟩
  | some path =>
      match ← files.read path with
      | .error error => pure ⟨[.reading path], .error (.unreadable path error)⟩
      | .ok bytes =>
          let text := request.complete (readRegistry bytes)
          pure ⟨.reading path :: text.notices, text.result.mapError .failure⟩

/-- Write the text where it is asked for. The result is what goes to standard output. -/
def Request.deliver {m : Type → Type} [Monad m] (request : Request) (files : FileAccess m)
    (text : String) : m (Stage String) := do
  match request.output with
  | none => pure ⟨[], .ok text⟩
  | some path =>
      match ← files.write path text with
      | .error error => pure ⟨[], .error (.unwritable path error)⟩
      | .ok () => pure ⟨[.wrote request.target path], .ok ""⟩

def Request.perform {m : Type → Type} [Monad m] (request : Request) (files : FileAccess m) :
    m (Stage String) := do
  let made ← request.text files
  match made.result with
  | .error error => pure ⟨made.notices, .error error⟩
  | .ok text =>
      let delivered ← request.deliver files text
      pure ⟨made.notices ++ delivered.notices, delivered.result⟩

def Request.report (request : Request) (environment : Environment) (stage : Stage String) :
    Report :=
  let (selection, warnings) := request.selection environment
  let printed := warnings.map Diagnostic.text
    ++ (stage.notices.filter selection.selects).map Diagnostic.notice
  match stage.result with
  | .ok output => ⟨0, output, printed⟩
  | .error error => ⟨1, "", printed ++ [.text error.text]⟩

def versionText : String := "protoid-gen 0.1.0\n"

def Stop.report : Stop → Report
  | .version => ⟨0, versionText, []⟩
  | .help => ⟨0, "", [.usage .help]⟩
  | stop => ⟨2, "", [.usage stop]⟩

def run {m : Type → Type} [Monad m] (files : FileAccess m) (environment : Environment)
    (arguments : List String) : m Report := do
  match Request.ofArguments environment arguments with
  | .error stop => pure stop.report
  | .ok request =>
      let stage ← request.perform files
      pure (request.report environment stage)

def Folder.access : FileAccess (StateM Folder) where
  read path := do
    let folder ← get
    pure (folder.read path)
  write path text := do
    let folder ← get
    match folder.write path text with
    | .ok folder =>
        set folder
        pure (.ok ())
    | .error error => pure (.error error)

def runOn (folder : Folder) (environment : Environment) (arguments : List String) :
    Report × Folder :=
  (run Folder.access environment arguments).run folder

end IdRegistry.Command
