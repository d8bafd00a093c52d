namespace IdRegistry.Command

inductive FileError where
  | notFound
  | isDirectory
  | notDirectory
  | nameTooLong
  | noSpace
  | nullCharacter
  | other (message : String)
deriving DecidableEq, Repr

def FileError.message : FileError → String
  | .notFound => "No such file or directory (os error 2)"
  | .isDirectory => "Is a directory (os error 21)"
  | .notDirectory => "Not a directory (os error 20)"
  | .nameTooLong => "File name too long (os error 36)"
  | .noSpace => "No space left on device (os error 28)"
  | .nullCharacter => "file name contained an unexpected NUL byte"
  | .other message => message

inductive Node where
  | directory
  | file (bytes : List UInt8)
  /-- A device that is always empty and takes everything. -/
  | sink
  /-- A device that takes nothing. -/
  | full
  /-- A device that passes on what is written to it, with what it has passed on. -/
  | outlet (passed : String)
deriving DecidableEq, Repr

/-- A tree of files. Places are given by the names on the way from the root. -/
structure Folder where
  here : List String
  nodes : List (List String × Node)
deriving DecidableEq, Repr

def pathNames (path : String) : List String :=
  go [] path.toList
where
  /-- The names in the rest of a path, after the characters of a name, newest first. -/
  go (name : List Char) : List Char → List String
    | [] => [String.ofList name.reverse]
    | c :: rest =>
        if c = '/' then String.ofList name.reverse :: go [] rest else go (c :: name) rest

inductive Place where
  | directory
  | other (names : List String) (node : Node)
  /-- Nothing yet, in a directory that exists. -/
  | vacant (names : List String)
deriving DecidableEq, Repr

def nameLimit : Nat := 255

def pathLimit : Nat := 4095

namespace Folder

def empty (here : List String) : Folder :=
  ⟨here, (List.range here.length).map fun depth => (here.take (depth + 1), .directory)⟩

def node? (folder : Folder) (names : List String) : Option Node :=
  if names.isEmpty then some .directory else folder.nodes.lookup names

def put (folder : Folder) (names : List String) (node : Node) : Folder :=
  { folder with nodes := (names, node) :: folder.nodes.filter fun entry => entry.1 ≠ names }

/-- Follow names from a directory on. Nothing and a dot both name the place where one is, and the
directory above the root is the root. -/
def follow (folder : Folder) (here : List String) : List String → Except FileError Place
  | [] => .ok .directory
  | name :: rest =>
      if name = "" ∨ name = "." then follow folder here rest
      else if name = ".." then follow folder here.dropLast rest
      else if nameLimit < name.utf8ByteSize then .error .nameTooLong
      else
        let there := here ++ [name]
        match folder.node? there with
        | some .directory => follow folder there rest
        | some node => if rest.isEmpty then .ok (.other there node) else .error .notDirectory
        | none => if rest.isEmpty then .ok (.vacant there) else .error .notFound

def origin (folder : Folder) (path : String) : List String :=
  if path.toList.head? = some '/' then [] else folder.here

def checkPath (path : String) : Except FileError Unit :=
  if path.toList.contains '\x00' then .error .nullCharacter
  else if path = "" then .error .notFound
  else if pathLimit < path.utf8ByteSize then .error .nameTooLong
  else .ok ()

def locate (folder : Folder) (path : String) : Except FileError Place := do
  checkPath path
  folder.follow (folder.origin path) (pathNames path)

def read (folder : Folder) (path : String) : Except FileError (List UInt8) := do
  match ← folder.locate path with
  | .directory => .error .isDirectory
  | .vacant _ => .error .notFound
  | .other _ (.file bytes) => .ok bytes
  | .other _ _ => .ok []

def namesDirectory (names : List String) : Bool :=
  names.getLast? = some ""

def beforeSlashes (names : List String) : List String :=
  (names.reverse.dropWhile (· = "")).reverse

/-- Write a text to a file. A path that ends with a slash can only be that of a directory, whatever
stands there; the directories on the way are looked at first. -/
def write (folder : Folder) (path content : String) : Except FileError Folder := do
  checkPath path
  let names := pathNames path
  if namesDirectory names then
    let _ ← folder.follow (folder.origin path) ((beforeSlashes names).dropLast ++ ["."])
    .error .isDirectory
  else
    match ← folder.follow (folder.origin path) names with
    | .directory => .error .isDirectory
    | .vacant there => .ok (folder.put there (.file content.toUTF8.toList))
    | .other there (.file _) => .ok (folder.put there (.file content.toUTF8.toList))
    | .other _ .full => if content = "" then .ok folder else .error .noSpace
    | .other there (.outlet passed) => .ok (folder.put there (.outlet (passed ++ content)))
    | .other _ _ => .ok folder

end Folder

end IdRegistry.Command
