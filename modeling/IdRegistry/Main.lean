import IdRegistry.Command.Printing

namespace IdRegistry.Command

def fileError : IO.Error → FileError
  | .noFileOrDirectory _ _ _ => .notFound
  | error => .other (toString error)

def systemFiles : FileAccess IO where
  read path := do
    try
      let bytes ← IO.FS.readBinFile path
      pure (.ok bytes.toList)
    catch error => pure (.error (fileError error))
  write path text := do
    try
      IO.FS.writeFile path text
      pure (.ok ())
    catch error => pure (.error (fileError error))

def usageText : String := "Usage: protoid-gen [OPTIONS]\n"

def environmentNames : List String := ["PROTOID_REGISTRY", "PROTOID_PACKAGE", "RUST_LOG"]

end IdRegistry.Command

open IdRegistry.Command

def main (arguments : List String) : IO UInt32 := do
  let environment ← environmentNames.filterMapM fun name => do
    match ← IO.getEnv name with
    | some value => pure (some (name, value))
    | none => pure none
  let report ← run systemFiles environment arguments
  for diagnostic in report.diagnostics do
    match diagnostic with
    | .usage .help => IO.print usageText
    | .usage _ => IO.eprint usageText
    | other => IO.eprint (String.ofList other.printed)
  IO.print report.output
  pure (UInt32.ofNat report.exit)
