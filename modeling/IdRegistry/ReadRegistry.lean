import IdRegistry.Classification
import IdRegistry.Document.Reader

namespace IdRegistry

def readRegistry (bytes : List UInt8) : Reported Registry :=
  match Document.parse bytes with
  | .ok definitions => classify definitions
  | .error fault => ⟨[], .error (.document fault)⟩

end IdRegistry
