import IdRegistry.Command.Run
import IdRegistry.Text.Controls

namespace IdRegistry.Command

/-- A notice as it is printed: without control sequences, and with the lines after the first one set in.
If it ends in an unfinished control sequence, the line break at its end is lost as well. -/
def noticeText (notice : Notice) : List Char :=
  let setIn := notice.message.toList.flatMap fun c =>
    if c = '\n' then '\n' :: List.replicate 4 ' ' else [c]
  notice.heading.toList ++ Text.withoutControls (setIn ++ ['\n'])

def Diagnostic.printed : Diagnostic → List Char
  | .notice found => noticeText found
  | .text found => found.toList ++ ['\n']
  | .usage _ => []

end IdRegistry.Command
