import IdRegistry.Markup.Character

namespace IdRegistry.Markup

inductive Mark where
  | character (c : Char)
  | quote (c : Char)
  | equals
  | ampersand
  | semicolon
  | tagOpen
  | endTagOpen
  | tagClose
  | emptyTagClose
  | instructionOpen
  | instructionClose
  | commentOpen
  | commentClose
  | sectionOpen
  | sectionClose
  | doctypeOpen
  | declarationOpen
deriving DecidableEq, Repr

namespace Mark

def spelling : Mark → List Char
  | .character c => [c]
  | .quote c => [c]
  | .equals => ['=']
  | .ampersand => ['&']
  | .semicolon => [';']
  | .tagOpen => ['<']
  | .endTagOpen => ['<', '/']
  | .tagClose => ['>']
  | .emptyTagClose => ['/', '>']
  | .instructionOpen => ['<', '?']
  | .instructionClose => ['?', '>']
  | .commentOpen => ['<', '!', '-', '-']
  | .commentClose => ['-', '-', '>']
  | .sectionOpen => "<![CDATA[".toList
  | .sectionClose => [']', ']', '>']
  | .doctypeOpen => "<!DOCTYPE".toList
  | .declarationOpen => ['<', '!']

def isBlank : Mark → Bool
  | .character c => isSpace c
  | _ => false

end Mark

end IdRegistry.Markup
