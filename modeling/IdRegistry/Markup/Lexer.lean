import IdRegistry.Markup.Mark

namespace IdRegistry.Markup

/-! Which marks a character is part of depends on the marks before it: in comments, in sections of plain
text and in quotes most signs are mere characters. The lexer keeps track of these by itself, without
regard to what the marks mean where they stand. So a sign that begins a comment does so inside the
value of an attribute too, and a quote inside that comment does not end the value.
-/

/-- Where the lexer is when it is inside of nothing: in content, or in a document type, which has
fewer marks and ends at the next closing angle bracket. -/
inductive Ground where
  | content
  | doctype
deriving DecidableEq, Repr

inductive Lexical where
  /-- Content, after so many closing brackets that may begin the end of a section, two at most. -/
  | content (brackets : Nat)
  | slash
  | doctype
  | angle
  | exclamation
  | dash
  /-- In the keyword of a section or of a document type, of which the rest is given. -/
  | keyword (rest : List Char) (opens : Mark)
  /-- In a processing instruction; `question` after a question mark. -/
  | instruction (question : Bool)
  /-- In a comment, after so many dashes, two at most. -/
  | comment (dashes : Nat)
  /-- In a section of plain text, after so many closing brackets, two at most. -/
  | section (brackets : Nat)
  | declaration
  | quoted (quote : Char)
deriving DecidableEq, Repr

/-- The lexer: what it is in, and where it will be after most of what it can be in. -/
structure Lexer where
  ground : Ground
  state : Lexical
deriving DecidableEq, Repr

namespace Lexer

def start : Lexer := ⟨.content, .content 0⟩

def Ground.state : Ground → Lexical
  | .content => .content 0
  | .doctype => .doctype

def back (lexer : Lexer) : Lexer := { lexer with state := Ground.state lexer.ground }

/-- The mark for a character that is no part of a longer one in any surroundings. -/
def single (c : Char) : Mark :=
  if c = '"' ∨ c = '\'' then .quote c
  else if c = '&' then .ampersand
  else if c = ';' then .semicolon
  else .character c

def stepContent (lexer : Lexer) (c : Char) : Lexer × List Mark :=
  if c = '<' then ({ lexer with state := .angle }, [])
  else if c = '/' then ({ lexer with state := .slash }, [])
  else if c = ']' then ({ lexer with state := .content 1 }, [])
  else
    ({ lexer with state := .content 0 },
      [if c = '>' then .tagClose else if c = '=' then .equals else single c])

def stepBrackets (lexer : Lexer) (two : Bool) (c : Char) : Lexer × List Mark :=
  let bracket := Mark.character ']'
  if c = ']' then ({ lexer with state := .content 2 }, if two then [bracket] else [])
  else if two && c = '>' then ({ lexer with state := .content 0 }, [.sectionClose])
  else
    let (next, marks) := lexer.stepContent c
    (next, (if two then [bracket, bracket] else [bracket]) ++ marks)

def stepDoctype (lexer : Lexer) (c : Char) : Lexer × List Mark :=
  if c = '<' then ({ lexer with state := .angle }, [])
  else if c = '>' then (start, [.tagClose])
  else ({ lexer with state := .doctype }, [single c])

def stepGround (lexer : Lexer) (c : Char) : Lexer × List Mark :=
  match lexer.ground with
  | .content => lexer.stepContent c
  | .doctype => lexer.stepDoctype c

/-- A character in a processing instruction, not after a question mark. Single characters stand for
marks here that are longer elsewhere. -/
def stepInstruction (lexer : Lexer) (c : Char) : Lexer × List Mark :=
  if c = '?' then ({ lexer with state := .instruction true }, [])
  else
    ({ lexer with state := .instruction false },
      [if c = '<' then .tagOpen
        else if c = '>' then .tagClose
        else if c = '/' then .endTagOpen
        else if c = '=' then .equals
        else single c])

def stepSection (lexer : Lexer) (brackets : Nat) (c : Char) : Lexer × List Mark :=
  if c = ']' then
    if brackets < 2 then ({ lexer with state := .section (brackets + 1) }, [])
    else (lexer, [.character ']'])
  else if c = '>' ∧ 2 ≤ brackets then ({ lexer with state := .content 0 }, [.sectionClose])
  else
    ({ lexer with state := .section 0 },
      List.replicate brackets (.character ']') ++ [.character c])

def stepAngle (lexer : Lexer) (c : Char) : Option (Lexer × List Mark) :=
  if c = '?' then some ({ lexer with state := .instruction false }, [.instructionOpen])
  else if c = '/' then some (lexer.back, [.endTagOpen])
  else if c = '!' then some ({ lexer with state := .exclamation }, [])
  else if isSpace c || isNameChar c then
    let (next, marks) := lexer.stepGround c
    some (next, .tagOpen :: marks)
  else none

/-- The character after `<!`, where it is possible. Other declarations are known in a document type
only. -/
def stepExclamation (lexer : Lexer) (c : Char) : Option (Lexer × List Mark) :=
  if c = '-' then some ({ lexer with state := .dash }, [])
  else if c = '[' then some ({ lexer with state := .keyword "CDATA[".toList .sectionOpen }, [])
  else if c = 'D' then some ({ lexer with state := .keyword "OCTYPE".toList .doctypeOpen }, [])
  else if lexer.ground = .doctype ∧ (c = 'E' ∨ c = 'A' ∨ c = 'N') then
    some ({ lexer with state := .declaration }, [.declarationOpen, .character c])
  else none

def afterKeyword (lexer : Lexer) (opens : Mark) : Lexer :=
  if opens = .sectionOpen then { lexer with state := .section 0 } else ⟨.doctype, .doctype⟩

def stepDeclaration (lexer : Lexer) (c : Char) : Option (Lexer × List Mark) :=
  if c = '<' then none
  else if c = '>' then some (lexer.back, [.tagClose])
  else if c = '"' ∨ c = '\'' then some ({ lexer with state := .quoted c }, [.quote c])
  else some (lexer, [single c])

/-- Read one character: the lexer after it and the marks that are complete. There is no result where
no mark can go on like this. -/
def step (lexer : Lexer) (c : Char) : Option (Lexer × List Mark) :=
  match lexer.state with
  | .content 0 => some (lexer.stepContent c)
  | .content 1 => some (lexer.stepBrackets false c)
  | .content _ => some (lexer.stepBrackets true c)
  | .slash =>
      if c = '>' then some (lexer.back, [.emptyTagClose])
      else
        let (next, marks) := lexer.stepGround c
        some (next, .character '/' :: marks)
  | .doctype => some (lexer.stepDoctype c)
  | .angle => lexer.stepAngle c
  | .exclamation => lexer.stepExclamation c
  | .dash => if c = '-' then some ({ lexer with state := .comment 0 }, [.commentOpen]) else none
  | .keyword [] _ => none
  | .keyword (expected :: rest) opens =>
      if c ≠ expected then none
      else if rest.isEmpty then some (lexer.afterKeyword opens, [opens])
      else some ({ lexer with state := .keyword rest opens }, [])
  | .instruction question =>
      if question then
        if c = '>' then some (lexer.back, [.instructionClose])
        else
          let (next, marks) := lexer.stepInstruction c
          some (next, .character '?' :: marks)
      else some (lexer.stepInstruction c)
  | .comment dashes =>
      if 2 ≤ dashes then if c = '>' then some (lexer.back, [.commentClose]) else none
      else if c = '-' then some ({ lexer with state := .comment (dashes + 1) }, [])
      else
        some ({ lexer with state := .comment 0 },
          List.replicate dashes (.character '-') ++ [.character c])
  | .section brackets => some (lexer.stepSection brackets c)
  | .declaration => lexer.stepDeclaration c
  | .quoted quote =>
      if c = quote then some ({ lexer with state := .declaration }, [.quote c])
      else some (lexer, [.character c])

end Lexer

end IdRegistry.Markup
