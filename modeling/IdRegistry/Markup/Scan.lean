import IdRegistry.Markup.Declaration
import IdRegistry.Markup.Doctype
import IdRegistry.Markup.Event
import IdRegistry.Markup.Lexer
import IdRegistry.Markup.Tag

namespace IdRegistry.Markup

/-! `Scan.step` reads one character and takes the marks that it completes. The events that a character
completes come before whatever is wrong with that character. Text is collected until a tag or a
processing instruction begins; comments and sections of plain text do not interrupt it.

Names may have any length here, and tags any number of attributes.
-/

/-- What has attributes. The settings of a declaration are written like the attributes of a tag. -/
inductive Owner where
  | tag (tag : Tag)
  | declaration (declaration : Declaration) (setting : Setting)

/-- Whether an attribute may have a name: in a tag one that no other has, in a declaration the name of
the setting. -/
def Owner.allows (owner : Owner) (name : QualifiedName) : Bool :=
  match owner with
  | .tag begun => !begun.has name
  | .declaration _ setting => name.localName = setting.others

/-- Where in the markup the next mark stands. Names and values under way are held newest character
first. -/
inductive Mode where
  | content
  | reference (name : List Char)
  | comment
  | section
  | instructionName (name : List Char)
  | instruction
  | declaration (declaration : Declaration)
  | doctype (doctype : Doctype)
  | tagName (name : List Char)
  | tag (tag : Tag)
  | attributeName (owner : Owner) (name : List Char)
  | afterAttributeName (owner : Owner) (name : QualifiedName)
  | beforeValue (owner : Owner) (name : QualifiedName)
  | value (owner : Owner) (name : QualifiedName) (quote : Char) (read : List Char)
  | valueReference (owner : Owner) (name : QualifiedName) (quote : Char)
      (read reference : List Char)
  | afterValue (tag : Tag)
  | closingName (name : List Char)
  | closing (name : List Char)

structure Scan where
  edition : Edition
  untouched : Bool
  untyped : Bool
  entities : Entities
  elements : List Element
  /-- The text since the last tag or processing instruction, newest character first. -/
  text : List Char
  /-- Whether that text is worth no event. A reference to a declared text with nothing before it makes
  it worth one even if nothing but spaces follows. -/
  blank : Bool
  lexer : Lexer
  mode : Mode

/-- What reading one character leads to. There is no next state if the document is not well
formed. -/
structure Step where
  events : List Event
  next : Option Scan
  /-- A declared text that is to be read before what follows. -/
  replacement : List Char

namespace Scan

def start : Scan where
  edition := .first
  untouched := true
  untyped := true
  entities := []
  elements := []
  text := []
  blank := true
  lexer := .start
  mode := .content

def malformed : Step := ⟨[], none, []⟩

def goOn (scan : Scan) (mode : Mode) : Step := ⟨[], some { scan with mode := mode }, []⟩

def textEvents (scan : Scan) : List Event :=
  if scan.text.isEmpty || scan.blank then []
  else [.text (String.ofList (trimSpaces scan.text.reverse))]

def afterText (scan : Scan) (mode : Mode) : Step :=
  ⟨scan.textEvents, some { scan with text := [], blank := true, mode := mode }, []⟩

/-- Marks that are text between tags, though not there alone. -/
def addText (scan : Scan) (characters : List Char) (blank : Bool) : Scan :=
  { scan with text := characters.reverse ++ scan.text, blank := scan.blank && blank }

/-- A character between tags. Spaces before a text are no part of it. -/
def takeCharacter (scan : Scan) (c : Char) : Step :=
  if isSpace c && (scan.text.isEmpty || scan.elements.isEmpty) then
    { scan with untouched := false }.goOn .content
  else if scan.elements.isEmpty || !isLiteral scan.edition c then malformed
  else (scan.addText [c] (isSpace c)).goOn .content

/-- A mark between tags. What begins here also ends the text before, comments and sections apart. -/
def takeContent (scan : Scan) (mark : Mark) : Step :=
  let outside := scan.elements.isEmpty
  let before := scan
  let scan := { scan with untouched := false }
  match mark with
  | .character c => before.takeCharacter c
  | .instructionOpen => before.afterText (.instructionName [])
  | .tagOpen => scan.afterText (.tagName [])
  | .endTagOpen => if outside then malformed else scan.afterText (.closingName [])
  | .commentOpen => scan.goOn .comment
  | .sectionOpen => if outside then malformed else scan.goOn .section
  | .doctypeOpen =>
      if outside ∧ scan.untyped then { scan with untyped := false }.goOn (.doctype .outside)
      else malformed
  | .ampersand => if outside then malformed else scan.goOn (.reference [])
  | .sectionClose => malformed
  | .declarationOpen => malformed
  | other => if outside then malformed else (scan.addText other.spelling false).goOn .content

/-- A mark in a reference between tags. A declared text takes the place of the reference. -/
def takeReference (scan : Scan) (name : List Char) : Mark → Step
  | .semicolon =>
      match Replacement.ofName? scan.edition scan.entities name.reverse with
      | some (.character found) => (scan.addText [found] (isSpace found)).goOn .content
      | some (.declared text) =>
          { (scan.addText [] (!scan.text.isEmpty)).goOn .content with replacement := text }
      | none => malformed
  | .character c =>
      if extendsReference name c then scan.goOn (.reference (c :: name)) else malformed
  | _ => malformed

def takeComment (scan : Scan) : Mark → Step
  | .commentClose => scan.goOn .content
  | .character c => if isAllowed scan.edition c then scan.goOn .comment else malformed
  | _ => scan.goOn .comment

def takeSection (scan : Scan) : Mark → Step
  | .sectionClose => scan.goOn .content
  | .character c =>
      if isAllowed scan.edition c then (scan.addText [c] (isSpace c)).goOn .section else malformed
  | _ => malformed

/-- Whether the name of a processing instruction is set aside for declarations. -/
def isDeclarationName (name : List Char) : Bool := name.map Char.toLower = standardQualifier

def takeInstructionName (scan : Scan) (name : List Char) (mark : Mark) : Step :=
  let after := { scan with untouched := false }
  match mark with
  | .instructionClose =>
      if name.isEmpty || isDeclarationName name.reverse then malformed else after.goOn .content
  | .character c =>
      if if name.isEmpty then isNameStart c else isNameChar c then
        scan.goOn (.instructionName (c :: name))
      else if !isSpace c then malformed
      else if name.reverse = standardQualifier ∧ scan.untouched then
        after.goOn (.declaration .start)
      else if isDeclarationName name.reverse then malformed
      else after.goOn .instruction
  | _ => malformed

def takeInstruction (scan : Scan) : Mark → Step
  | .instructionClose => scan.goOn .content
  | .character c => if isAllowed scan.edition c then scan.goOn .instruction else malformed
  | _ => scan.goOn .instruction

def takeDeclaration (scan : Scan) (declaration : Declaration) : Mark → Step
  | .instructionClose =>
      if declaration.canEnd then ⟨[.declared declaration.label], some { scan with mode := .content }, []⟩
      else malformed
  | .character c =>
      if isSpace c then scan.goOn (.declaration { declaration with spaced := true })
      else
        match Setting.ofInitial? declaration.possible c with
        | some setting => scan.goOn (.attributeName (.declaration declaration setting) [])
        | none => malformed
  | _ => malformed

def takeDoctype (scan : Scan) (doctype : Doctype) (mark : Mark) : Step :=
  match doctype.step scan.edition scan.entities mark with
  | .malformed => malformed
  | .go doctype entities replacement =>
      { { scan with entities := entities }.goOn (.doctype doctype) with replacement := replacement }
  | .done entities => { scan with entities := entities }.goOn .content

def finishTag (scan : Scan) (tag : Tag) (empty : Bool) : Step :=
  if tag.inScope scan.elements tag.name
      && tag.attributes.all fun entry => tag.inScope scan.elements entry.1 then
    let event := Event.start (String.ofList tag.name.localName) tag.visibleAttributes
    if empty then ⟨[event, .close], some { scan with mode := .content }, []⟩
    else
      let element : Element := ⟨tag.spelling, tag.qualifiers⟩
      ⟨[event], some { scan with elements := element :: scan.elements, mode := .content }, []⟩
  else malformed

/-- The end of an end tag, which has to name the innermost element. -/
def finishClosing (scan : Scan) (spelling : List Char) : Step :=
  match scan.elements with
  | [] => malformed
  | element :: outer =>
      if element.spelling = spelling then
        ⟨[.close], some { scan with elements := outer, mode := .content }, []⟩
      else malformed

/-- A mark in a qualified name: go on in the name, or with what the mark after it means. -/
def takeName (scan : Scan) (name : List Char) (inside : List Char → Mode)
    (after : List Char → QualifiedName → Step) (mark : Mark) : Step :=
  let ended :=
    match QualifiedName.ofSpelling? name.reverse with
    | some found => after name.reverse found
    | none => malformed
  match mark with
  | .character c => if extendsName name c then scan.goOn (inside (c :: name)) else ended
  | _ => ended

def finishTagName (scan : Scan) (mark : Mark) (spelling : List Char) (name : QualifiedName) : Step :=
  let tag : Tag := ⟨name, spelling, [], []⟩
  if isReserved name then malformed
  else
    match mark with
    | .tagClose => scan.finishTag tag false
    | .emptyTagClose => scan.finishTag tag true
    | _ => if mark.isBlank then scan.goOn (.tag tag) else malformed

def takeTag (scan : Scan) (tag : Tag) : Mark → Step
  | .tagClose => scan.finishTag tag false
  | .emptyTagClose => scan.finishTag tag true
  | .character c =>
      if isSpace c then scan.goOn (.tag tag)
      else if isNameStart c then scan.goOn (.attributeName (.tag tag) [c])
      else malformed
  | _ => malformed

def takeAfterValue (scan : Scan) (tag : Tag) : Mark → Step
  | .tagClose => scan.finishTag tag false
  | .emptyTagClose => scan.finishTag tag true
  | .character c => if isSpace c then scan.goOn (.tag tag) else malformed
  | _ => malformed

def takeAfterAttributeName (scan : Scan) (owner : Owner) (name : QualifiedName) (mark : Mark) :
    Step :=
  if mark = .equals then scan.goOn (.beforeValue owner name)
  else if mark.isBlank then scan.goOn (.afterAttributeName owner name)
  else malformed

def finishAttributeName (scan : Scan) (owner : Owner) (mark : Mark) (name : QualifiedName) :
    Step :=
  if owner.allows name then scan.takeAfterAttributeName owner name mark else malformed

def takeBeforeValue (scan : Scan) (owner : Owner) (name : QualifiedName) : Mark → Step
  | .quote c => scan.goOn (.value owner name c [])
  | .character c => if isSpace c then scan.goOn (.beforeValue owner name) else malformed
  | _ => malformed

def finishValue (scan : Scan) (owner : Owner) (name : QualifiedName) (value : List Char) : Step :=
  match owner with
  | .tag tag =>
      match tag.add name value with
      | some tag => scan.goOn (.afterValue tag)
      | none => malformed
  | .declaration declaration setting =>
      match declaration.give? setting value with
      | some declaration =>
          { scan with edition := declaration.edition }.goOn (.declaration declaration)
      | none => malformed

/-- A mark in the value of an attribute. Most marks mean nothing here and are part of the value. -/
def takeValue (scan : Scan) (owner : Owner) (name : QualifiedName) (quote : Char)
    (read : List Char) (mark : Mark) : Step :=
  if mark = .quote quote then scan.finishValue owner name read.reverse
  else
    match mark with
    | .ampersand => scan.goOn (.valueReference owner name quote read [])
    | .tagOpen => malformed
    | .instructionOpen => malformed
    | .character c =>
        if isLiteral scan.edition c then scan.goOn (.value owner name quote (c :: read))
        else malformed
    | other => scan.goOn (.value owner name quote (other.spelling.reverse ++ read))

/-- A mark in a reference inside the value of an attribute. A declared text becomes part of the value
as it is. -/
def takeValueReference (scan : Scan) (owner : Owner) (name : QualifiedName) (quote : Char)
    (read reference : List Char) : Mark → Step
  | .semicolon =>
      match Replacement.ofName? scan.edition scan.entities reference.reverse with
      | some replacement =>
          scan.goOn (.value owner name quote (replacement.characters.reverse ++ read))
      | none => malformed
  | .character c =>
      if extendsReference reference c then
        scan.goOn (.valueReference owner name quote read (c :: reference))
      else malformed
  | _ => malformed

def takeClosing (scan : Scan) (spelling : List Char) (mark : Mark) : Step :=
  if mark = .tagClose then scan.finishClosing spelling
  else if mark.isBlank then scan.goOn (.closing spelling)
  else malformed

def take (scan : Scan) (mark : Mark) : Step :=
  match scan.mode with
  | .content => scan.takeContent mark
  | .reference name => scan.takeReference name mark
  | .comment => scan.takeComment mark
  | .section => scan.takeSection mark
  | .instructionName name => scan.takeInstructionName name mark
  | .instruction => scan.takeInstruction mark
  | .declaration declaration => scan.takeDeclaration declaration mark
  | .doctype doctype => scan.takeDoctype doctype mark
  | .tagName name => scan.takeName name .tagName (scan.finishTagName mark) mark
  | .tag tag => scan.takeTag tag mark
  | .attributeName owner name =>
      scan.takeName name (.attributeName owner)
        (fun _ => scan.finishAttributeName owner mark) mark
  | .afterAttributeName owner name => scan.takeAfterAttributeName owner name mark
  | .beforeValue owner name => scan.takeBeforeValue owner name mark
  | .value owner name quote read => scan.takeValue owner name quote read mark
  | .valueReference owner name quote read reference =>
      scan.takeValueReference owner name quote read reference mark
  | .afterValue tag => scan.takeAfterValue tag mark
  | .closingName name =>
      scan.takeName name .closingName (fun spelling _ => scan.takeClosing spelling mark) mark
  | .closing spelling => scan.takeClosing spelling mark

def takeAll (scan : Scan) : List Mark → Step
  | [] => ⟨[], some scan, []⟩
  | mark :: rest =>
      let first := scan.take mark
      match first.next with
      | none => first
      | some scan =>
          let later := scan.takeAll rest
          ⟨first.events ++ later.events, later.next, first.replacement ++ later.replacement⟩

def step (scan : Scan) (c : Char) : Step :=
  match scan.lexer.step c with
  | none => malformed
  | some (lexer, marks) => { scan with lexer := lexer }.takeAll marks

end Scan

end IdRegistry.Markup
