import IdRegistry.Markup.Mark
import IdRegistry.Markup.Reference

namespace IdRegistry.Markup

/-- How far the declarations have been read. Names and texts under way are held newest character
first. The names of texts for use among the declarations begin with a percent sign. -/
inductive Doctype where
  | outside
  | literal (quote : Char)
  | comment
  | keyword (read : List Char)
  | beforeName
  /-- Before the name of a text for use among the declarations. -/
  | beforeParameterName
  | entityName (read : List Char)
  | beforeText (name : List Char)
  | text (name : List Char) (quote : Char) (read : List Char)
  | textReference (name : List Char) (quote : Char) (read : List Char)
  | textNumber (name : List Char) (quote : Char) (read number : List Char)
  /-- In the name of an earlier text inside the text. -/
  | textParameter (name : List Char) (quote : Char) (read parameter : List Char)
  | parameter (read : List Char)
  | remainder
deriving DecidableEq, Repr

inductive Advance where
  | malformed
  | go (doctype : Doctype) (entities : Entities) (replacement : List Char)
  | done (entities : Entities)

namespace Doctype

def afterKeyword (entities : Entities) (keyword : List Char) : Advance :=
  if keyword = "ENTITY".toList then .go .beforeName entities []
  else if keyword = "NOTATION".toList ∨ keyword = "ELEMENT".toList ∨ keyword = "ATTLIST".toList then
    .go .remainder entities []
  else .malformed

def inText (edition : Edition) (entities : Entities) (name : List Char) (quote : Char)
    (read : List Char) : Mark → Advance
  | .quote c =>
      if c = quote then .go .remainder (entities.declare name read.reverse) []
      else .go (.text name quote (c :: read)) entities []
  | .ampersand => .go (.textReference name quote read) entities []
  | .character c =>
      if c = '&' then .go (.textReference name quote read) entities []
      else if c = '%' then .go (.textParameter name quote read ['%']) entities []
      else if isAllowed edition c then .go (.text name quote (c :: read)) entities []
      else .malformed
  | _ => .malformed

def isSemicolon (mark : Mark) : Bool :=
  mark = .semicolon || mark = .character ';'

def step (edition : Edition) (entities : Entities) (doctype : Doctype) (mark : Mark) : Advance :=
  let go := fun next => Advance.go next entities []
  match doctype, mark with
  | .outside, .tagClose => .done entities
  | .outside, .declarationOpen => go (.keyword [])
  | .outside, .character c => if c = '%' then go (.parameter ['%']) else go .outside
  | .outside, .commentOpen => go .comment
  | .outside, .quote c => go (.literal c)
  | .outside, .sectionOpen => .malformed
  | .outside, .sectionClose => .malformed
  | .outside, _ => go .outside
  | .literal quote, .quote c => if c = quote then go .outside else go (.literal quote)
  | .literal quote, _ => go (.literal quote)
  | .comment, .commentClose => go .outside
  | .comment, _ => go .comment
  | .keyword read, .character c =>
      if 'A' ≤ c ∧ c ≤ 'Z' then go (.keyword (c :: read))
      else if isSpace c then afterKeyword entities read.reverse
      else .malformed
  | .beforeName, .character c =>
      if isSpace c then go .beforeName
      else if c = '%' then go .beforeParameterName
      else if isNameStart c then go (.entityName [c])
      else .malformed
  | .beforeParameterName, .character c =>
      if isSpace c then go .beforeParameterName
      else if isNameStart c then go (.entityName [c, '%'])
      else .malformed
  | .entityName read, .character c =>
      if isSpace c then go (.beforeText read.reverse)
      else if isNameChar c then go (.entityName (c :: read))
      else .malformed
  | .beforeText name, .character c =>
      if isSpace c then go (.beforeText name)
      else if c = 'S' ∨ c = 'P' then .go .remainder (entities.declare name []) []
      else .malformed
  | .beforeText name, .quote c => go (.text name c [])
  | .text name quote read, mark => inText edition entities name quote read mark
  | .textReference name quote read, .character c =>
      if c = '#' then go (.textNumber name quote read [])
      else if isAllowed edition c then go (.text name quote (c :: '&' :: read))
      else .malformed
  | .textNumber name quote read number, mark =>
      if isSemicolon mark then
        match numbered? edition number.reverse with
        | some c => go (.text name quote (c :: read))
        | none => .malformed
      else
        match mark with
        | .character c =>
            if isAllowed edition c then go (.textNumber name quote read (c :: number))
            else .malformed
        | _ => .malformed
  | .textParameter name quote read used, mark =>
      if isSemicolon mark then
        match entities.text? used.reverse with
        | some found => go (.text name quote (found.reverse ++ read))
        | none => .malformed
      else
        match mark with
        | .character c =>
            if isNameChar c then go (.textParameter name quote read (c :: used))
            else .malformed
        | _ => .malformed
  | .parameter read, mark =>
      if isSemicolon mark then
        match entities.text? read.reverse with
        | some found => .go .outside entities found
        | none => .malformed
      else
        match mark with
        | .character c => if isNameChar c then go (.parameter (c :: read)) else .malformed
        | _ => .malformed
  | .remainder, .tagClose => go .outside
  | .remainder, _ => go .remainder
  | _, _ => .malformed

end Doctype

end IdRegistry.Markup
