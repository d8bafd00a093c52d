import IdRegistry.Notice
import IdRegistry.Pattern.Spelling
import IdRegistry.Text.Lines

namespace IdRegistry.Command

/-! Directives set a limit for the sources whose names begin with a given text; the longest text that fits
decides, and the last of equals. The program has a limit of its own for all other sources, which takes
the place of a general limit among the directives.
-/

open Text (splitAt)

/-- The least severe kind of notice that is still printed, if any is. -/
abbrev Limit := Option Severity

def Limit.allows (limit : Limit) (severity : Severity) : Bool :=
  match limit with
  | none => false
  | some least => severity.rank ≤ least.rank

def Limit.ofWord? (word : List Char) : Option Limit :=
  let lower := String.ofList (word.map Char.toLower)
  if lower = "off" then some none
  else if lower = "error" then some (some .error)
  else if lower = "warn" then some (some .warn)
  else if lower = "info" then some (some .info)
  else if lower = "debug" then some (some .debug)
  else if lower = "trace" then some (some .trace)
  else none

structure Directive where
  source : Option (List Char)
  limit : Limit
deriving DecidableEq, Repr

structure Selection where
  directives : List Directive
  wanted : Option Pattern
deriving DecidableEq, Repr

/-- The directive that a text stands for, or the part of it that makes no sense. -/
def Directive.ofText (text : List Char) : Except (List Char) Directive :=
  match splitAt '=' text with
  | [word] =>
      match Limit.ofWord? word with
      | some limit => .ok ⟨none, limit⟩
      | none => .ok ⟨some word, some .trace⟩
  | [source, word] =>
      let word := Text.trimBlanks word
      if word.isEmpty then .ok ⟨some source, some .trace⟩
      else
        match Limit.ofWord? word with
        | some limit => .ok ⟨some source, limit⟩
        | none => .error word
  | _ => .error text

/-- Directives with one more, which takes the place of an earlier one for the same sources. -/
def replaceOrAppend (directive : Directive) : List Directive → List Directive
  | [] => [directive]
  | first :: rest =>
      if first.source = directive.source then directive :: rest
      else first :: replaceOrAppend directive rest

def nonsense (text : List Char) : String :=
  "warning: invalid logging spec '" ++ String.ofList text ++ "', ignoring it"

/-- Directives and warnings of texts, in order. Empty texts mean nothing. -/
def directivesFrom (directives : List Directive) :
    List (List Char) → List Directive × List String
  | [] => (directives, [])
  | text :: rest =>
      let text := Text.trimBlanks text
      if text.isEmpty then directivesFrom directives rest
      else
        match Directive.ofText text with
        | .ok directive => directivesFrom (replaceOrAppend directive directives) rest
        | .error part =>
            let (directives, warnings) := directivesFrom directives rest
            (directives, nonsense part :: warnings)

def badPattern (text : List Char) (refusal : Pattern.Refusal) : String :=
  "warning: invalid regex filter - " ++ String.ofList (refusal.message text) ++ ", ignoring it"

def Selection.ofText (text : List Char) : Selection × List String :=
  match splitAt '/' text with
  | [directives] =>
      let (found, warnings) := directivesFrom [] (splitAt ',' directives)
      (⟨found, none⟩, warnings)
  | [directives, wanted] =>
      let (found, warnings) := directivesFrom [] (splitAt ',' directives)
      match Pattern.ofText wanted with
      | .ok pattern => (⟨found, some pattern⟩, warnings)
      | .error refusal => (⟨found, none⟩, warnings ++ [badPattern wanted refusal])
  | _ =>
      (⟨[], none⟩,
        ["warning: invalid logging spec '" ++ String.ofList text
          ++ "' (too many '/'s), ignoring it"])

def Selection.withDefault (selection : Selection) (limit : Limit) : Selection :=
  { selection with directives := replaceOrAppend ⟨none, limit⟩ selection.directives }

def Directive.covers (directive : Directive) (source : List Char) : Bool :=
  match directive.source with
  | none => true
  | some start => start.isPrefixOf source

def Directive.size (directive : Directive) : Nat :=
  match directive.source with
  | none => 0
  | some start => (String.ofList start).utf8ByteSize

/-- The directive that decides about a source: the longest that covers it, the last of equals. -/
def deciding (source : List Char) : List Directive → Option Directive
  | [] => none
  | first :: rest =>
      match deciding source rest with
      | some later =>
          if first.covers source && later.size < first.size then some first else some later
      | none => if first.covers source then some first else none

def Selection.selects (selection : Selection) (notice : Notice) : Bool :=
  match deciding notice.source.toList selection.directives with
  | none => false
  | some directive =>
      directive.limit.allows notice.severity
        && match selection.wanted with
          | none => true
          | some pattern => pattern.occursIn notice.message.toList

end IdRegistry.Command
