import IdRegistry.Proofs.Markup.TagLayout
import Mathlib.Data.List.Infix

namespace IdRegistry.Markup

/-! A document without a document type is a tree of nodes, each with the characters it is written in.
`Node.wellFormed` says which trees are documents. It follows the rules for well-formed documents with
qualified names, and goes beyond them in two places where the scan does: no element has the qualifier
`xml` (`isReserved`), and the default names are not called `xml` or `xmlns` (`Attribute.mayDeclare`).
-/

inductive Node where
  | piece (piece : Piece)
  /-- Plain text without references. -/
  | section (text : List Char)
  | comment (text : List Char)
  /-- A processing instruction. Its text, if there is any, begins with a blank. -/
  | instruction (name text : List Char)
  /-- An element, with the blanks in its end tag if it has one. It needs none if it is empty. -/
  | element (tag : StartTag) (children : List Node) (closing : Option (List Char))
deriving Repr

/-- The event of a text, from its characters. -/
def textEvents (text : List Char) : List Event :=
  if text.all isSpace then [] else [.text (String.ofList (trimSpaces text))]

/-- The name of a processing instruction. -/
def isInstructionName : List Char → Bool
  | [] => false
  | first :: rest =>
      isNameStart first && rest.all isNameChar && !Scan.isDeclarationName (first :: rest)

namespace Node

/-- The text before the next node, if the given text is before this one. -/
def textAfter (node : Node) (text : List Char) : List Char :=
  match node with
  | .piece part => text ++ (part.character? .first).toList
  | .section more => text ++ more
  | .comment _ => text
  | .instruction _ _ => []
  | .element _ _ _ => []

/-- How many closing brackets stand before the next node, if so many stand before this one. -/
def bracketsAfter (node : Node) (brackets : Nat) : Nat :=
  match node with
  | .piece (.literal c) => if c = ']' then brackets + 1 else 0
  | _ => 0

mutual
def written : Node → List Char
  | .piece part => part.written
  | .section text => Mark.sectionOpen.spelling ++ (text ++ Mark.sectionClose.spelling)
  | .comment text => Mark.commentOpen.spelling ++ (text ++ Mark.commentClose.spelling)
  | .instruction name text =>
      Mark.instructionOpen.spelling ++ (name ++ (text ++ Mark.instructionClose.spelling))
  | .element tag children closing =>
      if closing.isNone && children.isEmpty then '<' :: (tag.written ++ ['/', '>'])
      else
        '<' :: (tag.written ++ '>' :: (writtenAll children ++
          '<' :: '/' :: (tag.name.spelling ++ (closing.getD [] ++ ['>']))))

def writtenAll : List Node → List Char
  | [] => []
  | node :: rest => node.written ++ writtenAll rest
end

mutual
/-- The events that a node completes, the given text before it included. -/
def events (text : List Char) : Node → List Event
  | .piece _ => []
  | .section _ => []
  | .comment _ => []
  | .instruction _ _ => textEvents text
  | .element tag children _ =>
      textEvents text ++ .start tag.localName (tag.given .first) :: (eventsAll [] children ++ [.close])

/-- The events of nodes up to the next tag. -/
def eventsAll (text : List Char) : List Node → List Event
  | [] => textEvents text
  | node :: rest => node.events text ++ eventsAll (node.textAfter text) rest
end

mutual
/-- Whether the node can stand inside of elements that declare the given qualifiers, after so many
closing brackets. -/
def wellFormed (scope : List (List Char)) (brackets : Nat) : Node → Bool
  | .piece part =>
      part.isWritten .first none && !(part = .literal '>' && decide (2 ≤ brackets))
  | .section text => text.all (isAllowed .first) && !decide ([']', ']', '>'] <:+: text)
  | .comment text => text.all (isAllowed .first) && !decide (['-', '-'] <:+: text ++ ['-'])
  | .instruction name text =>
      isInstructionName name && text.all (isAllowed .first) && text.head?.all isSpace
        && !decide (['?', '>'] <:+: text)
  | .element tag children closing =>
      tag.isWritten .first scope && (closing.getD []).all isSpace
        && wellFormedAll (tag.declared ++ scope) 0 children

def wellFormedAll (scope : List (List Char)) (brackets : Nat) : List Node → Bool
  | [] => true
  | node :: rest =>
      node.wellFormed scope brackets && wellFormedAll scope (node.bracketsAfter brackets) rest
end

/-- References and sections, blanks in tags, and text around a comment. -/
example :
    let tag : StartTag := ⟨⟨none, ['a']⟩,
      [⟨['\n'], ⟨none, ['b']⟩, [' '], [], '\'', [.reference "#60".toList, .literal '"']⟩], [' ']⟩
    let node : Node := .element tag
      [.piece (.literal 'x'), .comment " ".toList, .section "&".toList, .piece (.literal ' ')]
      (some [' '])
    node.written = "<a\nb ='&#60;\"' >x<!-- --><![CDATA[&]]> </a >".toList ∧
      node.events [] = [.start "a" [("b", "<\"")], .text "x&", .close] := by
  decide

end Node

end IdRegistry.Markup
