import IdRegistry.ReadRegistry
import IdRegistry.Proofs.Document.Layout
import IdRegistry.Proofs.Markup.Tags

namespace IdRegistry

open Markup (Edition Given Node emptyTag endTag isSpace plainTag startTag)

namespace Definition

def texts : Definition → List String
  | .constant name value => [name, value]
  | .list name items => name :: items
  | .helper name => [name]

def writtenItem (value : String) : List Char := emptyTag "item" [("value", value)]

def written : Definition → List Char
  | .constant name value => emptyTag "constant" [("name", name), ("value", value)]
  | .list name items => startTag "list" [("name", name)] ++ items.flatMap writtenItem ++ endTag "list"
  | .helper name => emptyTag "helper" [("name", name)]

def itemNode (value : String) : Node := .element (plainTag "item" [("value", value)]) [] none

def node : Definition → Node
  | .constant name value => .element (plainTag "constant" [("name", name), ("value", value)]) [] none
  | .list name items => .element (plainTag "list" [("name", name)]) (items.map itemNode) (some [])
  | .helper name => .element (plainTag "helper" [("name", name)]) [] none

end Definition

namespace Document

open Definition (writtenItem)

def rootName : String := "protoIdRegistry"

/-- Definitions written as a document. -/
def written (definitions : List Definition) : List Char :=
  startTag rootName [] ++ definitions.flatMap Definition.written ++ endTag rootName

def bytes (definitions : List Definition) : List UInt8 :=
  (String.ofList (written definitions)).toUTF8.toList

/-- The characters of XML 1.0. -/
def IsXmlCharacter (c : Char) : Prop :=
  c.toNat = 0x9 ∨ c.toNat = 0xA ∨ c.toNat = 0xD ∨ (0x20 ≤ c.toNat ∧ c.toNat ≤ 0xD7FF) ∨
    (0xE000 ≤ c.toNat ∧ c.toNat ≤ 0xFFFD) ∨ (0x10000 ≤ c.toNat ∧ c.toNat ≤ 0x10FFFF)

instance (c : Char) : Decidable (IsXmlCharacter c) :=
  inferInstanceAs (Decidable (_ ∨ _))

def IsXmlText (text : String) : Prop := ∀ c ∈ text.toList, IsXmlCharacter c

instance (text : String) : Decidable (IsXmlText text) :=
  List.decidableBAll (p := IsXmlCharacter) (l := text.toList)

theorem isLiteral_of_isXmlCharacter {c : Char} (valid : IsXmlCharacter c) :
    Markup.isLiteral .first c = true := by
  have increasing : Unicode.increasingFrom 0
      [(0x9, 0xA), (0xD, 0xD), (0x20, 0xFFFD), (0x10000, 0x10FFFF)] = true := by decide
  refine (Unicode.inRanges_iff increasing).mpr ?_
  rcases valid with tab | feed | carriage | low | high | far
  · exact ⟨(0x9, 0xA), by simp, by omega⟩
  · exact ⟨(0x9, 0xA), by simp, by omega⟩
  · exact ⟨(0xD, 0xD), by simp, by omega⟩
  · exact ⟨(0x20, 0xFFFD), by simp, by omega⟩
  · exact ⟨(0x20, 0xFFFD), by simp, by omega⟩
  · exact ⟨(0x10000, 0x10FFFF), by simp, far⟩

/-- All characters of the texts can stand in a document as they are. -/
def Literal (edition : Edition) (texts : List String) : Prop :=
  ∀ text ∈ texts, ∀ c ∈ text.toList, Markup.isLiteral edition c = true

section Written

variable {definitions : List Definition}

theorem valid_given {edition : Edition} (names values : List String)
    (named : ∀ name ∈ names, Markup.IsAttributeName name) (distinct : names.Nodup)
    (short : names.length ≤ values.length) (literal : Literal edition values) :
    Given.Valid edition (names.zip values) where
  named := fun given member => named given.1 (List.of_mem_zip member).1
  distinct := (List.map_fst_zip short).symm ▸ distinct
  allowed := fun given member => literal given.2 (List.of_mem_zip member).2

/-- The tree of the written form of definitions. -/
def document (definitions : List Definition) : Node :=
  .element (plainTag rootName []) (definitions.map Definition.node) (some [])

theorem writtenAll_map {α : Type} {tree : α → Node} {write : α → List Char}
    (each : ∀ one, (tree one).written = write one) (all : List α) :
    Node.writtenAll (all.map tree) = all.flatMap write := by
  induction all with
  | nil => rfl
  | cons one all ih => rw [List.map_cons, Node.writtenAll, each, ih, List.flatMap_cons]

theorem written_empty (name : String) (given : List Given) :
    (Node.element (plainTag name given) [] none).written = emptyTag name given := by
  rw [emptyTag, ← Markup.written_plainTag, Node.written]
  rfl

theorem written_full (name : String) (given : List Given) (children : List Node) :
    (Node.element (plainTag name given) children (some [])).written =
      startTag name given ++ Node.writtenAll children ++ endTag name := by
  rw [startTag, ← Markup.written_plainTag, Node.written]
  simp [endTag, plainTag, Markup.QualifiedName.spelling]

theorem written_node (definition : Definition) : definition.node.written = definition.written := by
  cases definition with
  | constant name value => exact written_empty _ _
  | helper name => exact written_empty _ _
  | list name items =>
      have each (value : String) : (Definition.itemNode value).written =
          Definition.writtenItem value := written_empty _ _
      rw [Definition.node, written_full, writtenAll_map each]
      rfl

theorem bytes_document (definitions : List Definition) :
    (document definitions).bytes = bytes definitions := by
  rw [Node.bytes, document, written_full, writtenAll_map written_node]
  rfl

theorem wellFormedAll_map {α : Type} {tree : α → Node} {scope : List (List Char)} {all : List α}
    (each : ∀ one ∈ all, ∀ brackets, (tree one).wellFormed scope brackets = true) (brackets : Nat) :
    Node.wellFormedAll scope brackets (all.map tree) = true := by
  induction all generalizing brackets with
  | nil => rfl
  | cons one all ih =>
      obtain ⟨first, others⟩ := List.forall_mem_cons.mp each
      rw [List.map_cons, Node.wellFormedAll, first, ih others]
      rfl

theorem wellFormed_plain {name : String} {given : List Given} {children : List Node}
    {closing : Option (List Char)} {scope : List (List Char)} {brackets : Nat}
    (plain : Markup.isPlainName name.toList = true) (valid : Given.Valid .first given)
    (blanks : (closing.getD []).all isSpace = true)
    (inside : Node.wellFormedAll scope 0 children = true) :
    (Node.element (plainTag name given) children closing).wellFormed scope brackets = true := by
  rw [Node.wellFormed, Markup.isWritten_plainTag plain valid, blanks, Markup.declared_plainTag,
    List.nil_append, inside]
  rfl

theorem wellFormed_item {value : String} (literal : Literal .first [value])
    (scope : List (List Char)) (brackets : Nat) :
    (Definition.itemNode value).wellFormed scope brackets = true :=
  wellFormed_plain (by decide) (valid_given ["value"] [value] (by decide) (by decide) le_rfl literal)
    rfl rfl

theorem wellFormed_node {definition : Definition} (literal : Literal .first definition.texts)
    (scope : List (List Char)) (brackets : Nat) :
    definition.node.wellFormed scope brackets = true := by
  cases definition with
  | constant name value =>
      have valid := valid_given ["name", "value"] [name, value] (by decide) (by decide) le_rfl literal
      exact wellFormed_plain (by decide) valid rfl rfl
  | helper name =>
      have valid := valid_given ["name"] [name] (by decide) (by decide) le_rfl literal
      exact wellFormed_plain (by decide) valid rfl rfl
  | list name items =>
      obtain ⟨ofName, ofItems⟩ := List.forall_mem_cons.mp literal
      have valid := valid_given ["name"] [name] (by decide) (by decide) le_rfl
        (List.forall_mem_singleton.mpr ofName)
      refine wellFormed_plain (by decide) valid rfl (wellFormedAll_map (fun value member => ?_) 0)
      exact wellFormed_item (List.forall_mem_singleton.mpr (ofItems value member)) scope

theorem wellFormed_document
    (valid : ∀ definition ∈ definitions, ∀ text ∈ definition.texts, IsXmlText text) :
    (document definitions).wellFormed [] 0 = true := by
  refine wellFormed_plain (by decide) ⟨by simp, by simp, by simp⟩ rfl
    (wellFormedAll_map (fun definition member => ?_) 0)
  exact wellFormed_node (fun text ofText c inText =>
    isLiteral_of_isXmlCharacter (valid definition member text ofText c inText)) []

theorem given_plain {level : Level} {name : String} {given : List Given}
    (named : ∀ one ∈ given, Markup.IsAttributeName one.1)
    (fields : ∀ one ∈ given, level.isField one.1 = true) :
    level.given (plainTag name given) = given := by
  rw [Level.given, Markup.given_plainTag named]
  exact List.filter_eq_self.mpr fields

theorem run_itemNodes (values : List String) :
    Run .list (values.map Definition.itemNode) values := by
  induction values with
  | nil => exact .ended (List.forall_mem_nil _)
  | cons value values ih =>
      refine .item rfl (.mk rfl (given_plain ?_ ?_) (List.forall_mem_nil _)) ih
      · exact List.forall_mem_singleton.mpr (by decide : Markup.IsAttributeName "value")
      · exact List.forall_mem_singleton.mpr rfl

theorem entry_node (definition : Definition) : Entry definition definition.node := by
  have named : Markup.IsAttributeName "name" ∧ Markup.IsAttributeName "value" := by decide
  cases definition with
  | constant name value =>
      refine .mk rfl (given_plain ?_ ?_) (.run (.ended (List.forall_mem_nil _)))
      · exact List.forall_mem_cons.mpr ⟨named.1, List.forall_mem_singleton.mpr named.2⟩
      · exact List.forall_mem_cons.mpr ⟨rfl, List.forall_mem_singleton.mpr rfl⟩
  | helper name =>
      refine .mk rfl (given_plain ?_ ?_) (.run (.ended (List.forall_mem_nil _)))
      · exact List.forall_mem_singleton.mpr named.1
      · exact List.forall_mem_singleton.mpr rfl
  | list name items =>
      refine .mk rfl (given_plain ?_ ?_) (.run (run_itemNodes items))
      · exact List.forall_mem_singleton.mpr named.1
      · exact List.forall_mem_singleton.mpr rfl

theorem carries_document (definitions : List Definition) :
    Carries definitions (document definitions) := by
  refine .mk ?_
  induction definitions with
  | nil => exact .nil
  | cons definition definitions ih => exact .entry (entry_node definition) ih

theorem parse_written
    (valid : ∀ definition ∈ definitions, ∀ text ∈ definition.texts, IsXmlText text) :
    parse (bytes definitions) = .ok definitions := by
  rw [← bytes_document]
  exact (carries_document definitions).parse (wellFormed_document valid)

/-- Reading undoes writing. -/
theorem parse_bytes
    (valid : ∀ definition ∈ definitions, ∀ text ∈ definition.texts, IsXmlText text) :
    parse (bytes definitions) = .ok definitions ∧
      readRegistry (bytes definitions) = classify definitions :=
  ⟨parse_written valid, by rw [readRegistry, parse_written valid]⟩

/-- Marks of the document itself, blanks at either end and empty texts. -/
theorem parse_bytes_hostile :
    let definitions : List Definition :=
      [.constant " <a b=\"&amp;\">\n" "]]>", .list "" [], .list "All_PushId" ["", "/", " 1 "],
        .helper "é😀"]
    parse (bytes definitions) = .ok definitions := by
  intro definitions
  exact (parse_bytes (by decide)).1

example : written [.list "B" ["<2>", ""], .helper "\"&"] =
    ("<protoIdRegistry><list name=\"B\"><item value=\"&lt;2>\"/><item value=\"\"/></list>" ++
      "<helper name=\"&quot;&amp;\"/></protoIdRegistry>").toList := by decide +kernel

end Written

end Document

end IdRegistry
