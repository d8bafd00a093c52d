import IdRegistry.Proofs.Document.Told
import IdRegistry.Proofs.Markup.Content

namespace IdRegistry

open Markup (Event Node Scan StartTag isSpace textEvents)

/-! What a document carries (`Document.Carries`) is what is read from it, in whatever layout: the builder
skips what has no meaning, however deep it goes, and comes to the next field, item or entry as if
nothing had been there.

The delicate place is a list. Its items have to stay neighbours, and what separates them is everything
but blanks, comments and instructions: so the tree tells the run of items (`Document.Run`) from what
stands before it.
-/

namespace Markup.Node

def bytes (node : Node) : List UInt8 := (String.ofList node.written).toUTF8.toList

/-- Blank text, a comment or a processing instruction. -/
def isQuiet : Node → Bool
  | .piece part => (part.character? .first).toList.all isSpace
  | .section text => text.all isSpace
  | .comment _ => true
  | .instruction _ _ => true
  | .element _ _ _ => false

end Markup.Node

namespace Definition

def kind : Definition → Document.Kind
  | .constant _ _ => .constant
  | .list _ _ => .list
  | .helper _ => .helper

def fields : Definition → List (String × String)
  | .constant name value => [("name", name), ("value", value)]
  | .list name _ => [("name", name)]
  | .helper name => [("name", name)]

def items : Definition → List String
  | .list _ items => items
  | _ => []

end Definition

namespace Document

/-- What an element is in a document: the root, an entry or an item. -/
inductive Level where
  | root
  | entry (kind : Kind)
  | item
deriving DecidableEq, Repr

namespace Level

def isField (level : Level) (name : String) : Bool :=
  match level with
  | .root => false
  | .entry kind => (kind.field? name).isSome
  | .item => name = "value"

/-- The level of a child element with the given name, if it has one. -/
def inner? (level : Level) (name : String) : Option Level :=
  match level with
  | .root => (Kind.ofName? name).map .entry
  | .entry kind => if kind = .list ∧ name = "item" then some .item else none
  | .item => none

def isInner (level : Level) (node : Node) : Bool :=
  match node with
  | .element tag _ _ => (level.inner? tag.localName).isSome
  | _ => false

/-- Whether the level takes no notice of the node, unless it separates two items. -/
def passes (level : Level) (node : Node) : Bool :=
  match node with
  | .element tag _ _ => !level.isField tag.localName
  | _ => true

/-- The fields that a tag gives as attributes. -/
def given (level : Level) (tag : StartTag) : List (String × String) :=
  (tag.given .first).filter fun given => level.isField given.1

end Level

inductive Item (value : String) : Node → Prop where
  | mk {tag : StartTag} {children : List Node} {closing : Option (List Char)}
      (named : tag.localName = "item") (given : Level.item.given tag = [("value", value)])
      (passed : ∀ child ∈ children, Level.item.passes child = true) :
      Item value (.element tag children closing)

/-- Items that nothing separates, and what stands after them. -/
inductive Run (kind : Kind) : List Node → List String → Prop where
  | ended {nodes : List Node} (passed : ∀ node ∈ nodes, (Level.entry kind).passes node = true) :
      Run kind nodes []
  | quiet {node : Node} {rest : List Node} {values : List String} (quiet : node.isQuiet = true)
      (later : Run kind rest values) : Run kind (node :: rest) values
  | item {node : Node} {rest : List Node} {value : String} {values : List String}
      (ofList : kind = .list) (item : Item value node) (later : Run kind rest values) :
      Run kind (node :: rest) (value :: values)

/-- What is in an entry: at some point the run of its items begins. -/
inductive Body (kind : Kind) : List Node → List String → Prop where
  | run {nodes : List Node} {values : List String} (run : Run kind nodes values) :
      Body kind nodes values
  | passed {node : Node} {rest : List Node} {values : List String}
      (passes : (Level.entry kind).passes node = true) (later : Body kind rest values) :
      Body kind (node :: rest) values

inductive Entry (definition : Definition) : Node → Prop where
  | mk {tag : StartTag} {children : List Node} {closing : Option (List Char)}
      (named : Kind.ofName? tag.localName = some definition.kind)
      (given : (Level.entry definition.kind).given tag = definition.fields)
      (body : Body definition.kind children definition.items) :
      Entry definition (.element tag children closing)

inductive Entries : List Node → List Definition → Prop where
  | nil : Entries [] []
  | quiet {node : Node} {rest : List Node} {definitions : List Definition}
      (quiet : node.isQuiet = true) (later : Entries rest definitions) :
      Entries (node :: rest) definitions
  | entry {node : Node} {rest : List Node} {definition : Definition}
      {definitions : List Definition} (entry : Entry definition node)
      (later : Entries rest definitions) : Entries (node :: rest) (definition :: definitions)

/-- The document says the definitions, in whatever layout. -/
inductive Carries (definitions : List Definition) : Node → Prop where
  | mk {tag : StartTag} {children : List Node} {closing : Option (List Char)}
      (entries : Entries children definitions) :
      Carries definitions (.element tag children closing)

theorem undeclared_text (text : List Char) : Undeclared (textEvents text) := by
  unfold textEvents
  split <;> simp [Undeclared]

section Attributes

variable {kind : Kind} {fields : Fields}

theorem ofAttributes_filter (given : List (String × String)) :
    fields.ofAttributes kind (given.filter fun given => (Level.entry kind).isField given.1) =
      fields.ofAttributes kind given := by
  induction given generalizing fields with
  | nil => rfl
  | cons first given ih =>
      by_cases field : (Level.entry kind).isField first.1 = true
      · have kept : (first :: given).filter (fun given => (Level.entry kind).isField given.1) =
            first :: given.filter fun given => (Level.entry kind).isField given.1 :=
          List.filter_cons_of_pos field
        rw [kept, Fields.ofAttributes, Fields.ofAttributes]
        cases fields.addAttribute kind first with
        | ok fields => exact ih
        | error fault => rfl
      · have dropped : (first :: given).filter (fun given => (Level.entry kind).isField given.1) =
            given.filter fun given => (Level.entry kind).isField given.1 :=
          List.filter_cons_of_neg field
        have unknown : kind.field? first.1 = none := by simpa [Level.isField] using field
        have skipped : fields.addAttribute kind first = .ok fields := by
          rw [Fields.addAttribute, unknown]
        rw [dropped, ih, Fields.ofAttributes, skipped]

theorem itemValue_filter (value : Option String) (given : List (String × String)) :
    itemValue value (given.filter fun given => Level.item.isField given.1) =
      itemValue value given := by
  induction given generalizing value with
  | nil => rfl
  | cons first given ih =>
      by_cases field : first.1 = "value"
      · rw [List.filter_cons_of_pos (by simpa [Level.isField] using field), itemValue, itemValue,
          if_neg (not_not.mpr field), if_neg (not_not.mpr field), ih]
      · rw [List.filter_cons_of_neg (by simpa [Level.isField] using field), ih, itemValue,
          if_pos field]

end Attributes

/-- An item that has its value as an attribute. -/
inductive Told.IsItem (value : String) : Told → Prop where
  | mk {attributes : List (String × String)} {children : List Told}
      (given : attributes.filter (fun given => Level.item.isField given.1) = [("value", value)])
      (others : ∀ child ∈ children, child.isElement Level.item.isField = false) :
      IsItem value (.element "item" attributes children)

/-- The items after something that ends a run of them, or that does not. -/
def Items.Passes (items after : Items) : Prop := after = items ∨ after = items.stop

section Entries

variable {entries : List Definition} {kind : Kind} {fields : Fields} {node : Node}
variable {nodes : List Node} {values : List String} {value : String} {text : List Char}

theorem Items.stop_stop (items : Items) : items.stop.stop = items.stop := by
  cases items <;> rfl

theorem Items.Passes.trans {items after last : Items} (first : items.Passes after)
    (second : after.Passes last) : items.Passes last := by
  rcases first with rfl | rfl
  · exact second
  · rcases second with rfl | rfl
    · exact .inr rfl
    · exact .inr items.stop_stop

theorem Items.Passes.same_values {items after : Items} (passes : items.Passes after) :
    after.values = items.values := by
  rcases passes with rfl | rfl
  · rfl
  · cases items <;> rfl

theorem Items.Passes.absent {after : Items} (passes : Items.absent.Passes after) :
    after = .absent := by
  rcases passes with rfl | rfl <;> rfl

theorem run_text_of_children (text : List Char) : ∃ items, fields.items.Passes items ∧
    (Builder.entry entries kind fields .children).run (textEvents text) =
      .more (.entry entries kind { fields with items := items } .children) := by
  unfold textEvents
  split
  · exact ⟨fields.items, .inl rfl, rfl⟩
  · exact ⟨fields.items.stop, .inr rfl, rfl⟩

/-- Text says nothing if it is blank, and before the first item. -/
theorem run_quiet_text (quiet : text.all isSpace = true ∨ fields.items = .absent) :
    (Builder.entry entries kind fields .children).run (textEvents text) =
      .more (.entry entries kind fields .children) := by
  rcases quiet with blank | absent
  · rw [textEvents, if_pos blank]
    rfl
  · obtain ⟨items, passes, ran⟩ := @run_text_of_children entries kind fields text
    rw [absent] at passes
    rw [passes.absent, ← absent] at ran
    exact ran

theorem isElement_of_passes {level : Level} (passes : level.passes node = true) :
    node.isElement level.isField = false := by
  cases node with
  | element tag children closing => simpa [Level.passes, Node.isElement] using passes
  | _ => rfl

/-- Text and any child without a meaning end the run of items. -/
theorem run_other {child : Told} (other : child.isElement (Level.entry kind).isField = false) :
    (Builder.entry entries kind fields .children).run child.events =
      .more (.entry entries kind { fields with items := fields.items.stop } .children) := by
  cases child with
  | text content => rfl
  | element name attributes inside =>
      have unknown : kind.field? name = none := by
        simpa [Told.isElement, Level.isField] using other
      have opened : (Builder.entry entries kind fields .children).step (.start name attributes) =
          .more (.entry entries kind { fields with items := fields.items.stop } (.ignored 0)) := by
        change Builder.child entries kind fields name attributes = _
        rw [Builder.child, unknown]
      exact run_element opened ((skips_ignored entries kind _).run_toldAll inside 0) rfl

theorem run_others {children : List Told}
    (others : ∀ child ∈ children, child.isElement (Level.entry kind).isField = false) :
    ∃ items, fields.items.Passes items ∧
      (Builder.entry entries kind fields .children).run (Told.eventsAll children) =
        .more (.entry entries kind { fields with items := items } .children) := by
  induction children generalizing fields with
  | nil => exact ⟨fields.items, .inl rfl, rfl⟩
  | cons child children ih =>
      obtain ⟨first, others⟩ := List.forall_mem_cons.mp others
      obtain ⟨items, passes, ran⟩ := @ih { fields with items := fields.items.stop } others
      refine ⟨items, Items.Passes.trans (.inr rfl) passes, ?_⟩
      rw [Told.eventsAll, Builder.run_append_of_more (run_other first)]
      exact ran

theorem run_passed_node (passes : (Level.entry kind).passes node = true) (text : List Char) :
    ∃ items, fields.items.Passes items ∧
      (Builder.entry entries kind fields .children).run (node.events text) =
        .more (.entry entries kind { fields with items := items } .children) := by
  rw [← Node.eventsAll_told]
  exact run_others (Node.isElement_told.mpr (isElement_of_passes passes))

theorem run_passed (passed : ∀ node ∈ nodes, (Level.entry kind).passes node = true)
    (text : List Char) : ∃ items, fields.items.Passes items ∧
      (Builder.entry entries kind fields .children).run (Node.eventsAll text nodes) =
        .more (.entry entries kind { fields with items := items } .children) := by
  rw [← Node.eventsAll_toldAll]
  exact run_others (Node.isElement_toldAll.mpr fun node member =>
    isElement_of_passes (passed node member))

theorem run_itemOthers {children : List Told}
    (others : ∀ child ∈ children, child.isElement Level.item.isField = false) :
    (Builder.entry entries kind fields (.item (some value))).run (Told.eventsAll children) =
      .more (.entry entries kind fields (.item (some value))) := by
  induction children with
  | nil => rfl
  | cons child children ih =>
      obtain ⟨first, others⟩ := List.forall_mem_cons.mp others
      have one : (Builder.entry entries kind fields (.item (some value))).run child.events =
          .more (.entry entries kind fields (.item (some value))) := by
        cases child with
        | text content => rfl
        | element name attributes inside =>
            have other : name ≠ "value" := by simpa [Told.isElement, Level.isField] using first
            have skipped :=
              (skips_itemIgnored entries kind fields (some value)).run_toldAll inside 0
            exact run_element (if_pos other) skipped rfl
      rw [Told.eventsAll, Builder.run_append_of_more one]
      exact ih others

/-- An item goes to those before it, if nothing has ended their run. -/
theorem run_itemChild {child : Told} (item : Told.IsItem value child)
    (adjacent : fields.has .item = false) :
    (Builder.entry entries .list fields .children).run child.events =
      .more (.entry entries .list { fields with items := .running (value :: fields.items.values) }
        .children) := by
  cases item with
  | @mk attributes inside given others =>
      have valued : itemValue none attributes = .ok (some value) := by
        rw [← itemValue_filter, given]
        rfl
      have opened : (Builder.entry entries .list fields .children).step (.start "item" attributes) =
          .more (.entry entries .list fields (.item (some value))) := by
        change Builder.child entries .list fields "item" attributes = _
        simp only [Builder.child, show Kind.list.field? "item" = some .item from rfl, adjacent, valued]
        rfl
      exact run_element opened (run_itemOthers others) rfl

theorem run_item (ofList : kind = .list) (item : Item value node)
    (adjacent : fields.has .item = false)
    (quiet : text.all isSpace = true ∨ fields.items = .absent) :
    (Builder.entry entries kind fields .children).run (node.events text) =
      .more (.entry entries kind { fields with items := .running (value :: fields.items.values) }
        .children) := by
  subst ofList
  cases item with
  | @mk tag children closing named given passed =>
      have told : Told.IsItem value
          (.element tag.localName (tag.given .first) (Node.toldAll [] children)) := by
        rw [named]
        exact .mk given (Node.isElement_toldAll.mpr fun child member =>
          isElement_of_passes (passed child member))
      have ran := @run_itemChild entries fields value _ told adjacent
      rw [Told.events, Node.eventsAll_toldAll] at ran
      rw [Node.events, Builder.run_append_of_more (run_quiet_text quiet)]
      exact ran

theorem textAfter_of_isQuiet (quiet : node.isQuiet = true) (blank : text.all isSpace = true) :
    (node.textAfter text).all isSpace = true := by
  cases node with
  | piece part =>
      have spaces : ((part.character? .first).toList).all isSpace = true := quiet
      rw [Node.textAfter, List.all_append, blank, spaces]
      rfl
  | «section» content =>
      have spaces : content.all isSpace = true := quiet
      rw [Node.textAfter, List.all_append, blank, spaces]
      rfl
  | comment content => exact blank
  | _ => rfl

theorem run_quiet (silent : node.isQuiet = true)
    (quiet : text.all isSpace = true ∨ fields.items = .absent) :
    (Builder.entry entries kind fields .children).run (node.events text) =
      .more (.entry entries kind fields .children) := by
  cases node with
  | instruction name content => exact run_quiet_text quiet
  | element tag children closing => contradiction
  | _ => rfl

theorem run_run (run : Run kind nodes values) (adjacent : fields.has .item = false)
    (quiet : text.all isSpace = true ∨ fields.items = .absent) :
    ∃ items, items.values = values.reverse ++ fields.items.values ∧
      (Builder.entry entries kind fields .children).run (Node.eventsAll text nodes) =
        .more (.entry entries kind { fields with items := items } .children) := by
  induction run generalizing fields text with
  | ended passed =>
      obtain ⟨items, passes, ran⟩ := @run_passed entries kind fields _ passed text
      exact ⟨items, passes.same_values, ran⟩
  | @quiet node rest values silent later ih =>
      have quiet' : (node.textAfter text).all isSpace = true ∨ fields.items = .absent :=
        quiet.imp_left (textAfter_of_isQuiet silent)
      obtain ⟨items, held, ran⟩ := ih adjacent quiet'
      refine ⟨items, held, ?_⟩
      rw [Node.eventsAll, Builder.run_append_of_more (run_quiet silent quiet)]
      exact ran
  | @item node rest value values ofList item later ih =>
      obtain ⟨items, held, ran⟩ := @ih
        { fields with items := .running (value :: fields.items.values) } (node.textAfter text) rfl
        (by cases item; exact .inl rfl)
      refine ⟨items, ?_, ?_⟩
      · rw [held, List.reverse_cons, List.append_assoc]
        rfl
      · rw [Node.eventsAll, Builder.run_append_of_more (run_item ofList item adjacent quiet)]
        exact ran

theorem run_body (body : Body kind nodes values) (absent : fields.items = .absent) :
    ∃ items, items.values = values.reverse ∧
      (Builder.entry entries kind fields .children).run (Node.eventsAll text nodes) =
        .more (.entry entries kind { fields with items := items } .children) := by
  induction body generalizing fields text with
  | run run =>
      have adjacent : fields.has .item = false := by simp [Fields.has, absent]
      obtain ⟨items, held, ran⟩ := @run_run entries kind fields _ _ text run adjacent (.inr absent)
      refine ⟨items, ?_, ran⟩
      rw [held, absent]
      exact List.append_nil _
  | @passed node rest values passes later ih =>
      obtain ⟨items, before, ran⟩ := @run_passed_node entries kind fields node passes text
      rw [absent] at before
      obtain ⟨last, held, ran'⟩ := @ih { fields with items := items } (node.textAfter text)
        before.absent
      refine ⟨last, held, ?_⟩
      rw [Node.eventsAll, Builder.run_append_of_more ran]
      exact ran'

theorem run_entry {definition : Definition} (entry : Entry definition node)
    (blank : text.all isSpace = true) :
    (Builder.root entries).run (node.events text) = .more (.root (definition :: entries)) := by
  cases entry with
  | @mk tag children closing named given body =>
      obtain ⟨fields, given', absent, made⟩ : ∃ fields : Fields,
          Fields.none.ofAttributes definition.kind definition.fields = .ok fields ∧
          fields.items = .absent ∧ ∀ items : Items, items.values = definition.items.reverse →
            { fields with items := items }.definition definition.kind = .ok definition := by
        cases definition with
        | constant name value => exact ⟨_, rfl, rfl, fun _ _ => rfl⟩
        | helper name => exact ⟨_, rfl, rfl, fun _ _ => rfl⟩
        | list name values =>
            refine ⟨_, rfl, rfl, fun items held => ?_⟩
            change Except.ok (Definition.list name items.values.reverse) = _
            rw [held, List.reverse_reverse]
            rfl
      have attributes : Fields.none.ofAttributes definition.kind (tag.given .first) = .ok fields := by
        rw [← ofAttributes_filter]
        change Fields.none.ofAttributes definition.kind
          ((Level.entry definition.kind).given tag) = _
        rw [given, given']
      have opened : (Builder.root entries).step (.start tag.localName (tag.given .first)) =
          .more (.entry entries definition.kind fields .children) := by
        change Builder.begin entries tag.localName _ = _
        simp only [Builder.begin, named, attributes]
      obtain ⟨items, held, ran⟩ := @run_body entries definition.kind fields _ _ [] body absent
      have closed : (Builder.entry entries definition.kind { fields with items := items }
          .children).step .close = .more (.root (definition :: entries)) := by
        simp only [Builder.step, Builder.stepEntry, made items held]
      rw [Node.events, textEvents, if_pos blank]
      exact run_element opened ran closed

theorem run_entries {definitions : List Definition} (all : Entries nodes definitions)
    (blank : text.all isSpace = true) :
    (Builder.root entries).run (Node.eventsAll text nodes) =
      .more (.root (definitions.reverse ++ entries)) := by
  induction all generalizing entries text with
  | nil => rw [Node.eventsAll, textEvents, if_pos blank]; rfl
  | @quiet node rest definitions silent later ih =>
      have nothing : node.events text = [] := by
        cases node with
        | instruction name content => exact if_pos blank
        | element tag children closing => contradiction
        | _ => rfl
      rw [Node.eventsAll, nothing]
      exact ih (textAfter_of_isQuiet silent blank)
  | @entry node rest definition definitions entry later ih =>
      have after : (node.textAfter text).all isSpace = true := by
        cases entry
        rfl
      rw [Node.eventsAll, Builder.run_append_of_more (run_entry entry blank), ih after,
        List.reverse_cons, List.append_assoc]
      rfl

end Entries

mutual
theorem undeclared_node : ∀ (node : Node) (text : List Char), Undeclared (node.events text)
  | .piece _, _ => by simp [Undeclared, Node.events]
  | .section _, _ => by simp [Undeclared, Node.events]
  | .comment _, _ => by simp [Undeclared, Node.events]
  | .instruction _ _, text => undeclared_text text
  | .element tag children closing, text => by
      have inner := undeclared_nodes children []
      intro label member
      rw [Node.events] at member
      rcases List.mem_append.mp member with before | inside
      · exact undeclared_text text label before
      · simp [inner label] at inside

theorem undeclared_nodes : ∀ (nodes : List Node) (text : List Char),
    Undeclared (Node.eventsAll text nodes)
  | [], text => undeclared_text text
  | node :: rest, text =>
      undeclared_append.mpr ⟨undeclared_node node text, undeclared_nodes rest (node.textAfter text)⟩
end

section Reading

variable {definitions : List Definition} {node : Node}

theorem tells_of_wellFormed {tag : StartTag} {children : List Node} {closing : Option (List Char)}
    (wellFormed : (Node.element tag children closing).wellFormed [] 0 = true) :
    Tells (Node.element tag children closing).bytes
      (.start tag.localName (tag.given .first) :: (Node.eventsAll [] children ++ [.close])) := by
  obtain ⟨last, reads⟩ := Scan.reads_document wellFormed
  have begins : ∃ rest, (Node.element tag children closing).written = '<' :: rest := by
    rw [Node.written]
    split <;> exact ⟨_, rfl⟩
  obtain ⟨rest, begins⟩ := begins
  have tells := tells_of_reads reads (undeclared_node _ []) (by rw [begins]; simp)
    (by rw [begins]; simp)
  rwa [Node.events] at tells

/-- A document is read as what it carries. -/
theorem Carries.parse (carries : Carries definitions node)
    (wellFormed : node.wellFormed [] 0 = true) : parse node.bytes = .ok definitions := by
  cases carries with
  | @mk tag children closing entries =>
      refine parse_eq_ok_of_run (tells_of_wellFormed wellFormed) ?_
      have opened : Builder.beforeRoot.step (.start tag.localName (tag.given .first)) =
          .more (.root []) := rfl
      rw [run_cons_of_more opened, Builder.run_append_of_more (run_entries entries rfl),
        List.append_nil]
      change Outcome.complete definitions.reverse.reverse = _
      rw [List.reverse_reverse]

/-- The root element cannot have the qualifier `xml`, whatever follows. -/
theorem parse_qualifiedXml (rest : List Char) :
    parse (String.ofList ("<xml:r".toList ++ '>' :: rest)).toUTF8.toList = .error .malformed :=
  parse_of_refused (.quiet rfl <| .quiet rfl <| .quiet rfl <| .quiet rfl <| .quiet rfl <|
    .quiet rfl <| .nil _) rfl (by decide) (by decide)

/-- A tag that calls the default name `xml`. -/
def defaultXml : StartTag :=
  ⟨⟨none, ['r']⟩, [⟨[' '], ⟨none, "xmlns".toList⟩, [], [], '"', "xml".toList.map .literal⟩], []⟩

theorem parse_defaultXml (rest : List Char) :
    parse (String.ofList ("<r xmlns=\"xml".toList ++ '"' :: rest)).toUTF8.toList =
      .error .malformed :=
  parse_of_refused (.quiet rfl <| .quiet rfl <| .quiet rfl <| .quiet rfl <| .quiet rfl <|
    .quiet rfl <| .quiet rfl <| .quiet rfl <| .quiet rfl <| .quiet rfl <| .quiet rfl <|
    .quiet rfl <| .quiet rfl <| .nil _) rfl (by decide) (by decide)

end Reading

end Document

end IdRegistry
