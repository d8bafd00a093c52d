import IdRegistry.Proofs.Document.Reader
import IdRegistry.Proofs.Markup.Node

namespace IdRegistry

open Markup (Event Node isSpace textEvents trimSpaces)

/-! An event tells the builder less than the document says: what is left of an element is its local name,
its attributes, and the elements and texts in it that are reported (`Told`). Whatever is in an element,
the builder comes out of it where it went in, or has found a fault (`Keeps`). So each child of the root
comes to one definition, and no child can reach into the next (`run_rootChildren`).
-/

namespace Document

/-- What is told of an element or a text. -/
inductive Told where
  | text (content : String)
  | element (name : String) (attributes : List (String × String)) (children : List Told)

namespace Told

mutual
def events : Told → List Event
  | .text content => [.text content]
  | .element name attributes children => .start name attributes :: (eventsAll children ++ [.close])

def eventsAll : List Told → List Event
  | [] => []
  | child :: rest => child.events ++ eventsAll rest
end

/-- The events of a document with the given root element. -/
def document (declaration : Option (Option (List Char))) (root : Told) : List Event :=
  (declaration.map Event.declared).toList ++ root.events

/-- An element whose name passes the test. -/
def isElement (test : String → Bool) : Told → Bool
  | .text _ => false
  | .element name _ _ => test name

theorem eventsAll_append (children more : List Told) :
    eventsAll (children ++ more) = eventsAll children ++ eventsAll more := by
  induction children with
  | nil => rfl
  | cons child children ih => rw [List.cons_append, eventsAll, eventsAll, ih, List.append_assoc]

def ofText (text : List Char) : List Told :=
  if text.all isSpace then [] else [.text (String.ofList (trimSpaces text))]

theorem eventsAll_ofText (text : List Char) : eventsAll (ofText text) = textEvents text := by
  unfold ofText textEvents
  split <;> rfl

theorem isElement_ofText (test : String → Bool) (text : List Char) :
    ∀ child ∈ ofText text, child.isElement test = false := by
  unfold ofText
  split
  · exact List.forall_mem_nil _
  · exact List.forall_mem_singleton.mpr rfl

end Told

end Document

namespace Markup.Node

open Document (Told)

mutual
/-- What a node completes, the given text before it included. -/
def told (text : List Char) : Node → List Told
  | .piece _ => []
  | .section _ => []
  | .comment _ => []
  | .instruction _ _ => Told.ofText text
  | .element tag children _ =>
      Told.ofText text ++ [.element tag.localName (tag.given .first) (toldAll [] children)]

def toldAll (text : List Char) : List Node → List Told
  | [] => Told.ofText text
  | node :: rest => node.told text ++ toldAll (node.textAfter text) rest
end

mutual
theorem eventsAll_told : ∀ (node : Node) (text : List Char),
    Told.eventsAll (node.told text) = node.events text
  | .piece _, _ => rfl
  | .section _, _ => rfl
  | .comment _, _ => rfl
  | .instruction _ _, text => Told.eventsAll_ofText text
  | .element tag children closing, text => by
      rw [told, events, Told.eventsAll_append, Told.eventsAll_ofText, Told.eventsAll, Told.events,
        eventsAll_toldAll children [], Told.eventsAll, List.append_nil]

theorem eventsAll_toldAll : ∀ (nodes : List Node) (text : List Char),
    Told.eventsAll (toldAll text nodes) = eventsAll text nodes
  | [], text => Told.eventsAll_ofText text
  | node :: rest, text => by
      rw [toldAll, eventsAll, Told.eventsAll_append, eventsAll_told node text,
        eventsAll_toldAll rest (node.textAfter text)]
end

def isElement (test : String → Bool) : Node → Bool
  | .element tag _ _ => test tag.localName
  | _ => false

section Names

variable {test : String → Bool} {text : List Char} {node : Node} {nodes : List Node}

theorem isElement_told :
    (∀ child ∈ node.told text, child.isElement test = false) ↔ node.isElement test = false := by
  have before := Told.isElement_ofText test text
  cases node with
  | element tag children closing =>
      rw [told, List.forall_mem_append, List.forall_mem_singleton]
      exact and_iff_right before
  | instruction target content => exact ⟨fun _ => rfl, fun _ => before⟩
  | _ => exact ⟨fun _ => rfl, fun _ => List.forall_mem_nil _⟩

theorem isElement_toldAll : (∀ child ∈ toldAll text nodes, child.isElement test = false) ↔
    ∀ node ∈ nodes, node.isElement test = false := by
  induction nodes generalizing text with
  | nil => exact ⟨fun _ => List.forall_mem_nil _, fun _ => Told.isElement_ofText test text⟩
  | cons node nodes ih =>
      rw [toldAll, List.forall_mem_append, isElement_told, ih, List.forall_mem_cons]

end Names

end Markup.Node

namespace Document

section Running

variable {builder inside next last : Builder}

theorem run_cons_of_more {event : Event} (first : builder.step event = .more next)
    (rest : List Event) : builder.run (event :: rest) = next.run rest := by
  simp only [Builder.run, first]

theorem run_cons_of_fault {event : Event} {fault : DocumentFault}
    (first : builder.step event = .fault fault) (rest : List Event) :
    builder.run (event :: rest) = .fault fault := by
  simp only [Builder.run, first]

/-- The events of an element. -/
theorem run_element {name : String} {attributes : List (String × String)} {events : List Event}
    (opened : builder.step (.start name attributes) = .more inside)
    (passed : inside.run events = .more next) (closed : next.step .close = .more last) :
    builder.run (.start name attributes :: (events ++ [.close])) = .more last := by
  rw [run_cons_of_more opened, Builder.run_append_of_more passed, run_cons_of_more closed]
  rfl

end Running

/-- Places inside of elements without a meaning, by their depth. -/
structure Skips (place : Nat → Builder) : Prop where
  start : ∀ depth name attributes,
    (place depth).step (.start name attributes) = .more (place (depth + 1))
  text : ∀ depth content, (place depth).step (.text content) = .more (place depth)
  close : ∀ depth, (place (depth + 1)).step .close = .more (place depth)

section Skipping

variable {place : Nat → Builder}

mutual
theorem Skips.run_told (skips : Skips place) : ∀ (child : Told) (depth : Nat),
    (place depth).run child.events = .more (place depth)
  | .text content, depth => run_cons_of_more (skips.text depth content) []
  | .element name attributes children, depth =>
      run_element (skips.start depth name attributes) (skips.run_toldAll children (depth + 1))
        (skips.close depth)

theorem Skips.run_toldAll (skips : Skips place) : ∀ (children : List Told) (depth : Nat),
    (place depth).run (Told.eventsAll children) = .more (place depth)
  | [], _ => rfl
  | child :: rest, depth => by
      rw [Told.eventsAll, Builder.run_append_of_more (skips.run_told child depth)]
      exact skips.run_toldAll rest depth
end

theorem skips_ignored (entries : List Definition) (kind : Kind) (fields : Fields) :
    Skips fun depth => .entry entries kind fields (.ignored depth) :=
  ⟨fun _ _ _ => rfl, fun _ _ => rfl, fun _ => rfl⟩

theorem skips_itemIgnored (entries : List Definition) (kind : Kind) (fields : Fields)
    (value : Option String) :
    Skips fun depth => .entry entries kind fields (.itemIgnored value depth) :=
  ⟨fun _ _ _ => rfl, fun _ _ => rfl, fun _ => rfl⟩

end Skipping

/-- An outcome that is a fault or one of the given places. -/
inductive Outcome.Within (places : Builder → Prop) : Outcome → Prop where
  | fault (fault : DocumentFault) : Within places (.fault fault)
  | more {builder : Builder} (place : places builder) : Within places (.more builder)

theorem Outcome.Within.imp {places others : Builder → Prop} {outcome : Outcome}
    (within : outcome.Within places) (each : ∀ builder, places builder → others builder) :
    outcome.Within others := by
  cases within with
  | fault fault => exact .fault fault
  | more place => exact .more (each _ place)

theorem Outcome.Within.fault_or_more {places : Builder → Prop} {outcome : Outcome}
    (within : outcome.Within places) :
    (∃ fault, outcome = .fault fault) ∨ ∃ builder, places builder ∧ outcome = .more builder := by
  cases within with
  | fault fault => exact .inl ⟨fault, rfl⟩
  | more place => exact .inr ⟨_, place, rfl⟩

/-- The outcome, and from there on what comes next. -/
def Outcome.andThen (outcome : Outcome) (next : Builder → Outcome) : Outcome :=
  match outcome with
  | .more builder => next builder
  | outcome => outcome

theorem Outcome.Within.andThen {places others : Builder → Prop} {outcome : Outcome}
    {next : Builder → Outcome} (first : outcome.Within places)
    (second : ∀ builder, places builder → (next builder).Within others) :
    (outcome.andThen next).Within others := by
  cases first with
  | fault fault => exact .fault fault
  | more place => exact second _ place

/-- From each of the places, the events lead to one of them or to a fault. -/
def Keeps (places : Builder → Prop) (events : List Event) : Prop :=
  ∀ builder, places builder → (builder.run events).Within places

namespace Keeps

variable {places inner : Builder → Prop} {events more : List Event} {children : List Told}

theorem append (first : Keeps places events) (second : Keeps places more) :
    Keeps places (events ++ more) := by
  intro builder place
  rw [Builder.run_append]
  exact (first builder place).andThen second

theorem all (each : ∀ child ∈ children, Keeps places child.events) :
    Keeps places (Told.eventsAll children) := by
  induction children with
  | nil => exact fun builder place => .more place
  | cons child children ih =>
      obtain ⟨first, others⟩ := List.forall_mem_cons.mp each
      exact first.append (ih others)

theorem text {content : String}
    (step : ∀ builder, places builder → (builder.step (.text content)).Within places) :
    Keeps places (Told.text content).events :=
  fun builder place => (step builder place).andThen fun _ => .more

theorem element {name : String} {attributes : List (String × String)}
    (opens : ∀ builder, places builder → (builder.step (.start name attributes)).Within inner)
    (inside : Keeps inner (Told.eventsAll children))
    (closes : ∀ builder, inner builder → (builder.step .close).Within places) :
    Keeps places (Told.element name attributes children).events := by
  intro builder place
  refine (opens builder place).andThen fun opened place => ?_
  rw [Builder.run_append]
  refine (inside opened place).andThen fun passed place => ?_
  exact (closes passed place).andThen fun _ => .more

end Keeps

section Places

variable (entries : List Definition) (kind : Kind)

/-- The builder is in an entry, at a place of the given form. -/
def InEntry {α : Type} (place : α → Place) (builder : Builder) : Prop :=
  ∃ fields one, builder = .entry entries kind fields (place one)

theorem keeps_ignored (children : List Told) :
    Keeps (InEntry entries kind fun _ : Unit => .ignored 0) (Told.eventsAll children) := by
  intro _ place
  obtain ⟨fields, one, rfl⟩ := place
  rw [(skips_ignored entries kind fields).run_toldAll children 0]
  exact .more ⟨fields, one, rfl⟩

theorem keeps_itemIgnored (children : List Told) :
    Keeps (InEntry entries kind fun value => .itemIgnored value 0) (Told.eventsAll children) := by
  intro _ place
  obtain ⟨fields, value, rfl⟩ := place
  rw [(skips_itemIgnored entries kind fields value).run_toldAll children 0]
  exact .more ⟨fields, value, rfl⟩

/-- Where only one text can stand, nothing else leads anywhere. -/
theorem keeps_onlyText {place : Option String → Place} (children : List Told)
    (one : ∀ fields content, (Builder.entry entries kind fields (place none)).step (.text content) =
      .more (.entry entries kind fields (place (some content))))
    (two : ∀ fields text content, (Builder.entry entries kind fields (place (some text))).step
      (.text content) = .fault .malformed)
    (start : ∀ fields text name attributes, (Builder.entry entries kind fields (place text)).step
      (.start name attributes) = .fault .malformed) :
    Keeps (InEntry entries kind place) (Told.eventsAll children) := by
  refine .all fun child _ => ?_
  cases child with
  | text content =>
      refine .text ?_
      intro _ place
      obtain ⟨fields, text, rfl⟩ := place
      cases text with
      | none =>
          rw [one]
          exact .more ⟨fields, some content, rfl⟩
      | some text =>
          rw [two]
          exact .fault .malformed
  | element name attributes inside =>
      intro _ place
      obtain ⟨fields, text, rfl⟩ := place
      rw [Told.events, run_cons_of_fault (start fields text name attributes)]
      exact .fault .malformed

theorem keeps_field (field : Field) (children : List Told) :
    Keeps (InEntry entries kind (.field field)) (Told.eventsAll children) :=
  keeps_onlyText entries kind children (fun _ _ => rfl) (fun _ _ _ => rfl) fun _ _ _ _ => rfl

theorem keeps_itemField (children : List Told) :
    Keeps (InEntry entries kind .itemField) (Told.eventsAll children) :=
  keeps_onlyText entries kind children (fun _ _ => rfl) (fun _ _ _ => rfl) fun _ text _ _ => by
    cases text <;> rfl

theorem keeps_item (children : List Told) :
    Keeps (InEntry entries kind .item) (Told.eventsAll children) := by
  refine .all fun child _ => ?_
  cases child with
  | text content =>
      refine .text ?_
      intro _ place
      obtain ⟨fields, value, rfl⟩ := place
      exact .more ⟨fields, value, rfl⟩
  | element name attributes inside =>
      by_cases field : name = "value"
      · refine .element ?_ (keeps_itemField entries kind inside) ?_
        · intro _ place
          obtain ⟨fields, value, rfl⟩ := place
          subst field
          cases value with
          | none => exact .more ⟨fields, none, rfl⟩
          | some value => exact .fault (.repeatedField .value)
        · intro _ place
          obtain ⟨fields, text, rfl⟩ := place
          exact .more ⟨fields, some (text.getD ""), rfl⟩
      · refine .element ?_ (keeps_itemIgnored entries kind inside) ?_
        · intro _ place
          obtain ⟨fields, value, rfl⟩ := place
          have opened : (Builder.entry entries kind fields (.item value)).step
              (.start name attributes) = .more (.entry entries kind fields (.itemIgnored value 0)) :=
            if_pos field
          rw [opened]
          exact .more ⟨fields, value, rfl⟩
        · intro _ place
          obtain ⟨fields, value, rfl⟩ := place
          exact .more ⟨fields, value, rfl⟩

/-- Where the start of a child element leads. -/
def insideChild : Option Field → Builder → Prop
  | none => InEntry entries kind fun _ : Unit => .ignored 0
  | some .item => InEntry entries kind .item
  | some field => InEntry entries kind (.field field)

theorem child_within (fields : Fields) (name : String) (attributes : List (String × String)) :
    (Builder.child entries kind fields name attributes).Within
      (insideChild entries kind (kind.field? name)) := by
  rw [Builder.child]
  cases kind.field? name with
  | none => exact .more ⟨_, (), rfl⟩
  | some field =>
      cases given : fields.has field with
      | true =>
          simp only [given]
          exact .fault _
      | false =>
          simp only [given]
          cases field with
          | item =>
              cases itemValue none attributes with
              | ok value => exact .more ⟨_, value, rfl⟩
              | error fault => exact .fault fault
          | name => exact .more ⟨_, none, rfl⟩
          | value => exact .more ⟨_, none, rfl⟩

theorem keeps_insideChild (field : Option Field) (children : List Told) :
    Keeps (insideChild entries kind field) (Told.eventsAll children) := by
  cases field with
  | none => exact keeps_ignored entries kind children
  | some field =>
      cases field with
      | item => exact keeps_item entries kind children
      | name => exact keeps_field entries kind .name children
      | value => exact keeps_field entries kind .value children

theorem insideChild_close (field : Option Field) (builder : Builder)
    (place : insideChild entries kind field builder) :
    (builder.step .close).Within (InEntry entries kind fun _ : Unit => .children) := by
  cases field with
  | none =>
      obtain ⟨fields, one, rfl⟩ := place
      exact .more ⟨fields, one, rfl⟩
  | some field =>
      cases field with
      | item =>
          obtain ⟨fields, value, rfl⟩ := place
          cases value with
          | none => exact .fault (.missingField .value)
          | some value => exact .more ⟨_, (), rfl⟩
      | name =>
          obtain ⟨fields, text, rfl⟩ := place
          exact .more ⟨_, (), rfl⟩
      | value =>
          obtain ⟨fields, text, rfl⟩ := place
          exact .more ⟨_, (), rfl⟩

theorem keeps_children (children : List Told) :
    Keeps (InEntry entries kind fun _ : Unit => .children) (Told.eventsAll children) := by
  refine .all fun child _ => ?_
  cases child with
  | text content =>
      refine .text ?_
      intro _ place
      obtain ⟨fields, one, rfl⟩ := place
      exact .more ⟨_, one, rfl⟩
  | element name attributes inside =>
      refine .element ?_ (keeps_insideChild entries kind _ inside)
        (insideChild_close entries kind (kind.field? name))
      intro _ place
      obtain ⟨fields, one, rfl⟩ := place
      exact child_within entries kind fields name attributes

end Places

section Root

variable {entries : List Definition}

/-- A child of the root comes to one definition, or it has a fault. -/
theorem run_rootChild (entries : List Definition) (child : Told) :
    ((Builder.root entries).run child.events).Within fun builder =>
      ∃ definition, builder = .root (definition :: entries) := by
  cases child with
  | text content =>
      rw [Told.events, Builder.run, Builder.step, Builder.stepRoot]
      cases Kind.ofName? content with
      | none => exact .fault _
      | some kind => exact .fault _
  | element name attributes inside =>
      rw [Told.events, Builder.run, Builder.step, Builder.stepRoot, Builder.begin]
      cases Kind.ofName? name with
      | none => exact .fault _
      | some kind =>
          cases attributed : Fields.none.ofAttributes kind attributes with
          | error fault =>
              simp only [attributed]
              exact .fault fault
          | ok fields =>
              simp only [attributed]
              rw [Builder.run_append]
              refine (keeps_children entries kind inside _ ⟨fields, (), rfl⟩).andThen ?_
              intro _ place
              obtain ⟨fields, one, rfl⟩ := place
              rw [Builder.run, Builder.step, Builder.stepEntry]
              cases made : fields.definition kind with
              | error fault => exact .fault fault
              | ok definition => exact .more ⟨definition, rfl⟩

theorem run_rootChildren (entries : List Definition) (children : List Told) :
    ((Builder.root entries).run (Told.eventsAll children)).Within fun builder =>
      ∃ definitions : List Definition, definitions.length = children.length ∧
        builder = .root (definitions.reverse ++ entries) := by
  induction children generalizing entries with
  | nil => exact .more ⟨[], rfl, rfl⟩
  | cons child children ih =>
      rw [Told.eventsAll, Builder.run_append]
      refine (run_rootChild entries child).andThen ?_
      intro _ place
      obtain ⟨definition, rfl⟩ := place
      refine (ih (definition :: entries)).imp ?_
      intro _ place
      obtain ⟨definitions, length, rfl⟩ := place
      refine ⟨definition :: definitions, by rw [List.length_cons, List.length_cons, length], ?_⟩
      rw [List.reverse_cons, List.append_assoc]
      rfl

end Root

/-- The definition that an element gives as a child of the root. -/
def Told.Gives (child : Told) (definition : Definition) : Prop :=
  ∀ entries, (Builder.root entries).run child.events = .more (.root (definition :: entries))

section Documents

variable {declaration : Option (Option (List Char))} {name : String}
variable {attributes : List (String × String)} {before after children : List Told} {child : Told}
variable {bytes : List UInt8} {definitions earlier : List Definition}

theorem Told.run_of_gives (gives : List.Forall₂ Told.Gives children definitions)
    (entries : List Definition) : (Builder.root entries).run (eventsAll children) =
      .more (.root (definitions.reverse ++ entries)) := by
  induction gives generalizing entries with
  | nil => rfl
  | cons first later ih =>
      rw [eventsAll, Builder.run_append_of_more (first entries), ih, List.reverse_cons,
        List.append_assoc]
      rfl

theorem Told.run_document : Builder.beforeRoot.run
    (document declaration (.element name attributes children)) =
      (Builder.root []).run (eventsAll children ++ [.close]) := by
  cases declaration <;> rfl

theorem Told.parse_of_gives
    (tells : Tells bytes (document declaration (.element name attributes children)))
    (gives : List.Forall₂ Told.Gives children definitions) : parse bytes = .ok definitions := by
  refine parse_eq_ok_of_run tells ?_
  rw [run_document, Builder.run_append_of_more (run_of_gives gives []), List.append_nil]
  change Outcome.complete definitions.reverse.reverse = _
  rw [List.reverse_reverse]

theorem Told.parse_of_fault {fault : DocumentFault}
    (tells : Tells bytes (document declaration (.element name attributes (before ++ child :: after))))
    (gives : List.Forall₂ Told.Gives before earlier)
    (faulty : ∀ entries more, (Builder.root entries).run (child.events ++ more) = .fault fault) :
    parse bytes = .error fault := by
  refine parse_eq_error_of_run tells ?_
  rw [run_document, eventsAll_append, List.append_assoc,
    Builder.run_append_of_more (run_of_gives gives []), eventsAll, List.append_assoc]
  exact faulty _ _

/-- A document that can be read has a definition for each child of its root, in order. -/
theorem Told.definition_of_parse
    (tells : Tells bytes (document declaration (.element name attributes (before ++ child :: after))))
    (read : parse bytes = .ok definitions) :
    ∃ earlier definition later, definitions = earlier ++ definition :: later ∧
      earlier.length = before.length ∧ later.length = after.length ∧
      (Builder.root earlier.reverse).run child.events =
        .more (.root (definition :: earlier.reverse)) := by
  let events := document declaration (.element name attributes (before ++ child :: after))
  have split : Builder.beforeRoot.run events = (Builder.root []).run
      (eventsAll before ++ (child.events ++ (eventsAll after ++ [.close]))) := by
    rw [run_document, eventsAll_append, eventsAll, List.append_assoc, List.append_assoc]
  have sound {fault : DocumentFault} (faulty : Builder.beforeRoot.run events = .fault fault) :
      False := by
    rw [parse_eq_error_of_run tells faulty] at read
    contradiction
  -- The three stretches of the run: a fault in any of them would be the result.
  rcases (run_rootChildren [] before).fault_or_more with
    ⟨fault, ran⟩ | ⟨_, ⟨earlier, length, rfl⟩, first⟩
  · exact (sound (by rw [split, Builder.run_append, ran])).elim
  rw [List.append_nil] at first
  rw [Builder.run_append_of_more first] at split
  rcases (run_rootChild earlier.reverse child).fault_or_more with
    ⟨fault, ran⟩ | ⟨_, ⟨definition, rfl⟩, second⟩
  · exact (sound (by rw [split, Builder.run_append, ran])).elim
  rw [Builder.run_append_of_more second] at split
  rcases (run_rootChildren (definition :: earlier.reverse) after).fault_or_more with
    ⟨fault, ran⟩ | ⟨_, ⟨later, length', rfl⟩, third⟩
  · exact (sound (by rw [split, Builder.run_append, ran])).elim
  rw [Builder.run_append_of_more third] at split
  change _ = Outcome.complete (later.reverse ++ definition :: earlier.reverse).reverse at split
  rw [parse_eq_ok_of_run tells split] at read
  refine ⟨earlier, definition, later, ?_, length, length', second⟩
  rw [← Except.ok.inj read]
  simp

end Documents

end Document

end IdRegistry
