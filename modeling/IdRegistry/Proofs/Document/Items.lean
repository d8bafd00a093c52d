import IdRegistry.Proofs.Classification
import IdRegistry.Proofs.Document.FirstFault

namespace IdRegistry

open Markup (Event Node Scan StartTag isSpace plainTag)

namespace Document

/-- Whatever stands between two items joins them. -/
def Together {α : Type} (isItem joins : α → Bool) (all : List α) : Prop :=
  ∀ first between last, [first, between, last].Sublist all → isItem first = true →
    isItem last = true → joins between = true

/-- No child can follow that separates the items from a later one. -/
def Joined {α : Type} (isItem joins : α → Bool) (all : List α) : Prop :=
  all.Pairwise fun earlier later => isItem later = true → joins earlier = true

section Lists

variable {α : Type} {isItem joins : α → Bool} {one : α} {rest : List α}

theorem Joined.together (joined : Joined isItem joins rest) : Together isItem joins rest := by
  intro first between last within _ isLast
  have later : [between, last].Sublist rest := (List.sublist_cons_self first _).trans within
  exact List.pairwise_iff_forall_sublist.mp joined later isLast

theorem together_cons : Together isItem joins (one :: rest) ↔
    Together isItem joins rest ∧ (isItem one = true → Joined isItem joins rest) := by
  constructor
  · intro together
    refine ⟨fun first between last within => together first between last (within.cons one), ?_⟩
    intro isFirst
    refine List.pairwise_iff_forall_sublist.mpr fun {between last} within isLast => ?_
    exact together one between last (within.cons_cons one) isFirst isLast
  · intro both first between last within isFirst isLast
    obtain ⟨together, joined⟩ := both
    cases within with
    | cons _ within => exact together first between last within isFirst isLast
    | cons_cons _ within =>
        exact List.pairwise_iff_forall_sublist.mp (joined isFirst) within isLast

theorem together_cons_of_item (item : isItem one = true) :
    Together isItem joins (one :: rest) ↔ Joined isItem joins rest :=
  together_cons.trans ⟨fun both => both.2 item, fun joined => ⟨joined.together, fun _ => joined⟩⟩

theorem together_cons_of_other (other : isItem one = false) :
    Together isItem joins (one :: rest) ↔ Together isItem joins rest := by
  rw [together_cons, other]
  simp

theorem joined_cons : Joined isItem joins (one :: rest) ↔
    (∀ later ∈ rest, isItem later = true → joins one = true) ∧ Joined isItem joins rest :=
  List.pairwise_cons

theorem joined_cons_of_joins (joining : joins one = true) :
    Joined isItem joins (one :: rest) ↔ Joined isItem joins rest :=
  joined_cons.trans ⟨And.right, fun joined => ⟨fun _ _ _ => joining, joined⟩⟩

theorem joined_of_no_item (none : ∀ later ∈ rest, isItem later = false) :
    Joined isItem joins rest := by
  induction rest with
  | nil => exact .nil
  | cons one rest ih =>
      obtain ⟨-, others⟩ := List.forall_mem_cons.mp none
      exact .cons (fun later member item => by simp [others later member] at item) (ih others)

theorem joined_cons_of_apart (apart : joins one = false) :
    Joined isItem joins (one :: rest) ↔ ∀ later ∈ rest, isItem later = false := by
  rw [joined_cons, apart]
  constructor
  · intro both later member
    exact Bool.eq_false_iff.mpr fun item => nomatch both.1 later member item
  · intro none
    exact ⟨fun later member item => by simp [none later member] at item, joined_of_no_item none⟩

end Lists

namespace Told

def isNamed (name : String) (child : Told) : Bool := child.isElement fun other => other = name

def isItem (child : Told) : Bool := child.isNamed "item"

/-- Nothing but items stands between two items. -/
abbrev ItemsTogether (children : List Told) : Prop := Together isItem isItem children

/-- No child names the list. -/
def Unnamed (children : List Told) : Prop := ∀ child ∈ children, child.isNamed "name" = false

/-- A list that has its name as an attribute, and items with these values. -/
inductive IsList (name : String) (children : List Told) (values : List String) : Told → Prop where
  | mk {attributes : List (String × String)}
      (given : attributes.filter (fun given => (Level.entry .list).isField given.1) =
        [("name", name)])
      (items : List.Forall₂ IsItem values (children.filter isItem)) :
      IsList name children values (.element "list" attributes children)

end Told

/-- Whether all items of children can be taken after the items so far. -/
def Items.Admits (items : Items) (children : List Told) : Prop :=
  match items with
  | .absent => Told.ItemsTogether children
  | .running _ => Joined Told.isItem Told.isItem children
  | .ended _ => ∀ child ∈ children, child.isItem = false

section Children

variable {entries : List Definition} {fields : Fields} {children : List Told} {child : Told}
variable {values : List String} {value : String}

theorem Items.admits_item (items : Items) (item : child.isItem = true) :
    items.Admits (child :: children) ↔
      (∀ values, items ≠ .ended values) ∧ (Items.running (value :: items.values)).Admits children := by
  cases items with
  | absent => simpa [Admits] using together_cons_of_item item
  | running values => simpa [Admits] using joined_cons_of_joins item
  | ended values => simp [Admits, item]

theorem Items.admits_other (items : Items) (other : child.isItem = false) :
    items.Admits (child :: children) ↔ items.stop.Admits children := by
  cases items with
  | absent => exact together_cons_of_other other
  | running values => exact joined_cons_of_apart other
  | ended values => simp [Admits, stop, other]

theorem run_child_again {field : Field} (known : Kind.list.field? field.spelling = some field)
    (named : child.isNamed field.spelling = true) (given : fields.has field = true)
    (more : List Event) : (Builder.entry entries .list fields .children).run (child.events ++ more) =
      .fault (.repeatedField field) := by
  cases child with
  | text content => contradiction
  | element name attributes inside =>
      obtain rfl : name = field.spelling := by simpa [Told.isNamed, Told.isElement] using named
      refine run_cons_of_fault ?_ _
      change Builder.child entries .list fields field.spelling attributes = _
      simp only [Builder.child, known, given]
      rfl

theorem isField_eq_false (other : child.isItem = false) (unnamed : child.isNamed "name" = false) :
    child.isElement (Level.entry .list).isField = false := by
  cases child with
  | text content => rfl
  | element name attributes inside =>
      have notItem : name ≠ "item" := by
        simpa [Told.isItem, Told.isNamed, Told.isElement] using other
      have notName : name ≠ "name" := by simpa [Told.isNamed, Told.isElement] using unnamed
      simp [Told.isElement, Level.isField, Kind.field?, notItem, notName]

theorem Fields.has_item_eq_false (adjacent : ∀ values, fields.items ≠ .ended values) :
    fields.has .item = false := by
  unfold has
  cases held : fields.items with
  | ended values => exact absurd held (adjacent values)
  | _ => rfl

theorem run_admitted (items : List.Forall₂ Told.IsItem values (children.filter Told.isItem))
    (unnamed : Told.Unnamed children) (admits : fields.items.Admits children) :
    ∃ items, items.values = values.reverse ++ fields.items.values ∧
      (Builder.entry entries .list fields .children).run (Told.eventsAll children) =
        .more (.entry entries .list { fields with items := items } .children) := by
  induction children generalizing fields values with
  | nil =>
      cases items
      exact ⟨fields.items, rfl, rfl⟩
  | cons child children ih =>
      obtain ⟨other, unnamed⟩ := List.forall_mem_cons.mp unnamed
      cases item : child.isItem with
      | true =>
          rw [List.filter_cons_of_pos item] at items
          obtain ⟨value, rest, first, later, rfl⟩ := List.forall₂_cons_right_iff.mp items
          obtain ⟨adjacent, admits⟩ := (fields.items.admits_item item).mp admits
          obtain ⟨last, held, ran⟩ := @ih
            { fields with items := .running (value :: fields.items.values) } _ later unnamed admits
          refine ⟨last, ?_, ?_⟩
          · rw [held, List.reverse_cons, List.append_assoc]
            rfl
          · rw [Told.eventsAll, Builder.run_append_of_more
              (run_itemChild first (Fields.has_item_eq_false adjacent))]
            exact ran
      | false =>
          rw [List.filter_cons_of_neg (by simp [item])] at items
          have admits := (fields.items.admits_other item).mp admits
          obtain ⟨last, held, ran⟩ := @ih
            { fields with items := fields.items.stop } _ items unnamed admits
          refine ⟨last, ?_, ?_⟩
          · rw [held, values_stop]
          · rw [Told.eventsAll, Builder.run_append_of_more (run_other (isField_eq_false item other))]
            exact ran

theorem run_refused (items : List.Forall₂ Told.IsItem values (children.filter Told.isItem))
    (unnamed : Told.Unnamed children) (refused : ¬ fields.items.Admits children)
    (more : List Event) :
    (Builder.entry entries .list fields .children).run (Told.eventsAll children ++ more) =
      .fault (.repeatedField .item) := by
  induction children generalizing fields values with
  | nil =>
      refine absurd ?_ refused
      cases fields.items with
      | absent => nofun
      | running values => exact .nil
      | ended values => exact List.forall_mem_nil _
  | cons child children ih =>
      obtain ⟨other, unnamed⟩ := List.forall_mem_cons.mp unnamed
      rw [Told.eventsAll, List.append_assoc]
      cases item : child.isItem with
      | true =>
          rw [List.filter_cons_of_pos item] at items
          obtain ⟨value, rest, first, later, rfl⟩ := List.forall₂_cons_right_iff.mp items
          cases given : fields.has .item with
          | true => exact @run_child_again _ _ _ .item rfl item given _
          | false =>
              have adjacent : ∀ values, fields.items ≠ .ended values := by
                intro values ended
                simp [Fields.has, ended] at given
              rw [Builder.run_append_of_more (run_itemChild first given)]
              refine ih later unnamed fun admits => refused ?_
              exact (fields.items.admits_item item).mpr ⟨adjacent, admits⟩
      | false =>
          rw [List.filter_cons_of_neg (by simp [item])] at items
          rw [Builder.run_append_of_more (run_other (isField_eq_false item other))]
          exact ih items unnamed fun admits => refused ((fields.items.admits_other item).mpr admits)

end Children

section Lists

variable {entries : List Definition} {children : List Told} {list : Told}
variable {name : String} {values : List String}

/-- The fields of a list after its start tag. -/
def begun (name : String) : Fields := ⟨some name, none, .absent⟩

theorem run_listStart {attributes : List (String × String)} {root : List Definition}
    (given : attributes.filter (fun given => (Level.entry .list).isField given.1) =
      [("name", name)]) :
    (Builder.root root).step (.start "list" attributes) =
      .more (.entry root .list (begun name) .children) := by
  have attributed : Fields.none.ofAttributes .list attributes = .ok (begun name) := by
    rw [← ofAttributes_filter, given]
    rfl
  change Builder.begin root "list" attributes = _
  simp only [Builder.begin, show Kind.ofName? "list" = some .list from rfl, attributed]

theorem gives_of_together (isList : Told.IsList name children values list)
    (unnamed : Told.Unnamed children) (together : Told.ItemsTogether children) :
    list.Gives (.list name values) := by
  intro entries
  cases isList with
  | mk given items =>
      obtain ⟨last, held, ran⟩ := @run_admitted entries (begun name) children values
        items unnamed together
      refine run_element (run_listStart given) ran ?_
      have whole : last.values.reverse = values := by
        rw [held, List.reverse_append, List.reverse_reverse]
        rfl
      simp only [Builder.step, Builder.stepEntry, Fields.definition, begun, whole]

theorem refused_of_apart (isList : Told.IsList name children values list) {inside rest : List Told}
    (split : children = inside ++ rest) (unnamed : Told.Unnamed inside)
    (apart : ¬ Told.ItemsTogether inside) (entries : List Definition) (more : List Event) :
    (Builder.root entries).run (list.events ++ more) = .fault (.repeatedField .item) := by
  cases isList with
  | mk given items =>
      rw [split, List.filter_append] at items
      rw [Told.events, List.cons_append, run_cons_of_more (run_listStart given), split,
        Told.eventsAll_append, List.append_assoc, List.append_assoc]
      exact @run_refused _ (begun name) _ _ (List.forall₂_take_append _ _ _ items) unnamed apart _

theorem refused_of_named (isList : Told.IsList name children values list) {inside rest : List Told}
    {again : Told} (split : children = inside ++ again :: rest)
    (unnamed : Told.Unnamed inside) (named : again.isNamed "name" = true)
    (together : Told.ItemsTogether inside) (entries : List Definition) (more : List Event) :
    (Builder.root entries).run (list.events ++ more) = .fault (.repeatedField .name) := by
  cases isList with
  | mk given items =>
      rw [split, List.filter_append] at items
      obtain ⟨last, held, ran⟩ := @run_admitted entries (begun name) inside _
        (List.forall₂_take_append _ _ _ items) unnamed together
      rw [Told.events, List.cons_append, run_cons_of_more (run_listStart given), split,
        Told.eventsAll_append, List.append_assoc, List.append_assoc,
        Builder.run_append_of_more ran, Told.eventsAll, List.append_assoc]
      exact @run_child_again _ _ _ .name rfl named rfl _

/-- A list that can be read has all of its items. -/
theorem together_of_run (isList : Told.IsList name children values list) {definition : Definition}
    (ran : (Builder.root entries).run list.events = .more (.root (definition :: entries))) :
    Told.Unnamed children ∧ Told.ItemsTogether children ∧ definition = .list name values := by
  have sound {fault : DocumentFault}
      (faulty : (Builder.root entries).run (list.events ++ []) = .fault fault) : False := by
    rw [List.append_nil, ran] at faulty
    contradiction
  -- The first child with a name is a fault, unless there is an earlier one.
  have unnamed : Told.Unnamed children := by
    cases found : children.find? (Told.isNamed "name") with
    | none => simpa [Told.Unnamed] using found
    | some again =>
        obtain ⟨named, inside, rest, split, others⟩ := List.find?_eq_some_iff_append.mp found
        have unnamed : Told.Unnamed inside := by simpa [Told.Unnamed] using others
        by_cases together : Told.ItemsTogether inside
        · exact (sound (refused_of_named isList split unnamed named together entries [])).elim
        · exact (sound (refused_of_apart isList split unnamed together entries [])).elim
  by_cases together : Told.ItemsTogether children
  · rw [gives_of_together isList unnamed together entries] at ran
    injection ran with same
    injection same with same
    exact ⟨unnamed, together, (List.cons.inj same).1.symm⟩
  · have split : children = children ++ [] := (List.append_nil _).symm
    exact (sound (refused_of_apart isList split unnamed together entries [])).elim

theorem kept_of_mem {definitions : List Definition} {registry : Registry} {kept : IdList}
    (result : (classify definitions).result = .ok registry)
    (listed : Definition.list kept.name values ∈ definitions) (member : kept ∈ registry.lists) :
    List.Forall₂ (fun value integer => Text.integer? value = some integer) values kept.values := by
  obtain ⟨distinct, rfl⟩ := classify_eq_ok_iff.mp result
  obtain ⟨definition, defined, gives⟩ := List.mem_filterMap.mp member
  obtain ⟨items, rfl, -, integers⟩ := Definition.integerList?_eq_some_iff.mp gives
  have same := List.inj_on_of_nodup_map distinct defined listed rfl
  injection same with _ same
  rwa [same] at integers

end Lists

end Document

namespace Markup.Node

open Document (Joined Together Told joined_cons joined_cons_of_apart joined_cons_of_joins
  joined_of_no_item together_cons together_cons_of_other)

def isItem (node : Node) : Bool := node.isElement fun name => name = "item"

def joins (node : Node) : Bool := node.isItem || node.isQuiet

/-- Nothing but items, blank text, comments and instructions stands between two items. -/
abbrev ItemsTogether (nodes : List Node) : Prop := Together isItem joins nodes

section Trees

variable {text : List Char} {nodes : List Node} {more : List Told}

theorem together_ofText : Told.ItemsTogether (Told.ofText text ++ more) ↔
    Told.ItemsTogether more := by
  unfold Told.ofText
  split
  · rfl
  · exact together_cons_of_other rfl

theorem joined_ofText : Joined Told.isItem Told.isItem (Told.ofText text ++ more) ↔
    (text.all isSpace = true ∨ ∀ child ∈ more, child.isItem = false) ∧
      Joined Told.isItem Told.isItem more := by
  unfold Told.ofText
  split
  next blank => simp [blank]
  next loud =>
    rw [List.singleton_append, joined_cons_of_apart rfl]
    simp only [loud, Bool.false_eq_true, false_or]
    exact ⟨fun none => ⟨none, joined_of_no_item none⟩, And.left⟩

theorem isItem_toldAll : (∀ child ∈ toldAll text nodes, child.isItem = false) ↔
    ∀ node ∈ nodes, node.isItem = false := isElement_toldAll

/-- An element is told as an element of the same name. -/
theorem joined_element {tag : StartTag} {children : List Node} {closing : Option (List Char)}
    {inside : List Told}
    (rest : Joined Told.isItem Told.isItem (toldAll [] nodes) ↔ Joined isItem joins nodes) :
    Joined Told.isItem Told.isItem
        (.element tag.localName (tag.given .first) inside :: toldAll [] nodes) ↔
      Joined isItem joins (.element tag children closing :: nodes) := by
  let told : Told := .element tag.localName (tag.given .first) inside
  have same : joins (.element tag children closing) = told.isItem := Bool.or_false _
  cases item : told.isItem with
  | true =>
      exact (joined_cons_of_joins item).trans
        (rest.trans (joined_cons_of_joins (same.trans item)).symm)
  | false =>
      exact (joined_cons_of_apart item).trans
        (isItem_toldAll.trans (joined_cons_of_apart (same.trans item)).symm)

/-- What is added to a text separates the items around it unless it is blank. -/
theorem joined_addedText {node : Node} (other : node.isItem = false)
    (added : (node.textAfter text).all isSpace = (text.all isSpace && node.isQuiet)) :
    ((node.textAfter text).all isSpace = true ∨ ∀ later ∈ nodes, later.isItem = false) ∧
        Joined isItem joins nodes ↔
      (text.all isSpace = true ∨ ∀ later ∈ node :: nodes, later.isItem = false) ∧
        Joined isItem joins (node :: nodes) := by
  have same : node.joins = node.isQuiet := by rw [joins, other, Bool.false_or]
  rw [added, List.forall_mem_cons, and_iff_right other]
  cases quiet : node.isQuiet with
  | true => rw [Bool.and_true, joined_cons_of_joins (same.trans quiet)]
  | false =>
      rw [Bool.and_false, joined_cons_of_apart (same.trans quiet)]
      constructor
      · intro both
        have none := both.1.resolve_left nofun
        exact ⟨.inr none, none⟩
      · intro both
        exact ⟨.inr both.2, joined_of_no_item both.2⟩

theorem joined_toldAll : Joined Told.isItem Told.isItem (toldAll text nodes) ↔
    (text.all isSpace = true ∨ ∀ node ∈ nodes, node.isItem = false) ∧
      Joined isItem joins nodes := by
  -- A text is told with the tag that ends it, so the induction carries what has been read of it.
  induction nodes generalizing text with
  | nil =>
      have joined : Joined Told.isItem Told.isItem (Told.ofText text) := by
        have both := @joined_ofText text []
        rw [List.append_nil] at both
        exact both.mpr ⟨.inr (List.forall_mem_nil _), .nil⟩
      exact ⟨fun _ => ⟨.inr (List.forall_mem_nil _), .nil⟩, fun _ => joined⟩
  | cons node nodes ih =>
      have joined : Joined Told.isItem Told.isItem (toldAll [] nodes) ↔
          Joined isItem joins nodes := ih.trans (and_iff_right (.inl rfl))
      cases node with
      | element tag children closing =>
          rw [toldAll, told, List.append_assoc, List.singleton_append, joined_ofText,
            List.forall_mem_cons, List.forall_mem_cons]
          refine and_congr (or_congr Iff.rfl (and_congr Iff.rfl isItem_toldAll)) ?_
          exact joined_element joined
      | instruction target content =>
          rw [toldAll, told, joined_ofText, List.forall_mem_cons]
          refine and_congr (or_congr Iff.rfl ?_) ?_
          · exact isItem_toldAll.trans (and_iff_right rfl).symm
          · exact joined.trans (joined_cons_of_joins rfl).symm
      | piece part => exact ih.trans (joined_addedText rfl List.all_append)
      | «section» content => exact ih.trans (joined_addedText rfl List.all_append)
      | comment content => exact ih.trans (joined_addedText rfl (Bool.and_true _).symm)

/-- Which items of a tree stand together can be seen from what is told of it. -/
theorem together_toldAll : Told.ItemsTogether (toldAll text nodes) ↔ ItemsTogether nodes := by
  induction nodes generalizing text with
  | nil =>
      have both := @together_ofText text []
      rw [List.append_nil] at both
      exact both.trans ⟨nofun, nofun⟩
  | cons node nodes ih =>
      cases node with
      | element tag children closing =>
          rw [toldAll, told, List.append_assoc, together_ofText]
          refine together_cons.trans (Iff.trans (and_congr ih ?_) together_cons.symm)
          exact imp_congr Iff.rfl (joined_toldAll.trans (and_iff_right (.inl rfl)))
      | instruction target content =>
          rw [toldAll, told, together_ofText]
          exact ih.trans (together_cons_of_other rfl).symm
      | _ => exact ih.trans (together_cons_of_other rfl).symm

end Trees

end Markup.Node

namespace Document

/-- What comes of a document with a list between other children of its root. -/
structure KeepsItems (name : String) (values : List String) (before children after : List Told)
    (bytes : List UInt8) : Prop where
  together : Told.Unnamed children → Told.ItemsTogether children → ∀ earlier later,
    List.Forall₂ Told.Gives before earlier → List.Forall₂ Told.Gives after later →
      parse bytes = .ok (earlier ++ .list name values :: later)
  apart : Told.Unnamed children → ¬ Told.ItemsTogether children → ∀ earlier,
    List.Forall₂ Told.Gives before earlier → parse bytes = .error (.repeatedField .item)
  /-- A second name is refused where it stands, and so are separated items before it. -/
  named : ∀ inside again rest, children = inside ++ again :: rest → Told.Unnamed inside →
    again.isNamed "name" = true → ∀ earlier, List.Forall₂ Told.Gives before earlier →
      (Told.ItemsTogether inside → parse bytes = .error (.repeatedField .name)) ∧
        (¬ Told.ItemsTogether inside → parse bytes = .error (.repeatedField .item))
  /-- No other list can come out of it, whatever the other children are. -/
  sound : ∀ definitions, parse bytes = .ok definitions →
    Told.Unnamed children ∧ Told.ItemsTogether children ∧
      ∃ earlier later, definitions = earlier ++ .list name values :: later ∧
        earlier.length = before.length ∧ later.length = after.length
  kept : ∀ registry, (readRegistry bytes).result = .ok registry →
    ∀ list ∈ registry.lists, list.name = name →
      List.Forall₂ (fun value integer => Text.integer? value = some integer) values list.values

theorem keepsItems_of_tells {name root : String} {children before after : List Told}
    {values : List String} {list : Told} {bytes : List UInt8}
    {declaration : Option (Option (List Char))} {attributes : List (String × String)}
    (isList : Told.IsList name children values list)
    (tells : Tells bytes
      (Told.document declaration (.element root attributes (before ++ list :: after)))) :
    KeepsItems name values before children after bytes := by
  have sound (definitions : List Definition) (read : parse bytes = .ok definitions) :
      Told.Unnamed children ∧ Told.ItemsTogether children ∧
        ∃ earlier later, definitions = earlier ++ .list name values :: later ∧
          earlier.length = before.length ∧ later.length = after.length := by
    obtain ⟨earlier, definition, later, split, length, length', ran⟩ :=
      Told.definition_of_parse tells read
    obtain ⟨unnamed, together, rfl⟩ := together_of_run isList ran
    exact ⟨unnamed, together, earlier, later, split, length, length'⟩
  refine ⟨?_, ?_, ?_, sound, ?_⟩
  · intro unnamed together earlier later first second
    exact Told.parse_of_gives tells
      (List.rel_append first (.cons (gives_of_together isList unnamed together) second))
  · intro unnamed apart earlier first
    exact Told.parse_of_fault tells first
      (refused_of_apart isList (List.append_nil _).symm unnamed apart)
  · intro inside again rest split unnamed named earlier first
    constructor
    · intro together
      exact Told.parse_of_fault tells first (refused_of_named isList split unnamed named together)
    · intro apart
      exact Told.parse_of_fault tells first (refused_of_apart isList split unnamed apart)
  · intro registry result kept member same
    cases read : parse bytes with
    | error fault =>
        rw [readRegistry, read] at result
        contradiction
    | ok definitions =>
        obtain ⟨-, -, earlier, later, rfl, -, -⟩ := sound definitions read
        rw [readRegistry, read] at result
        refine kept_of_mem result ?_ member
        rw [same]
        exact List.mem_append_right _ List.mem_cons_self

/-- No item of a list is lost. Whatever else is in the list and in the document, what is read has the
values of all items in order, unless something that is told stands between two of them: then the items
are said to be given twice. A child that names the list once more is refused as well. So every list
that is kept has one integer for each item.

Of a tree everything is told but blank text, comments and instructions. -/
theorem items_kept_together :
    (∀ (tag : StartTag) (nodes : List Node) (closing : Option (List Char)),
      (Node.element tag nodes closing).wellFormed [] 0 = true →
        Tells (Node.element tag nodes closing).bytes (Told.document none
          (.element tag.localName (tag.given .first) (Node.toldAll [] nodes)))) ∧
    (∀ nodes : List Node,
      Told.ItemsTogether (Node.toldAll [] nodes) ↔ Node.ItemsTogether nodes) ∧
    (DocumentFault.repeatedField .item).detail? = some "duplicate field `item`" ∧
    ∀ (name : String) (children : List Told) (values : List String) (list : Told),
      Told.IsList name children values list →
      ∀ (bytes : List UInt8) (declaration : Option (Option (List Char))) (root : String)
        (attributes : List (String × String)) (before after : List Told),
        Tells bytes
          (Told.document declaration (.element root attributes (before ++ list :: after))) →
        KeepsItems name values before children after bytes := by
  refine ⟨?_, fun nodes => Node.together_toldAll, rfl, ?_⟩
  · intro tag nodes closing wellFormed
    rw [Told.document, Told.events, Node.eventsAll_toldAll]
    exact tells_of_wellFormed wellFormed
  · intro name children values list isList bytes declaration root attributes before after tells
    exact keepsItems_of_tells isList tells

/-- A blank in a section of its own between two items, and a letter there. -/
theorem items_kept_together_section :
    let node (text : List Char) : Node := .element (plainTag "r" [])
      [.element (plainTag "list" [("name", "L")])
        [Definition.itemNode "1", .section text, Definition.itemNode "2"] (some [])] (some [])
    parse (node [' ']).bytes = .ok [.list "L" ["1", "2"]] ∧
      parse (node ['x']).bytes = .error (.repeatedField .item) := by
  intro node
  let item (value : String) : Told := .element "item" [("value", value)] []
  have isItem (value : String) : Told.IsItem value (item value) := .mk rfl (List.forall_mem_nil _)
  have items : List.Forall₂ Told.IsItem ["1", "2"] [item "1", item "2"] :=
    .cons (isItem "1") (.cons (isItem "2") .nil)
  have unnamed : Told.Unnamed [item "1", item "2"] :=
    List.forall_mem_cons.mpr ⟨rfl, List.forall_mem_singleton.mpr rfl⟩
  obtain ⟨trees, -, -, lists⟩ := items_kept_together
  constructor
  · have tells := trees _ _ _ (show (node [' ']).wellFormed [] 0 = true by decide +kernel)
    have keeps := lists "L" [item "1", item "2"] ["1", "2"] _ (.mk rfl items) _ none "r" [] [] []
      tells
    have joined : Joined Told.isItem Told.isItem [item "2"] := List.pairwise_singleton _ _
    exact keeps.together unnamed ((together_cons_of_item rfl).mpr joined) [] [] .nil .nil
  · have tells := trees _ _ _ (show (node ['x']).wellFormed [] 0 = true by decide +kernel)
    have keeps := lists "L" [item "1", .text "x", item "2"] ["1", "2"] _ (.mk rfl items) _ none "r"
      [] [] [] tells
    have unnamed : Told.Unnamed [item "1", .text "x", item "2"] :=
      List.forall_mem_cons.mpr ⟨rfl, List.forall_mem_cons.mpr ⟨rfl, List.forall_mem_singleton.mpr rfl⟩⟩
    refine keeps.apart unnamed (fun together => ?_) [] .nil
    exact nomatch together (item "1") (.text "x") (item "2") (List.Sublist.refl _) rfl rfl

/-- A list can be refused although nothing stands between two items: a second name and a second value
are faults, and neither can an element have the qualifier `xml` nor can the default one be called so. And
an entity of no characters makes a text of the blank after it. -/
theorem some_lists_refused :
    let empty (name : String) : Node := .element (plainTag name []) [] none
    let lists (children : List Node) : Node := .element (plainTag "r" [])
      [.element (plainTag "list" [("name", "L")]) children (some [])] (some [])
    let named := lists [Definition.itemNode "1", empty "name"]
    let valued := lists [.element (plainTag "item" [("value", "1")]) [empty "value"] (some [])]
    let qualified :=
      lists [Definition.itemNode "1", .element ⟨⟨some "xml".toList, ['a']⟩, [], []⟩ [] none]
    let declared : Node := .element defaultXml [Definition.node (.list "L" ["1"])] (some [])
    let blank := "<!DOCTYPE r [<!ENTITY e \"\">]><r><list name=\"L\"><item value=\"1\"/>" ++
      "&e;&#32;<item value=\"2\"/></list></r>"
    (named.written = "<r><list name=\"L\"><item value=\"1\"/><name/></list></r>".toList ∧
      parse named.bytes = .error (.repeatedField .name)) ∧
    (valued.written = "<r><list name=\"L\"><item value=\"1\"><value/></item></list></r>".toList ∧
      parse valued.bytes = .error (.repeatedField .value)) ∧
    (qualified.written = "<r><list name=\"L\"><item value=\"1\"/><xml:a/></list></r>".toList ∧
      parse qualified.bytes = .error .malformed) ∧
    (declared.written = "<r xmlns=\"xml\"><list name=\"L\"><item value=\"1\"/></list></r>".toList ∧
      parse declared.bytes = .error .malformed) ∧
    parse blank.toUTF8.toList = .error (.repeatedField .item) := by
  intro empty lists named valued qualified declared blank
  refine ⟨⟨by decide +kernel, ?_⟩, ⟨by decide +kernel, ?_⟩, ⟨by decide +kernel, ?_⟩,
    ⟨by decide +kernel, parse_defaultXml _⟩, ?_⟩
  · have wellFormed : named.wellFormed [] 0 = true := by decide +kernel
    exact parse_eq_error_of_run (tells_of_wellFormed wellFormed) (by decide +kernel)
  · have wellFormed : valued.wellFormed [] 0 = true := by decide +kernel
    exact parse_eq_error_of_run (tells_of_wellFormed wellFormed) (by decide +kernel)
  · let start := "<r><list name=\"L\"><item value=\"1\"/><xml:a/".toList
    let events : List Event :=
      [.start "r" [], .start "list" [("name", "L")], .start "item" [("value", "1")], .close]
    let after (read : List Event × Scan) := read.2.step '>'
    have checked : (Scan.start.readAll? start).map (fun read =>
        (read.1, (after read).events, (after read).next.isNone, (after read).replacement)) =
          some (events, [], true, []) := by decide +kernel
    obtain ⟨⟨_, last⟩, read, same⟩ := Option.map_eq_some_iff.mp checked
    obtain ⟨rfl, noEvents, noScan, noText⟩ := by simpa only [Prod.mk.injEq] using same
    have refused : last.step '>' = ⟨[], none, []⟩ := by
      rw [← noEvents, ← Option.isNone_iff_eq_none.mp noScan, ← noText]
    have written : qualified.written = start ++ '>' :: "</list></r>".toList := by decide +kernel
    have ran : Builder.beforeRoot.run events =
        .more (.entry [] .list ⟨some "L", none, .running ["1"]⟩ .children) := by decide +kernel
    rw [Node.bytes, written]
    exact parse_of_refused_after (Scan.reads_of_readAll? read) (by simp [Undeclared, events]) ran
      refused (by decide) (by decide)
  · let events : List Event :=
      [.start "r" [], .start "list" [("name", "L")], .start "item" [("value", "1")], .close,
        .text "", .start "item" [("value", "2")], .close, .close, .close]
    have checked : (Scan.start.readAll? blank.toList).map Prod.fst = some events := by
      decide +kernel
    obtain ⟨⟨_, last⟩, read, rfl⟩ := Option.map_eq_some_iff.mp checked
    have tells := tells_of_reads (Scan.reads_of_readAll? read) (by simp [Undeclared, events])
      (by decide) (by decide)
    rw [String.ofList_toList] at tells
    exact parse_eq_error_of_run tells (by decide +kernel)

end Document

end IdRegistry
