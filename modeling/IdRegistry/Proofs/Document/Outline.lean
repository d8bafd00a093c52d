import IdRegistry.Proofs.Document.Layout

namespace IdRegistry.Document

open Markup (Event Node)

/-- The fields that are texts. -/
inductive TextField where
  | name
  | value
deriving DecidableEq, Repr

namespace TextField

def field : TextField → Field
  | .name => .name
  | .value => .value

def key (field : TextField) : String := field.field.spelling

end TextField

/-- A field that is given, with its text. -/
abbrev Occurrence := TextField × String

def Occurrence.pair (given : Occurrence) : String × String := (given.1.key, given.2)

/-- One thing that an entry gives. -/
inductive Part where
  | field (given : Occurrence)
  | item (given : List Occurrence)
deriving DecidableEq, Repr

/-- What a child of the root gives. -/
inductive Outline where
  | entry (kind : Kind) (parts : List Part)
  | other (name : String)
deriving DecidableEq, Repr

/-- A child element that gives a field, with nothing but text in it. -/
structure FieldElement where
  field : TextField
  attributes : List (String × String)
  text : Option String

namespace FieldElement

def events (element : FieldElement) : List Event :=
  .start element.field.key element.attributes :: (element.text.map Event.text).toList ++ [.close]

def occurrence (element : FieldElement) : Occurrence := (element.field, element.text.getD "")

end FieldElement

structure ItemElement where
  attributes : List Occurrence
  children : List FieldElement

namespace ItemElement

def events (element : ItemElement) : List Event :=
  .start "item" (element.attributes.map Occurrence.pair) ::
    (element.children.flatMap FieldElement.events ++ [.close])

def given (element : ItemElement) : List Occurrence :=
  element.attributes ++ element.children.map FieldElement.occurrence

end ItemElement

namespace Kind

def spelling : Kind → String
  | .constant => "constant"
  | .list => "list"
  | .helper => "helper"

def required : Kind → List TextField
  | .constant => [.name, .value]
  | .list => [.name]
  | .helper => [.name]

theorem ofName?_spelling (kind : Kind) : Kind.ofName? kind.spelling = some kind := by
  cases kind <;> rfl

theorem field?_key (kind : Kind) (field : TextField) :
    kind.field? field.key = if field ∈ kind.required then some field.field else none := by
  cases kind <;> cases field <;> rfl

end Kind

/-- An entry. The items of a list stand next to each other. -/
structure EntryElement where
  kind : Kind
  attributes : List Occurrence
  before : List FieldElement
  items : List ItemElement
  after : List FieldElement
  listed : items ≠ [] → kind = .list

namespace EntryElement

def events (element : EntryElement) : List Event :=
  .start element.kind.spelling (element.attributes.map Occurrence.pair) ::
    (element.before.flatMap FieldElement.events ++ (element.items.flatMap ItemElement.events ++
      (element.after.flatMap FieldElement.events ++ [.close])))

def parts (element : EntryElement) : List Part :=
  element.attributes.map .field ++ ((element.before.map FieldElement.occurrence).map .field ++
    ((element.items.map ItemElement.given).map .item ++
      (element.after.map FieldElement.occurrence).map .field))

end EntryElement

/-- A child of the root. If it is no entry it does not matter what is in it. -/
inductive RootChild where
  | entry (element : EntryElement)
  | other (name : String) (attributes : List (String × String)) (content : List Event)
      (unknown : Kind.ofName? name = none)

namespace RootChild

def events : RootChild → List Event
  | .entry element => element.events
  | .other name attributes content _ => .start name attributes :: (content ++ [.close])

def outline : RootChild → Outline
  | .entry element => .entry element.kind element.parts
  | .other name _ _ _ => .other name

end RootChild

/-- The events of a document with the given children of its root, and an XML declaration if there is
one. -/
def documentEvents (declaration : Option (Option (List Char))) (name : String)
    (attributes : List (String × String)) (children : List RootChild) : List Event :=
  (declaration.map Event.declared).toList ++
    .start name attributes :: (children.flatMap RootChild.events ++ [.close])

/-- The fields after one more part. -/
def Fields.take (kind : Kind) (fields : Fields) : Part → Except DocumentFault Fields
  | .field given =>
      match fields.addAttribute kind given.pair with
      | .ok next => .ok { next with items := next.items.stop }
      | .error fault => .error fault
  | .item given =>
      match itemValue .none (given.map Occurrence.pair) with
      | .ok (some value) => .ok { fields with items := .running (value :: fields.items.values) }
      | .ok .none => .error (.missingField .value)
      | .error fault => .error fault

def Fields.takeAll (kind : Kind) (fields : Fields) : List Part → Except DocumentFault Fields
  | [] => .ok fields
  | part :: rest =>
      match fields.take kind part with
      | .ok next => next.takeAll kind rest
      | .error fault => .error fault

def entryOutcome (entries : List Definition) (kind : Kind) : Except DocumentFault Fields → Outcome
  | .ok fields => .more (.entry entries kind fields .children)
  | .error fault => .fault fault

section Building

variable {entries : List Definition} {kind : Kind} {fields : Fields}

theorem Fields.takeAll_append (parts more : List Part) :
    fields.takeAll kind (parts ++ more) = match fields.takeAll kind parts with
      | .ok next => next.takeAll kind more
      | .error fault => .error fault := by
  induction parts generalizing fields with
  | nil => rfl
  | cons part parts ih =>
      rw [List.cons_append, takeAll, takeAll]
      cases fields.take kind part with
      | ok next => exact ih
      | error fault => rfl

theorem addAttribute_pair (given : Occurrence) :
    fields.addAttribute kind given.pair =
      if given.1 ∈ kind.required then
        if fields.has given.1.field then .error (.repeatedField given.1.field)
        else .ok (fields.set given.1.field given.2)
      else .ok fields := by
  obtain ⟨field, text⟩ := given
  by_cases required : field ∈ kind.required
  · rw [if_pos required, Fields.addAttribute, Occurrence.pair, Kind.field?_key, if_pos required]
    cases field <;> rfl
  · rw [if_neg required, Fields.addAttribute, Occurrence.pair, Kind.field?_key, if_neg required]

/-- A child element gives its field as an attribute would. -/
theorem run_field (element : FieldElement) :
    (Builder.entry entries kind fields .children).run element.events =
      entryOutcome entries kind (fields.take kind (.field element.occurrence)) := by
  obtain ⟨field, attributes, text⟩ := element
  let stopped : Fields := { fields with items := fields.items.stop }
  have opened : (Builder.entry entries kind fields .children).step (.start field.key attributes) =
      Builder.child entries kind fields field.key attributes := rfl
  rw [FieldElement.occurrence, Fields.take, addAttribute_pair]
  by_cases required : field ∈ kind.required
  · have known : kind.field? field.key = some field.field := by
      rw [Kind.field?_key, if_pos required]
    rw [if_pos required]
    by_cases before : fields.has field.field = true
    · have refused : (Builder.entry entries kind fields .children).step
          (.start field.key attributes) = .fault (.repeatedField field.field) := by
        simp only [opened, Builder.child, known, before, if_true]
      rw [if_pos before]
      simp only [FieldElement.events, List.cons_append, Builder.run, refused, entryOutcome]
    · have begun : (Builder.entry entries kind fields .children).step
          (.start field.key attributes) = .more (.entry entries kind stopped
            (.field field.field none)) := by
        have isText : field.field ≠ .item := by cases field <;> decide
        simp only [opened, Builder.child, known, before, if_neg isText]
        rfl
      rw [if_neg before, FieldElement.events, List.cons_append, run_cons_of_more begun]
      cases text <;> cases field <;> rfl
  · have begun : (Builder.entry entries kind fields .children).step
        (.start field.key attributes) = .more (.entry entries kind stopped (.ignored 0)) := by
      simp only [opened, Builder.child, Kind.field?_key, if_neg required, stopped]
    rw [if_neg required, FieldElement.events, List.cons_append, run_cons_of_more begun]
    cases text <;> rfl

theorem run_fields (children : List FieldElement) :
    (Builder.entry entries kind fields .children).run (children.flatMap FieldElement.events) =
      entryOutcome entries kind
        (fields.takeAll kind ((children.map FieldElement.occurrence).map .field)) := by
  induction children generalizing fields with
  | nil => rfl
  | cons child children ih =>
      rw [List.flatMap_cons, Builder.run_append, run_field, List.map_cons, List.map_cons,
        Fields.takeAll]
      cases fields.take kind (.field child.occurrence) with
      | error fault => rfl
      | ok next => exact ih

theorem itemValue_append (value : Option String) (given more : List (String × String)) :
    itemValue value (given ++ more) = match itemValue value given with
      | .ok next => itemValue next more
      | .error fault => .error fault := by
  induction given generalizing value with
  | nil => rfl
  | cons one given ih =>
      rw [List.cons_append, itemValue, itemValue]
      split
      · exact ih value
      split
      · rfl
      · exact ih (some one.2)

def itemOutcome (entries : List Definition) (kind : Kind) (fields : Fields) :
    Except DocumentFault (Option String) → Outcome
  | .ok value => .more (.entry entries kind fields (.item value))
  | .error fault => .fault fault

theorem run_itemField (value : Option String) (element : FieldElement) :
    (Builder.entry entries kind fields (.item value)).run element.events =
      itemOutcome entries kind fields (itemValue value [element.occurrence.pair]) := by
  obtain ⟨field, attributes, text⟩ := element
  cases field with
  | name => cases text <;> rfl
  | value =>
      cases value with
      | none => cases text <;> rfl
      | some value => rfl

theorem run_itemFields (value : Option String) (children : List FieldElement) :
    (Builder.entry entries kind fields (.item value)).run (children.flatMap FieldElement.events) =
      itemOutcome entries kind fields
        (itemValue value (children.map fun child => child.occurrence.pair)) := by
  induction children generalizing value with
  | nil => rfl
  | cons child children ih =>
      have split := itemValue_append value [child.occurrence.pair]
        (children.map fun child => child.occurrence.pair)
      rw [List.singleton_append] at split
      rw [List.flatMap_cons, Builder.run_append, run_itemField, List.map_cons, split]
      cases itemValue value [child.occurrence.pair] with
      | ok next => exact ih next
      | error fault => rfl

theorem run_itemElement (ofList : kind = .list) (adjacent : fields.has .item = false)
    (element : ItemElement) :
    (Builder.entry entries kind fields .children).run element.events =
      entryOutcome entries kind (fields.take kind (.item element.given)) := by
  obtain ⟨attributes, children⟩ := element
  have isItem : kind.field? "item" = some .item := by
    rw [ofList]
    rfl
  have opened : (Builder.entry entries kind fields .children).step
      (.start "item" (attributes.map Occurrence.pair)) =
        itemOutcome entries kind fields (itemValue none (attributes.map Occurrence.pair)) := by
    change Builder.child entries kind fields "item" _ = _
    simp only [Builder.child, isItem, adjacent]
    rfl
  have given : itemValue none ((attributes ++ children.map FieldElement.occurrence).map
      Occurrence.pair) = match itemValue none (attributes.map Occurrence.pair) with
        | .ok value => itemValue value (children.map fun child => child.occurrence.pair)
        | .error fault => .error fault := by
    rw [List.map_append, List.map_map, itemValue_append]
    rfl
  rw [ItemElement.events, Builder.run, opened, ItemElement.given, Fields.take, given]
  cases itemValue none (attributes.map Occurrence.pair) with
  | error fault => rfl
  | ok value =>
      simp only [itemOutcome]
      rw [Builder.run_append, run_itemFields]
      cases itemValue value (children.map fun child => child.occurrence.pair) with
      | error fault => rfl
      | ok value => cases value <;> rfl

theorem items_of_addAttribute {given : Occurrence} {next : Fields}
    (added : fields.addAttribute kind given.pair = .ok next) : next.items = fields.items := by
  rw [addAttribute_pair] at added
  split at added
  · split at added
    · contradiction
    · rw [← Except.ok.inj added]
      cases given.1 <;> rfl
  · rw [← Except.ok.inj added]

/-- Before the first item there are none whose run could end. -/
theorem take_of_absent (absent : fields.items = .absent) (given : Occurrence) :
    fields.take kind (.field given) = fields.addAttribute kind given.pair := by
  rw [Fields.take]
  cases added : fields.addAttribute kind given.pair with
  | error fault => rfl
  | ok next =>
      obtain ⟨name, value, items⟩ := next
      obtain rfl : items = .absent := (items_of_addAttribute added).trans absent
      rfl

theorem absent_of_takeAll {next : Fields} {given : List Occurrence} (absent : fields.items = .absent)
    (taken : fields.takeAll kind (given.map .field) = .ok next) : next.items = .absent := by
  induction given generalizing fields with
  | nil => exact Except.ok.inj taken ▸ absent
  | cons one given ih =>
      rw [List.map_cons, Fields.takeAll, take_of_absent absent] at taken
      cases added : fields.addAttribute kind one.pair with
      | error fault => simp [added] at taken
      | ok after =>
          rw [added] at taken
          exact ih ((items_of_addAttribute added).trans absent) taken

theorem adjacent_of_take {next : Fields} {given : List Occurrence}
    (taken : fields.take kind (.item given) = .ok next) : next.has .item = false := by
  rw [Fields.take] at taken
  split at taken
  · rw [← Except.ok.inj taken]
    rfl
  · contradiction
  · contradiction

theorem run_itemElements (ofList : kind = .list) (adjacent : fields.has .item = false)
    (items : List ItemElement) :
    (Builder.entry entries kind fields .children).run (items.flatMap ItemElement.events) =
      entryOutcome entries kind (fields.takeAll kind ((items.map ItemElement.given).map .item)) := by
  induction items generalizing fields with
  | nil => rfl
  | cons item items ih =>
      rw [List.flatMap_cons, Builder.run_append, run_itemElement ofList adjacent, List.map_cons,
        List.map_cons, Fields.takeAll]
      cases taken : fields.take kind (.item item.given) with
      | error fault => rfl
      | ok next => exact ih (adjacent_of_take taken)

theorem ofAttributes_pairs (absent : fields.items = .absent) (given : List Occurrence) :
    fields.ofAttributes kind (given.map Occurrence.pair) =
      fields.takeAll kind (given.map .field) := by
  induction given generalizing fields with
  | nil => rfl
  | cons one given ih =>
      rw [List.map_cons, List.map_cons, Fields.ofAttributes, Fields.takeAll, take_of_absent absent]
      cases added : fields.addAttribute kind one.pair with
      | error fault => rfl
      | ok next => exact ih ((items_of_addAttribute added).trans absent)

/-- What comes of an entry with the fields and with more parts. -/
def Fields.result (kind : Kind) (fields : Fields) (parts : List Part) :
    Except DocumentFault Definition :=
  match fields.takeAll kind parts with
  | .ok last => last.definition kind
  | .error fault => .error fault

def rootOutcome (entries : List Definition) : Except DocumentFault Definition → Outcome
  | .ok definition => .more (.root (definition :: entries))
  | .error fault => .fault fault

theorem run_stage {builder : Builder} {parts more : List Part} {events rest : List Event}
    (first : builder.run events = entryOutcome entries kind (fields.takeAll kind parts))
    (second : ∀ next, fields.takeAll kind parts = .ok next →
      (Builder.entry entries kind next .children).run rest =
        rootOutcome entries (next.result kind more)) :
    builder.run (events ++ rest) = rootOutcome entries (fields.result kind (parts ++ more)) := by
  rw [Builder.run_append, first, Fields.result, Fields.takeAll_append]
  cases taken : fields.takeAll kind parts with
  | error fault => rfl
  | ok next => exact second next taken

theorem run_close : (Builder.entry entries kind fields .children).run [.close] =
    rootOutcome entries (fields.result kind []) := by
  have closed : (Builder.entry entries kind fields .children).step .close =
      rootOutcome entries (fields.definition kind) := by
    change (match fields.definition kind with
      | .ok definition => Outcome.more (.root (definition :: entries))
      | .error fault => .fault fault) = _
    cases fields.definition kind <;> rfl
  have nothing : fields.result kind [] = fields.definition kind := rfl
  rw [Builder.run, closed, nothing]
  cases fields.definition kind <;> rfl

/-- The builder takes from an entry the parts of its outline, one after the other. -/
theorem run_entryElement (element : EntryElement) :
    (Builder.root entries).run element.events =
      rootOutcome entries (Fields.none.result element.kind element.parts) := by
  obtain ⟨kind, attributes, before, items, after, listed⟩ := element
  have opened : (Builder.root entries).run
      [.start kind.spelling (attributes.map Occurrence.pair)] =
        entryOutcome entries kind (Fields.none.takeAll kind (attributes.map .field)) := by
    have begun : (Builder.root entries).step
        (.start kind.spelling (attributes.map Occurrence.pair)) =
          entryOutcome entries kind (Fields.none.takeAll kind (attributes.map .field)) := by
      change Builder.begin entries kind.spelling _ = _
      rw [← ofAttributes_pairs rfl, Builder.begin, Kind.ofName?_spelling]
      rfl
    rw [Builder.run, begun]
    cases Fields.none.takeAll kind (attributes.map .field) <;> rfl
  rw [EntryElement.events, ← List.singleton_append, EntryElement.parts]
  refine run_stage opened fun fields taken => ?_
  have absent : fields.items = .absent := absent_of_takeAll rfl taken
  refine run_stage (run_fields before) fun fields taken => ?_
  have absent : fields.items = .absent := absent_of_takeAll absent taken
  have itself : (Builder.entry entries kind fields .children).run
      (items.flatMap ItemElement.events) = entryOutcome entries kind
        (fields.takeAll kind ((items.map ItemElement.given).map .item)) := by
    cases items with
    | nil => rfl
    | cons item items =>
        have adjacent : fields.has .item = false := by simp [Fields.has, absent]
        exact run_itemElements (listed (List.cons_ne_nil _ _)) adjacent (item :: items)
  refine run_stage itself fun fields _ => ?_
  rw [← List.append_nil ((after.map FieldElement.occurrence).map Part.field)]
  exact run_stage (run_fields after) fun fields _ => run_close

end Building

end IdRegistry.Document
