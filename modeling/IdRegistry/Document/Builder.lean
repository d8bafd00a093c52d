import IdRegistry.Definition
import IdRegistry.Failure
import IdRegistry.Markup.Event

namespace IdRegistry.Document

open Markup (Event)

/-! Events are judged one by one, so the first fault of a document is the one that is reported: a field
that is given again as soon as it begins, a field that is missing when its element ends.
-/

inductive Kind where
  | constant
  | list
  | helper
deriving DecidableEq, Repr

def Kind.ofName? (name : String) : Option Kind :=
  if name = "constant" then some .constant
  else if name = "list" then some .list
  else if name = "helper" then some .helper
  else none

def Kind.field? (kind : Kind) (name : String) : Option Field :=
  if name = "name" then some .name
  else if kind = .constant ∧ name = "value" then some .value
  else if kind = .list ∧ name = "item" then some .item
  else none

/-- The items of a list so far, newest first. They form a single run of neighbours. -/
inductive Items where
  | absent
  | running (values : List String)
  | ended (values : List String)
deriving DecidableEq, Repr

namespace Items

def stop : Items → Items
  | .running values => .ended values
  | items => items

def values : Items → List String
  | .absent => []
  | .running values => values
  | .ended values => values

end Items

structure Fields where
  name : Option String
  value : Option String
  items : Items
deriving DecidableEq, Repr

namespace Fields

def none : Fields := ⟨Option.none, Option.none, .absent⟩

/-- Whether a field has been given. Items are given again only after their run. -/
def has (fields : Fields) : Field → Bool
  | .name => fields.name.isSome
  | .value => fields.value.isSome
  | .item => match fields.items with
    | .ended _ => true
    | _ => false

def set (fields : Fields) (field : Field) (text : String) : Fields :=
  match field with
  | .name => { fields with name := some text }
  | .value => { fields with value := some text }
  | .item => fields

def addAttribute (kind : Kind) (fields : Fields) (given : String × String) :
    Except DocumentFault Fields :=
  match kind.field? given.1 with
  | Option.none => .ok fields
  | some .item => .error (.textForItems given.2)
  | some field =>
      if fields.has field then .error (.repeatedField field)
      else .ok (fields.set field given.2)

def ofAttributes (kind : Kind) (fields : Fields) :
    List (String × String) → Except DocumentFault Fields
  | [] => .ok fields
  | given :: rest =>
      match fields.addAttribute kind given with
      | .ok fields => ofAttributes kind fields rest
      | .error fault => .error fault

def definition (kind : Kind) (fields : Fields) : Except DocumentFault Definition :=
  match fields.name with
  | Option.none => .error (.missingField .name)
  | some name =>
      match kind with
      | .constant =>
          match fields.value with
          | Option.none => .error (.missingField .value)
          | some value => .ok (.constant name value)
      | .list => .ok (.list name fields.items.values.reverse)
      | .helper => .ok (.helper name)

end Fields

def itemValue (value : Option String) :
    List (String × String) → Except DocumentFault (Option String)
  | [] => .ok value
  | given :: rest =>
      if given.1 ≠ "value" then itemValue value rest
      else if value.isSome then .error (.repeatedField .value)
      else itemValue (some given.2) rest

inductive Place where
  | children
  | field (field : Field) (text : Option String)
  /-- In a child without a meaning, so many elements deep. -/
  | ignored (depth : Nat)
  | item (value : Option String)
  | itemField (text : Option String)
  | itemIgnored (value : Option String) (depth : Nat)
deriving DecidableEq, Repr

inductive Builder where
  | beforeRoot
  | root (entries : List Definition)
  | entry (entries : List Definition) (kind : Kind) (fields : Fields) (place : Place)
deriving DecidableEq, Repr

inductive Outcome where
  | more (builder : Builder)
  | complete (entries : List Definition)
  | fault (fault : DocumentFault)
deriving DecidableEq, Repr

namespace Builder

def begin (entries : List Definition) (name : String) (attributes : List (String × String)) :
    Outcome :=
  match Kind.ofName? name with
  | none => .fault (.unknownEntry name)
  | some kind =>
      match Fields.none.ofAttributes kind attributes with
      | .ok fields => .more (.entry entries kind fields .children)
      | .error fault => .fault fault

/-- An event directly inside the root element. Text there is taken for an entry. -/
def stepRoot (entries : List Definition) : Event → Outcome
  | .start name attributes => begin entries name attributes
  | .text content =>
      match Kind.ofName? content with
      | some _ => .fault .malformed
      | none => .fault (.unknownEntry content)
  | .close => .complete entries.reverse
  | .declared _ => .more (.root entries)

def child (entries : List Definition) (kind : Kind) (fields : Fields) (name : String)
    (attributes : List (String × String)) : Outcome :=
  match kind.field? name with
  | none => .more (.entry entries kind { fields with items := fields.items.stop } (.ignored 0))
  | some field =>
      if fields.has field then .fault (.repeatedField field)
      else if field = .item then
        match itemValue none attributes with
        | .ok value => .more (.entry entries kind fields (.item value))
        | .error fault => .fault fault
      else
        .more (.entry entries kind { fields with items := fields.items.stop } (.field field none))

def stepEntry (entries : List Definition) (kind : Kind) (fields : Fields) (place : Place)
    (event : Event) : Outcome :=
  let go := fun fields place => Outcome.more (.entry entries kind fields place)
  match place, event with
  | _, .declared _ => go fields place
  | .children, .start name attributes => child entries kind fields name attributes
  | .children, .text _ => go { fields with items := fields.items.stop } .children
  | .children, .close =>
      match fields.definition kind with
      | .ok definition => .more (.root (definition :: entries))
      | .error fault => .fault fault
  | .field _ _, .start _ _ => .fault .malformed
  | .field field none, .text content => go fields (.field field (some content))
  | .field _ (some _), .text _ => .fault .malformed
  | .field field text, .close => go (fields.set field (text.getD "")) .children
  | .ignored depth, .start _ _ => go fields (.ignored (depth + 1))
  | .ignored depth, .text _ => go fields (.ignored depth)
  | .ignored 0, .close => go fields .children
  | .ignored (depth + 1), .close => go fields (.ignored depth)
  | .item value, .start name _ =>
      if name ≠ "value" then go fields (.itemIgnored value 0)
      else if value.isSome then .fault (.repeatedField .value)
      else go fields (.itemField none)
  | .item value, .text _ => go fields (.item value)
  | .item none, .close => .fault (.missingField .value)
  | .item (some value), .close =>
      go { fields with items := .running (value :: fields.items.values) } .children
  | .itemField _, .start _ _ => .fault .malformed
  | .itemField none, .text content => go fields (.itemField (some content))
  | .itemField (some _), .text _ => .fault .malformed
  | .itemField text, .close => go fields (.item (some (text.getD "")))
  | .itemIgnored value depth, .start _ _ => go fields (.itemIgnored value (depth + 1))
  | .itemIgnored value depth, .text _ => go fields (.itemIgnored value depth)
  | .itemIgnored value 0, .close => go fields (.item value)
  | .itemIgnored value (depth + 1), .close => go fields (.itemIgnored value depth)

/-- Take one event. Before the root element nothing but its start is possible, and its name and
attributes do not matter. -/
def step (builder : Builder) (event : Event) : Outcome :=
  match builder with
  | .beforeRoot =>
      match event with
      | .start _ _ => .more (.root [])
      | _ => .more .beforeRoot
  | .root entries => stepRoot entries event
  | .entry entries kind fields place => stepEntry entries kind fields place event

end Builder

end IdRegistry.Document
