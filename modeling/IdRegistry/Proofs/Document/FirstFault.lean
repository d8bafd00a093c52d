import IdRegistry.Proofs.Document.Outline
import IdRegistry.Proofs.Document.Written
import Mathlib.Data.List.Forall2

namespace IdRegistry.Document

open Markup (Event Node plainTag)

/-! `Outline.Gives` and `FirstFault` say what a document comes to without following the builder. No outline
has both and each has one of them (`gives_or_fault`), so they decide what is read.
-/

/-- The texts that are given for a field, in order. -/
def texts (field : TextField) (given : List Occurrence) : List String :=
  (given.filter fun one => one.1 = field).map Prod.snd

def Part.given? : Part → Option Occurrence
  | .field given => some given
  | .item _ => none

def Part.item? : Part → Option (List Occurrence)
  | .field _ => none
  | .item given => some given

/-- The texts that an entry gives for a field. -/
def textsOf (field : TextField) (parts : List Part) : List String :=
  texts field (parts.filterMap Part.given?)

/-- The values of each item of an entry. -/
def itemTexts (parts : List Part) : List (List String) :=
  (parts.filterMap Part.item?).map (texts .value)

/-- Every required field is given once, and every item has one value. -/
def Outline.Accepted : Outline → Prop
  | .entry kind parts =>
      (∀ field ∈ kind.required, (textsOf field parts).length = 1) ∧
        ∀ values ∈ itemTexts parts, values.length = 1
  | .other _ => False

/-- The definition that an entry gives. -/
inductive Outline.Gives : Outline → Definition → Prop where
  | constant {parts : List Part} {name value : String} (named : textsOf .name parts = [name])
      (valued : textsOf .value parts = [value]) (bare : itemTexts parts = []) :
      Gives (.entry .constant parts) (.constant name value)
  | list {parts : List Part} {name : String} {items : List String}
      (named : textsOf .name parts = [name])
      (listed : itemTexts parts = items.map fun item => [item]) :
      Gives (.entry .list parts) (.list name items)
  | helper {parts : List Part} {name : String} (named : textsOf .name parts = [name])
      (bare : itemTexts parts = []) : Gives (.entry .helper parts) (.helper name)

/-- Nothing is wrong with the parts so far. -/
structure Clean (kind : Kind) (parts : List Part) : Prop where
  once : ∀ field ∈ kind.required, (textsOf field parts).length ≤ 1
  items : ∀ values ∈ itemTexts parts, values.length = 1

/-- The fault of a part that follows others. -/
inductive PartFault (kind : Kind) (before : List Part) : Part → DocumentFault → Prop where
  | repeated {field : TextField} {text : String} (required : field ∈ kind.required)
      (earlier : textsOf field before ≠ []) :
      PartFault kind before (.field (field, text)) (.repeatedField field.field)
  | valueless {given : List Occurrence} (missing : texts .value given = []) :
      PartFault kind before (.item given) (.missingField .value)
  | valued {given : List Occurrence} (repeated : 2 ≤ (texts .value given).length) :
      PartFault kind before (.item given) (.repeatedField .value)

/-- The first fault of an entry. What is missing is found at its end, and the name before the value. -/
inductive EntryFault (kind : Kind) (parts : List Part) : DocumentFault → Prop where
  | part {before after : List Part} {part : Part} {fault : DocumentFault}
      (split : parts = before ++ part :: after) (clean : Clean kind before)
      (found : PartFault kind before part fault) : EntryFault kind parts fault
  | nameless (clean : Clean kind parts) (missing : textsOf .name parts = []) :
      EntryFault kind parts (.missingField .name)
  | valueless (clean : Clean kind parts) (named : textsOf .name parts ≠ [])
      (required : .value ∈ kind.required) (missing : textsOf .value parts = []) :
      EntryFault kind parts (.missingField .value)

inductive Outline.Fault : Outline → DocumentFault → Prop where
  | entry {kind : Kind} {parts : List Part} {fault : DocumentFault}
      (found : EntryFault kind parts fault) : Fault (.entry kind parts) fault
  | other {name : String} : Fault (.other name) (.unknownEntry name)

/-- The fault that comes first in a document. -/
def FirstFault (outlines : List Outline) (fault : DocumentFault) : Prop :=
  ∃ before outline after, outlines = before ++ outline :: after ∧
    (∀ other ∈ before, other.Accepted) ∧ outline.Fault fault

section Parts

variable {kind : Kind} {parts : List Part} {fields : Fields} {field : TextField}

theorem texts_append (field : TextField) (given more : List Occurrence) :
    texts field (given ++ more) = texts field given ++ texts field more := by
  rw [texts, List.filter_append, List.map_append]
  rfl

theorem textsOf_append (field : TextField) (parts more : List Part) :
    textsOf field (parts ++ more) = textsOf field parts ++ textsOf field more := by
  rw [textsOf, List.filterMap_append, texts_append]
  rfl

theorem itemTexts_append (parts more : List Part) :
    itemTexts (parts ++ more) = itemTexts parts ++ itemTexts more := by
  rw [itemTexts, List.filterMap_append, List.map_append]
  rfl

theorem textsOf_field (field : TextField) (given : Occurrence) :
    textsOf field [.field given] = if given.1 = field then [given.2] else [] := by
  by_cases same : given.1 = field <;> simp [textsOf, texts, Part.given?, same]

theorem textsOf_item (field : TextField) (given : List Occurrence) :
    textsOf field [.item given] = [] := rfl

theorem itemTexts_field (given : Occurrence) : itemTexts [.field given] = [] := rfl

theorem itemTexts_item (given : List Occurrence) :
    itemTexts [.item given] = [texts .value given] := rfl

/-- The values of an item decide what its own fields come to. -/
theorem itemValue_pairs (value : Option String) (given : List Occurrence) :
    itemValue value (given.map Occurrence.pair) = match value.toList ++ texts .value given with
      | [] => .ok none
      | [value] => .ok (some value)
      | _ :: _ :: _ => .error (.repeatedField .value) := by
  induction given generalizing value with
  | nil => cases value <;> rfl
  | cons one given ih =>
      obtain ⟨field, text⟩ := one
      rw [List.map_cons, itemValue]
      cases field with
      | name => exact ih value
      | value =>
          cases value with
          | none => exact ih (some text)
          | some value => rfl

def Fields.text (fields : Fields) : TextField → Option String
  | .name => fields.name
  | .value => fields.value

/-- The fields hold what clean parts have given. -/
structure Tracks (kind : Kind) (parts : List Part) (fields : Fields) : Prop where
  clean : Clean kind parts
  held : ∀ field ∈ kind.required, (fields.text field).toList = textsOf field parts
  items : itemTexts parts = fields.items.values.reverse.map fun value => [value]

theorem tracks_none : Tracks kind [] Fields.none where
  clean := ⟨fun _ _ => Nat.zero_le 1, nofun⟩
  held := fun field _ => by cases field <;> rfl
  items := rfl

theorem Clean.append_left {more : List Part} (clean : Clean kind (parts ++ more)) :
    Clean kind parts where
  once := fun field required => by
    have once := clean.once field required
    rw [textsOf_append, List.length_append] at once
    omega
  items := fun values member => by
    refine clean.items values ?_
    rw [itemTexts_append]
    exact List.mem_append_left _ member

theorem has_field (fields : Fields) (field : TextField) :
    fields.has field.field = (fields.text field).isSome := by
  cases field <;> rfl

theorem text_set (fields : Fields) (field other : TextField) (text : String) :
    (fields.set field.field text).text other = if field = other then some text
      else fields.text other := by
  cases field <;> cases other <;> rfl

theorem items_set (fields : Fields) (field : TextField) (text : String) :
    (fields.set field.field text).items = fields.items := by
  cases field <;> rfl

theorem text_stop (fields : Fields) (field : TextField) :
    { fields with items := fields.items.stop }.text field = fields.text field := by
  cases field <;> rfl

theorem values_stop (items : Items) : items.stop.values = items.values := by
  cases items <;> rfl

theorem Tracks.take_field (tracks : Tracks kind parts fields) {given : Occurrence}
    (clean : Clean kind (parts ++ [.field given])) :
    ∃ next, fields.take kind (.field given) = .ok next ∧
      Tracks kind (parts ++ [.field given]) next := by
  obtain ⟨field, text⟩ := given
  have items (next : Fields) (same : next.items = fields.items) :
      itemTexts (parts ++ [.field (field, text)]) =
        next.items.stop.values.reverse.map fun value => [value] := by
    rw [itemTexts_append, itemTexts_field, List.append_nil, values_stop, same, tracks.items]
  rw [Fields.take, addAttribute_pair]
  by_cases required : field ∈ kind.required
  · have first : textsOf field parts = [] := by
      have once := clean.once field required
      rw [textsOf_append, textsOf_field, if_pos rfl, List.length_append] at once
      exact List.eq_nil_of_length_eq_zero (by simpa using once)
    have absent : fields.text field = none := by
      have same := tracks.held field required
      rw [first] at same
      simpa using same
    have fresh : ¬ fields.has field.field = true := by simp [has_field, absent]
    rw [if_pos required, if_neg fresh]
    refine ⟨_, rfl, clean, fun other isRequired => ?_, items _ (items_set fields field text)⟩
    rw [text_stop, text_set, textsOf_append, textsOf_field]
    by_cases same : field = other
    · subst same
      simp [first]
    · simp [same, tracks.held other isRequired]
  · rw [if_neg required]
    refine ⟨_, rfl, clean, fun other isRequired => ?_, items _ rfl⟩
    have differs : field ≠ other := fun same => required (same ▸ isRequired)
    rw [text_stop, textsOf_append, textsOf_field, if_neg differs, List.append_nil]
    exact tracks.held other isRequired

theorem Tracks.take_item (tracks : Tracks kind parts fields) {given : List Occurrence}
    (clean : Clean kind (parts ++ [.item given])) :
    ∃ next, fields.take kind (.item given) = .ok next ∧
      Tracks kind (parts ++ [.item given]) next := by
  have only : (texts .value given).length = 1 := by
    refine clean.items _ ?_
    rw [itemTexts_append, itemTexts_item]
    exact List.mem_append_right _ List.mem_cons_self
  obtain ⟨value, only⟩ := List.length_eq_one_iff.mp only
  have valued : itemValue none (given.map Occurrence.pair) = .ok (some value) := by
    rw [itemValue_pairs, only]
    rfl
  refine ⟨{ fields with items := .running (value :: fields.items.values) }, ?_, clean,
    fun other isRequired => ?_, ?_⟩
  · rw [Fields.take, valued]
  · rw [textsOf_append, textsOf_item, List.append_nil]
    exact tracks.held other isRequired
  · rw [itemTexts_append, itemTexts_item, only, tracks.items]
    simp [Items.values]

/-- A part that can follow the parts before it is taken. -/
theorem Tracks.take_of_clean (tracks : Tracks kind parts fields) {part : Part}
    (clean : Clean kind (parts ++ [part])) :
    ∃ next, fields.take kind part = .ok next ∧ Tracks kind (parts ++ [part]) next := by
  cases part with
  | field given => exact tracks.take_field clean
  | item given => exact tracks.take_item clean

theorem Tracks.take_of_fault (tracks : Tracks kind parts fields) {part : Part} {fault : DocumentFault}
    (found : PartFault kind parts part fault) : fields.take kind part = .error fault := by
  cases found with
  | @repeated field text required earlier =>
      have given : fields.has field.field = true := by
        rw [← tracks.held field required] at earlier
        rw [has_field]
        cases given : fields.text field with
        | none => simp [given] at earlier
        | some text => rfl
      rw [Fields.take, addAttribute_pair, if_pos required, if_pos given]
  | valueless missing =>
      rw [Fields.take, itemValue_pairs, missing]
      rfl
  | @valued given repeated =>
      rw [Fields.take, itemValue_pairs]
      cases values : texts .value given with
      | nil => simp [values] at repeated
      | cons first rest =>
          cases rest with
          | nil => simp [values] at repeated
          | cons second rest => rfl

theorem takeAll_of_clean (clean : Clean kind parts) :
    ∃ fields, Fields.none.takeAll kind parts = .ok fields ∧ Tracks kind parts fields := by
  induction parts using List.reverseRecOn with
  | nil => exact ⟨Fields.none, rfl, tracks_none⟩
  | append_singleton parts part ih =>
      obtain ⟨fields, taken, tracks⟩ := ih clean.append_left
      obtain ⟨next, taken', tracks'⟩ := tracks.take_of_clean clean
      refine ⟨next, ?_, tracks'⟩
      rw [Fields.takeAll_append, taken]
      simp only [Fields.takeAll, taken']

theorem Clean.append_or_fault (clean : Clean kind parts) (part : Part) :
    Clean kind (parts ++ [part]) ∨ ∃ fault, PartFault kind parts part fault := by
  cases part with
  | field given =>
      obtain ⟨field, text⟩ := given
      by_cases repeated : field ∈ kind.required ∧ textsOf field parts ≠ []
      · exact .inr ⟨_, .repeated repeated.1 repeated.2⟩
      refine .inl ⟨fun other required => ?_, fun values member => ?_⟩
      · rw [textsOf_append, textsOf_field]
        by_cases same : field = other
        · subst same
          have first : textsOf field parts = [] :=
            not_not.mp fun earlier => repeated ⟨required, earlier⟩
          simp [first]
        · rw [if_neg same, List.append_nil]
          exact clean.once other required
      · rw [itemTexts_append, itemTexts_field, List.append_nil] at member
        exact clean.items values member
  | item given =>
      have once (field : TextField) (required : field ∈ kind.required) :
          (textsOf field (parts ++ [.item given])).length ≤ 1 := by
        rw [textsOf_append, textsOf_item, List.append_nil]
        exact clean.once field required
      cases values : texts .value given with
      | nil => exact .inr ⟨_, .valueless values⟩
      | cons first rest =>
          cases rest with
          | nil =>
              refine .inl ⟨once, fun others member => ?_⟩
              rw [itemTexts_append, itemTexts_item] at member
              rcases List.mem_append.mp member with earlier | last
              · exact clean.items others earlier
              · obtain rfl := List.mem_singleton.mp last
                rw [values]
                rfl
          | cons second rest => exact .inr ⟨_, .valued (by simp [values])⟩

/-- Parts are clean up to the first that cannot follow those before it. -/
theorem clean_or_fault (kind : Kind) (parts : List Part) :
    Clean kind parts ∨ ∃ before part after fault, parts = before ++ part :: after ∧
      Clean kind before ∧ PartFault kind before part fault := by
  induction parts using List.reverseRecOn with
  | nil => exact .inl tracks_none.clean
  | append_singleton parts part ih =>
      rcases ih with clean | ⟨before, first, after, fault, split, clean, found⟩
      · rcases clean.append_or_fault part with clean | ⟨fault, found⟩
        · exact .inl clean
        · exact .inr ⟨parts, part, [], fault, rfl, clean, found⟩
      · refine .inr ⟨before, first, after ++ [part], fault, ?_, clean, found⟩
        rw [split, List.append_assoc, List.cons_append]

theorem result_of_clean (clean : Clean kind parts) : ∃ fields, Tracks kind parts fields ∧
    Fields.none.result kind parts = fields.definition kind := by
  obtain ⟨fields, taken, tracks⟩ := takeAll_of_clean clean
  refine ⟨fields, tracks, ?_⟩
  rw [Fields.result, taken]

theorem Tracks.text (tracks : Tracks kind parts fields) (required : field ∈ kind.required) :
    fields.text field = (textsOf field parts).head? := by
  rw [← tracks.held field required]
  cases fields.text field <;> rfl

theorem Kind.name_required (kind : Kind) : .name ∈ kind.required := by
  cases kind <;> decide

theorem Outline.Accepted.clean (accepted : (Outline.entry kind parts).Accepted) :
    Clean kind parts :=
  ⟨fun field required => Nat.le_of_eq (accepted.1 field required), accepted.2⟩

theorem Outline.Gives.accepted {outline : Outline} {definition : Definition}
    (gives : outline.Gives definition) : outline.Accepted := by
  cases gives with
  | constant named valued bare =>
      refine ⟨fun field _ => ?_, by rw [bare]; exact List.forall_mem_nil _⟩
      cases field with
      | name => rw [named]; rfl
      | value => rw [valued]; rfl
  | list named listed =>
      refine ⟨fun field required => ?_, by rw [listed]; simp⟩
      obtain rfl := List.mem_singleton.mp required
      rw [named]
      rfl
  | helper named bare =>
      refine ⟨fun field required => ?_, by rw [bare]; exact List.forall_mem_nil _⟩
      obtain rfl := List.mem_singleton.mp required
      rw [named]
      rfl

theorem result_of_gives {definition : Definition}
    (gives : (Outline.entry kind parts).Gives definition) :
    Fields.none.result kind parts = .ok definition := by
  obtain ⟨fields, tracks, result⟩ := result_of_clean gives.accepted.clean
  have name := tracks.text kind.name_required
  rw [result, Fields.definition]
  cases gives with
  | constant named valued bare =>
      have value := @Tracks.text _ _ _ .value tracks (by decide)
      rw [named] at name
      rw [valued] at value
      change fields.name = _ at name
      change fields.value = _ at value
      rw [name, value]
      rfl
  | @list parts name' items named listed =>
      have items : fields.items.values.reverse = items := by
        have single : Function.Injective fun value : String => [value] :=
          fun _ _ same => (List.cons.inj same).1
        exact List.map_injective_iff.mpr single (tracks.items.symm.trans listed)
      rw [named] at name
      change fields.name = _ at name
      rw [name, ← items]
      rfl
  | helper named bare =>
      rw [named] at name
      change fields.name = _ at name
      rw [name]
      rfl

theorem result_of_fault {fault : DocumentFault} (found : EntryFault kind parts fault) :
    Fields.none.result kind parts = .error fault := by
  cases found with
  | part split clean found =>
      obtain ⟨fields, taken, tracks⟩ := takeAll_of_clean clean
      rw [Fields.result, split, Fields.takeAll_append, taken]
      simp only [Fields.takeAll, tracks.take_of_fault found]
  | nameless clean missing =>
      obtain ⟨fields, tracks, result⟩ := result_of_clean clean
      have name := tracks.text kind.name_required
      rw [missing] at name
      change fields.name = _ at name
      rw [result, Fields.definition, name]
      rfl
  | valueless clean named required missing =>
      obtain ⟨fields, tracks, result⟩ := result_of_clean clean
      have name := tracks.text kind.name_required
      have value := tracks.text required
      obtain ⟨first, rest, given⟩ := List.exists_cons_of_ne_nil named
      rw [given] at name
      rw [missing] at value
      change fields.name = _ at name
      change fields.value = _ at value
      rw [result, Fields.definition, name, value]
      cases kind with
      | constant => rfl
      | list => contradiction
      | helper => contradiction

theorem Clean.exists_items (clean : Clean kind parts) :
    ∃ items : List String, itemTexts parts = items.map fun item => [item] := by
  have each (all : List (List String)) (only : ∀ values ∈ all, values.length = 1) :
      ∃ items : List String, all = items.map fun item => [item] := by
    induction all with
    | nil => exact ⟨[], rfl⟩
    | cons values all ih =>
        obtain ⟨first, others⟩ := List.forall_mem_cons.mp only
        obtain ⟨item, rfl⟩ := List.length_eq_one_iff.mp first
        obtain ⟨items, rfl⟩ := ih others
        exact ⟨item :: items, rfl⟩
  exact each _ clean.items

theorem Clean.empty_or_single (clean : Clean kind parts) (required : field ∈ kind.required) :
    textsOf field parts = [] ∨ ∃ text, textsOf field parts = [text] := by
  have once := clean.once field required
  rcases Nat.le_one_iff_eq_zero_or_eq_one.mp once with none | one
  · exact .inl (List.eq_nil_of_length_eq_zero none)
  · exact .inr (List.length_eq_one_iff.mp one)

theorem gives_or_fault (listed : itemTexts parts ≠ [] → kind = .list) :
    (∃ definition, (Outline.entry kind parts).Gives definition) ∨
      ∃ fault, EntryFault kind parts fault := by
  rcases clean_or_fault kind parts with clean | ⟨before, part, after, fault, split, clean, found⟩
  · rcases clean.empty_or_single kind.name_required with missing | ⟨name, named⟩
    · exact .inr ⟨_, .nameless clean missing⟩
    cases kind with
    | constant =>
        have bare : itemTexts parts = [] := not_not.mp fun items => by simpa using listed items
        rcases @Clean.empty_or_single _ _ .value clean (by decide) with missing | ⟨value, valued⟩
        · exact .inr ⟨_, .valueless clean (by simp [named]) (by decide) missing⟩
        · exact .inl ⟨_, .constant named valued bare⟩
    | list =>
        obtain ⟨items, all⟩ := clean.exists_items
        exact .inl ⟨_, .list named all⟩
    | helper =>
        have bare : itemTexts parts = [] := not_not.mp fun items => by simpa using listed items
        exact .inl ⟨_, .helper named bare⟩
  · exact .inr ⟨fault, .part split clean found⟩

theorem Outline.Accepted.not_fault {outline : Outline} {fault : DocumentFault}
    (accepted : outline.Accepted) (found : outline.Fault fault) : False := by
  cases found with
  | other => exact accepted
  | entry found =>
      cases found with
      | @part before after part fault split clean found =>
          have longer := accepted.clean
          rw [split, ← List.singleton_append, ← List.append_assoc] at longer
          obtain ⟨fields, -, tracks⟩ := takeAll_of_clean clean
          obtain ⟨next, taken, -⟩ := tracks.take_of_clean longer.append_left
          rw [tracks.take_of_fault found] at taken
          contradiction
      | nameless clean missing =>
          have once := accepted.1 .name (Kind.name_required _)
          simp [missing] at once
      | valueless clean named required missing =>
          have once := accepted.1 .value required
          simp [missing] at once

end Parts

theorem itemTexts_fields (given : List Occurrence) : itemTexts (given.map .field) = [] := by
  induction given with
  | nil => rfl
  | cons one given ih => exact ih

theorem EntryElement.listed_parts (element : EntryElement) (items : itemTexts element.parts ≠ []) :
    element.kind = .list := by
  refine element.listed fun none => items ?_
  simp only [EntryElement.parts, itemTexts_append, itemTexts_fields, none]
  rfl

section Children

variable {entries : List Definition} {children : List RootChild}

/-- Each child of the root gives a definition or has a fault, and the builder finds which. -/
theorem run_child_of_gives {child : RootChild} {definition : Definition}
    (gives : child.outline.Gives definition) :
    (Builder.root entries).run child.events = .more (.root (definition :: entries)) := by
  cases child with
  | entry element =>
      rw [RootChild.events, run_entryElement, result_of_gives gives]
      rfl
  | other name attributes content unknown => nomatch gives

theorem run_child_of_fault {child : RootChild} {fault : DocumentFault} (more : List Event)
    (found : child.outline.Fault fault) :
    (Builder.root entries).run (child.events ++ more) = .fault fault := by
  cases child with
  | entry element =>
      cases found with
      | entry found =>
          rw [RootChild.events, Builder.run_append, run_entryElement, result_of_fault found]
          rfl
  | other name attributes content unknown =>
      cases found with
      | other =>
          have refused : (Builder.root entries).step (.start name attributes) =
              .fault (.unknownEntry name) := by
            change Builder.begin entries name attributes = _
            rw [Builder.begin, unknown]
          rw [RootChild.events, List.cons_append, Builder.run, refused]

theorem child_gives_or_fault (child : RootChild) :
    (∃ definition, child.outline.Gives definition) ∨ ∃ fault, child.outline.Fault fault := by
  cases child with
  | entry element =>
      exact (gives_or_fault element.listed_parts).imp_right fun ⟨fault, found⟩ => ⟨fault, .entry found⟩
  | other name attributes content unknown => exact .inr ⟨_, .other⟩

theorem accepted_iff_gives (child : RootChild) :
    child.outline.Accepted ↔ ∃ definition, child.outline.Gives definition := by
  constructor
  · intro accepted
    rcases child_gives_or_fault child with gives | ⟨fault, found⟩
    · exact gives
    · exact (accepted.not_fault found).elim
  · rintro ⟨definition, gives⟩
    exact gives.accepted

theorem run_children {definitions : List Definition}
    (gives : List.Forall₂ Outline.Gives (children.map RootChild.outline) definitions) :
    (Builder.root entries).run (children.flatMap RootChild.events) =
      .more (.root (definitions.reverse ++ entries)) := by
  induction children generalizing entries definitions with
  | nil =>
      obtain rfl := List.forall₂_nil_left_iff.mp gives
      rfl
  | cons child children ih =>
      obtain ⟨definition, rest, first, later, rfl⟩ := List.forall₂_cons_left_iff.mp gives
      rw [List.flatMap_cons, Builder.run_append_of_more (run_child_of_gives first), ih later,
        List.reverse_cons, List.append_assoc]
      rfl

theorem accepted_of_gives {outlines : List Outline} {definitions : List Definition}
    (gives : List.Forall₂ Outline.Gives outlines definitions) :
    ∀ outline ∈ outlines, outline.Accepted := by
  induction gives with
  | nil => exact List.forall_mem_nil _
  | cons first _ ih => exact List.forall_mem_cons.mpr ⟨first.accepted, ih⟩

theorem exists_gives (accepted : ∀ child ∈ children, child.outline.Accepted) :
    ∃ definitions, List.Forall₂ Outline.Gives (children.map RootChild.outline) definitions := by
  induction children with
  | nil => exact ⟨[], .nil⟩
  | cons child children ih =>
      obtain ⟨first, later⟩ := List.forall_mem_cons.mp accepted
      obtain ⟨definition, gives⟩ := (accepted_iff_gives child).mp first
      obtain ⟨definitions, all⟩ := ih later
      exact ⟨definition :: definitions, .cons gives all⟩

/-- A document gives its definitions, or it has a first fault. -/
theorem gives_or_firstFault (children : List RootChild) :
    (∃ definitions, List.Forall₂ Outline.Gives (children.map RootChild.outline) definitions) ∨
      ∃ fault, FirstFault (children.map RootChild.outline) fault := by
  induction children with
  | nil => exact .inl ⟨[], .nil⟩
  | cons child children ih =>
      rcases child_gives_or_fault child with ⟨definition, gives⟩ | ⟨fault, found⟩
      · rcases ih with ⟨definitions, all⟩ | ⟨fault, before, outline, after, split, accepted, found⟩
        · exact .inl ⟨definition :: definitions, .cons gives all⟩
        · refine .inr ⟨fault, child.outline :: before, outline, after, ?_, ?_, found⟩
          · rw [List.map_cons, split, List.cons_append]
          · exact List.forall_mem_cons.mpr ⟨gives.accepted, accepted⟩
      · exact .inr ⟨fault, [], child.outline, _, rfl, List.forall_mem_nil _, found⟩

variable {declaration : Option (Option (List Char))} {name : String}
variable {attributes : List (String × String)}

theorem run_documentEvents : Builder.beforeRoot.run
    (documentEvents declaration name attributes children) =
      (Builder.root []).run (children.flatMap RootChild.events ++ [.close]) := by
  cases declaration <;> rfl

theorem run_of_gives {definitions : List Definition}
    (gives : List.Forall₂ Outline.Gives (children.map RootChild.outline) definitions) :
    Builder.beforeRoot.run (documentEvents declaration name attributes children) =
      .complete definitions := by
  rw [run_documentEvents, Builder.run_append_of_more (run_children gives), List.append_nil]
  change Outcome.complete definitions.reverse.reverse = _
  rw [List.reverse_reverse]

theorem run_of_firstFault {fault : DocumentFault}
    (first : FirstFault (children.map RootChild.outline) fault) :
    Builder.beforeRoot.run (documentEvents declaration name attributes children) =
      .fault fault := by
  obtain ⟨before, outline, after, split, accepted, found⟩ := first
  obtain ⟨earlier, others, rfl, rfl, rest⟩ := List.map_eq_append_iff.mp split
  obtain ⟨child, later, rfl, rfl, rfl⟩ := List.map_eq_cons_iff.mp rest
  obtain ⟨definitions, gives⟩ := exists_gives fun child member =>
    accepted child.outline (List.mem_map_of_mem member)
  rw [run_documentEvents, List.flatMap_append, List.append_assoc,
    Builder.run_append_of_more (run_children gives), List.flatMap_cons, List.append_assoc]
  exact run_child_of_fault _ found

theorem FirstFault.detail {outlines : List Outline} {fault : DocumentFault}
    (first : FirstFault outlines fault) : fault.detail?.isSome := by
  obtain ⟨before, outline, after, split, accepted, found⟩ := first
  cases found with
  | other => rfl
  | entry found =>
      cases found with
      | part split clean found => cases found <;> rfl
      | nameless => rfl
      | valueless => rfl

end Children

section Reading

variable {children : List RootChild} {declaration : Option (Option (List Char))} {name : String}
variable {attributes : List (String × String)} {bytes : List UInt8}

theorem tells_of_events {node : Node} (wellFormed : node.wellFormed [] 0 = true)
    (same : node.events [] = documentEvents none name attributes children) :
    Tells node.bytes (documentEvents none name attributes children) := by
  cases node with
  | element tag inside closing =>
      rw [← same]
      exact tells_of_wellFormed wellFormed
  | _ => cases same

theorem parse_of_gives {definitions : List Definition}
    (tells : Tells bytes (documentEvents declaration name attributes children))
    (gives : List.Forall₂ Outline.Gives (children.map RootChild.outline) definitions) :
    parse bytes = .ok definitions :=
  parse_eq_ok_of_run tells (run_of_gives gives)

theorem parse_of_firstFault {fault : DocumentFault}
    (tells : Tells bytes (documentEvents declaration name attributes children))
    (first : FirstFault (children.map RootChild.outline) fault) : parse bytes = .error fault :=
  parse_eq_error_of_run tells (run_of_firstFault first)

theorem parse_eq_ok_iff (tells : Tells bytes (documentEvents declaration name attributes children))
    (definitions : List Definition) : parse bytes = .ok definitions ↔
      List.Forall₂ Outline.Gives (children.map RootChild.outline) definitions := by
  constructor
  · intro parsed
    rcases gives_or_firstFault children with ⟨others, gives⟩ | ⟨fault, first⟩
    · rw [parse_of_gives tells gives] at parsed
      exact Except.ok.inj parsed ▸ gives
    · rw [parse_of_firstFault tells first] at parsed
      contradiction
  · exact parse_of_gives tells

theorem parse_eq_error_iff
    (tells : Tells bytes (documentEvents declaration name attributes children))
    (fault : DocumentFault) : parse bytes = .error fault ↔
      FirstFault (children.map RootChild.outline) fault := by
  constructor
  · intro parsed
    rcases gives_or_firstFault children with ⟨definitions, gives⟩ | ⟨other, first⟩
    · rw [parse_of_gives tells gives] at parsed
      contradiction
    · rw [parse_of_firstFault tells first] at parsed
      exact Except.error.inj parsed ▸ first
  · exact parse_of_firstFault tells

/-- The outline of a document decides what is read from it. Every well-formed tree tells its events,
and whatever tells the events of such children gives all their definitions, in order, if each of them
is accepted, and otherwise their first fault, in words. -/
theorem read_by_outline (children : List RootChild) :
    let outlines := children.map RootChild.outline
    (∀ (node : Node) name attributes, node.wellFormed [] 0 = true →
      node.events [] = documentEvents none name attributes children →
        Tells node.bytes (documentEvents none name attributes children)) ∧
    ∀ bytes declaration name attributes,
      Tells bytes (documentEvents declaration name attributes children) →
        (∀ definitions, parse bytes = .ok definitions ↔
          List.Forall₂ Outline.Gives outlines definitions) ∧
        ((∃ definitions, parse bytes = .ok definitions) ↔
          ∀ outline ∈ outlines, outline.Accepted) ∧
        (∀ fault, parse bytes = .error fault ↔ FirstFault outlines fault) ∧
        (∀ fault, parse bytes = .error fault → fault.detail?.isSome ∧
          readRegistry bytes = ⟨[], .error (.document fault)⟩) ∧
        ∀ bytes' declaration' name' attributes' children',
          Tells bytes' (documentEvents declaration' name' attributes' children') →
            children'.map RootChild.outline = outlines → parse bytes' = parse bytes := by
  intro outlines
  refine ⟨fun node name attributes wellFormed same => tells_of_events wellFormed same,
    fun bytes declaration name attributes tells => ⟨parse_eq_ok_iff tells, ⟨?_, fun accepted => ?_⟩,
      parse_eq_error_iff tells, fun fault parsed => ?_, ?_⟩⟩
  · rintro ⟨definitions, parsed⟩
    exact accepted_of_gives ((parse_eq_ok_iff tells definitions).mp parsed)
  · obtain ⟨definitions, gives⟩ := exists_gives fun child member =>
      accepted child.outline (List.mem_map_of_mem member)
    exact ⟨definitions, parse_of_gives tells gives⟩
  · refine ⟨((parse_eq_error_iff tells fault).mp parsed).detail, ?_⟩
    rw [readRegistry, parsed]
  · intro bytes' declaration' name' attributes' children' tells' same
    rcases gives_or_firstFault children with ⟨definitions, gives⟩ | ⟨fault, first⟩
    · rw [parse_of_gives tells gives, parse_of_gives tells' (by rw [same]; exact gives)]
    · rw [parse_of_firstFault tells first, parse_of_firstFault tells' (by rw [same]; exact first)]

/-- Faults at different depths: a constant without a name gives its value twice before it ends, and
what follows it is no entry. -/
theorem read_by_outline_value_twice :
    let element (name : String) (attributes : List (String × String)) (children : List Node) :
        Node := .element (plainTag name attributes) children (some [])
    let node := element "r" [] [
      element "list" [("name", "L")] [element "item" [] [element "value" [] [.section ['1']]]],
      .piece (.literal '\n'),
      element "constant" [("value", "2")] [element "value" [] []],
      element "x" [] []]
    parse node.bytes = .error (.repeatedField .value) := by
  intro element node
  let list : EntryElement :=
    ⟨.list, [(.name, "L")], [], [⟨[], [⟨.value, [], some "1"⟩]⟩], [], fun _ => rfl⟩
  let constant : EntryElement :=
    ⟨.constant, [(.value, "2")], [⟨.value, [], none⟩], [], [], fun items => absurd rfl items⟩
  let children : List RootChild := [.entry list, .entry constant, .other "x" [] [] (by decide)]
  have ⟨trees, read⟩ := read_by_outline children
  have tells := trees node "r" [] (by decide +kernel) (by decide +kernel)
  obtain ⟨-, -, faulty, -⟩ := read node.bytes none "r" [] tells
  have accepted : (RootChild.entry list).outline.Accepted := by
    constructor <;> decide
  have clean : Clean .constant [.field (.value, "2")] := by
    constructor <;> decide
  have found : PartFault .constant [.field (.value, "2")] (.field (.value, ""))
      (.repeatedField .value) := .repeated (by decide) (by decide)
  exact (faulty _).mpr ⟨[(RootChild.entry list).outline], _, _, rfl,
    List.forall_mem_singleton.mpr accepted, .entry (.part rfl clean found)⟩

/-- The qualifier `xml` is refused although nothing is wrong with what is given, and so is that name for
the default one. -/
theorem some_outlines_refused :
    let definition : Definition := .constant "A" "1"
    let qualified : Node := .element ⟨⟨some "xml".toList, ['r']⟩, [], []⟩ [definition.node] (some [])
    let declared : Node := .element defaultXml [definition.node] (some [])
    let child : RootChild := .entry
      ⟨.constant, [(.name, "A"), (.value, "1")], [], [], [], fun items => absurd rfl items⟩
    (qualified.written = "<xml:r><constant name=\"A\" value=\"1\"/></xml:r>".toList ∧
      declared.written = "<r xmlns=\"xml\"><constant name=\"A\" value=\"1\"/></r>".toList) ∧
    (qualified.events [] = documentEvents none "r" [] [child] ∧
      declared.events [] = documentEvents none "r" [] [child]) ∧
    child.outline.Accepted ∧ child.outline.Gives definition ∧
    parse qualified.bytes = .error .malformed ∧ parse declared.bytes = .error .malformed ∧
    DocumentFault.malformed.detail? = none := by
  intro definition qualified declared child
  have gives : child.outline.Gives definition := .constant rfl rfl rfl
  exact ⟨⟨by decide +kernel, by decide +kernel⟩, ⟨by decide +kernel, by decide +kernel⟩,
    gives.accepted, gives, parse_qualifiedXml _, parse_defaultXml _, rfl⟩

end Reading

end IdRegistry.Document
