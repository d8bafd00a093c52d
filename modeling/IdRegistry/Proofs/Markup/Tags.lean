import IdRegistry.Proofs.Markup.TagLayout
import Mathlib.Data.List.Nodup

namespace IdRegistry.Markup

abbrev Given := String × String

def Given.written (given : Given) : List Char :=
  ' ' :: given.1.toList ++ ['=', '"'] ++ given.2.toList.flatMap escaped ++ ['"']

def openTag (name : String) (attributes : List Given) : List Char :=
  '<' :: name.toList ++ attributes.flatMap Given.written

def startTag (name : String) (attributes : List Given) : List Char :=
  openTag name attributes ++ ['>']

def emptyTag (name : String) (attributes : List Given) : List Char :=
  openTag name attributes ++ ['/', '>']

def endTag (name : String) : List Char :=
  '<' :: '/' :: name.toList ++ ['>']

/-- A name that an attribute can have without declaring a qualifier. -/
def IsAttributeName (name : String) : Prop :=
  isPlainName name.toList = true ∧ name.toList ≠ declaringQualifier

instance (name : String) : Decidable (IsAttributeName name) :=
  inferInstanceAs (Decidable (_ ∧ _))

/-- The attributes can stand in one tag. -/
structure Given.Valid (edition : Edition) (attributes : List Given) : Prop where
  named : ∀ given ∈ attributes, IsAttributeName given.1
  distinct : (attributes.map Prod.fst).Nodup
  allowed : ∀ given ∈ attributes, ∀ c ∈ given.2.toList, isLiteral edition c = true

/-- The attribute in the layout of `Given.written`. -/
def Given.attribute (given : Given) : Attribute :=
  ⟨[' '], ⟨none, given.1.toList⟩, [], [], '"', given.2.toList.map Piece.ofCharacter⟩

/-- The tag in the layout of `openTag`. -/
def plainTag (name : String) (attributes : List Given) : StartTag :=
  ⟨⟨none, name.toList⟩, attributes.map Given.attribute, []⟩

section Plain

variable {name : String} {attributes : List Given} {edition : Edition}

theorem Given.written_attribute (given : Given) : given.attribute.written = given.written := by
  simp [Attribute.written, Given.attribute, Given.written, QualifiedName.spelling,
    Piece.flatMap_written]

theorem written_plainTag (name : String) (attributes : List Given) :
    '<' :: (plainTag name attributes).written = openTag name attributes := by
  simp [StartTag.written, plainTag, openTag, QualifiedName.spelling, List.flatMap_map,
    Given.written_attribute]

theorem isDeclaration_attribute {given : Given} (named : IsAttributeName given.1) :
    given.attribute.isDeclaration = false := by
  simp [Attribute.isDeclaration, Attribute.declaresQualifier, Given.attribute, named.2]

theorem visible_plainTag (named : ∀ given ∈ attributes, IsAttributeName given.1) :
    (plainTag name attributes).visible = attributes.map Given.attribute := by
  refine List.filter_eq_self.mpr fun attr member => ?_
  obtain ⟨given, isGiven, rfl⟩ := List.mem_map.mp member
  rw [isDeclaration_attribute (named given isGiven)]
  rfl

theorem given_plainTag (named : ∀ given ∈ attributes, IsAttributeName given.1) :
    (plainTag name attributes).given edition = attributes := by
  rw [StartTag.given, visible_plainTag named, List.map_map]
  have each : ∀ given ∈ attributes, (Attribute.given edition ∘ Given.attribute) given = id given := by
    intro given _
    have text : given.attribute.text edition = given.2.toList := Piece.filterMap_character? _ _
    rw [Function.comp_apply, Attribute.given, text]
    exact Prod.ext String.ofList_toList String.ofList_toList
  rw [List.map_congr_left each, List.map_id]

theorem declared_plainTag (name : String) (attributes : List Given) :
    (plainTag name attributes).declared = [] := by
  have none : (attributes.map Given.attribute).filter Attribute.declaresQualifier = [] := by
    refine List.filter_eq_nil_iff.mpr fun attr member => ?_
    obtain ⟨given, _, rfl⟩ := List.mem_map.mp member
    simp [Attribute.declaresQualifier, Given.attribute]
  rw [StartTag.declared, plainTag, none]
  rfl

theorem isWritten_plainTag (plain : isPlainName name.toList = true)
    (valid : Given.Valid edition attributes) (scope : List (List Char)) :
    (plainTag name attributes).isWritten edition scope = true := by
  have each : ∀ attr ∈ attributes.map Given.attribute, attr.isWritten edition = true := by
    intro attr member
    obtain ⟨given, isGiven, rfl⟩ := List.mem_map.mp member
    have named := valid.named given isGiven
    have pieces : ∀ piece ∈ given.attribute.value,
        piece.isWritten edition (some given.attribute.quote) = true := by
      intro piece isPiece
      obtain ⟨c, isCharacter, rfl⟩ := List.mem_map.mp isPiece
      exact Piece.isWritten_ofCharacter (valid.allowed given isGiven c isCharacter)
    have may : given.attribute.mayDeclare edition = true := by
      simp [Attribute.mayDeclare, Attribute.declaresQualifier, Given.attribute, named.2]
    have labelled : given.attribute.name.isWritten = true := named.1
    rw [Attribute.isWritten, may, labelled, List.all_eq_true.mpr pieces]
    rfl
  have distinct : ((attributes.map Given.attribute).map Attribute.name).Nodup := by
    have labels : (attributes.map Given.attribute).map Attribute.name =
        (attributes.map Prod.fst).map fun label => QualifiedName.mk none label.toList := by
      simp [Given.attribute]
    rw [labels]
    have injective : Function.Injective fun label : String => QualifiedName.mk none label.toList :=
      fun label other same => String.toList_inj.mp (QualifiedName.mk.inj same).2
    exact List.Nodup.map injective valid.distinct
  simp only [StartTag.isWritten, Bool.and_eq_true, List.all_eq_true, decide_eq_true_eq,
    visible_plainTag valid.named]
  refine ⟨⟨⟨⟨⟨⟨plain, rfl⟩, each⟩, distinct⟩, by simp [plainTag]⟩, rfl⟩, ?_⟩
  intro attr member
  obtain ⟨given, _, rfl⟩ := List.mem_map.mp member
  rfl

end Plain

end IdRegistry.Markup
