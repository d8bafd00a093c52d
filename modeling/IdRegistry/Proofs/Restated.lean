import IdRegistry.Proofs.Notices
import IdRegistry.Proofs.Text.Numeral
import Mathlib.Data.List.Perm.Basic

namespace IdRegistry

def ProtocolId.definition (entry : ProtocolId) : Definition :=
  .constant entry.name (String.ofList (Text.decimal entry.id))

def IdList.definition (list : IdList) : Definition :=
  .list list.name (list.values.map fun value => String.ofList (Text.decimal value))

/-- The third list has all elements of the other two, each of them in their order. -/
inductive Interleaved {α : Type} : List α → List α → List α → Prop where
  | nil : Interleaved [] [] []
  | first {one : α} {first second all : List α} (later : Interleaved first second all) :
      Interleaved (one :: first) second (one :: all)
  | second {one : α} {first second all : List α} (later : Interleaved first second all) :
      Interleaved first (one :: second) (one :: all)

/-- A registry as reading definitions can give it. -/
structure Registry.Legible (registry : Registry) : Prop where
  distinct : registry.names.Nodup
  shown : ∀ name ∈ registry.names, isPrivate name = false
  ids : ∀ entry ∈ registry.ids, Text.InRange entry.id
  lists : ∀ list ∈ registry.lists, ∀ value ∈ list.values, Text.InRange value

namespace Interleaved

variable {α : Type} {first second all : List α}

theorem append (first second : List α) : Interleaved first second (first ++ second) := by
  induction first with
  | nil =>
      induction second with
      | nil => exact .nil
      | cons one second ih => exact .second ih
  | cons one first ih => exact .first ih

theorem perm (interleaved : Interleaved first second all) : all.Perm (first ++ second) := by
  induction interleaved with
  | nil => exact .refl _
  | first _ ih => exact ih.cons _
  | second _ ih => exact (ih.cons _).trans List.perm_middle.symm

/-- What is taken from one of the two only is taken in its order. -/
theorem filterMap_first {β : Type} (take : α → Option β) (none : ∀ one ∈ second, take one = none)
    (interleaved : Interleaved first second all) : all.filterMap take = first.filterMap take := by
  induction interleaved with
  | nil => rfl
  | first _ ih => rw [List.filterMap_cons, List.filterMap_cons, ih none]
  | second _ ih =>
      obtain ⟨untaken, none⟩ := List.forall_mem_cons.mp none
      rw [List.filterMap_cons_none untaken, ih none]

theorem swap (interleaved : Interleaved first second all) : Interleaved second first all := by
  induction interleaved with
  | nil => exact .nil
  | first _ ih => exact .second ih
  | second _ ih => exact .first ih

end Interleaved

/-- If every form is taken back, so is the list. -/
theorem filterMap_map_of_inverse {α β : Type} {form : α → β} {take : β → Option α} {all : List α}
    (inverse : ∀ one ∈ all, take (form one) = some one) : (all.map form).filterMap take = all := by
  have back : ∀ one ∈ all, (take ∘ form) one = some one := inverse
  rw [List.filterMap_map, List.filterMap_congr back, List.filterMap_some]

theorem inRange_of_integers {items : List String} {values : List Int}
    (read : List.Forall₂ (fun item value => Text.integer? item = some value) items values) :
    ∀ value ∈ values, Text.InRange value := by
  induction read with
  | nil => exact List.forall_mem_nil _
  | cons first _ ih => exact List.forall_mem_cons.mpr ⟨Text.inRange_of_integer? first, ih⟩

theorem legible_of_result {definitions : List Definition} {registry : Registry}
    (result : (classify definitions).result = .ok registry) : registry.Legible := by
  obtain ⟨distinct, rfl⟩ := classify_eq_ok_iff.mp result
  refine ⟨nodup_names_kept distinct, fun name => isPrivate_of_mem_names_kept, ?_, ?_⟩
  · intro entry member
    obtain ⟨definition, _, gives⟩ := List.mem_filterMap.mp member
    obtain ⟨value, _, _, read⟩ := Definition.identifier?_eq_some_iff.mp gives
    exact Text.inRange_of_integer? read
  · intro list member
    obtain ⟨definition, _, gives⟩ := List.mem_filterMap.mp member
    obtain ⟨items, _, _, read⟩ := Definition.integerList?_eq_some_iff.mp gives
    exact inRange_of_integers read

theorem Definition.leftOut?_of_identifier? {definition : Definition} {entry : ProtocolId}
    (gives : definition.identifier? = some entry) : definition.leftOut? = none := by
  obtain ⟨value, rfl, _, read⟩ := identifier?_eq_some_iff.mp gives
  simp [leftOut?, read]

theorem Definition.leftOut?_of_integerList? {definition : Definition} {list : IdList}
    (gives : definition.integerList? = some list) : definition.leftOut? = none := by
  obtain ⟨items, rfl, _, read⟩ := integerList?_eq_some_iff.mp gives
  have whole : ¬ ∃ item ∈ items, Text.integer? item = none := by
    rw [← integers?_eq_none_iff, integers?_eq_some_iff.mpr read]
    exact nofun
  exact if_neg fun broken => whole broken.2

namespace Registry.Legible

variable {registry : Registry}

theorem identifier? (legible : registry.Legible) {entry : ProtocolId}
    (member : entry ∈ registry.ids) : entry.definition.identifier? = some entry :=
  Definition.identifier?_eq_some_iff.mpr ⟨_, rfl,
    legible.shown _ (List.mem_append_left _ (List.mem_map_of_mem member)),
    Text.integer?_decimal (legible.ids entry member)⟩

theorem integerList? (legible : registry.Legible) {list : IdList}
    (member : list ∈ registry.lists) : list.definition.integerList? = some list := by
  refine Definition.integerList?_eq_some_iff.mpr ⟨_, rfl,
    legible.shown _ (List.mem_append_right _ (List.mem_map_of_mem member)),
    List.forall₂_map_left_iff.mpr (List.forall₂_same.mpr fun value isValue => ?_)⟩
  exact Text.integer?_decimal (legible.lists list member value isValue)

section Restating

variable {restated : List Definition}

theorem nodup_restated (legible : registry.Legible)
    (interleaved : Interleaved (registry.ids.map ProtocolId.definition)
      (registry.lists.map IdList.definition) restated) : (restated.map Definition.name).Nodup := by
  refine ((interleaved.perm.map Definition.name).nodup_iff).mpr ?_
  rw [List.map_append, List.map_map, List.map_map]
  exact legible.distinct

theorem kept_restated (legible : registry.Legible)
    (interleaved : Interleaved (registry.ids.map ProtocolId.definition)
      (registry.lists.map IdList.definition) restated) : kept restated = registry := by
  have ids : restated.filterMap Definition.identifier? = registry.ids := by
    rw [interleaved.filterMap_first Definition.identifier? (List.forall_mem_map.mpr fun _ _ => rfl)]
    exact filterMap_map_of_inverse fun entry => legible.identifier?
  have lists : restated.filterMap Definition.integerList? = registry.lists := by
    rw [interleaved.swap.filterMap_first Definition.integerList?
      (List.forall_mem_map.mpr fun _ _ => rfl)]
    exact filterMap_map_of_inverse fun list => legible.integerList?
  rw [kept, ids, lists]

theorem nothing_left_out (legible : registry.Legible)
    (interleaved : Interleaved (registry.ids.map ProtocolId.definition)
      (registry.lists.map IdList.definition) restated) :
    restated.filterMap Definition.leftOut? = [] := by
  refine List.filterMap_eq_nil_iff.mpr fun definition member => ?_
  rcases List.mem_append.mp (interleaved.perm.mem_iff.mp member) with ofIds | ofLists
  · obtain ⟨entry, isEntry, rfl⟩ := List.mem_map.mp ofIds
    exact Definition.leftOut?_of_identifier? (legible.identifier? isEntry)
  · obtain ⟨list, isList, rfl⟩ := List.mem_map.mp ofLists
    exact Definition.leftOut?_of_integerList? (legible.integerList? isList)

/-- Wherever the lists stand among the constants, the registry is read back whole. -/
theorem classify_interleaved (legible : registry.Legible)
    (interleaved : Interleaved (registry.ids.map ProtocolId.definition)
      (registry.lists.map IdList.definition) restated) : classify restated = ⟨[], .ok registry⟩ := by
  have distinct := legible.nodup_restated interleaved
  have result := classify_of_nodup distinct
  have notices := notices_of_nodup distinct
  rw [legible.kept_restated interleaved] at result
  rw [legible.nothing_left_out interleaved] at notices
  calc classify restated
      = ⟨(classify restated).notices, (classify restated).result⟩ := rfl
    _ = ⟨[], .ok registry⟩ := by rw [result, notices]

end Restating

end Registry.Legible

/-- A registry that was read, stated again as constants and lists, is read once more without a
notice, whether the lists follow the constants or stand among them. -/
theorem classify_restated {definitions : List Definition} {registry : Registry}
    (result : (classify definitions).result = .ok registry) :
    classify (registry.ids.map ProtocolId.definition ++ registry.lists.map IdList.definition) =
        ⟨[], .ok registry⟩ ∧
      ∀ restated, Interleaved (registry.ids.map ProtocolId.definition)
        (registry.lists.map IdList.definition) restated →
          classify restated = ⟨[], .ok registry⟩ := by
  have legible := legible_of_result result
  exact ⟨legible.classify_interleaved (.append _ _),
    fun restated interleaved => legible.classify_interleaved interleaved⟩

/-- The least integer, one with a sign and blanks, and a list between two constants. -/
theorem classify_restated_least :
    let definitions : List Definition := [.constant "B" "-9223372036854775808",
      .list "L" [" +07 ", "9223372036854775807"], .constant "No" "1.5", .constant "A" "0"]
    let registry : Registry :=
      ⟨[⟨"B", -9223372036854775808⟩, ⟨"A", 0⟩], [⟨"L", [7, 9223372036854775807]⟩]⟩
    let restated : List Definition := [.constant "B" "-9223372036854775808",
      .list "L" ["7", "9223372036854775807"], .constant "A" "0"]
    (classify definitions).result = .ok registry ∧
      Interleaved (registry.ids.map ProtocolId.definition) (registry.lists.map IdList.definition)
        restated ∧
      classify restated = ⟨[], .ok registry⟩ := by
  intro definitions registry restated
  have result : (classify definitions).result = .ok registry := rfl
  have interleaved : Interleaved (registry.ids.map ProtocolId.definition)
      (registry.lists.map IdList.definition) restated := .first (.second (.first .nil))
  exact ⟨result, interleaved, (classify_restated result).2 restated interleaved⟩

end IdRegistry
