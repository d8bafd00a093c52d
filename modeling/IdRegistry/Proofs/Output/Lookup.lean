import IdRegistry.Output.Lookup
import IdRegistry.Proofs.Output.Acceptance
import Mathlib.Data.List.Find
import Mathlib.Data.List.Nodup
import Mathlib.Data.List.Pairwise

namespace IdRegistry

theorem Registry.IsPushList.unique {registry : Registry} {list again : IdList}
    (first : registry.IsPushList list) (first' : registry.IsPushList again) : list = again :=
  Option.some.inj ((list?_eq_some_iff.mpr first).symm.trans (list?_eq_some_iff.mpr first'))

/-- No two entries of one table share a name. -/
theorem Consistent.eq_of_normalizedName {entries : List ProtocolId} {entry other : ProtocolId}
    (consistent : Consistent entries) (member : entry ∈ entries) (member' : other ∈ entries)
    (same : entry.normalizedName = other.normalizedName) : entry = other := by
  by_contra different
  obtain ⟨constant, own, _⟩ := consistent.valid entry member
  have symmetric : Std.Symm fun first second : ProtocolId =>
      ∀ constant, first.HasConstant constant → ¬ second.HasConstant constant :=
    ⟨fun first second apart constant ofSecond ofFirst => apart constant ofFirst ofSecond⟩
  exact consistent.distinct.forall member member' different constant own
    (own.of_normalizedName same)

/-- What the tables hold, said of the registry that they are made for. -/
structure RustTables.Tabulates (tables : RustTables) (registry : Registry) : Prop where
  consistent : Consistent registry.ids
  constants : List.Forall₂ (fun constant entry =>
    ProtocolId.HasConstant entry constant.1 ∧ (constant.2 : Int) = entry.id)
    tables.constants registry.ids
  idToName : tables.idToName =
    registry.ids.map fun entry => (entry.id.toNat, entry.normalizedName)
  nameToId : tables.nameToId =
    registry.ids.map fun entry => (entry.normalizedName, entry.id.toNat)
  pushIds : ∃ list, registry.IsPushList list ∧ (∀ value ∈ list.values, FitsWord value) ∧
    tables.pushIds = list.values.map Int.toNat

theorem map_of_describes {α : Type} {rows : List TableRow} {entries : List ProtocolId}
    (described : List.Forall₂ TableRow.Describes rows entries) (pair : Nat → String → α) :
    rows.map (fun row => pair row.id row.name) =
      entries.map fun entry => pair entry.id.toNat entry.normalizedName := by
  induction described with
  | nil => rfl
  | cons describes _ ih =>
      simp only [List.map_cons, ih, ← describes.id, describes.name, Int.toNat_natCast]

namespace RustTables

variable {tables : RustTables} {registry : Registry}

theorem tabulates_of_result (made : (ofRegistry registry).result = .ok tables) :
    tables.Tabulates registry := by
  rw [ofRegistry_result] at made
  obtain ⟨consistent, listed, firstListed, fitting⟩ := accepted_of_make made
  obtain ⟨rows, list, described, first, made'⟩ := make_of_accepted (accepted_of_make made)
  obtain rfl := Except.ok.inj (made'.symm.trans made)
  obtain rfl := first.unique firstListed
  refine ⟨consistent, ?_, map_of_describes described _, map_of_describes described
    fun id name => (name, id), list, first, fitting, rfl⟩
  exact List.forall₂_map_left_iff.mpr
    (described.imp fun row entry describes => ⟨describes.constant, describes.id⟩)

namespace Tabulates

variable {name : String} {id : Nat}

theorem toNat_eq_iff (tabulates : tables.Tabulates registry) {entry : ProtocolId}
    (member : entry ∈ registry.ids) : entry.id.toNat = id ↔ entry.id = id := by
  have fits := (tabulates.consistent.fits entry member).1
  omega

theorem idOf_eq_some_iff (tabulates : tables.Tabulates registry) :
    tables.idOf name = some id ↔
      ∃ entry ∈ registry.ids, entry.normalizedName = name ∧ entry.id = id := by
  rw [idOf, tabulates.nameToId, List.find?_map, Option.map_map, Option.map_eq_some_iff]
  constructor
  · rintro ⟨entry, found, named⟩
    have member := List.mem_of_find?_eq_some found
    have same := List.find?_some found
    exact ⟨entry, member, by simpa using same, (tabulates.toNat_eq_iff member).mp named⟩
  · rintro ⟨entry, member, named, valued⟩
    cases found : registry.ids.find?
        ((fun row => decide (row.1 = name)) ∘ fun entry => (entry.normalizedName, entry.id.toNat)) with
    | none =>
        have absent := List.find?_eq_none.mp found entry member
        simp [named] at absent
    | some other =>
        have named' : other.normalizedName = name := by simpa using List.find?_some found
        obtain rfl := tabulates.consistent.eq_of_normalizedName member
          (List.mem_of_find?_eq_some found) (named.trans named'.symm)
        exact ⟨entry, rfl, (tabulates.toNat_eq_iff member).mpr valued⟩

/-- The search for an identifier is one for the first entry that has it. -/
theorem nameOf_eq_find? (tabulates : tables.Tabulates registry) :
    tables.nameOf id =
      (registry.ids.find? fun entry => entry.id = (id : Int)).map ProtocolId.normalizedName := by
  have same : registry.ids.find? ((fun row => decide (row.1 = id)) ∘
      fun entry => (entry.id.toNat, entry.normalizedName)) =
      registry.ids.find? fun entry => entry.id = (id : Int) := by
    apply List.find?_congr
    intro entry member
    simp [tabulates.toNat_eq_iff member]
  rw [nameOf, tabulates.idToName, List.find?_map, Option.map_map, same]
  rfl

theorem nameOf_eq_some_iff (tabulates : tables.Tabulates registry) :
    tables.nameOf id = some name ↔
      ∃ before entry after, registry.ids = before ++ entry :: after ∧ entry.id = (id : Int) ∧
        (∀ other ∈ before, other.id ≠ (id : Int)) ∧ entry.normalizedName = name := by
  rw [tabulates.nameOf_eq_find?, Option.map_eq_some_iff]
  simp only [List.find?_eq_some_iff_append, decide_eq_true_eq, Bool.not_eq_eq_eq_not, Bool.not_true,
    decide_eq_false_iff_not]
  constructor
  · rintro ⟨entry, ⟨valued, before, after, split, others⟩, named⟩
    exact ⟨before, entry, after, split, valued, others, named⟩
  · rintro ⟨before, entry, after, split, valued, others, named⟩
    exact ⟨entry, ⟨valued, before, after, split, others⟩, named⟩

theorem nameOf_eq_none_iff (tabulates : tables.Tabulates registry) :
    tables.nameOf id = none ↔ ∀ entry ∈ registry.ids, entry.id ≠ (id : Int) := by
  simp [tabulates.nameOf_eq_find?]

theorem isPush_iff (tabulates : tables.Tabulates registry) :
    tables.isPush id = true ↔ ∃ list, registry.IsPushList list ∧ (id : Int) ∈ list.values := by
  obtain ⟨list, first, fitting, held⟩ := tabulates.pushIds
  rw [isPush, List.contains_iff_mem, held, List.mem_map]
  constructor
  · rintro ⟨value, member, rfl⟩
    exact ⟨list, first, by rwa [Int.toNat_of_nonneg (fitting value member).1]⟩
  · rintro ⟨again, first', member⟩
    obtain rfl := first.unique first'
    exact ⟨id, member, Int.toNat_natCast id⟩

theorem idOf_of_nameOf (tabulates : tables.Tabulates registry)
    (found : tables.nameOf id = some name) : tables.idOf name = some id := by
  obtain ⟨before, entry, after, split, valued, _, named⟩ := tabulates.nameOf_eq_some_iff.mp found
  exact tabulates.idOf_eq_some_iff.mpr ⟨entry, by simp [split], named, valued⟩

theorem constants_getElem? (tabulates : tables.Tabulates registry) {position : Nat}
    {entry : ProtocolId} (standing : registry.ids[position]? = some entry) :
    ∃ constant value, tables.constants[position]? = some (constant, value) ∧
      entry.HasConstant constant ∧ tables.idOf entry.normalizedName = some value := by
  have alike := tabulates.constants.length_eq
  obtain ⟨inside, rfl⟩ := List.getElem?_eq_some_iff.mp standing
  have held := List.getElem?_eq_getElem (l := tables.constants) (alike ▸ inside)
  obtain ⟨own, valued⟩ := tabulates.constants.get (alike ▸ inside) inside
  exact ⟨_, _, held, own, tabulates.idOf_eq_some_iff.mpr
    ⟨_, List.getElem_mem inside, rfl, valued.symm⟩⟩

theorem idOf_of_underscore (tabulates : tables.Tabulates registry)
    (underscore : '_' ∈ name.toList) : tables.idOf name = none := by
  cases found : tables.idOf name with
  | none => rfl
  | some id =>
      obtain ⟨entry, _, rfl, _⟩ := tabulates.idOf_eq_some_iff.mp found
      exact absurd underscore (underscore_notMem_normalizeName entry.name)

end Tabulates

/-- What the searches find in the tables of a registry, in terms of the registry. Only the search
for an identifier depends on the order of the entries. -/
theorem lookups_exact (made : (ofRegistry registry).result = .ok tables) :
    (∀ name id, tables.idOf name = some id ↔
      ∃ entry ∈ registry.ids, entry.normalizedName = name ∧ entry.id = (id : Int)) ∧
    (∀ id name, tables.nameOf id = some name ↔
      ∃ before entry after, registry.ids = before ++ entry :: after ∧ entry.id = (id : Int) ∧
        (∀ other ∈ before, other.id ≠ (id : Int)) ∧ entry.normalizedName = name) ∧
    (∀ id, tables.nameOf id = none ↔ ∀ entry ∈ registry.ids, entry.id ≠ (id : Int)) ∧
    (∀ id, tables.isPush id = true ↔
      ∃ list, registry.IsPushList list ∧ (id : Int) ∈ list.values) ∧
    (∀ id name, tables.nameOf id = some name → tables.idOf name = some id) ∧
    tables.constants.length = registry.ids.length ∧
    (∀ (position : Nat) (entry : ProtocolId), registry.ids[position]? = some entry →
      ∃ constant value, tables.constants[position]? = some (constant, value) ∧
        entry.HasConstant constant ∧ tables.idOf entry.normalizedName = some value) ∧
    (∀ name, '_' ∈ name.toList → tables.idOf name = none) := by
  have tabulates := tabulates_of_result made
  refine ⟨?_, ?_, ?_, ?_, ?_, tabulates.constants.length_eq, ?_, ?_⟩
  · exact fun name id => tabulates.idOf_eq_some_iff
  · exact fun id name => tabulates.nameOf_eq_some_iff
  · exact fun id => tabulates.nameOf_eq_none_iff
  · exact fun id => tabulates.isPush_iff
  · exact fun id name => tabulates.idOf_of_nameOf
  · exact fun position entry => tabulates.constants_getElem?
  · exact fun name => tabulates.idOf_of_underscore

/-- Two entries share an identifier: it leads to the name of the first, and both names lead to it. -/
theorem lookups_exact_shared_id :
    let registry : Registry :=
      ⟨[⟨"Qot_Sub", 3001⟩, ⟨"Trd_Sub", 3001⟩], [⟨pushListName, [7]⟩, ⟨pushListName, [8]⟩]⟩
    let tables : RustTables :=
      ⟨[("QOT_SUB", 3001), ("TRD_SUB", 3001)], [(3001, "QotSub"), (3001, "TrdSub")],
        [("QotSub", 3001), ("TrdSub", 3001)], [7]⟩
    (ofRegistry registry).result = .ok tables ∧
      tables.nameOf 3001 = some "QotSub" ∧ tables.idOf "TrdSub" = some 3001 ∧
      tables.idOf "Trd_Sub" = none := by
  intro registry tables
  have made : (ofRegistry registry).result = .ok tables := rfl
  obtain ⟨idOf, nameOf, _, _, _, _, _, underscore⟩ := lookups_exact made
  refine ⟨made, ?_, ?_, ?_⟩
  · exact (nameOf 3001 "QotSub").mpr ⟨[], _, _, rfl, rfl, by simp, rfl⟩
  · exact (idOf "TrdSub" 3001).mpr ⟨⟨"Trd_Sub", 3001⟩, by simp [registry], rfl, rfl⟩
  · exact underscore "Trd_Sub" (by decide)

namespace Tabulates

theorem names_nodup (tabulates : tables.Tabulates registry) :
    (registry.ids.map ProtocolId.normalizedName).Nodup := by
  rw [List.nodup_iff_pairwise_ne, List.pairwise_map]
  refine tabulates.consistent.distinct.imp_of_mem fun {first second} member _ apart same => ?_
  obtain ⟨constant, own, _⟩ := tabulates.consistent.valid first member
  exact apart constant own (own.of_normalizedName same)

theorem names_eq (tabulates : tables.Tabulates registry) :
    tables.idToName.map Prod.snd = registry.ids.map ProtocolId.normalizedName := by
  rw [tabulates.idToName, List.map_map]
  rfl

theorem ids_nodup_iff (tabulates : tables.Tabulates registry) :
    (tables.idToName.map Prod.fst).Nodup ↔ (registry.ids.map ProtocolId.id).Nodup := by
  rw [tabulates.idToName, List.map_map, List.nodup_iff_pairwise_ne, List.nodup_iff_pairwise_ne,
    List.pairwise_map, List.pairwise_map]
  refine List.Pairwise.iff_of_mem fun {first second} member member' => ?_
  have fits := (tabulates.consistent.fits first member).1
  have fits' := (tabulates.consistent.fits second member').1
  simp only [Function.comp_apply]
  omega

theorem idOf_of_mem (tabulates : tables.Tabulates registry) {row : Nat × String}
    (member : row ∈ tables.idToName) : tables.idOf row.2 = some row.1 := by
  rw [tabulates.idToName] at member
  obtain ⟨entry, listed, rfl⟩ := List.mem_map.mp member
  have fits := (tabulates.consistent.fits entry listed).1
  exact tabulates.idOf_eq_some_iff.mpr ⟨entry, listed, rfl, (Int.toNat_of_nonneg fits).symm⟩

/-- The name of a row is found again unless a row before it has the same identifier. The row that is
found instead has another name. -/
theorem nameOf_eq_iff_first (tabulates : tables.Tabulates registry)
    {before after : List (Nat × String)} {row : Nat × String}
    (split : tables.idToName = before ++ row :: after) :
    tables.nameOf row.1 = some row.2 ↔ ∀ other ∈ before, other.1 ≠ row.1 := by
  rw [nameOf, split, List.find?_append]
  cases found : before.find? fun other => other.1 = row.1 with
  | none =>
      have none_before := List.find?_eq_none.mp found
      simpa using none_before
  | some other =>
      have earlier := List.mem_of_find?_eq_some found
      have shared : other.1 = row.1 := by simpa using List.find?_some found
      have distinct := tabulates.names_nodup
      rw [← tabulates.names_eq, split, List.map_append, List.map_cons] at distinct
      have differs : other.2 ≠ row.2 := fun same =>
        (List.nodup_append.mp distinct).2.2 other.2 (List.mem_map_of_mem earlier) row.2
          List.mem_cons_self same
      constructor
      · intro named
        exact absurd (by simpa using named) differs
      · intro none_before
        exact absurd shared (none_before other earlier)

theorem nameOf_of_mem_iff (tabulates : tables.Tabulates registry) :
    (∀ row ∈ tables.idToName, tables.nameOf row.1 = some row.2) ↔
      (registry.ids.map ProtocolId.id).Nodup := by
  rw [← tabulates.ids_nodup_iff]
  constructor
  · intro inverse
    -- An identifier leads to one name, so that rows with one identifier have one name as well.
    have names : (tables.idToName.map Prod.snd).Nodup := tabulates.names_eq ▸ tabulates.names_nodup
    refine List.Nodup.map_on ?_ (List.Nodup.of_map _ names)
    intro row member other member' same
    have named := inverse row member
    rw [same, inverse other member', Option.some.injEq] at named
    exact Prod.ext same named.symm
  · intro distinct row member
    obtain ⟨before, after, split⟩ := List.append_of_mem member
    refine (tabulates.nameOf_eq_iff_first split).mpr fun other earlier same => ?_
    rw [split, List.map_append, List.map_cons] at distinct
    exact (List.nodup_append.mp distinct).2.2 other.1 (List.mem_map_of_mem earlier) row.1
      List.mem_cons_self same

end Tabulates

/-- Every name leads to its identifier, and back again if no earlier row has that identifier. So the
two tables are inverse to each other exactly for the registries whose identifiers are distinct. -/
theorem inverse_iff_ids_nodup (made : (ofRegistry registry).result = .ok tables) :
    (∀ row ∈ tables.idToName, tables.idOf row.2 = some row.1) ∧
    (registry.ids.map ProtocolId.normalizedName).Nodup ∧
    (∀ before row after, tables.idToName = before ++ row :: after →
      (tables.nameOf row.1 = some row.2 ↔ ∀ other ∈ before, other.1 ≠ row.1)) ∧
    ((∀ row ∈ tables.idToName, tables.nameOf row.1 = some row.2) ↔
      (registry.ids.map ProtocolId.id).Nodup) := by
  have tabulates := tabulates_of_result made
  refine ⟨?_, tabulates.names_nodup, ?_, tabulates.nameOf_of_mem_iff⟩
  · exact fun row member => tabulates.idOf_of_mem member
  · exact fun before row after split => tabulates.nameOf_eq_iff_first split

/-- The name before an entry with the same identifier is found again, and the one after it is not. -/
theorem inverse_iff_ids_nodup_shared :
    let registry : Registry := ⟨[⟨"Qot_Sub", 3001⟩, ⟨"Trd_Sub", 3001⟩], [⟨pushListName, []⟩]⟩
    let tables : RustTables :=
      ⟨[("QOT_SUB", 3001), ("TRD_SUB", 3001)], [(3001, "QotSub"), (3001, "TrdSub")],
        [("QotSub", 3001), ("TrdSub", 3001)], []⟩
    (ofRegistry registry).result = .ok tables ∧ tables.idOf "TrdSub" = some 3001 ∧
      tables.nameOf 3001 = some "QotSub" ∧ tables.nameOf 3001 ≠ some "TrdSub" := by
  intro registry tables
  have made : (ofRegistry registry).result = .ok tables := rfl
  obtain ⟨idOf, _, nameOf, _⟩ := inverse_iff_ids_nodup made
  refine ⟨made, ?_, ?_, ?_⟩
  · exact idOf (3001, "TrdSub") (by simp [tables])
  · exact (nameOf [] (3001, "QotSub") [(3001, "TrdSub")] rfl).mpr (by simp)
  · exact fun found => (nameOf [(3001, "QotSub")] (3001, "TrdSub") [] rfl).mp found
      (3001, "QotSub") (by simp) rfl

/-- Tables are made for registries in which two entries share an identifier, and then the way back
leads to one of the two names only. -/
theorem not_always_inverse :
    ¬ ∀ (registry : Registry) (tables : RustTables), (ofRegistry registry).result = .ok tables →
      ∀ row ∈ tables.idToName,
        tables.idOf row.2 = some row.1 ∧ tables.nameOf row.1 = some row.2 := by
  intro inverse
  have back := (inverse ⟨[⟨"A", 1⟩, ⟨"B", 1⟩], [⟨pushListName, []⟩]⟩
    ⟨[("A", 1), ("B", 1)], [(1, "A"), (1, "B")], [("A", 1), ("B", 1)], []⟩ rfl
    (1, "B") (by simp)).2
  exact absurd back (by decide)

end RustTables

end IdRegistry
