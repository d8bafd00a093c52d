import IdRegistry.Proofs.Output.GoMaps
import IdRegistry.Proofs.Output.Lookup

namespace IdRegistry

theorem RustTables.decimal_of_word {id : Int} {word : Nat} (same : (word : Int) = id) :
    Text.decimal id = Token.spelling (.number word) := by
  subst same
  rfl

/-- The maps and the tables hold the entries of the registry in step: every row of either comes from
the entry at its place. -/
structure InStep (registry : Registry) (maps : GoMaps) (tables : RustTables) : Prop where
  length : maps.rows.length = registry.ids.length ∧ tables.idToName.length = registry.ids.length ∧
    tables.nameToId.length = registry.ids.length ∧ tables.constants.length = registry.ids.length
  row : ∀ (position : Nat) (entry : ProtocolId), registry.ids[position]? = some entry →
    ∃ (constant : String) (word : Nat), entry.HasConstant constant ∧ (word : Int) = entry.id ∧
      Text.decimal entry.id = Token.spelling (.number word) ∧
      maps.rows[position]? = some (entry.id, entry.normalizedName) ∧
      tables.idToName[position]? = some (word, entry.normalizedName) ∧
      tables.nameToId[position]? = some (entry.normalizedName, word) ∧
      tables.constants[position]? = some (constant, word)
  pushIds : maps.pushIds = tables.pushIds.map Int.ofNat
  pushForms : maps.pushIds.map Text.decimal =
    tables.pushIds.map fun word => Token.spelling (.number word)

section Outputs

variable {registry : Registry} {package : String} {maps : GoMaps} {tables : RustTables}
variable {failure : Failure}

namespace GoMaps

theorem ofRegistry_of_isPushList {list : IdList} (package : String)
    (first : registry.IsPushList list) : (ofRegistry registry package).result =
      .ok ⟨package, registry.ids.map fun entry => (entry.id, entry.normalizedName), list.values⟩ := by
  rw [ofRegistry, Registry.pushIds_of_isPushList first]

theorem ofRegistry_of_absent (package : String)
    (absent : ∀ list ∈ registry.lists, list.name ≠ pushListName) :
    (ofRegistry registry package).result = .error (.missingList pushListName) := by
  rw [ofRegistry, Registry.pushIds_of_absent absent]

/-- Nothing but the list of push notifications decides whether there are maps. -/
theorem exists_ofRegistry_iff (registry : Registry) (package : String) :
    (∃ maps, (ofRegistry registry package).result = .ok maps) ↔
      ∃ list ∈ registry.lists, list.name = pushListName := by
  constructor
  · rintro ⟨maps, made⟩
    by_contra none
    have absent : ∀ list ∈ registry.lists, list.name ≠ pushListName :=
      fun list member named => none ⟨list, member, named⟩
    rw [ofRegistry_of_absent package absent] at made
    contradiction
  · rintro ⟨list, member, named⟩
    rcases registry.isPushList_or_absent with ⟨first, isFirst⟩ | absent
    · exact ⟨_, ofRegistry_of_isPushList package isFirst⟩
    · exact absurd named (absent list member)

end GoMaps

theorem inStep_of_tabulates {list : IdList} (tabulates : tables.Tabulates registry)
    (first : registry.IsPushList list) : InStep registry
      ⟨package, registry.ids.map fun entry => (entry.id, entry.normalizedName), list.values⟩
      tables := by
  obtain ⟨again, isFirst, fitting, held⟩ := tabulates.pushIds
  obtain rfl := first.unique isFirst
  have words : list.values = tables.pushIds.map Int.ofNat := by
    have each : ∀ value ∈ list.values, (Int.ofNat ∘ Int.toNat) value = id value :=
      fun value member => Int.toNat_of_nonneg (fitting value member).1
    rw [held, List.map_map, List.map_congr_left each, List.map_id]
  refine ⟨?_, ?_, words, ?_⟩
  · simp [tabulates.idToName, tabulates.nameToId, tabulates.constants.length_eq]
  · intro position entry standing
    obtain ⟨inside, rfl⟩ := List.getElem?_eq_some_iff.mp standing
    have within : position < tables.constants.length := tabulates.constants.length_eq ▸ inside
    obtain ⟨own, valued⟩ := tabulates.constants.get within inside
    have fits := (tabulates.consistent.fits _ (List.getElem_mem inside)).1
    have word : (tables.constants[position].2 : Nat) = (registry.ids[position]).id.toNat := by
      simp only [List.get_eq_getElem] at valued
      omega
    refine ⟨tables.constants[position].1, tables.constants[position].2, own, valued,
      RustTables.decimal_of_word valued, ?_, ?_, ?_, ?_⟩
    · simp [standing]
    · simp [tabulates.idToName, standing, word]
    · simp [tabulates.nameToId, standing, word]
    · exact List.getElem?_eq_getElem within
  · rw [words, List.map_map]
    apply List.map_congr_left
    intro word _
    exact RustTables.decimal_of_word rfl

/-- With a list of push notifications, what is wrong with the tables lies in a name or a number. -/
theorem failure_of_listed (listed : ∃ list ∈ registry.lists, list.name = pushListName)
    (failed : (RustTables.ofRegistry registry).result = .error failure) :
    (∃ name identifier, failure = .invalidIdentifier name identifier) ∨
      (∃ first second item, failure = .duplicateName first second item) ∨
      ∃ name id, failure = .idOutOfRange name id := by
  rw [RustTables.ofRegistry_result] at failed
  rcases accepted_or_fault registry with accepted | ⟨reported, fault⟩
  · obtain ⟨rows, list, _, _, made⟩ := RustTables.make_of_accepted accepted
    rw [made] at failed
    contradiction
  rw [RustTables.make_of_firstFault fault] at failed
  obtain rfl := Except.error.inj failed
  cases fault with
  | entry _ _ fault =>
      cases fault with
      | invalid => exact .inl ⟨_, _, rfl⟩
      | duplicate => exact .inr (.inl ⟨_, _, _, rfl⟩)
      | range => exact .inr (.inr ⟨_, _, rfl⟩)
  | unlisted _ absent =>
      obtain ⟨list, member, named⟩ := listed
      exact absurd named (absent list member)
  | pushId => exact .inr (.inr ⟨_, _, rfl⟩)

/-- The Go maps need nothing but a list of push notifications, and without one there is no output of
either kind. Whenever there are Rust tables, there are Go maps for every package, and both hold the
entries of the registry in step. -/
theorem outputs_agree (registry : Registry) :
    (∀ package, (∃ maps, (GoMaps.ofRegistry registry package).result = .ok maps) ↔
      ∃ list ∈ registry.lists, list.name = pushListName) ∧
    ((∀ list ∈ registry.lists, list.name ≠ pushListName) →
      (∀ package, (GoMaps.ofRegistry registry package).result =
        .error (.missingList pushListName)) ∧
      ∃ failure, (RustTables.ofRegistry registry).result = .error failure) ∧
    (∀ tables, (RustTables.ofRegistry registry).result = .ok tables →
      ∀ package, ∃ maps, (GoMaps.ofRegistry registry package).result = .ok maps ∧
        maps.package = package ∧ InStep registry maps tables) ∧
    ∀ package maps failure, (GoMaps.ofRegistry registry package).result = .ok maps →
      (RustTables.ofRegistry registry).result = .error failure →
      (∃ name identifier, failure = .invalidIdentifier name identifier) ∨
        (∃ first second item, failure = .duplicateName first second item) ∨
        ∃ name id, failure = .idOutOfRange name id := by
  refine ⟨GoMaps.exists_ofRegistry_iff registry, ?_, ?_, ?_⟩
  · intro absent
    refine ⟨fun package => GoMaps.ofRegistry_of_absent package absent, ?_⟩
    cases made : (RustTables.ofRegistry registry).result with
    | error failure => exact ⟨failure, rfl⟩
    | ok tables =>
        obtain ⟨list, first, _⟩ := (RustTables.tabulates_of_result made).pushIds
        have ⟨before, after, split, named, _⟩ := first
        exact absurd named (absent list (by simp [split]))
  · intro tables made package
    have tabulates := RustTables.tabulates_of_result made
    obtain ⟨list, first, _⟩ := tabulates.pushIds
    exact ⟨_, GoMaps.ofRegistry_of_isPushList package first, rfl, inStep_of_tabulates tabulates first⟩
  · intro package maps failure made failed
    exact failure_of_listed ((GoMaps.exists_ofRegistry_iff registry package).mp ⟨maps, made⟩) failed

/-- The greatest number that fits, and two lists of push notifications. -/
theorem outputs_agree_first_list :
    let registry : Registry :=
      ⟨[⟨"Qot_Sub", 4294967295⟩, ⟨"_A", 0⟩], [⟨pushListName, [8, 7]⟩, ⟨pushListName, []⟩]⟩
    let tables : RustTables :=
      ⟨[("QOT_SUB", 4294967295), ("A", 0)], [(4294967295, "QotSub"), (0, "A")],
        [("QotSub", 4294967295), ("A", 0)], [8, 7]⟩
    (RustTables.ofRegistry registry).result = .ok tables ∧
      ∃ maps, (GoMaps.ofRegistry registry "futu").result = .ok maps ∧
        maps.package = "futu" ∧ InStep registry maps tables := by
  intro registry tables
  have made : (RustTables.ofRegistry registry).result = .ok tables := rfl
  obtain ⟨_, _, both, _⟩ := outputs_agree registry
  exact ⟨made, both tables made "futu"⟩

/-- A number of more than 32 bits has a row in the Go maps and none in the Rust tables. -/
example : (∃ maps, (GoMaps.ofRegistry ⟨[⟨"A", 4294967296⟩], [⟨pushListName, [-1]⟩]⟩ "main").result =
      .ok maps) ∧
    (RustTables.ofRegistry ⟨[⟨"A", 4294967296⟩], [⟨pushListName, [-1]⟩]⟩).result =
      .error (.idOutOfRange "A" 4294967296) := ⟨⟨_, rfl⟩, rfl⟩

end Outputs

end IdRegistry
