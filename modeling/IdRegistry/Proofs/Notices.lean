import IdRegistry.Command.Run
import IdRegistry.Proofs.Classification
import IdRegistry.Proofs.Output.Lookup

namespace IdRegistry

/-- The notice that a definition is left out: a constant or a list with a public name that has
something else than integers. -/
def Definition.leftOut? : Definition → Option Notice
  | .constant name value =>
      if isPrivate name = false ∧ Text.integer? value = none then some (.skippedConstant name value)
      else none
  | .list name items =>
      if isPrivate name = false ∧ ∃ item ∈ items, Text.integer? item = none then
        some (.skippedList name)
      else none
  | .helper _ => none

/-- The name of the definition that the notice is about. -/
def Notice.subject? : Notice → Option String
  | .skippedConstant name _ => some name
  | .skippedList name => some name
  | _ => none

/-- A result comes with one notice that gives the true counts, and a failure with none. -/
structure Reported.Summed {α : Type} (made : Reported α) (target : Target) (registry : Registry) :
    Prop where
  counted : ∀ result, made.result = .ok result → ∃ pushIds, registry.pushIds = .ok pushIds ∧
    made.notices = [.generated target registry.ids.length pushIds.length]
  silent : ∀ failure, made.result = .error failure → made.notices = []
  severity : ∀ notice ∈ made.notices, notice.severity = .info

theorem integers?_eq_none_iff {items : List String} :
    integers? items = none ↔ ∃ item ∈ items, Text.integer? item = none := by
  induction items with
  | nil => simp [integers?]
  | cons item rest ih =>
      rw [List.exists_mem_cons_iff, ← ih, integers?]
      cases Text.integer? item with
      | none => simp
      | some value => cases integers? rest <;> simp

theorem Definition.judge_notices (definition : Definition) :
    definition.judge.notices = definition.leftOut?.toList := by
  cases definition with
  | constant name value =>
      cases hidden : isPrivate name <;> cases read : Text.integer? value <;>
        simp [judge, leftOut?, Definition.name, Judgement.notices, hidden, read]
  | list name items =>
      have broken := @integers?_eq_none_iff items
      cases hidden : isPrivate name <;> cases read : integers? items <;>
        simp [judge, leftOut?, Definition.name, Judgement.notices, hidden, read, ← broken]
  | helper name =>
      cases hidden : isPrivate name <;>
        simp [judge, leftOut?, Definition.name, Judgement.notices, hidden]

theorem Reported.notices_preceded (before : List Definition) (later : Reported Registry) :
    (later.preceded before).notices = before.filterMap Definition.leftOut? ++ later.notices := by
  have each : (fun definition : Definition => definition.judge.notices) =
      fun definition => definition.leftOut?.toList := funext Definition.judge_notices
  rw [preceded, each, List.filterMap_eq_flatMap_toList]

theorem notices_of_nodup {definitions : List Definition}
    (distinct : (definitions.map Definition.name).Nodup) :
    (classify definitions).notices = definitions.filterMap Definition.leftOut? := by
  have passed : classifyAfter [] (definitions ++ []) = _ :=
    classifyAfter_append distinct (by simp) []
  rw [List.append_nil] at passed
  rw [classify, passed, Reported.notices_preceded]
  exact List.append_nil _

/-- Nothing is reported from the first name on that comes again. -/
theorem notices_of_repeatsAt {definitions : List Definition} {position : Nat}
    (repeats : RepeatsAt (definitions.map Definition.name) position)
    (first : ∀ before < position, ¬ RepeatsAt (definitions.map Definition.name) before) :
    (classify definitions).notices =
      (definitions.take position).filterMap Definition.leftOut? := by
  have distinct := nodup_take_of_first first
  rw [← List.map_take] at distinct
  obtain ⟨earlier, name, low, found, again⟩ := repeats
  rw [List.getElem?_map, Option.map_eq_some_iff] at again
  obtain ⟨definition, standing, named⟩ := again
  obtain ⟨inside, rfl⟩ := List.getElem?_eq_some_iff.mp standing
  have member : definitions[position].name ∈
      ((definitions.take position).map Definition.name).reverse ++ [] := by
    rw [List.append_nil, List.mem_reverse, named, List.map_take]
    exact List.mem_of_getElem? ((List.getElem?_take_of_lt low).trans found)
  have ended : classifyAfter [] (definitions.take position ++ definitions.drop position) = _ :=
    classifyAfter_append distinct (by simp) (definitions.drop position)
  rw [List.take_append_drop, List.drop_eq_getElem_cons inside, classifyAfter, if_pos member] at ended
  rw [classify, ended, Reported.notices_preceded, List.append_nil]

theorem subject_of_leftOut? {definition : Definition} {notice : Notice}
    (left : definition.leftOut? = some notice) : notice.subject? = some definition.name := by
  cases definition with
  | constant name value =>
      obtain ⟨_, same⟩ := Option.ite_none_right_eq_some.mp left
      exact Option.some.inj same ▸ rfl
  | list name items =>
      obtain ⟨_, same⟩ := Option.ite_none_right_eq_some.mp left
      exact Option.some.inj same ▸ rfl
  | helper name => contradiction

/-- A notice with a subject is one of what is left out, and its wording has the name. -/
theorem naming_of_subject? {notice : Notice} {name : String} (subject : notice.subject? = some name) :
    notice.severity = .debug ∧ ∃ before after, notice.message = before ++ name ++ after := by
  cases notice with
  | skippedConstant found value =>
      obtain rfl := Option.some.inj subject
      refine ⟨rfl, "skipping non-integer constant ",
        " = " ++ String.ofList (Text.shown value.toList), ?_⟩
      rw [← String.append_assoc]
      rfl
  | skippedList found =>
      obtain rfl := Option.some.inj subject
      exact ⟨rfl, "skipping list ", " with non-integer items", rfl⟩
  | _ => contradiction

section Accounts

variable {definitions : List Definition} {registry : Registry} {name : String}

/-- What only definitions of one name can give is given as often as the one definition of that name
gives it. -/
theorem count_filterMap {α : Type} [DecidableEq α] {give : Definition → Option α} {given : α}
    {definition : Definition} (owned : ∀ other, give other = some given → other.name = definition.name)
    (distinct : (definitions.map Definition.name).Nodup) (member : definition ∈ definitions) :
    (definitions.filterMap give).count given = if give definition = some given then 1 else 0 := by
  obtain ⟨before, after, rfl⟩ := List.append_of_mem member
  rw [List.map_append, List.map_cons, List.nodup_middle, List.nodup_cons, ← List.map_append] at distinct
  have absent (others : List Definition) (among : ∀ other ∈ others, other ∈ before ++ after) :
      (others.filterMap give).count given = 0 := by
    rw [List.count_eq_zero, List.mem_filterMap]
    rintro ⟨other, isOther, gives⟩
    exact distinct.1 (owned other gives ▸ List.mem_map_of_mem (among other isOther))
  rw [List.filterMap_append, List.count_append, absent before fun _ => List.mem_append_left _,
    ← List.singleton_append, List.filterMap_append, List.count_append,
    absent after fun _ => List.mem_append_right _]
  cases gives : give definition with
  | none => simp [gives]
  | some other => simp [gives, List.count_singleton]

/-- A public constant is an identifier of the registry, or there is a notice of it. -/
theorem count_constant {value : String} (result : (classify definitions).result = .ok registry)
    (member : .constant name value ∈ definitions) (shown : isPrivate name = false) :
    (registry.ids.map ProtocolId.name).count name +
      (classify definitions).notices.count (.skippedConstant name value) = 1 := by
  obtain ⟨distinct, rfl⟩ := classify_eq_ok_iff.mp result
  have giver : ∀ other : Definition, other.identifier?.map ProtocolId.name = some name →
      other.name = name := by
    intro other gives
    obtain ⟨entry, given, named⟩ := Option.map_eq_some_iff.mp gives
    exact (Definition.name_of_identifier? given).1.trans named
  have leaver : ∀ other : Definition, other.leftOut? = some (.skippedConstant name value) →
      other.name = name :=
    fun other left => (Option.some.inj (subject_of_leftOut? left)).symm
  rw [notices_of_nodup distinct, kept, List.map_filterMap, count_filterMap giver distinct member,
    count_filterMap leaver distinct member]
  cases read : Text.integer? value <;>
    simp [Definition.identifier?, Definition.leftOut?, shown, read]

/-- A public list is a list of the registry, or there is a notice of it. -/
theorem count_list {items : List String} (result : (classify definitions).result = .ok registry)
    (member : .list name items ∈ definitions) (shown : isPrivate name = false) :
    (registry.lists.map IdList.name).count name +
      (classify definitions).notices.count (.skippedList name) = 1 := by
  obtain ⟨distinct, rfl⟩ := classify_eq_ok_iff.mp result
  have giver : ∀ other : Definition, other.integerList?.map IdList.name = some name →
      other.name = name := by
    intro other gives
    obtain ⟨list, given, named⟩ := Option.map_eq_some_iff.mp gives
    exact (Definition.name_of_integerList? given).1.trans named
  have leaver : ∀ other : Definition, other.leftOut? = some (.skippedList name) →
      other.name = name :=
    fun other left => (Option.some.inj (subject_of_leftOut? left)).symm
  have broken := @integers?_eq_none_iff items
  rw [notices_of_nodup distinct, kept, List.map_filterMap, count_filterMap giver distinct member,
    count_filterMap leaver distinct member]
  rw [integers?_eq_mapM] at broken
  cases read : items.mapM Text.integer? <;>
    simp [Definition.integerList?, Definition.leftOut?, shown, read, ← broken]

end Accounts

theorem Reported.Summed.of_failure {α : Type} {target : Target} {registry : Registry}
    {failure : Failure} : (⟨[], .error failure⟩ : Reported α).Summed target registry :=
  ⟨nofun, fun _ _ => rfl, nofun⟩

theorem Reported.Summed.of_result {α : Type} {target : Target} {registry : Registry} {result : α}
    {pushIds : List Int} (listed : registry.pushIds = .ok pushIds) :
    (⟨[.generated target registry.ids.length pushIds.length], .ok result⟩ : Reported α).Summed
      target registry where
  counted _ _ := ⟨pushIds, listed, rfl⟩
  silent := nofun
  severity notice member := by
    obtain rfl := List.mem_singleton.mp member
    rfl

theorem Reported.Summed.map {α β : Type} {target : Target} {registry : Registry}
    {made : Reported α} (summed : made.Summed target registry) (form : α → β) :
    (⟨made.notices, made.result.map form⟩ : Reported β).Summed target registry := by
  obtain ⟨notices, result⟩ := made
  cases result with
  | error failure =>
      obtain rfl : notices = [] := summed.silent failure rfl
      exact .of_failure
  | ok result =>
      obtain ⟨pushIds, listed, rfl⟩ := summed.counted result rfl
      exact .of_result listed

theorem GoMaps.summed (registry : Registry) (package : String) :
    (ofRegistry registry package).Summed .go registry := by
  rw [ofRegistry]
  cases listed : registry.pushIds with
  | error failure => exact .of_failure
  | ok pushIds =>
      simp only [List.length_map]
      exact .of_result listed

theorem RustTables.summed (registry : Registry) :
    (ofRegistry registry).Summed .rust registry := by
  rw [ofRegistry]
  cases made : make registry with
  | error failure => exact .of_failure
  | ok tables =>
      have tabulates : tables.Tabulates registry :=
        tabulates_of_result ((ofRegistry_result registry).trans made)
      obtain ⟨list, first, _, held⟩ := tabulates.pushIds
      have constants : tables.constants.length = registry.ids.length := tabulates.constants.length_eq
      have pushIds : tables.pushIds.length = list.values.length := by rw [held, List.length_map]
      simp only [constants, pushIds]
      exact .of_result (Registry.pushIds_of_isPushList first)

theorem Command.Request.render_summed (request : Request) (registry : Registry) :
    (request.render registry).Summed request.target registry := by
  rw [render]
  cases request.target with
  | go => exact (GoMaps.summed registry request.package).map _
  | rust => exact (RustTables.summed registry).map _

/-- Up to the first name that comes again, each definition that is left out has one notice, and the
private ones and the helpers have none. If no name comes again, every public constant and list is
either in the registry or in one notice, and never in both. After that there is one notice more, with
the true counts, if and only if the text is made. -/
theorem notices_account (definitions : List Definition) :
    let names := definitions.map Definition.name
    let judged := classify definitions
    (∀ position, RepeatsAt names position → (∀ before < position, ¬ RepeatsAt names before) →
      judged.notices = (definitions.take position).filterMap Definition.leftOut?) ∧
    ((∀ position, ¬ RepeatsAt names position) →
      judged.notices = definitions.filterMap Definition.leftOut?) ∧
    (∀ (definition : Definition) notice, definition.leftOut? = some notice →
      notice.severity = .debug ∧
        ∃ before after, notice.message = before ++ definition.name ++ after) ∧
    (∀ registry, judged.result = .ok registry →
      (∀ name value, .constant name value ∈ definitions → isPrivate name = false →
        (registry.ids.map ProtocolId.name).count name +
          judged.notices.count (.skippedConstant name value) = 1) ∧
      (∀ name items, .list name items ∈ definitions → isPrivate name = false →
        (registry.lists.map IdList.name).count name +
          judged.notices.count (.skippedList name) = 1) ∧
      ∀ request : Command.Request, ∃ text : Reported String,
        text.Summed request.target registry ∧
          request.complete judged = ⟨judged.notices ++ text.notices, text.result⟩) ∧
    (∀ failure, judged.result = .error failure →
      ∀ request : Command.Request, request.complete judged = ⟨judged.notices, .error failure⟩) ∧
    ∀ registry : Registry,
      (∀ package, (GoMaps.ofRegistry registry package).Summed .go registry) ∧
        (RustTables.ofRegistry registry).Summed .rust registry := by
  intro names judged
  refine ⟨fun position repeats first => notices_of_repeatsAt repeats first, fun none => ?_,
    fun definition notice left => naming_of_subject? (subject_of_leftOut? left), ?_, ?_,
    fun registry => ⟨GoMaps.summed registry, RustTables.summed registry⟩⟩
  · refine notices_of_nodup (not_not.mp fun repeated => ?_)
    obtain ⟨position, repeats⟩ := exists_repeatsAt_iff.mpr repeated
    exact none position repeats
  · intro registry result
    refine ⟨fun name value => count_constant result, fun name items => count_list result,
      fun request => ⟨request.render registry, request.render_summed registry, ?_⟩⟩
    simp only [Command.Request.complete, judged, result]
  · intro failure failed request
    simp only [Command.Request.complete, judged, failed]

/-- A private constant, a list with one item that is no integer, and a helper that ends the reading. -/
theorem notices_account_left_out :
    let definitions : List Definition := [.constant "_p" "x", .constant "Foo" "bar",
      .list "L" ["1", "y"], .constant "A" " 7", .list "All_PushId" ["-1"]]
    let repeated : List Definition := definitions ++ [.helper "Foo", .constant "B" "z"]
    let registry : Registry := ⟨[⟨"A", 7⟩], [⟨"All_PushId", [-1]⟩]⟩
    (RepeatsAt (repeated.map Definition.name) 5 ∧
      (∀ before < 5, ¬ RepeatsAt (repeated.map Definition.name) before) ∧
      (classify repeated).notices = [.skippedConstant "Foo" "bar", .skippedList "L"]) ∧
    ((classify definitions).result = .ok registry ∧
      .constant "A" " 7" ∈ definitions ∧ isPrivate "A" = false ∧
      (registry.ids.map ProtocolId.name).count "A" +
        (classify definitions).notices.count (.skippedConstant "A" " 7") = 1) ∧
    (GoMaps.ofRegistry registry "main").Summed .go registry ∧
    (RustTables.ofRegistry registry).notices = [] := by
  intro definitions repeated registry
  have again : RepeatsAt (repeated.map Definition.name) 5 := ⟨1, "Foo", by decide, rfl, rfl⟩
  have first : ∀ before < 5, ¬ RepeatsAt (repeated.map Definition.name) before := by
    intro before low repeats
    have inside : RepeatsAt (definitions.map Definition.name) before := by
      rw [List.map_append] at repeats
      exact (repeatsAt_append low).mp repeats
    exact exists_repeatsAt_iff.mp ⟨before, inside⟩ (by decide)
  have result : (classify definitions).result = .ok registry := rfl
  obtain ⟨stops, -⟩ := notices_account repeated
  obtain ⟨-, -, -, kept, -, made⟩ := notices_account definitions
  have member : Definition.constant "A" " 7" ∈ definitions := by decide
  have failed : (RustTables.ofRegistry registry).result =
      .error (.idOutOfRange "All_PushId" (-1)) := rfl
  exact ⟨⟨again, first, stops 5 again first⟩,
    ⟨result, member, rfl, (kept registry result).1 "A" " 7" member rfl⟩,
    (made registry).1 "main", (made registry).2.silent _ failed⟩

end IdRegistry
