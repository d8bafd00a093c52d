import IdRegistry.Classification
import Mathlib.Data.List.Forall2
import Mathlib.Data.List.Nodup
import Mathlib.Data.List.Perm.Subperm
import Mathlib.Data.Nat.Find

namespace IdRegistry

/-! Each definition contributes to a registry on its own: `identifier?` and `integerList?` say what, and
`kept` collects it. Definitions bear on one another only through their names. The run lemma
`classifyAfter_append` says how a stretch of new names is passed, whatever its entries contribute;
`classify_outcome` then settles every sequence of definitions by the first name that comes again.
-/

/-- The name at a position stands at an earlier position too. -/
def RepeatsAt (names : List String) (position : Nat) : Prop :=
  ∃ earlier name, earlier < position ∧ names[earlier]? = some name ∧ names[position]? = some name

/-- The name at the first position that repeats an earlier one. -/
def FirstRepeat (names : List String) (name : String) : Prop :=
  ∃ position, names[position]? = some name ∧ RepeatsAt names position ∧
    ∀ before < position, ¬ RepeatsAt names before

theorem exists_repeatsAt_iff {names : List String} :
    (∃ position, RepeatsAt names position) ↔ ¬ names.Nodup := by
  rw [List.nodup_iff_getElem?_ne_getElem?]
  constructor
  · rintro ⟨position, earlier, name, before, first, again⟩ distinct
    have inside : position < names.length := (List.getElem?_eq_some_iff.mp again).1
    exact distinct earlier position before inside (first.trans again.symm)
  · intro repeated
    push Not at repeated
    obtain ⟨earlier, position, before, inside, same⟩ := repeated
    have again : names[position]? = some names[position] := List.getElem?_eq_getElem inside
    exact ⟨position, earlier, names[position], before, same.trans again, again⟩

theorem repeatsAt_append {names later : List String} {position : Nat}
    (inside : position < names.length) :
    RepeatsAt (names ++ later) position ↔ RepeatsAt names position := by
  unfold RepeatsAt
  refine exists_congr fun earlier => exists_congr fun name => and_congr_right fun before => ?_
  rw [List.getElem?_append_left (Nat.lt_trans before inside), List.getElem?_append_left inside]

theorem nodup_take_of_first {names : List String} {position : Nat}
    (first : ∀ before < position, ¬ RepeatsAt names before) : (names.take position).Nodup := by
  by_contra repeated
  obtain ⟨other, repeats⟩ := exists_repeatsAt_iff.mpr repeated
  obtain ⟨_, _, _, _, again⟩ := id repeats
  have low : other < (names.take position).length := (List.getElem?_eq_some_iff.mp again).1
  refine first other (Nat.lt_of_lt_of_le low (List.length_take_le _ _)) ?_
  rw [← List.take_append_drop position names]
  exact (repeatsAt_append low).mpr repeats

theorem firstRepeat_iff_split {names : List String} {name : String} :
    FirstRepeat names name ↔
      ∃ before later, names = before ++ name :: later ∧ before.Nodup ∧ name ∈ before := by
  constructor
  · rintro ⟨position, found, ⟨earlier, same, before, first, again⟩, least⟩
    obtain ⟨inside, rfl⟩ := List.getElem?_eq_some_iff.mp found
    have split : names = names.take position ++ names[position] :: names.drop (position + 1) := by
      rw [← List.drop_eq_getElem_cons inside, List.take_append_drop]
    refine ⟨_, _, split, nodup_take_of_first least, ?_⟩
    have same : same = names[position] := Option.some.inj (again.symm.trans found)
    subst same
    exact List.mem_of_getElem? ((List.getElem?_take_of_lt before).trans first)
  · rintro ⟨before, later, rfl, distinct, member⟩
    have found : (before ++ name :: later)[before.length]? = some name := by simp
    obtain ⟨earlier, low, first⟩ := List.getElem_of_mem member
    refine ⟨before.length, found, ⟨earlier, name, low, ?_, found⟩, ?_⟩
    · rw [List.getElem?_append_left low, List.getElem?_eq_getElem low, first]
    · intro position low repeats
      exact exists_repeatsAt_iff.mp ⟨position, (repeatsAt_append low).mp repeats⟩ distinct

theorem exists_firstRepeat {names : List String} (repeated : ¬ names.Nodup) :
    ∃ name, FirstRepeat names name := by
  classical
  have exists_repeat := exists_repeatsAt_iff.mpr repeated
  have repeats := Nat.find_spec exists_repeat
  obtain ⟨_, name, _, _, found⟩ := id repeats
  exact ⟨name, Nat.find exists_repeat, found, repeats,
    fun before low => Nat.find_min exists_repeat low⟩

/-- The identifier that a definition gives: that of a constant with a public name and an integer as
its value. -/
def Definition.identifier? : Definition → Option ProtocolId
  | .constant name value =>
      if isPrivate name then none else (Text.integer? value).map (ProtocolId.mk name)
  | .list _ _ => none
  | .helper _ => none

/-- The list that a definition gives: one with a public name and integers only. -/
def Definition.integerList? : Definition → Option IdList
  | .constant _ _ => none
  | .list name items =>
      if isPrivate name then none else (items.mapM Text.integer?).map (IdList.mk name)
  | .helper _ => none

def kept (definitions : List Definition) : Registry where
  ids := definitions.filterMap Definition.identifier?
  lists := definitions.filterMap Definition.integerList?

instance : Append Registry where
  append first second := ⟨first.ids ++ second.ids, first.lists ++ second.lists⟩

def Registry.names (registry : Registry) : List String :=
  registry.ids.map ProtocolId.name ++ registry.lists.map IdList.name

@[simp] theorem Registry.ids_append (first second : Registry) :
    (first ++ second).ids = first.ids ++ second.ids := rfl

@[simp] theorem Registry.lists_append (first second : Registry) :
    (first ++ second).lists = first.lists ++ second.lists := rfl

theorem Registry.append_assoc (first second third : Registry) :
    first ++ second ++ third = first ++ (second ++ third) := by
  show Registry.mk _ _ = Registry.mk _ _
  simp

theorem Registry.append_empty (registry : Registry) : registry ++ Registry.empty = registry := by
  show Registry.mk _ _ = _
  simp [Registry.empty]

theorem kept_cons (definition : Definition) (rest : List Definition) :
    kept (definition :: rest) = kept [definition] ++ kept rest := by
  show Registry.mk _ _ = Registry.mk _ _
  simp only [kept, ← List.filterMap_append, List.singleton_append]

theorem integers?_eq_mapM (items : List String) : integers? items = items.mapM Text.integer? := by
  induction items with
  | nil => rfl
  | cons item rest ih =>
      rw [integers?, ih, List.mapM_cons]
      cases Text.integer? item with
      | none => rfl
      | some value => cases rest.mapM Text.integer? <;> rfl

theorem integers?_eq_some_iff {items : List String} {values : List Int} :
    integers? items = some values ↔
      List.Forall₂ (fun item value => Text.integer? item = some value) items values := by
  induction items generalizing values with
  | nil => simp [integers?, eq_comm]
  | cons item rest ih =>
      rw [List.forall₂_cons_left_iff, integers?]
      constructor
      · intro read
        cases first : Text.integer? item with
        | none => simp [first] at read
        | some value =>
            cases others : integers? rest with
            | none => simp [first, others] at read
            | some later =>
                simp only [first, others, Option.some.injEq] at read
                exact ⟨value, later, rfl, ih.mp others, read.symm⟩
      · rintro ⟨value, later, first, others, rfl⟩
        simp only [first, ih.mpr others]

theorem Definition.judge_addTo (definition : Definition) (registry : Registry) :
    definition.judge.addTo registry = kept [definition] ++ registry := by
  cases definition with
  | constant name value =>
      cases hidden : isPrivate name <;> cases read : Text.integer? value <;>
        simp [judge, Definition.name, kept, identifier?, integerList?, hidden, read] <;> rfl
  | list name items =>
      cases hidden : isPrivate name <;> cases read : items.mapM Text.integer? <;>
        simp [judge, Definition.name, kept, identifier?, integerList?, integers?_eq_mapM, hidden,
          read] <;> rfl
  | helper name =>
      cases hidden : isPrivate name <;>
        simp [judge, Definition.name, kept, identifier?, integerList?, hidden] <;> rfl

/-- The outcome for definitions when others, whose names bear on nothing, come before them. -/
def Reported.preceded (before : List Definition) (later : Reported Registry) : Reported Registry where
  notices := before.flatMap (fun definition => definition.judge.notices) ++ later.notices
  result := later.result.map (kept before ++ ·)

theorem Reported.preceded_nil (later : Reported Registry) : later.preceded [] = later := by
  obtain ⟨notices, result⟩ := later
  cases result <;> rfl

theorem Reported.preceded_cons (definition : Definition) (rest : List Definition)
    (later : Reported Registry) :
    (later.preceded rest).preceded [definition] = later.preceded (definition :: rest) := by
  obtain ⟨notices, result⟩ := later
  have append (registry : Registry) :
      kept [definition] ++ (kept rest ++ registry) = kept (definition :: rest) ++ registry := by
    rw [kept_cons definition rest, Registry.append_assoc]
  cases result <;> simp [preceded, Except.map, append]

theorem classifyAfter_cons {used : List String} {definition : Definition} {rest : List Definition}
    (fresh : definition.name ∉ used) :
    classifyAfter used (definition :: rest) =
      (classifyAfter (definition.name :: used) rest).preceded [definition] := by
  have add : definition.judge.addTo = (kept [definition] ++ ·) :=
    funext definition.judge_addTo
  simp [classifyAfter, fresh, Reported.preceded, add]

/-- Definitions whose names are new, to one another and to what came before, are passed one by one.
What follows depends on them through their names only. -/
theorem classifyAfter_append {used : List String} {before : List Definition}
    (distinct : (before.map Definition.name).Nodup)
    (fresh : ∀ definition ∈ before, definition.name ∉ used) (later : List Definition) :
    classifyAfter used (before ++ later) =
      (classifyAfter ((before.map Definition.name).reverse ++ used) later).preceded before := by
  induction before generalizing used with
  | nil => exact (Reported.preceded_nil _).symm
  | cons definition before ih =>
      obtain ⟨new, distinct⟩ := List.nodup_cons.mp distinct
      have freshAfter : ∀ other ∈ before, other.name ∉ definition.name :: used := by
        intro other member used_before
        rcases List.mem_cons.mp used_before with same | earlier
        · exact new (same ▸ List.mem_map_of_mem member)
        · exact fresh other (List.mem_cons_of_mem _ member) earlier
      rw [List.cons_append, classifyAfter_cons (fresh definition List.mem_cons_self),
        ih distinct freshAfter, Reported.preceded_cons]
      simp only [List.map_cons, List.reverse_cons, List.append_assoc, List.singleton_append]

theorem classify_of_nodup {definitions : List Definition}
    (distinct : (definitions.map Definition.name).Nodup) :
    (classify definitions).result = .ok (kept definitions) := by
  have passed : classifyAfter [] (definitions ++ []) = _ :=
    classifyAfter_append distinct (by simp) []
  rw [List.append_nil] at passed
  rw [classify, passed]
  exact congrArg Except.ok (Registry.append_empty _)

/-- The first name that comes again ends the reading, whatever is kept or left out before it. -/
theorem classify_of_firstRepeat {definitions : List Definition} {name : String}
    (repeated : FirstRepeat (definitions.map Definition.name) name) :
    (classify definitions).result = .error (.duplicateEntry name) := by
  obtain ⟨names, laterNames, split, distinct, member⟩ := firstRepeat_iff_split.mp repeated
  obtain ⟨before, rest, rfl, rfl, tail⟩ := List.map_eq_append_iff.mp split
  obtain ⟨definition, later, rfl, rfl, rfl⟩ := List.map_eq_cons_iff.mp tail
  have ended : (classifyAfter ((before.map Definition.name).reverse ++ [])
      (definition :: later)).result = .error (.duplicateEntry definition.name) := by
    have again : definition.name ∈ (before.map Definition.name).reverse ++ [] := by
      simpa using member
    rw [classifyAfter, if_pos again]
  rw [classify, classifyAfter_append distinct (by simp), Reported.preceded, ended]
  rfl

theorem Definition.identifier?_eq_some_iff {definition : Definition} {entry : ProtocolId} :
    definition.identifier? = some entry ↔ ∃ value, definition = .constant entry.name value ∧
      isPrivate entry.name = false ∧ Text.integer? value = some entry.id := by
  constructor
  · intro gives
    cases definition with
    | constant name value =>
        simp only [identifier?, Option.ite_none_left_eq_some, Option.map_eq_some_iff] at gives
        obtain ⟨shown, id, read, rfl⟩ := gives
        exact ⟨value, rfl, by simpa using shown, read⟩
    | list name items => simp [identifier?] at gives
    | helper name => simp [identifier?] at gives
  · rintro ⟨value, rfl, shown, read⟩
    simp [identifier?, shown, read]

theorem Definition.integerList?_eq_some_iff {definition : Definition} {list : IdList} :
    definition.integerList? = some list ↔ ∃ items, definition = .list list.name items ∧
      isPrivate list.name = false ∧
        List.Forall₂ (fun item value => Text.integer? item = some value) items list.values := by
  constructor
  · intro gives
    cases definition with
    | constant name value => simp [integerList?] at gives
    | list name items =>
        simp only [integerList?, Option.ite_none_left_eq_some, Option.map_eq_some_iff,
          ← integers?_eq_mapM] at gives
        obtain ⟨shown, values, read, rfl⟩ := gives
        exact ⟨items, rfl, by simpa using shown, integers?_eq_some_iff.mp read⟩
    | helper name => simp [integerList?] at gives
  · rintro ⟨items, rfl, shown, read⟩
    rw [← integers?_eq_some_iff, integers?_eq_mapM] at read
    simp [integerList?, shown, read]

theorem Definition.name_of_identifier? {definition : Definition} {entry : ProtocolId}
    (gives : definition.identifier? = some entry) :
    definition.name = entry.name ∧ isPrivate entry.name = false := by
  obtain ⟨value, rfl, shown, _⟩ := identifier?_eq_some_iff.mp gives
  exact ⟨rfl, shown⟩

theorem Definition.name_of_integerList? {definition : Definition} {list : IdList}
    (gives : definition.integerList? = some list) :
    definition.name = list.name ∧ isPrivate list.name = false := by
  obtain ⟨items, rfl, shown, _⟩ := integerList?_eq_some_iff.mp gives
  exact ⟨rfl, shown⟩

theorem Registry.names_append_perm (first second : Registry) :
    (first ++ second).names.Perm (first.names ++ second.names) := by
  simp only [names, ids_append, lists_append, List.map_append, List.append_assoc]
  refine List.Perm.append_left _ ?_
  simp only [← List.append_assoc]
  exact List.Perm.append_right _ List.perm_append_comm

theorem names_kept_singleton (definition : Definition) :
    (kept [definition]).names.Sublist [definition.name] := by
  cases definition with
  | constant name value =>
      cases hidden : isPrivate name <;> cases read : Text.integer? value <;>
        simp [kept, Registry.names, Definition.identifier?, Definition.integerList?,
          Definition.name, hidden, read]
  | list name items =>
      cases hidden : isPrivate name <;> cases read : items.mapM Text.integer? <;>
        simp [kept, Registry.names, Definition.identifier?, Definition.integerList?,
          Definition.name, hidden, read]
  | helper name =>
      simp [kept, Registry.names, Definition.identifier?, Definition.integerList?]

theorem names_kept_subperm (definitions : List Definition) :
    (kept definitions).names.Subperm (definitions.map Definition.name) := by
  induction definitions with
  | nil => exact .refl _
  | cons definition rest ih =>
      have parts := Registry.names_append_perm (kept [definition]) (kept rest)
      rw [← kept_cons] at parts
      exact parts.subperm.trans ((names_kept_singleton definition).subperm.append ih)

theorem nodup_names_kept {definitions : List Definition}
    (distinct : (definitions.map Definition.name).Nodup) : (kept definitions).names.Nodup := by
  obtain ⟨names, reordered, chosen⟩ := names_kept_subperm definitions
  exact reordered.nodup_iff.mp (chosen.nodup distinct)

theorem isPrivate_of_mem_names_kept {definitions : List Definition} {name : String}
    (member : name ∈ (kept definitions).names) : isPrivate name = false := by
  simp only [Registry.names, kept, List.mem_append, List.mem_map, List.mem_filterMap] at member
  rcases member with ⟨entry, ⟨definition, _, gives⟩, rfl⟩ | ⟨list, ⟨definition, _, gives⟩, rfl⟩
  · exact (Definition.name_of_identifier? gives).2
  · exact (Definition.name_of_integerList? gives).2

theorem classify_eq_error_iff {definitions : List Definition} {failure : Failure} :
    (classify definitions).result = .error failure ↔
      ∃ name, failure = .duplicateEntry name ∧
        FirstRepeat (definitions.map Definition.name) name := by
  constructor
  · intro failed
    by_cases distinct : (definitions.map Definition.name).Nodup
    · rw [classify_of_nodup distinct] at failed
      contradiction
    · obtain ⟨name, first⟩ := exists_firstRepeat distinct
      rw [classify_of_firstRepeat first] at failed
      exact ⟨name, (Except.error.inj failed).symm, first⟩
  · rintro ⟨name, rfl, first⟩
    exact classify_of_firstRepeat first

theorem classify_eq_ok_iff {definitions : List Definition} {registry : Registry} :
    (classify definitions).result = .ok registry ↔
      (definitions.map Definition.name).Nodup ∧ registry = kept definitions := by
  constructor
  · intro result
    by_cases distinct : (definitions.map Definition.name).Nodup
    · rw [classify_of_nodup distinct] at result
      exact ⟨distinct, (Except.ok.inj result).symm⟩
    · obtain ⟨name, first⟩ := exists_firstRepeat distinct
      rw [classify_of_firstRepeat first] at result
      contradiction
  · rintro ⟨distinct, rfl⟩
    exact classify_of_nodup distinct

/-- Reading definitions fails if and only if a name comes again, and then by the first that does.
Otherwise the registry holds, in order, what each definition gives on its own, so no two of its
entries share a name and none is private. -/
theorem classify_outcome (definitions : List Definition) :
    ((∃ name, (classify definitions).result = .error (.duplicateEntry name)) ↔
      ∃ position, RepeatsAt (definitions.map Definition.name) position) ∧
    (∀ failure, (classify definitions).result = .error failure ↔
      ∃ name, failure = .duplicateEntry name ∧
        FirstRepeat (definitions.map Definition.name) name) ∧
    (∀ registry, (classify definitions).result = .ok registry ↔
      (¬ ∃ position, RepeatsAt (definitions.map Definition.name) position) ∧
        registry.ids = definitions.filterMap Definition.identifier? ∧
        registry.lists = definitions.filterMap Definition.integerList?) ∧
    (∀ registry, (classify definitions).result = .ok registry →
      registry.names.Nodup ∧ ∀ name ∈ registry.names, isPrivate name = false) := by
  have repeats : (∃ position, RepeatsAt (definitions.map Definition.name) position) ↔
      ¬ (definitions.map Definition.name).Nodup := exists_repeatsAt_iff
  refine ⟨?_, fun failure => classify_eq_error_iff, ?_, ?_⟩
  · rw [repeats]
    constructor
    · rintro ⟨name, failed⟩ distinct
      rw [classify_of_nodup distinct] at failed
      contradiction
    · intro repeated
      obtain ⟨name, first⟩ := exists_firstRepeat repeated
      exact ⟨name, classify_of_firstRepeat first⟩
  · intro registry
    rw [classify_eq_ok_iff, repeats, not_not]
    obtain ⟨ids, lists⟩ := registry
    simp only [kept, Registry.mk.injEq]
  · intro registry result
    obtain ⟨distinct, rfl⟩ := classify_eq_ok_iff.mp result
    exact ⟨nodup_names_kept distinct, fun name => isPrivate_of_mem_names_kept⟩

/-- Names of entries that give nothing count: the helper repeats a constant that is left out, and
stands before the second private entry. Without the two the same entries are read. -/
theorem classify_outcome_left_out :
    (classify [.constant "_p" "1", .constant "Foo" "bar", .helper "Foo", .constant "_p" "2"]).result =
        .error (.duplicateEntry "Foo") ∧
      (classify [.constant "_p" "1", .constant "Foo" "bar", .list "L" [" +7 ", "-2"]]).result =
        .ok ⟨[], [⟨"L", [7, -2]⟩]⟩ ∧
      (Registry.mk [] [⟨"L", [7, -2]⟩]).names.Nodup := by
  have read : (classify [.constant "_p" "1", .constant "Foo" "bar",
      .list "L" [" +7 ", "-2"]]).result = .ok ⟨[], [⟨"L", [7, -2]⟩]⟩ := rfl
  refine ⟨((classify_outcome _).2.1 _).mpr ⟨"Foo", rfl, 2, rfl, ⟨1, "Foo", by decide, rfl, rfl⟩, ?_⟩,
    read, ((classify_outcome _).2.2.2 _ read).1⟩
  rintro before low ⟨earlier, name, earlierLow, first, again⟩
  obtain rfl : before = 1 := by omega
  obtain rfl : earlier = 0 := by omega
  exact absurd (first.trans again.symm) (by decide)

end IdRegistry
