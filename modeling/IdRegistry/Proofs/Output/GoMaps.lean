import IdRegistry.Output.GoMaps
import IdRegistry.Proofs.Text.Decimal
import Mathlib.Data.List.Basic

namespace IdRegistry.GoMaps

/-! Names hold no underscore, so the last three underscores of a file are those of its three variables,
whatever the package looks like, and cut it into the package and three sections. Neither map can be
read alone: a name may look like several rows. But the two maps close each name differently, and no
longer name fits both.
-/

theorem append_cons_inj_of_notMem_right {α : Type} {mark : α} {left left' right right' : List α}
    (absent : mark ∉ right) (absent' : mark ∉ right')
    (same : left ++ mark :: right = left' ++ mark :: right') : left = left' ∧ right = right' := by
  rcases List.append_eq_append_iff.mp same with ⟨between, rfl, rest⟩ | ⟨between, rfl, rest⟩
  · cases between with
    | nil => exact ⟨by simp, (List.cons.inj rest).2⟩
    | cons c between => exact absurd (by simp [(List.cons.inj rest).2]) absent
  · cases between with
    | nil => exact ⟨by simp, (List.cons.inj rest).2.symm⟩
    | cons c between => exact absurd (by simp [(List.cons.inj rest).2]) absent'

theorem append_cons_inj_of_notMem_left {α : Type} {mark : α} {left left' right right' : List α}
    (absent : mark ∉ left) (absent' : mark ∉ left')
    (same : left ++ mark :: right = left' ++ mark :: right') : left = left' ∧ right = right' := by
  have reversed := congrArg List.reverse same
  simp only [List.reverse_append, List.reverse_cons, List.append_assoc, List.singleton_append]
    at reversed
  have parts := append_cons_inj_of_notMem_right (by simpa using absent) (by simpa using absent')
    reversed
  exact ⟨List.reverse_injective parts.2, List.reverse_injective parts.1⟩

section Rows

variable {name name' after after' later later' : List Char}

/-- Where one name ends, no other can go on: its next characters would have to be those that close
the name in both maps, and these differ. -/
theorem not_longer {c : Char} (first : '"' :: ',' :: after = c :: name ++ '"' :: ',' :: after')
    (second : '"' :: ':' :: later = c :: name ++ '"' :: ':' :: later') : False := by
  cases name with
  | nil => simp at first
  | cons next rest =>
      have comma : ',' = next := (List.cons.inj (List.cons.inj first).2).1
      have colon : ':' = next := (List.cons.inj (List.cons.inj second).2).1
      exact absurd (comma.trans colon.symm) (by decide)

theorem name_unique (first : name ++ '"' :: ',' :: after = name' ++ '"' :: ',' :: after')
    (second : name ++ '"' :: ':' :: later = name' ++ '"' :: ':' :: later') : name = name' := by
  induction name generalizing name' with
  | nil =>
      cases name' with
      | nil => rfl
      | cons c name' => exact (not_longer first second).elim
  | cons c name ih =>
      cases name' with
      | nil => exact (not_longer first.symm second.symm).elim
      | cons c' name' =>
          obtain ⟨same, first⟩ := List.cons.inj first
          obtain ⟨_, second⟩ := List.cons.inj second
          rw [same, ih first second]

theorem idRow_append (row : Int × String) (rest : List Char) :
    idRow row ++ rest = Text.decimal row.1 ++ ':' :: ' ' :: '"' ::
      (row.2.toList ++ '"' :: ',' :: '\n' :: rest) := by
  simp [idRow, quoted]

theorem nameRow_append (row : Int × String) (rest : List Char) :
    nameRow row ++ rest = '"' :: (row.2.toList ++ '"' :: ':' :: ' ' ::
      (Text.decimal row.1 ++ ',' :: '\n' :: rest)) := by
  simp [nameRow, quoted]

theorem row_unique {row row' : Int × String}
    (ids : idRow row ++ after = idRow row' ++ after')
    (names : nameRow row ++ later = nameRow row' ++ later') : row = row' := by
  rw [idRow_append, idRow_append] at ids
  rw [nameRow_append, nameRow_append] at names
  have noColon := Text.notMem_decimal (c := ':') (by decide) (by decide)
  obtain ⟨number, ids⟩ := append_cons_inj_of_notMem_left (noColon row.1) (noColon row'.1) ids
  have text := name_unique (List.cons.inj (List.cons.inj ids).2).2 (List.cons.inj names).2
  exact Prod.ext (Text.decimal_injective number) (String.toList_inj.mp text)

theorem rows_unique {rows rows' : List (Int × String)}
    (ids : rows.flatMap idRow = rows'.flatMap idRow)
    (names : rows.flatMap nameRow = rows'.flatMap nameRow) : rows = rows' := by
  induction rows generalizing rows' with
  | nil =>
      cases rows' with
      | nil => rfl
      | cons row' rows' => simp [nameRow, quoted] at names
  | cons row rows ih =>
      cases rows' with
      | nil => simp [nameRow, quoted] at names
      | cons row' rows' =>
          rw [List.flatMap_cons, List.flatMap_cons] at ids names
          obtain rfl := row_unique ids names
          rw [ih (List.append_cancel_left ids) (List.append_cancel_left names)]

/-- One map alone does not determine them. -/
example : [(1, "A\",\n2: \"B")].flatMap idRow = [(1, "A"), (2, "B")].flatMap idRow := by decide

end Rows

theorem splitOn_numbers {numbers : List Int} (nonempty : numbers ≠ []) :
    ([','].intercalate (numbers.map Text.decimal)).splitOn ',' = numbers.map Text.decimal := by
  apply List.splitOn_intercalate
  · intro form member
    obtain ⟨number, _, rfl⟩ := List.mem_map.mp member
    exact Text.notMem_decimal (by decide) (by decide) number
  · simpa using nonempty

theorem numbers_ne_nil {number : Int} {rest : List Int} :
    [','].intercalate ((number :: rest).map Text.decimal) ≠ [] := by
  obtain ⟨c, form, written⟩ := List.exists_cons_of_ne_nil (Text.decimal_ne_nil number)
  simp [written]

theorem numbers_unique {numbers numbers' : List Int}
    (same : [','].intercalate (numbers.map Text.decimal) =
      [','].intercalate (numbers'.map Text.decimal)) : numbers = numbers' := by
  cases numbers with
  | nil =>
      cases numbers' with
      | nil => rfl
      | cons number' rest' => exact absurd same.symm numbers_ne_nil
  | cons number rest =>
      cases numbers' with
      | nil => exact absurd same numbers_ne_nil
      | cons number' rest' =>
          have forms := congrArg (List.splitOn ',') same
          rw [splitOn_numbers (List.cons_ne_nil _ _), splitOn_numbers (List.cons_ne_nil _ _)] at forms
          exact List.map_injective_iff.mpr Text.decimal_injective forms

/-- What stands before the first of the three variables' underscores. -/
def opening (package : String) : List Char :=
  "package ".toList ++ (package.toList ++ "\nvar protoid".toList)

/-- A map, from the underscore of its variable to that of the next one. -/
def mapSection (heading : String) (form : Int × String → List Char) (rows : List (Int × String)) :
    List Char :=
  heading.toList ++ (rows.flatMap form ++ "\x7d\nvar protoid".toList)

def idSection : List (Int × String) → List Char :=
  mapSection "id2name = map[int]string\x7b\n" idRow

def nameSection : List (Int × String) → List Char :=
  mapSection "name2id = map[string]int\x7b\n" nameRow

def pushSection (pushIds : List Int) : List Char :=
  "push = []int\x7b".toList ++ ([','].intercalate (pushIds.map Text.decimal) ++ "\x7d\n".toList)

theorem characters_eq_sections (maps : GoMaps) :
    maps.characters = ((opening maps.package ++ '_' :: idSection maps.rows) ++
      '_' :: nameSection maps.rows) ++ '_' :: pushSection maps.pushIds := by
  have ids : "var protoid_id2name = map[int]string\x7b\n".toList =
      "var protoid".toList ++ '_' :: "id2name = map[int]string\x7b\n".toList := by decide
  have names : "var protoid_name2id = map[string]int\x7b\n".toList =
      "var protoid".toList ++ '_' :: "name2id = map[string]int\x7b\n".toList := by decide
  have pushes : "var protoid_push = []int\x7b".toList =
      "var protoid".toList ++ '_' :: "push = []int\x7b".toList := by decide
  have line : "\nvar protoid".toList = '\n' :: "var protoid".toList := by decide
  have close : "\x7d\nvar protoid".toList = "\x7d\n".toList ++ "var protoid".toList := by decide
  unfold characters opening idSection nameSection pushSection mapSection
  simp only [ids, names, pushes, line, close, List.append_assoc, List.cons_append, List.nil_append]

/-- Names as the file holds them have lost their underscores. -/
def Plain (rows : List (Int × String)) : Prop :=
  ∀ row ∈ rows, '_' ∉ row.2.toList

theorem underscore_notMem_decimal (number : Int) : '_' ∉ Text.decimal number :=
  Text.notMem_decimal (by decide) (by decide) number

theorem underscore_notMem_mapSection {heading : String} {form : Int × String → List Char}
    {rows : List (Int × String)} (plain : Plain rows) (noMark : '_' ∉ heading.toList)
    (inside : ∀ row, '_' ∈ form row → '_' ∈ row.2.toList) : '_' ∉ mapSection heading form rows := by
  have body : '_' ∉ rows.flatMap form := by
    rw [List.mem_flatMap]
    rintro ⟨row, member, within⟩
    exact plain row member (inside row within)
  exact List.not_mem_append noMark (List.not_mem_append body (by decide))

theorem underscore_notMem_idSection {rows : List (Int × String)} (plain : Plain rows) :
    '_' ∉ idSection rows := by
  refine underscore_notMem_mapSection plain (by decide) fun row within => ?_
  simpa [idRow, quoted, underscore_notMem_decimal] using within

theorem underscore_notMem_nameSection {rows : List (Int × String)} (plain : Plain rows) :
    '_' ∉ nameSection rows := by
  refine underscore_notMem_mapSection plain (by decide) fun row within => ?_
  simpa [nameRow, quoted, underscore_notMem_decimal] using within

theorem underscore_notMem_pushSection (pushIds : List Int) : '_' ∉ pushSection pushIds := by
  have body : '_' ∉ [','].intercalate (pushIds.map Text.decimal) := by
    induction pushIds with
    | nil => simp
    | cons number rest ih =>
        cases rest with
        | nil => simp [underscore_notMem_decimal]
        | cons next rest => simpa [underscore_notMem_decimal] using ih
  exact List.not_mem_append (by decide) (List.not_mem_append body (by decide))

theorem eq_of_characters {maps maps' : GoMaps} (plain : Plain maps.rows)
    (plain' : Plain maps'.rows) (same : maps.characters = maps'.characters) : maps = maps' := by
  rw [characters_eq_sections, characters_eq_sections] at same
  -- Each step cuts at the last underscore that is left.
  obtain ⟨same, pushes⟩ := append_cons_inj_of_notMem_right
    (underscore_notMem_pushSection _) (underscore_notMem_pushSection _) same
  obtain ⟨same, names⟩ := append_cons_inj_of_notMem_right
    (underscore_notMem_nameSection plain) (underscore_notMem_nameSection plain') same
  obtain ⟨openings, ids⟩ := append_cons_inj_of_notMem_right
    (underscore_notMem_idSection plain) (underscore_notMem_idSection plain') same
  have package := List.append_cancel_right (List.append_cancel_left openings)
  have numbers := List.append_cancel_right (List.append_cancel_left pushes)
  have rows := rows_unique (List.append_cancel_right (List.append_cancel_left ids))
    (List.append_cancel_right (List.append_cancel_left names))
  obtain ⟨package₁, rows₁, pushIds₁⟩ := maps
  obtain ⟨package₂, rows₂, pushIds₂⟩ := maps'
  rw [GoMaps.mk.injEq]
  exact ⟨String.toList_inj.mp package, rows, numbers_unique numbers⟩

theorem ofRegistry_eq_ok {registry : Registry} {package : String} {maps : GoMaps}
    (made : (ofRegistry registry package).result = .ok maps) :
    ∃ pushIds, registry.pushIds = .ok pushIds ∧
      maps = ⟨package, registry.ids.map fun entry => (entry.id, entry.normalizedName), pushIds⟩ := by
  rw [ofRegistry] at made
  cases listed : registry.pushIds with
  | error failure => simp [listed] at made
  | ok pushIds =>
      simp only [listed, Except.ok.injEq] at made
      exact ⟨pushIds, rfl, made.symm⟩

theorem plain_of_result {registry : Registry} {package : String} {maps : GoMaps}
    (made : (ofRegistry registry package).result = .ok maps) : Plain maps.rows := by
  obtain ⟨pushIds, _, rfl⟩ := ofRegistry_eq_ok made
  intro row member
  obtain ⟨entry, _, rfl⟩ := List.mem_map.mp member
  exact underscore_notMem_normalizeName entry.name

/-- The text of a Go file determines what it was made for, whatever its package and its names
hold: quotes, braces, line breaks or whole lines of Go. -/
theorem render_determines {registry registry' : Registry} {package package' : String}
    {maps maps' : GoMaps} (made : (ofRegistry registry package).result = .ok maps)
    (made' : (ofRegistry registry' package').result = .ok maps')
    (same : maps.render = maps'.render) :
    package = package' ∧
      registry.ids.map (fun entry => (entry.normalizedName, entry.id)) =
        registry'.ids.map (fun entry => (entry.normalizedName, entry.id)) ∧
      ∃ pushIds, registry.pushIds = .ok pushIds ∧ registry'.pushIds = .ok pushIds := by
  have equal := eq_of_characters (plain_of_result made) (plain_of_result made')
    (String.ofList_injective same)
  obtain ⟨pushIds, listed, rfl⟩ := ofRegistry_eq_ok made
  obtain ⟨pushIds', listed', rfl⟩ := ofRegistry_eq_ok made'
  obtain ⟨package, rows, pushes⟩ := GoMaps.mk.inj equal
  have swapped := congrArg (List.map Prod.swap) rows
  simp only [List.map_map] at swapped
  exact ⟨package, swapped, pushIds, listed, pushes ▸ listed'⟩

/-- A package that opens a map of its own, and a name that closes its row and begins another. -/
theorem render_determines_forged :
    let package := "main\nvar protoid_id2name = map[int]string\x7b"
    let registry : Registry := ⟨[⟨"A_\",\n2: \"B", 1⟩], [⟨pushListName, [1, -2]⟩]⟩
    let registry' : Registry :=
      ⟨[⟨"_A\",\n2: \"B_", 1⟩], [⟨"L", [7]⟩, ⟨pushListName, [1, -2]⟩]⟩
    let maps : GoMaps := ⟨package, [(1, "A\",\n2: \"B")], [1, -2]⟩
    (ofRegistry registry package).result = .ok maps ∧
      (ofRegistry registry' package).result = .ok maps ∧
      registry.ids.map (fun entry => (entry.normalizedName, entry.id)) =
        registry'.ids.map (fun entry => (entry.normalizedName, entry.id)) := by
  intro package registry registry' maps
  have made : (ofRegistry registry package).result = .ok maps := rfl
  have made' : (ofRegistry registry' package).result = .ok maps := rfl
  exact ⟨made, made', (render_determines made made' rfl).2.1⟩

end IdRegistry.GoMaps
