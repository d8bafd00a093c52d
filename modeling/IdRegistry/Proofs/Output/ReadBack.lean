import IdRegistry.Proofs.Output.Lookup
import IdRegistry.Proofs.Output.Source

namespace IdRegistry.RustTables

def constants? : List Token → Option (List (String × Nat) × List Token)
  | .word first :: .word second :: .word name :: .mark ':' :: .word type :: .mark '=' ::
      .number value :: .mark ';' :: rest =>
      if first = "pub".toList ∧ second = "const".toList ∧ type = "u32".toList then
        (constants? rest).map fun (found, after) => ((String.ofList name, value) :: found, after)
      else none
  | .mark '\x7d' :: rest => some ([], rest)
  | _ => none

def rows? {α : Type} (row? : Token → Token → Option α) :
    List Token → Option (List α × List Token)
  | .mark '(' :: first :: .mark ',' :: second :: .mark ')' :: .mark ',' :: rest =>
      match row? first second, rows? row? rest with
      | some row, some (found, after) => some (row :: found, after)
      | _, _ => none
  | .mark ']' :: rest => some ([], rest)
  | _ => none

def idRow? : Token → Token → Option (Nat × String)
  | .number id, .text name => some (id, String.ofList name)
  | _, _ => none

def nameRow? : Token → Token → Option (String × Nat)
  | .text name, .number id => some (String.ofList name, id)
  | _, _ => none

def numbers? : List Token → Option (List Nat × List Token)
  | .number id :: .mark ',' :: rest =>
      (numbers? rest).map fun (found, after) => (id :: found, after)
  | .mark ']' :: rest => some ([], rest)
  | _ => none

def moduleOpening : List Token :=
  [.mark '#', .mark '[', .word "allow".toList, .mark '(', .word "dead_code".toList, .mark ')',
   .mark ']', .word "pub".toList, .word "mod".toList, .word "ids".toList, .mark '\x7b']

def tableOpening (name : String) (rowType : List Token) : List Token :=
  [.word "pub".toList, .word "static".toList, .word name.toList, .mark ':', .mark '&', .mark '[']
    ++ rowType ++ [.mark ']', .mark '=', .mark '&', .mark '[']

def idTableOpening : List Token :=
  tableOpening "ID_TO_NAME"
    [.mark '(', .word "u32".toList, .mark ',', .mark '&', .word "str".toList, .mark ')']

def nameTableOpening : List Token :=
  tableOpening "NAME_TO_ID"
    [.mark '(', .mark '&', .word "str".toList, .mark ',', .word "u32".toList, .mark ')']

def pushTableOpening : List Token :=
  tableOpening "PUSH_IDS" [.word "u32".toList]

/-- The tables that a file declares after its header, if its tokens are those of a module of constants
and of the three tables, and no others. -/
def ofTokens? (tokens : List Token) : Option RustTables := do
  let rest ← moduleOpening.isPrefixOf? tokens
  let (constants, rest) ← constants? rest
  let rest ← idTableOpening.isPrefixOf? rest
  let (idToName, rest) ← rows? idRow? rest
  let rest ← (.mark ';' :: nameTableOpening).isPrefixOf? rest
  let (nameToId, rest) ← rows? nameRow? rest
  let rest ← (.mark ';' :: pushTableOpening).isPrefixOf? rest
  let (pushIds, rest) ← numbers? rest
  if rest = [.mark ';'] then some ⟨constants, idToName, nameToId, pushIds⟩ else none

section Reading

variable (rest : List Token)

theorem constantTokens_eq (constant : String × Nat) :
    constantTokens constant = [.word "pub".toList, .word "const".toList, .word constant.1.toList,
      .mark ':', .word "u32".toList, .mark '=', .number constant.2, .mark ';'] := rfl

theorem constants?_append (constants : List (String × Nat)) :
    constants? (constants.flatMap constantTokens ++ .mark '\x7d' :: rest) =
      some (constants, rest) := by
  induction constants with
  | nil => rfl
  | cons constant constants ih =>
      rw [List.flatMap_cons, List.append_assoc, constantTokens_eq]
      simp [constants?, ih]

theorem rows?_append {α : Type} {row? : Token → Token → Option α} {columns : α → Token × Token}
    (reads : ∀ row, row? (columns row).1 (columns row).2 = some row) (rows : List α) :
    rows? row? (rows.flatMap (fun row => [.mark '(', (columns row).1, .mark ',', (columns row).2,
      .mark ')', .mark ',']) ++ .mark ']' :: rest) = some (rows, rest) := by
  induction rows with
  | nil => rfl
  | cons row rows ih => simp [rows?, reads, ih]

theorem numbers?_append (numbers : List Nat) :
    numbers? (numbers.flatMap pushTokens ++ .mark ']' :: rest) = some (numbers, rest) := by
  induction numbers with
  | nil => rfl
  | cons number numbers ih => simp [numbers?, pushTokens, ih]

theorem isPrefixOf?_append (opening : List Token) :
    opening.isPrefixOf? (opening ++ rest) = some rest :=
  List.isPrefixOf?_eq_some_iff_append_eq.mpr rfl

end Reading

variable {tables : RustTables} {registry : Registry}

theorem tokens_eq (tables : RustTables) :
    tables.tokens = moduleOpening ++ (tables.constants.flatMap constantTokens ++ .mark '\x7d' ::
      (idTableOpening ++ (tables.idToName.flatMap idRowTokens ++ .mark ']' ::
      (.mark ';' :: nameTableOpening ++ (tables.nameToId.flatMap nameRowTokens ++ .mark ']' ::
      (.mark ';' :: pushTableOpening ++ (tables.pushIds.flatMap pushTokens ++ .mark ']' ::
      [.mark ';']))))))) := by
  have table (name : String) (rowType rows : List Token) :
      tableTokens name rowType rows =
        tableOpening name rowType ++ (rows ++ [.mark ']', .mark ';']) := by
    rw [← List.append_assoc]
    rfl
  have whole : tables.tokens = moduleOpening ++ tables.constants.flatMap constantTokens ++
      [.mark '\x7d'] ++ (idTableOpening ++ (tables.idToName.flatMap idRowTokens ++
        [.mark ']', .mark ';'])) ++ (nameTableOpening ++ (tables.nameToId.flatMap nameRowTokens ++
        [.mark ']', .mark ';'])) ++ (pushTableOpening ++ (tables.pushIds.flatMap pushTokens ++
        [.mark ']', .mark ';'])) := by
    rw [idTableOpening, nameTableOpening, pushTableOpening, ← table, ← table, ← table]
    rfl
  rw [whole]
  simp only [List.append_assoc, List.cons_append, List.nil_append]

theorem ofTokens?_tokens (tables : RustTables) : ofTokens? tables.tokens = some tables := by
  have ids (rest : List Token) :
      rows? idRow? (tables.idToName.flatMap idRowTokens ++ .mark ']' :: rest) =
        some (tables.idToName, rest) :=
    @rows?_append rest _ idRow? (fun row => (.number row.1, .text row.2.toList))
      (fun row => by simp [idRow?]) tables.idToName
  have names (rest : List Token) :
      rows? nameRow? (tables.nameToId.flatMap nameRowTokens ++ .mark ']' :: rest) =
        some (tables.nameToId, rest) :=
    @rows?_append rest _ nameRow? (fun row => (.text row.1.toList, .number row.2))
      (fun row => by simp [nameRow?]) tables.nameToId
  rw [ofTokens?, tokens_eq]
  simp only [isPrefixOf?_append, constants?_append, ids, names, numbers?_append, Option.bind_eq_bind,
    Option.bind_some, if_true]

theorem isLexeme_of_mem_constantTokens {constant : String × Nat}
    (identifier : Source.isWord constant.1.toList = true) :
    ∀ token ∈ constantTokens constant, Source.isLexeme token = true := by
  have fixed : ∀ spelling ∈ ["pub", "const", "u32"], Source.isWord spelling.toList = true := by
    decide +kernel
  rw [constantTokens_eq]
  simp only [List.forall_mem_cons]
  exact ⟨fixed "pub" (by simp), fixed "const" (by simp), identifier, rfl, fixed "u32" (by simp), rfl,
    rfl, rfl, List.forall_mem_nil _⟩

theorem isLexeme_of_mem_tokens
    (identifiers : ∀ constant ∈ tables.constants, Source.isWord constant.1.toList = true) :
    ∀ token ∈ tables.tokens, Source.isLexeme token = true := by
  -- Only the words for constants depend on the tables, and they are identifiers.
  have openings : ∀ opening ∈ [moduleOpening, idTableOpening, nameTableOpening, pushTableOpening],
      ∀ token ∈ opening, Source.isLexeme token = true := by
    decide +kernel
  have constants : ∀ token ∈ tables.constants.flatMap constantTokens,
      Source.isLexeme token = true := List.forall_mem_flatMap.mpr fun constant member =>
    isLexeme_of_mem_constantTokens (identifiers constant member)
  have ids : ∀ token ∈ tables.idToName.flatMap idRowTokens, Source.isLexeme token = true := by
    refine List.forall_mem_flatMap.mpr fun row _ => ?_
    simp only [idRowTokens, List.forall_mem_cons]
    exact ⟨rfl, rfl, rfl, rfl, rfl, rfl, List.forall_mem_nil _⟩
  have names : ∀ token ∈ tables.nameToId.flatMap nameRowTokens, Source.isLexeme token = true := by
    refine List.forall_mem_flatMap.mpr fun row _ => ?_
    simp only [nameRowTokens, List.forall_mem_cons]
    exact ⟨rfl, rfl, rfl, rfl, rfl, rfl, List.forall_mem_nil _⟩
  have pushes : ∀ token ∈ tables.pushIds.flatMap pushTokens, Source.isLexeme token = true := by
    refine List.forall_mem_flatMap.mpr fun id _ => ?_
    simp only [pushTokens, List.forall_mem_cons]
    exact ⟨rfl, rfl, List.forall_mem_nil _⟩
  rw [tokens_eq]
  simp only [List.forall_mem_append, List.forall_mem_cons]
  exact ⟨openings _ (by simp), constants, rfl, openings _ (by simp), ids, rfl,
    ⟨rfl, openings _ (by simp)⟩, names, rfl, ⟨rfl, openings _ (by simp)⟩, pushes, rfl, rfl,
    List.forall_mem_nil _⟩

theorem isWord_of_isIdentifier {spelling : List Char}
    (identifier : ConstantName.isIdentifier spelling = true) : Source.isWord spelling = true := by
  cases spelling with
  | nil => contradiction
  | cons first rest =>
      simp only [ConstantName.isIdentifier, Bool.and_eq_true] at identifier
      simp only [Source.isWord, Bool.and_eq_true]
      exact identifier.1

namespace Tabulates

theorem isWord_of_mem (tabulates : tables.Tabulates registry) :
    ∀ constant ∈ tables.constants, Source.isWord constant.1.toList = true := by
  intro constant member
  obtain ⟨position, inside, rfl⟩ := List.getElem_of_mem member
  have own := (tabulates.constants.get inside (tabulates.constants.length_eq ▸ inside)).1
  exact isWord_of_isIdentifier own.isIdentifier

theorem idToName_eq (tabulates : tables.Tabulates registry) :
    tables.idToName.map (fun row => ((row.1 : Int), row.2)) =
      registry.ids.map fun entry => (entry.id, entry.normalizedName) := by
  rw [tabulates.idToName, List.map_map]
  refine List.map_congr_left fun entry member => ?_
  rw [Function.comp_apply, Int.toNat_of_nonneg (tabulates.consistent.fits entry member).1]

theorem nameToId_eq (tabulates : tables.Tabulates registry) :
    tables.nameToId.map (fun row => (row.1, (row.2 : Int))) =
      registry.ids.map fun entry => (entry.normalizedName, entry.id) := by
  rw [tabulates.nameToId, List.map_map]
  refine List.map_congr_left fun entry member => ?_
  rw [Function.comp_apply, Int.toNat_of_nonneg (tabulates.consistent.fits entry member).1]

theorem pushIds_eq (tabulates : tables.Tabulates registry) :
    registry.pushIds = .ok (tables.pushIds.map Int.ofNat) := by
  obtain ⟨list, first, fitting, held⟩ := tabulates.pushIds
  rw [Registry.pushIds_of_isPushList first, held, List.map_map]
  have same : list.values.map (Int.ofNat ∘ Int.toNat) = list.values.map id :=
    List.map_congr_left fun value member => Int.toNat_of_nonneg (fitting value member).1
  rw [same, List.map_id]

end Tabulates

/-- The tables in the text of a file, which come after the header. -/
def read? (text : String) : Option RustTables := do
  let body ← header.isPrefixOf? text.toList
  let tokens ← Source.tokens? body
  ofTokens? tokens

theorem read?_render (tabulates : tables.Tabulates registry) :
    read? tables.render = some tables := by
  have cut : header.isPrefixOf? (header ++ (Token.spell tables.tokens ++ ['\n'])) =
      some (Token.spell tables.tokens ++ ['\n']) := List.isPrefixOf?_eq_some_iff_append_eq.mpr rfl
  have lexed := Source.tokens?_spell (isLexeme_of_mem_tokens tabulates.isWord_of_mem)
  rw [read?, render, String.toList_ofList, characters, List.append_assoc, cut]
  simp only [Option.bind_eq_bind, Option.bind_some, lexed, ofTokens?_tokens]

/-- Every file reads back as tables that hold the entries of the registry in their order, and every
literal as the text that it was written for. So the text of a file determines the entries and the push
notifications that it was made for. -/
theorem render_reads_back (made : (ofRegistry registry).result = .ok tables) :
    read? tables.render = some tables ∧
    List.Forall₂ (fun constant entry =>
      ProtocolId.HasConstant entry constant.1 ∧ (constant.2 : Int) = entry.id)
      tables.constants registry.ids ∧
    tables.idToName.map (fun row => ((row.1 : Int), row.2)) =
      registry.ids.map (fun entry => (entry.id, entry.normalizedName)) ∧
    tables.nameToId.map (fun row => (row.1, (row.2 : Int))) =
      registry.ids.map (fun entry => (entry.normalizedName, entry.id)) ∧
    registry.pushIds = .ok (tables.pushIds.map Int.ofNat) ∧
    (∀ text, Source.tokens? (Text.literal text) = some [.text text]) ∧
    ∀ registry' tables', (ofRegistry registry').result = .ok tables' →
      tables'.render = tables.render →
        registry'.ids.map (fun entry => (entry.normalizedName, entry.id)) =
          registry.ids.map (fun entry => (entry.normalizedName, entry.id)) ∧
        registry'.pushIds = registry.pushIds := by
  have tabulates := tabulates_of_result made
  refine ⟨read?_render tabulates, tabulates.constants, tabulates.idToName_eq, tabulates.nameToId_eq,
    tabulates.pushIds_eq, Source.tokens?_literal, ?_⟩
  intro registry' tables' made' same
  have tabulates' := tabulates_of_result made'
  have again := read?_render tabulates'
  rw [same, read?_render tabulates] at again
  obtain rfl := Option.some.inj again
  exact ⟨tabulates'.nameToId_eq.symm.trans tabulates.nameToId_eq,
    tabulates'.pushIds_eq.trans tabulates.pushIds_eq.symm⟩

/-- A name with marks that have a meaning in literals, and with a NUL before a digit. -/
theorem render_reads_back_escapes :
    let registry : Registry :=
      ⟨[⟨"Qot_\"Sub\\\x007\u0301", 3001⟩], [⟨pushListName, []⟩]⟩
    let tables : RustTables :=
      ⟨[("QOT_SUB_7\u0301", 3001)], [(3001, "Qot\"Sub\\\x007\u0301")],
        [("Qot\"Sub\\\x007\u0301", 3001)], []⟩
    (ofRegistry registry).result = .ok tables ∧ read? tables.render = some tables := by
  intro registry tables
  have made : (ofRegistry registry).result = .ok tables := rfl
  exact ⟨made, (render_reads_back made).1⟩

end IdRegistry.RustTables
