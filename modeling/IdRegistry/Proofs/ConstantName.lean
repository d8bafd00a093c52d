import IdRegistry.ConstantName
import IdRegistry.Proofs.Text.CaseCuts
import IdRegistry.Registry
import Mathlib.Data.List.Chain
import Mathlib.Data.List.Pairwise

namespace IdRegistry

namespace Unicode

theorem capitalIn_cases (runs : List CapitalRun) (code : Nat) :
    capitalIn runs code = code ∨ ∃ run ∈ runs, run.first ≤ code ∧ code ≤ run.last ∧
      capitalIn runs code = run.capital + (code - run.first) := by
  induction runs with
  | nil => exact .inl rfl
  | cons run runs ih =>
      rw [capitalIn]
      split
      next => exact .inl rfl
      next =>
        split
        next inside => exact .inr ⟨run, List.mem_cons_self, by omega, inside.1, rfl⟩
        next =>
          rcases ih with same | ⟨other, member, found⟩
          · exact .inl same
          · exact .inr ⟨other, List.mem_cons_of_mem _ member, found⟩

theorem eq_of_ofNat_eq_underscore {code : Nat} (same : Char.ofNat code = '_') : code = 0x5F := by
  by_cases valid : code.isValidChar
  · rw [Char.ofNat, dif_pos valid] at same
    exact congrArg Char.toNat same
  · rw [Char.ofNat, dif_neg valid] at same
    contradiction

theorem mem_of_longCapital {code : Nat} {codes : List Nat}
    (found : longCapitals.lookup code = some codes) : (code, codes) ∈ longCapitals := by
  obtain ⟨before, after, split, _⟩ := List.lookup_eq_some_iff.mp found
  simp [split]

theorem toUppercase_ne_nil (c : Char) : toUppercase c ≠ [] := by
  rw [toUppercase]
  cases found : longCapitals.lookup c.toNat with
  | none => simp
  | some codes =>
      have several : ∀ entry ∈ longCapitals, entry.2 ≠ [] := by decide +kernel
      simpa using several _ (mem_of_longCapital found)

/-- No other character has an underscore for a capital. -/
theorem underscore_notMem_toUppercase {c : Char} (other : c ≠ '_') : '_' ∉ toUppercase c := by
  rw [toUppercase]
  cases found : longCapitals.lookup c.toNat with
  | some codes =>
      have letters : ∀ entry ∈ longCapitals, ∀ code ∈ entry.2, Char.ofNat code ≠ '_' := by
        decide +kernel
      intro member
      obtain ⟨code, listed, same⟩ := List.mem_map.mp member
      exact letters _ (mem_of_longCapital found) code listed same
  | none =>
      have clear : ∀ run ∈ capitalRuns,
          0x5F < run.capital ∨ run.capital + (run.last - run.first) < 0x5F := by decide +kernel
      intro member
      have same := eq_of_ofNat_eq_underscore (List.mem_singleton.mp member).symm
      rcases capitalIn_cases capitalRuns c.toNat with stays | ⟨run, listed, lower, upper, moved⟩
      · rw [stays] at same
        exact other (Char.toNat_inj.mp same)
      · have := clear run listed
        omega

end Unicode

namespace Text

variable {blocks : List (List Char)}

theorem head?_intercalate (nonempty : [] ∉ blocks) (plain : ∀ block ∈ blocks, '_' ∉ block) :
    (['_'].intercalate blocks).head? ≠ some '_' := by
  cases blocks with
  | nil => simp [List.intercalate]
  | cons block rest =>
      obtain ⟨c, block, rfl⟩ :=
        List.exists_cons_of_ne_nil (Ne.symm (List.ne_of_not_mem_cons nonempty))
      have other : c ≠ '_' := by
        rintro rfl
        exact plain _ List.mem_cons_self List.mem_cons_self
      cases rest with
      | nil => simpa using other
      | cons next rest => simpa [List.intercalate_cons_cons] using other

theorem intercalate_ne_nil (nonempty : [] ∉ blocks) (some : blocks ≠ []) :
    ['_'].intercalate blocks ≠ [] := by
  obtain ⟨block, rest, rfl⟩ := List.exists_cons_of_ne_nil some
  cases rest with
  | nil => simpa using Ne.symm (List.ne_of_not_mem_cons nonempty)
  | cons next rest => simp [List.intercalate_cons_cons]

theorem getLast?_intercalate (nonempty : [] ∉ blocks) (plain : ∀ block ∈ blocks, '_' ∉ block) :
    (['_'].intercalate blocks).getLast? ≠ some '_' := by
  induction blocks with
  | nil => simp [List.intercalate]
  | cons block rest ih =>
      have others := ih (List.not_mem_of_not_mem_cons nonempty)
        fun other member => plain other (List.mem_cons_of_mem _ member)
      cases rest with
      | nil =>
          rw [List.intercalate_singleton]
          intro last
          exact plain block List.mem_cons_self (List.mem_of_getLast? last)
      | cons next rest =>
          have some := intercalate_ne_nil (List.not_mem_of_not_mem_cons nonempty)
            (List.cons_ne_nil next rest)
          rwa [List.intercalate_cons_cons, List.getLast?_append_of_ne_nil _ some]

/-- Underscores that divide blocks stand alone. -/
theorem intercalate_single (nonempty : [] ∉ blocks) (plain : ∀ block ∈ blocks, '_' ∉ block) :
    ¬ ['_', '_'] <:+: ['_'].intercalate blocks := by
  have chain : (['_'].intercalate blocks).IsChain fun c next => ¬ (c = '_' ∧ next = '_') := by
    induction blocks with
    | nil => simp [List.intercalate]
    | cons block rest ih =>
        have nonempty' := List.not_mem_of_not_mem_cons nonempty
        have plain' : ∀ other ∈ rest, '_' ∉ other :=
          fun other member => plain other (List.mem_cons_of_mem _ member)
        have unmarked : '_' ∉ block := plain block List.mem_cons_self
        have own : block.IsChain fun c next => ¬ (c = '_' ∧ next = '_') := by
          refine List.Pairwise.isChain (List.pairwise_of_forall_mem_list ?_)
          rintro c member next _ ⟨rfl, _⟩
          exact unmarked member
        cases rest with
        | nil => rwa [List.intercalate_singleton]
        | cons next rest =>
            have begins := head?_intercalate nonempty' plain'
            rw [List.intercalate_cons_cons, List.append_assoc, List.singleton_append,
              List.isChain_append, List.isChain_cons]
            refine ⟨own, ⟨fun first isHead both => begins (both.2 ▸ isHead), ih nonempty' plain'⟩, ?_⟩
            exact fun last isLast _ _ both => unmarked (both.1 ▸ List.mem_of_getLast? isLast)
  intro inside
  simpa using chain.infix inside

theorem filter_intercalate (plain : ∀ block ∈ blocks, '_' ∉ block) :
    (['_'].intercalate blocks).filter (· ≠ '_') = blocks.flatten := by
  induction blocks with
  | nil => simp [List.intercalate]
  | cons block rest ih =>
      have others := ih fun other member => plain other (List.mem_cons_of_mem _ member)
      have kept : block.filter (· ≠ '_') = block := by
        rw [List.filter_eq_self]
        intro c member
        have unmarked := plain block List.mem_cons_self
        simpa using fun same : c = '_' => unmarked (same ▸ member)
      cases rest with
      | nil => rw [List.intercalate_singleton, kept, List.flatten_singleton]
      | cons next rest =>
          rw [List.intercalate_cons_cons, List.filter_append, List.filter_append, kept, others]
          simp

end Text

namespace ConstantName

open Text (CaseChanges CutAt pieces words)
open Unicode (toUppercase)

theorem flatten_parts (text : List Char) : (parts text).flatten = (words text).flatten := by
  rw [parts]
  induction words text with
  | nil => rfl
  | cons word rest ih =>
      rw [List.flatMap_cons, List.flatten_append, Text.flatten_pieces, ih, List.flatten_cons]

theorem nil_notMem_parts (text : List Char) : [] ∉ parts text := by
  intro member
  obtain ⟨word, isWord, isPiece⟩ := List.mem_flatMap.mp member
  have segment := Text.segments_nonempty text word (List.mem_of_mem_filter isWord)
  exact Text.nil_notMem_pieces segment isPiece

/-- The words of a text have only its characters. -/
theorem mem_of_mem_parts {text part : List Char} {c : Char} (isPart : part ∈ parts text)
    (member : c ∈ part) : c ∈ text := by
  have inWords : c ∈ (words text).flatten := by
    rw [← flatten_parts]
    exact List.mem_flatten.mpr ⟨part, isPart, member⟩
  obtain ⟨word, isWord, inWord⟩ := List.mem_flatten.mp inWords
  rw [← Text.flatten_segments text]
  exact List.mem_flatten.mpr ⟨word, List.mem_of_mem_filter isWord, inWord⟩

/-- The pieces of a name in capitals. -/
def capitals (text : List Char) : List (List Char) :=
  (parts text).map fun piece => piece.flatMap toUppercase

variable {text : List Char}

theorem nil_notMem_capitals : [] ∉ capitals text := by
  intro member
  obtain ⟨piece, isPart, empty⟩ := List.mem_map.mp member
  cases piece with
  | nil => exact nil_notMem_parts text isPart
  | cons c piece =>
      rw [List.flatMap_cons] at empty
      exact Unicode.toUppercase_ne_nil c (List.append_eq_nil_iff.mp empty).1

theorem underscore_notMem_capitals (plain : '_' ∉ text) : ∀ block ∈ capitals text, '_' ∉ block := by
  intro block member inBlock
  obtain ⟨piece, isPart, rfl⟩ := List.mem_map.mp member
  obtain ⟨c, inPiece, isCapital⟩ := List.mem_flatMap.mp inBlock
  have other : c ≠ '_' := fun same => plain (same ▸ mem_of_mem_parts isPart inPiece)
  exact Unicode.underscore_notMem_toUppercase other isCapital

theorem flatten_capitals : (capitals text).flatten = (words text).flatten.flatMap toUppercase := by
  rw [← flatten_parts, capitals, ← List.flatMap_def, ← List.flatMap_id, List.flatMap_assoc]
  rfl

theorem shouted_eq : shouted text = ['_'].intercalate (capitals text) := rfl

theorem head?_shouted (plain : '_' ∉ text) : (shouted text).head? ≠ some '_' := by
  rw [shouted_eq]
  exact Text.head?_intercalate nil_notMem_capitals (underscore_notMem_capitals plain)

theorem filter_shouted (plain : '_' ∉ text) :
    (shouted text).filter (· ≠ '_') = (words text).flatten.flatMap toUppercase := by
  rw [shouted_eq, Text.filter_intercalate (underscore_notMem_capitals plain), flatten_capitals]

/-- Each word of a name is cut exactly where its case changes. The pieces in capitals are divided by
single underscores, and without those they are the words in capitals. -/
theorem shouted_at_case_changes (name : String) :
    let text := (normalizeName name).toList
    (∀ word ∈ words text, (pieces word).flatten = word ∧ [] ∉ pieces word ∧
      ∀ place, CutAt (pieces word) place ↔ CaseChanges word place) ∧
    shouted text = ['_'].intercalate
      (((words text).flatMap pieces).map fun piece => piece.flatMap toUppercase) ∧
    (shouted text).head? ≠ some '_' ∧ (shouted text).getLast? ≠ some '_' ∧
    ¬ ['_', '_'] <:+: shouted text ∧
    (shouted text).filter (· ≠ '_') = (words text).flatten.flatMap toUppercase := by
  intro text
  have plain : '_' ∉ text := underscore_notMem_normalizeName name
  have unmarked := underscore_notMem_capitals plain
  refine ⟨fun word isWord => ⟨Text.flatten_pieces word, ?_, Text.cutAt_pieces_iff word⟩, rfl,
    head?_shouted plain, ?_, ?_, filter_shouted plain⟩
  · have segment := Text.segments_nonempty text word (List.mem_of_mem_filter isWord)
    exact Text.nil_notMem_pieces segment
  · rw [shouted_eq]
    exact Text.getLast?_intercalate nil_notMem_capitals unmarked
  · rw [shouted_eq]
    exact Text.intercalate_single nil_notMem_capitals unmarked

/-- A digit keeps the case of the letter before it, so that a capital after it begins a piece. -/
theorem shouted_at_case_changes_digit :
    let text := (normalizeName "get_HTTPServer2Go").toList
    text ∈ words text ∧ CutAt (pieces text) 14 ∧ shouted text = "GET_HTTP_SERVER2_GO".toList := by
  intro text
  have isWord : text ∈ words text := by decide +kernel
  have ⟨cuts, _⟩ := shouted_at_case_changes "get_HTTPServer2Go"
  have changes : CaseChanges text 14 := ⟨'G', 'r', by decide +kernel⟩
  exact ⟨isWord, ((cuts text isWord).2.2 14).mpr changes, by decide +kernel⟩

end ConstantName

end IdRegistry
