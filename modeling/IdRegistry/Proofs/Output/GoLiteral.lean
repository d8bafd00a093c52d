import IdRegistry.Markup.Reference
import IdRegistry.Proofs.Document.Written
import IdRegistry.Proofs.Output.GoMaps

namespace IdRegistry.GoMaps

/-! The maps write names between quotes as they are. So a name stands for itself if and only if it has no
backslash, no double quote and no line break (`IsPlain`), and one other name is enough to spoil a map.
What carries the proof is that an escape is longer than the bytes it stands for.
-/

def utf8 (text : List Char) : List UInt8 := text.flatMap String.utf8EncodeChar

/-- The escapes of one letter. -/
def letters : List (Char × UInt8) :=
  [('a', 7), ('b', 8), ('f', 12), ('n', 10), ('r', 13), ('t', 9), ('v', 11), ('\\', 92), ('"', 34)]

/-- The bytes that a character given by its number stands for. -/
def numbered? (digits : List Char) (width : Nat) : Option (List UInt8) :=
  if digits.length = width then
    match Markup.numberFrom 16 0 digits with
    | some value => if value.isValidChar then some (String.utf8EncodeChar (Char.ofNat value)) else none
    | none => none
  else none

/-- The byte of a number in the given base. -/
def byte? (base : Nat) (digits : List Char) (width : Nat) : Option (List UInt8) :=
  if digits.length = width then
    match Markup.numberFrom base 0 digits with
    | some value => if value < 256 then some [UInt8.ofNat value] else none
    | none => none
  else none

/-- What the characters after a backslash stand for: a letter, a byte of three octal or two hexadecimal
digits, or a character of four or eight hexadecimal digits. -/
def escape? : List Char → Option (List UInt8)
  | [c] => (letters.lookup c).map fun byte => [byte]
  | 'x' :: digits => byte? 16 digits 2
  | 'u' :: digits => numbered? digits 4
  | 'U' :: digits => numbered? digits 8
  | digits => byte? 8 digits 3

/-- A character that stands for itself between double quotes. -/
def IsPlain (c : Char) : Prop := c ≠ '"' ∧ c ≠ '\\' ∧ c ≠ '\n'

instance (c : Char) : Decidable (IsPlain c) := inferInstanceAs (Decidable (_ ∧ _))

def IsPlainText (text : List Char) : Prop := ∀ c ∈ text, IsPlain c

instance (text : List Char) : Decidable (IsPlainText text) :=
  List.decidableBAll (p := IsPlain) (l := text)

/-- The bytes that a text between double quotes stands for. -/
inductive Denotes : List Char → List UInt8 → Prop where
  | nil : Denotes [] []
  | plain {c : Char} {body : List Char} {bytes : List UInt8} (plain : IsPlain c)
      (later : Denotes body bytes) : Denotes (c :: body) (String.utf8EncodeChar c ++ bytes)
  | escape {spelling body : List Char} {value bytes : List UInt8}
      (stands : escape? spelling = some value) (later : Denotes body bytes) :
      Denotes ('\\' :: (spelling ++ body)) (value ++ bytes)

/-- One literal, from its first double quote to its last character. -/
def IsLiteral (text : List Char) (bytes : List UInt8) : Prop :=
  ∃ body, text = '"' :: body ++ ['"'] ∧ Denotes body bytes

/-- A row of the map from identifiers to names, with the given text between the quotes. -/
def idForm (id : Int) (body : List Char) : List Char :=
  Text.decimal id ++ ':' :: ' ' :: '"' :: (body ++ ['"', ',', '\n'])

/-- A row of the map from names to identifiers. -/
def nameForm (id : Int) (body : List Char) : List Char :=
  '"' :: (body ++ '"' :: ':' :: ' ' :: (Text.decimal id ++ [',', '\n']))

/-- What the rows of a map stand for, each an identifier and the bytes of its literal. -/
inductive Reads (form : Int → List Char → List Char) :
    List Char → List (Int × List UInt8) → Prop where
  | nil : Reads form [] []
  | row {id : Int} {body rest : List Char} {bytes : List UInt8} {rows : List (Int × List UInt8)}
      (denotes : Denotes body bytes) (later : Reads form rest rows) :
      Reads form (form id body ++ rest) ((id, bytes) :: rows)

/-- The text of a map stands for the rows, and for nothing else. -/
def ReadsBack (form : Int → List Char → List Char) (text : List Char)
    (rows : List (Int × List UInt8)) : Prop :=
  ∀ read, Reads form text read ↔ read = rows

section Literals

variable {body body' after after' spelling : List Char} {bytes bytes' value : List UInt8}

theorem utf8_append (text more : List Char) : utf8 (text ++ more) = utf8 text ++ utf8 more :=
  List.flatMap_append

theorem utf8_injective : Function.Injective utf8 := by
  intro text more same
  have encoded := congrArg List.toByteArray same
  have strings : (String.ofList text).toByteArray = (String.ofList more).toByteArray := by
    rw [String.toByteArray_ofList, String.toByteArray_ofList]
    exact encoded
  exact String.ofList_injective (String.toByteArray_inj.mp strings)

theorem length_utf8EncodeChar (c : Char) :
    1 ≤ (String.utf8EncodeChar c).length ∧ (String.utf8EncodeChar c).length ≤ 4 := by
  simp only [String.utf8EncodeChar]
  split
  · simp
  split
  · simp
  split <;> simp

theorem length_le_utf8 (text : List Char) : text.length ≤ (utf8 text).length := by
  induction text with
  | nil => exact Nat.le_refl _
  | cons c text ih =>
      have one := (length_utf8EncodeChar c).1
      simp only [utf8, List.flatMap_cons, List.length_append, List.length_cons] at ih ⊢
      omega

theorem length_of_numbered? {digits : List Char} {width : Nat} (wide : 4 ≤ width)
    (stands : numbered? digits width = some value) : value.length ≤ digits.length := by
  simp only [numbered?, Option.ite_none_right_eq_some] at stands
  obtain ⟨long, stands⟩ := stands
  cases number : Markup.numberFrom 16 0 digits with
  | none => simp [number] at stands
  | some code =>
      simp only [number, Option.ite_none_right_eq_some, Option.some.injEq] at stands
      have bound := (length_utf8EncodeChar (Char.ofNat code)).2
      rw [← stands.2]
      omega

theorem length_of_byte? {base width : Nat} {digits : List Char} (wide : 1 ≤ width)
    (stands : byte? base digits width = some value) : value.length ≤ digits.length := by
  simp only [byte?, Option.ite_none_right_eq_some] at stands
  obtain ⟨long, stands⟩ := stands
  cases number : Markup.numberFrom base 0 digits with
  | none => simp [number] at stands
  | some code =>
      simp only [number, Option.ite_none_right_eq_some, Option.some.injEq] at stands
      rw [← stands.2, List.length_singleton]
      omega

/-- An escape stands for no more bytes than it has characters after the backslash. -/
theorem length_of_escape? (stands : escape? spelling = some value) :
    value.length ≤ spelling.length := by
  unfold escape? at stands
  split at stands
  · obtain ⟨byte, _, rfl⟩ := Option.map_eq_some_iff.mp stands
    exact Nat.le_refl _
  · exact Nat.le_succ_of_le (length_of_byte? (by decide) stands)
  · exact Nat.le_succ_of_le (length_of_numbered? (by decide) stands)
  · exact Nat.le_succ_of_le (length_of_numbered? (by decide) stands)
  · exact length_of_byte? (by decide) stands

theorem denotes_utf8 (plain : IsPlainText body) : Denotes body (utf8 body) := by
  induction body with
  | nil => exact .nil
  | cons c body ih =>
      have ⟨first, later⟩ := List.forall_mem_cons.mp plain
      exact .plain first (ih later)

/-- A text stands for itself, or for less than itself. -/
theorem Denotes.plain_or_shorter (denotes : Denotes body bytes) :
    (IsPlainText body ∧ bytes = utf8 body) ∨ bytes.length < (utf8 body).length := by
  induction denotes with
  | nil => exact .inl ⟨List.forall_mem_nil _, rfl⟩
  | @plain c body bytes plain later ih =>
      rcases ih with ⟨all, rfl⟩ | shorter
      · exact .inl ⟨List.forall_mem_cons.mpr ⟨plain, all⟩, rfl⟩
      · refine .inr ?_
        simp only [utf8, List.flatMap_cons, List.length_append] at shorter ⊢
        omega
  | @escape spelling body value bytes stands later ih =>
      have whole : bytes.length ≤ (utf8 body).length := by
        rcases ih with ⟨_, rfl⟩ | shorter
        · exact Nat.le_refl _
        · exact Nat.le_of_lt shorter
      have escaped := Nat.le_trans (length_of_escape? stands) (length_le_utf8 spelling)
      have backslash := (length_utf8EncodeChar '\\').1
      have split : utf8 ('\\' :: (spelling ++ body)) =
          String.utf8EncodeChar '\\' ++ (utf8 spelling ++ utf8 body) := by
        rw [← utf8_append]
        rfl
      refine .inr ?_
      rw [split]
      simp only [List.length_append]
      omega

/-- A name between quotes stands for itself only if it has nothing that is special there. -/
theorem denotes_utf8_iff : Denotes body (utf8 body) ↔ IsPlainText body := by
  constructor
  · intro denotes
    rcases denotes.plain_or_shorter with ⟨plain, _⟩ | shorter
    · exact plain
    · exact absurd shorter (Nat.lt_irrefl _)
  · exact denotes_utf8

theorem isLiteral_quoted_iff (name : String) :
    IsLiteral (quoted name) (utf8 name.toList) ↔ IsPlainText name.toList := by
  rw [← denotes_utf8_iff]
  constructor
  · rintro ⟨body, same, denotes⟩
    have body_eq : name.toList = body := by simpa [quoted] using same
    exact body_eq ▸ denotes
  · intro denotes
    exact ⟨name.toList, rfl, denotes⟩

/-- How many characters an escape has after its backslash, by the first of them. -/
def escapeLength (c : Char) : Nat :=
  if c = 'x' then 3 else if c = 'u' then 5 else if c = 'U' then 9
  else if (letters.lookup c).isSome then 1 else 3

theorem escapeLength_of_escape? (stands : escape? spelling = some value) :
    ∃ c rest, spelling = c :: rest ∧ spelling.length = escapeLength c := by
  unfold escape? at stands
  split at stands
  · next c =>
      obtain ⟨byte, listed, _⟩ := Option.map_eq_some_iff.mp stands
      have unlisted : (['x', 'u', 'U'].all fun special => (letters.lookup special).isNone) = true := by
        decide
      have differs : ∀ special ∈ ['x', 'u', 'U'], c ≠ special := by
        rintro special member rfl
        simpa [listed] using List.all_eq_true.mp unlisted c member
      simp only [List.forall_mem_cons] at differs
      exact ⟨c, [], rfl, by simp [escapeLength, differs, listed]⟩
  · next digits _ =>
      simp only [byte?, Option.ite_none_right_eq_some] at stands
      exact ⟨'x', digits, rfl, by rw [List.length_cons, stands.1]; rfl⟩
  · next digits _ =>
      simp only [numbered?, Option.ite_none_right_eq_some] at stands
      exact ⟨'u', digits, rfl, by rw [List.length_cons, stands.1]; rfl⟩
  · next digits _ =>
      simp only [numbered?, Option.ite_none_right_eq_some] at stands
      exact ⟨'U', digits, rfl, by rw [List.length_cons, stands.1]; rfl⟩
  · next noLetter noX noU noLongU =>
      simp only [byte?, Option.ite_none_right_eq_some] at stands
      obtain ⟨three, stands⟩ := stands
      cases spelling with
      | nil => cases three
      | cons c rest =>
          have first : c ≠ 'x' ∧ c ≠ 'u' ∧ c ≠ 'U' :=
            ⟨fun same => noX rest (same ▸ rfl), fun same => noU rest (same ▸ rfl),
              fun same => noLongU rest (same ▸ rfl)⟩
          have unlisted : letters.lookup c = none := by
            have undigited : ∀ entry ∈ letters, Markup.digitIn? 8 entry.1 = none := by decide
            cases listed : letters.lookup c with
            | none => rfl
            | some byte =>
                have member := List.lookup_eq_some_iff.mp listed
                obtain ⟨before, after, split, _⟩ := member
                have none := undigited (c, byte) (by simp [split])
                simp [Markup.numberFrom, none] at stands
          exact ⟨c, rest, rfl, by simp [escapeLength, first, unlisted, three]⟩

theorem escape?_cancel {spelling' : List Char} {value' : List UInt8}
    (stands : escape? spelling = some value) (stands' : escape? spelling' = some value')
    (same : spelling ++ after = spelling' ++ after') : spelling = spelling' ∧ after = after' := by
  obtain ⟨c, rest, begins, long⟩ := escapeLength_of_escape? stands
  obtain ⟨c', rest', begins', long'⟩ := escapeLength_of_escape? stands'
  have first : c = c' := by
    rw [begins, begins'] at same
    exact (List.cons.inj same).1
  subst first
  exact List.append_inj same (long.trans long'.symm)

/-- A literal ends at its first double quote that is not escaped, and stands for one thing. -/
theorem Denotes.unique (denotes : Denotes body bytes) (denotes' : Denotes body' bytes')
    (same : body ++ '"' :: after = body' ++ '"' :: after') :
    body = body' ∧ bytes = bytes' ∧ after = after' := by
  induction denotes generalizing body' bytes' with
  | nil =>
      cases denotes' with
      | nil => exact ⟨rfl, rfl, (List.cons.inj same).2⟩
      | plain plain _ => exact absurd (List.cons.inj same).1.symm plain.1
      | escape => exact absurd (List.cons.inj same).1 (by decide)
  | plain plain _ ih =>
      cases denotes' with
      | nil => exact absurd (List.cons.inj same).1 plain.1
      | plain plain' later' =>
          simp only [List.cons_append, List.cons.injEq] at same
          obtain ⟨rfl, remaining⟩ := same
          obtain ⟨rfl, rfl, rest⟩ := ih later' remaining
          exact ⟨rfl, rfl, rest⟩
      | escape => exact absurd (List.cons.inj same).1 plain.2.1
  | escape stands _ ih =>
      cases denotes' with
      | nil => exact absurd (List.cons.inj same).1 (by decide)
      | plain plain' later' => exact absurd (List.cons.inj same).1.symm plain'.2.1
      | escape stands' later' =>
          simp only [List.cons_append, List.append_assoc, List.cons.injEq, true_and] at same
          obtain ⟨rfl, remaining⟩ := escape?_cancel stands stands' same
          obtain ⟨rfl, rfl, rest⟩ := ih later' remaining
          obtain rfl := Option.some.inj (stands.symm.trans stands')
          exact ⟨rfl, rfl, rest⟩

end Literals

/-- The row forms of the two maps: what stands around the literal does not depend on it, and no row
can be taken for another one. -/
structure IsRowForm (form : Int → List Char → List Char) : Prop where
  size : ∀ id body, (utf8 (form id body)).length = (utf8 (form id [])).length + (utf8 body).length
  nonempty : ∀ id body, form id body ≠ []
  cancel : ∀ {id id' : Int} {body body' rest rest' : List Char} {bytes bytes' : List UInt8},
    Denotes body bytes → Denotes body' bytes' → form id body ++ rest = form id' body' ++ rest' →
      id = id' ∧ bytes = bytes' ∧ rest = rest'

theorem isRowForm_idForm : IsRowForm idForm where
  size id body := by
    simp only [idForm, utf8, List.flatMap_append, List.flatMap_cons, List.length_append,
      List.flatMap_nil, List.length_nil]
    omega
  nonempty id body := by simp [idForm]
  cancel := by
    intro id id' body body' rest rest' bytes bytes' denotes denotes' same
    simp only [idForm, List.append_assoc, List.cons_append, List.nil_append] at same
    have noColon := Text.notMem_decimal (c := ':') (by decide) (by decide)
    obtain ⟨number, same⟩ := append_cons_inj_of_notMem_left (noColon id) (noColon id') same
    obtain ⟨_, rfl, same⟩ := denotes.unique denotes' (List.cons.inj (List.cons.inj same).2).2
    exact ⟨Text.decimal_injective number, rfl, (List.cons.inj (List.cons.inj same).2).2⟩

theorem isRowForm_nameForm : IsRowForm nameForm where
  size id body := by
    simp only [nameForm, utf8, List.flatMap_append, List.flatMap_cons, List.length_append,
      List.flatMap_nil, List.length_nil]
    omega
  nonempty id body := by simp [nameForm]
  cancel := by
    intro id id' body body' rest rest' bytes bytes' denotes denotes' same
    simp only [nameForm, List.append_assoc, List.cons_append, List.nil_append] at same
    have noComma := Text.notMem_decimal (c := ',') (by decide) (by decide)
    obtain ⟨_, rfl, same⟩ := denotes.unique denotes' (List.cons.inj same).2
    obtain ⟨number, same⟩ := append_cons_inj_of_notMem_left (noComma id) (noComma id')
      (List.cons.inj (List.cons.inj same).2).2
    exact ⟨Text.decimal_injective number, rfl, (List.cons.inj same).2⟩

section Maps

variable {form : Int → List Char → List Char} {text : List Char}
variable {rows rows' : List (Int × List UInt8)} {entries : List (Int × List Char)}

theorem Reads.unique (isForm : IsRowForm form) (reads : Reads form text rows)
    (reads' : Reads form text rows') : rows = rows' := by
  induction reads generalizing rows' with
  | nil =>
      generalize empty : ([] : List Char) = text at reads'
      cases reads' with
      | nil => rfl
      | row denotes' later' =>
          exact absurd (List.append_eq_nil_iff.mp empty.symm).1 (isForm.nonempty _ _)
  | @row id body rest bytes rows denotes later ih =>
      generalize whole : form id body ++ rest = text at reads'
      cases reads' with
      | nil => exact absurd (List.append_eq_nil_iff.mp whole).1 (isForm.nonempty _ _)
      | row denotes' later' =>
          obtain ⟨rfl, rfl, rfl⟩ := isForm.cancel denotes denotes' whole
          rw [ih later']

/-- The bytes that a map has at least if it stands for the rows. -/
def size (form : Int → List Char → List Char) : List (Int × List UInt8) → Nat
  | [] => 0
  | row :: rest => (utf8 (form row.1 [])).length + row.2.length + size form rest

theorem Reads.plain_or_shorter (isForm : IsRowForm form) (reads : Reads form text rows) :
    (∃ entries : List (Int × List Char), (∀ entry ∈ entries, IsPlainText entry.2) ∧
        rows = entries.map fun entry => (entry.1, utf8 entry.2)) ∨
      size form rows < (utf8 text).length := by
  -- The size is exact if all literals are plain, and too small as soon as one is not.
  suffices exact : (∃ entries : List (Int × List Char), (∀ entry ∈ entries, IsPlainText entry.2) ∧
      rows = entries.map fun entry => (entry.1, utf8 entry.2)) ∧
        size form rows = (utf8 text).length ∨ size form rows < (utf8 text).length from
    exact.imp_left And.left
  induction reads with
  | nil => exact .inl ⟨⟨[], List.forall_mem_nil _, rfl⟩, rfl⟩
  | @row id body rest bytes rows denotes later ih =>
      have whole := isForm.size id body
      rw [utf8_append, List.length_append, whole, size]
      rcases denotes.plain_or_shorter with ⟨plain, rfl⟩ | shorter
      · rcases ih with ⟨⟨entries, all, rfl⟩, same⟩ | less
        · refine .inl ⟨⟨(id, body) :: entries, List.forall_mem_cons.mpr ⟨plain, all⟩, rfl⟩, ?_⟩
          simp only [same]
        · exact .inr (by simp only; omega)
      · refine .inr ?_
        have most : size form rows ≤ (utf8 rest).length := by
          rcases ih with ⟨_, same⟩ | less
          · exact Nat.le_of_eq same
          · exact Nat.le_of_lt less
        simp only
        omega

theorem size_of_entries (isForm : IsRowForm form) (entries : List (Int × List Char)) :
    size form (entries.map fun entry => (entry.1, utf8 entry.2)) =
      (utf8 (entries.flatMap fun entry => form entry.1 entry.2)).length := by
  induction entries with
  | nil => rfl
  | cons entry entries ih =>
      have whole := isForm.size entry.1 entry.2
      rw [List.flatMap_cons, utf8_append, List.length_append, whole, ← ih]
      rfl

/-- Rows with names as they are stand for these names exactly if all of them are plain. -/
theorem reads_iff_plain (isForm : IsRowForm form) (entries : List (Int × List Char)) :
    Reads form (entries.flatMap fun entry => form entry.1 entry.2)
        (entries.map fun entry => (entry.1, utf8 entry.2)) ↔
      ∀ entry ∈ entries, IsPlainText entry.2 := by
  constructor
  · intro reads
    rcases reads.plain_or_shorter isForm with ⟨others, plain, same⟩ | shorter
    · have injective : Function.Injective fun entry : Int × List Char => (entry.1, utf8 entry.2) := by
        intro entry other equal
        exact Prod.ext (Prod.mk.inj equal).1 (utf8_injective (Prod.mk.inj equal).2)
      exact List.map_injective_iff.mpr injective same ▸ plain
    · rw [size_of_entries isForm] at shorter
      exact absurd shorter (Nat.lt_irrefl _)
  · intro plain
    induction entries with
    | nil => exact .nil
    | cons entry entries ih =>
        have ⟨first, later⟩ := List.forall_mem_cons.mp plain
        exact .row (denotes_utf8 first) (ih later)

theorem readsBack_iff_plain (isForm : IsRowForm form) (entries : List (Int × List Char)) :
    ReadsBack form (entries.flatMap fun entry => form entry.1 entry.2)
        (entries.map fun entry => (entry.1, utf8 entry.2)) ↔
      ∀ entry ∈ entries, IsPlainText entry.2 := by
  rw [← reads_iff_plain isForm]
  constructor
  · intro readsBack
    exact (readsBack _).mpr rfl
  · intro reads read
    constructor
    · intro other
      exact other.unique isForm reads
    · rintro rfl
      exact reads

end Maps

theorem idRow_eq (row : Int × String) : idRow row = idForm row.1 row.2.toList := by
  simp [idRow, idForm, quoted]

theorem nameRow_eq (row : Int × String) : nameRow row = nameForm row.1 row.2.toList := by
  simp [nameRow, nameForm, quoted]

section Registries

variable {registry : Registry} {package : String} {maps : GoMaps}

theorem rows_of_ofRegistry (made : (ofRegistry registry package).result = .ok maps) :
    maps.rows = registry.ids.map fun entry => (entry.id, entry.normalizedName) := by
  unfold ofRegistry at made
  split at made
  · contradiction
  · exact (congrArg GoMaps.rows (Except.ok.inj made)).symm

theorem readsBack_rows {form : Int → List Char → List Char} {write : Int × String → List Char}
    (isForm : IsRowForm form) (same : ∀ row, write row = form row.1 row.2.toList)
    (entries : List ProtocolId) :
    ReadsBack form ((entries.map fun entry => (entry.id, entry.normalizedName)).flatMap write)
        (entries.map fun entry => (entry.id, utf8 entry.normalizedName.toList)) ↔
      ∀ entry ∈ entries, IsPlainText entry.normalizedName.toList := by
  have exact := readsBack_iff_plain isForm
    (entries.map fun entry => (entry.id, entry.normalizedName.toList))
  simpa only [List.flatMap_map, List.map_map, Function.comp_def, same, List.forall_mem_map] using exact

/-- Every row has its entry's identifier and name, but between the quotes the name has to be plain to
stand for itself. Either map, read alone, is the registry again exactly if all names are plain. -/
theorem reads_back_iff_plain (made : (ofRegistry registry package).result = .ok maps) :
    let entries := registry.ids.map fun entry => (entry.id, utf8 entry.normalizedName.toList)
    maps.rows = registry.ids.map (fun entry => (entry.id, entry.normalizedName)) ∧
    (∀ row ∈ maps.rows, idRow row = Text.decimal row.1 ++ ": ".toList ++ quoted row.2 ++ ",\n".toList ∧
      nameRow row = quoted row.2 ++ ": ".toList ++ Text.decimal row.1 ++ ",\n".toList ∧
      (IsLiteral (quoted row.2) (utf8 row.2.toList) ↔ IsPlainText row.2.toList)) ∧
    (ReadsBack idForm (maps.rows.flatMap idRow) entries ↔
      ∀ entry ∈ registry.ids, IsPlainText entry.normalizedName.toList) ∧
    (ReadsBack nameForm (maps.rows.flatMap nameRow) entries ↔
      ∀ entry ∈ registry.ids, IsPlainText entry.normalizedName.toList) := by
  intro entries
  have rows := rows_of_ofRegistry made
  refine ⟨rows, fun row _ => ⟨rfl, rfl, isLiteral_quoted_iff row.2⟩, ?_, ?_⟩
  · rw [rows]
    exact readsBack_rows isRowForm_idForm idRow_eq registry.ids
  · rw [rows]
    exact readsBack_rows isRowForm_nameForm nameRow_eq registry.ids

/-- A name with other marks of Go in it, and one of nothing but an empty literal. -/
theorem reads_back_iff_plain_accented :
    let registry : Registry := ⟨[⟨"É_', 1: '", 3⟩, ⟨"", -1⟩], [⟨"All_PushId", []⟩]⟩
    let maps : GoMaps := ⟨"main", [(3, "É', 1: '"), (-1, "")], []⟩
    (ofRegistry registry "main").result = .ok maps ∧
      ReadsBack idForm (maps.rows.flatMap idRow)
        [(3, utf8 "É', 1: '".toList), (-1, [])] := by
  intro registry maps
  have made : (ofRegistry registry "main").result = .ok maps := by decide
  exact ⟨made, (reads_back_iff_plain made).2.2.1.mpr (by decide)⟩

/-- A double quote in a name of a document is taken for the end of the name. -/
theorem quoted_name_not_read_back :
    let definitions : List Definition := [.constant "A\"B" "1", .list "All_PushId" []]
    let registry : Registry := ⟨[⟨"A\"B", 1⟩], [⟨"All_PushId", []⟩]⟩
    let maps : GoMaps := ⟨"main", [(1, "A\"B")], []⟩
    (readRegistry (Document.bytes definitions)).result = .ok registry ∧
      (ofRegistry registry "main").result = .ok maps ∧
      ¬ IsLiteral (quoted "A\"B") (utf8 "A\"B".toList) ∧
      ¬ ReadsBack idForm (maps.rows.flatMap idRow) [(1, utf8 "A\"B".toList)] ∧
      ¬ ReadsBack nameForm (maps.rows.flatMap nameRow) [(1, utf8 "A\"B".toList)] := by
  intro definitions registry maps
  have read : (readRegistry (Document.bytes definitions)).result = .ok registry := by
    rw [readRegistry, Document.parse_written (by decide)]
    rfl
  have special : ¬ ∀ entry ∈ registry.ids, IsPlainText entry.normalizedName.toList := by decide
  have quote : ¬ IsPlainText "A\"B".toList := by decide
  refine ⟨read, by decide, ?_, ?_, ?_⟩
  · exact fun literal => quote ((isLiteral_quoted_iff _).mp literal)
  · exact fun readsBack => special ((readsBack_rows isRowForm_idForm idRow_eq registry.ids).mp readsBack)
  · exact fun readsBack =>
      special ((readsBack_rows isRowForm_nameForm nameRow_eq registry.ids).mp readsBack)

end Registries

end IdRegistry.GoMaps
