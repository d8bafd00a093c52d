import IdRegistry.Proofs.ConstantName
import IdRegistry.Proofs.Output.Lookup
import IdRegistry.Proofs.Text.Decimal

namespace IdRegistry

/-- Letters, digits and underscores of ASCII. -/
def IsPlainName (name : String) : Prop := ∀ c ∈ name.toList, c.isAlphanum = true ∨ c = '_'

instance (name : String) : Decidable (IsPlainName name) :=
  List.decidableBAll (fun c : Char => c.isAlphanum = true ∨ c = '_') name.toList

theorem isAlphanum_of_mem_normalizeName {name : String} (plain : IsPlainName name) :
    ∀ c ∈ (normalizeName name).toList, c.isAlphanum = true := by
  intro c member
  simp only [normalizeName, String.toList_ofList, List.mem_filter, decide_eq_true_eq] at member
  exact (plain c member.1).resolve_right member.2

/-- The characters that the constant of a plain name may have. -/
def isConstantCharacter (c : Char) : Bool := c.isUpper || c.isDigit || c = '_'

section Characters

variable {c : Char}

theorem ascii_of_isAlphanum (alphanumeric : c.isAlphanum = true) : c.toNat < 128 := by
  change (decide ('A'.val ≤ c.val ∧ c.val ≤ 'Z'.val) ||
    decide ('a'.val ≤ c.val) && decide (c.val ≤ 'z'.val) ||
    decide ('0'.val ≤ c.val) && decide (c.val ≤ '9'.val)) = true at alphanumeric
  simp only [Bool.or_eq_true, Bool.and_eq_true, decide_eq_true_eq, UInt32.le_iff_toNat_le]
    at alphanumeric
  have code : c.toNat = c.val.toNat := rfl
  have z : 'z'.val.toNat = 122 := rfl
  have capitalZ : 'Z'.val.toNat = 90 := rfl
  have nine : '9'.val.toNat = 57 := rfl
  omega

/-- A property of ASCII characters can be told from their codes. -/
theorem forall_ascii {P : Char → Prop} (all : ∀ code < 128, P (Char.ofNat code))
    (ascii : c.toNat < 128) : P c := by
  have holds := all c.toNat ascii
  rwa [Char.ofNat_toNat] at holds

/-- The part that letters and digits play in words. -/
theorem wordClass_of_isAlphanum (alphanumeric : c.isAlphanum = true) :
    (Unicode.wordClass c = .letter ∨ Unicode.wordClass c = .number) ∧
      Unicode.isAlphanumeric c = true :=
  @forall_ascii c (fun c => c.isAlphanum = true →
    (Unicode.wordClass c = .letter ∨ Unicode.wordClass c = .number) ∧
      Unicode.isAlphanumeric c = true)
    (by decide +kernel) (ascii_of_isAlphanum alphanumeric) alphanumeric

theorem toUppercase_of_isAlphanum (alphanumeric : c.isAlphanum = true) :
    Unicode.toUppercase c = [c.toUpper] :=
  @forall_ascii c (fun c => c.isAlphanum = true → Unicode.toUppercase c = [c.toUpper])
    (by decide +kernel) (ascii_of_isAlphanum alphanumeric) alphanumeric

/-- What capitals and digits are to an identifier. -/
theorem toUpper_of_isAlphanum (alphanumeric : c.isAlphanum = true) :
    isConstantCharacter c.toUpper = true ∧ c.toUpper ≠ '_' ∧
      Unicode.isIdentifierStart c.toUpper = !c.isDigit :=
  @forall_ascii c (fun c => c.isAlphanum = true →
    isConstantCharacter c.toUpper = true ∧ c.toUpper ≠ '_' ∧
      Unicode.isIdentifierStart c.toUpper = !c.isDigit)
    (by decide +kernel) (ascii_of_isAlphanum alphanumeric) alphanumeric

theorem ascii_of_isConstantCharacter (constant : isConstantCharacter c = true) : c.toNat < 128 := by
  simp only [isConstantCharacter, Bool.or_eq_true, decide_eq_true_eq] at constant
  rcases constant with (upper | digit) | rfl
  · have alphanumeric : (c.isUpper || c.isLower || c.isDigit) = true := by simp [upper]
    exact ascii_of_isAlphanum alphanumeric
  · have alphanumeric : (c.isUpper || c.isLower || c.isDigit) = true := by simp [digit]
    exact ascii_of_isAlphanum alphanumeric
  · decide

theorem inIdentifier_of_isConstantCharacter (constant : isConstantCharacter c = true) :
    Unicode.isIdentifierContinue c = true ∧ ConstantName.isTokenBlank c = false ∧
      c.isLower = false :=
  @forall_ascii c (fun c => isConstantCharacter c = true →
    Unicode.isIdentifierContinue c = true ∧ ConstantName.isTokenBlank c = false ∧
      c.isLower = false)
    (by decide +kernel) (ascii_of_isConstantCharacter constant) constant

end Characters

namespace Text

open Unicode (wordClass)

/-- A segment that ends in a letter or a digit. -/
structure Left.InWord (left : Left) : Prop where
  last : left.last = .letter ∨ left.last = .number
  apart : left.joined = false

variable {left : Left} {c : Char}

theorem Left.inWord_first (part : wordClass c = .letter ∨ wordClass c = .number) :
    (Left.first c).InWord := by
  rcases part with letter | number
  · exact ⟨by simp [first, letter, isMark], by simp [first, letter]⟩
  · exact ⟨by simp [first, number, isMark], by simp [first, number]⟩

theorem Left.InWord.push (inWord : left.InWord)
    (part : wordClass c = .letter ∨ wordClass c = .number) : (left.push c).InWord := by
  rcases part with letter | number
  · exact ⟨by simp [Left.push, letter, isMark, inWord.apart], by simp [Left.push, letter, isMark]⟩
  · exact ⟨by simp [Left.push, number, isMark, inWord.apart], by simp [Left.push, number, isMark]⟩

/-- Letters and digits are never divided. -/
theorem Left.InWord.continues (inWord : left.InWord)
    (part : wordClass c = .letter ∨ wordClass c = .number) (right : Right) :
    left.continues c right = true := by
  have admitted : left.admits (wordClass c) right = true := by
    rcases inWord.last with last | last <;> rcases part with part | part <;>
      simp [admits, last, part, isAlphabetic]
  rcases inWord.last with last | last <;> rcases part with part | part <;>
    simp_all [Left.continues, endsLine]

theorem segmentsAfter_of_inWord (inWord : left.InWord) {text : List Char}
    (plain : ∀ c ∈ text, c.isAlphanum = true) : segmentsAfter left text = (text, []) := by
  induction text generalizing left with
  | nil => rfl
  | cons c rest ih =>
      obtain ⟨first, later⟩ := List.forall_mem_cons.mp plain
      have part := (wordClass_of_isAlphanum first).1
      rw [segmentsAfter, if_pos (inWord.continues part _), ih (inWord.push part) later]

theorem words_of_isAlphanum {text : List Char} (plain : ∀ c ∈ text, c.isAlphanum = true) :
    (words text).flatten = text := by
  cases text with
  | nil => rfl
  | cons c rest =>
      obtain ⟨first, later⟩ := List.forall_mem_cons.mp plain
      have ⟨part, alphanumeric⟩ := wordClass_of_isAlphanum first
      have whole : segments (c :: rest) = [c :: rest] := by
        rw [segments, segmentsAfter_of_inWord (Left.inWord_first part) later]
      rw [words, whole, List.filter_cons_of_pos (by simp [alphanumeric]), List.filter_nil,
        List.flatten_singleton]

end Text

namespace ConstantName

variable {text : List Char}

theorem filter_shouted_of_isAlphanum (plain : ∀ c ∈ text, c.isAlphanum = true) :
    (shouted text).filter (· ≠ '_') = text.map Char.toUpper := by
  have unmarked : '_' ∉ text := fun member => absurd (plain '_' member) (by decide)
  rw [filter_shouted unmarked, Text.words_of_isAlphanum plain, List.map_eq_flatMap]
  exact List.flatMap_congr fun c member => toUppercase_of_isAlphanum (plain c member)

theorem isConstantCharacter_of_mem_shouted (plain : ∀ c ∈ text, c.isAlphanum = true) :
    ∀ c ∈ shouted text, isConstantCharacter c = true := by
  intro c member
  by_cases divides : c = '_'
  · simp [isConstantCharacter, divides]
  · have kept : c ∈ text.map Char.toUpper := by
      rw [← filter_shouted_of_isAlphanum plain]
      exact List.mem_filter.mpr ⟨member, by simpa using divides⟩
    obtain ⟨letter, inText, rfl⟩ := List.mem_map.mp kept
    exact (toUpper_of_isAlphanum (plain letter inText)).1

/-- The constant begins like the name. -/
theorem head?_shouted_of_isAlphanum (plain : ∀ c ∈ text, c.isAlphanum = true) :
    (shouted text).head? = text.head?.map Char.toUpper := by
  have unmarked : '_' ∉ text := fun member => absurd (plain '_' member) (by decide)
  have begins := head?_shouted unmarked
  have kept : ((shouted text).filter (· ≠ '_')).head? = text.head?.map Char.toUpper := by
    rw [filter_shouted_of_isAlphanum plain, List.head?_map]
  cases spelled : shouted text with
  | nil => simpa [spelled] using kept
  | cons c rest =>
      have other : c ≠ '_' := fun same => begins (by simp [spelled, same])
      simpa [spelled, other] using kept

/-- Keywords have small letters, but for the underscore. -/
theorem shouted_notMem_keywords (plain : ∀ c ∈ text, c.isAlphanum = true) :
    String.ofList (shouted text) ∉ keywords := by
  have small : ∀ keyword ∈ keywords, keyword.toList.any Char.isLower = true ∨
      keyword.toList.head? = some '_' := by decide +kernel
  intro member
  rcases small _ member with lower | underscore
  · obtain ⟨c, inConstant, lower⟩ := List.any_eq_true.mp lower
    rw [String.toList_ofList] at inConstant
    have constant := isConstantCharacter_of_mem_shouted plain c inConstant
    simp [(inIdentifier_of_isConstantCharacter constant).2.2] at lower
  · rw [String.toList_ofList, head?_shouted_of_isAlphanum plain] at underscore
    obtain ⟨c, first, same⟩ := Option.map_eq_some_iff.mp underscore
    exact (toUpper_of_isAlphanum (plain c (List.mem_of_head? first))).2.1 same

theorem isIdentifier_shouted (plain : ∀ c ∈ text, c.isAlphanum = true) :
    isIdentifier (shouted text) = true ↔ ∃ c, text.head? = some c ∧ c.isDigit = false := by
  have free := shouted_notMem_keywords plain
  have inside : ∀ c ∈ shouted text, Unicode.isIdentifierContinue c = true := fun c member =>
    (inIdentifier_of_isConstantCharacter (isConstantCharacter_of_mem_shouted plain c member)).1
  have begins := head?_shouted_of_isAlphanum plain
  cases text with
  | nil => simp [List.head?_eq_none_iff.mp begins, isIdentifier]
  | cons c rest =>
      obtain ⟨_, other, start⟩ := toUpper_of_isAlphanum (plain c List.mem_cons_self)
      obtain ⟨later, spelled⟩ := List.head?_eq_some_iff.mp begins
      rw [spelled] at free inside ⊢
      have continued : later.all Unicode.isIdentifierContinue = true :=
        List.all_eq_true.mpr fun d member => inside d (List.mem_cons_of_mem _ member)
      simp [isIdentifier, -String.ofList_cons, other, start, continued, free]

/-- No blanks stand around the constant. -/
theorem identifier?_shouted (plain : ∀ c ∈ text, c.isAlphanum = true) :
    identifier? (shouted text) =
      if isIdentifier (shouted text) then some (shouted text) else none := by
  have solid : ∀ c ∈ shouted text, isTokenBlank c = false := fun c member =>
    (inIdentifier_of_isConstantCharacter (isConstantCharacter_of_mem_shouted plain c member)).2.1
  have whole : withoutMark (shouted text) = shouted text := by
    cases spelled : shouted text with
    | nil => rfl
    | cons c rest =>
        have constant := isConstantCharacter_of_mem_shouted plain c (by simp [spelled])
        rw [withoutMark.eq_def]
        split
        next begins =>
          obtain ⟨rfl, _⟩ := List.cons.inj begins
          contradiction
        next => rfl
  rw [identifier?, whole, Text.trimmed_of_none solid]

end ConstantName

section Entries

open ConstantName (isIdentifier shouted)

variable {entry : ProtocolId} {constant : String}

theorem ProtocolId.constant_of_plain (plain : IsPlainName entry.name) :
    entry.constant =
      if isIdentifier (shouted entry.normalizedName.toList) then
        .ok (String.ofList (shouted entry.normalizedName.toList))
      else
        .error (.invalidIdentifier entry.name
          (String.ofList (shouted entry.normalizedName.toList))) := by
  have letters : ∀ c ∈ entry.normalizedName.toList, c.isAlphanum = true :=
    isAlphanum_of_mem_normalizeName plain
  rw [ProtocolId.constant, ConstantName.identifier?_shouted letters]
  cases isIdentifier (shouted entry.normalizedName.toList) <;> rfl

theorem ProtocolId.exists_constant_iff (plain : IsPlainName entry.name) :
    (∃ constant, entry.constant = .ok constant) ↔
      isIdentifier (shouted entry.normalizedName.toList) = true := by
  rw [ProtocolId.constant_of_plain plain]
  generalize shouted entry.normalizedName.toList = text
  cases isIdentifier text with
  | true => exact iff_of_true ⟨_, rfl⟩ rfl
  | false => exact iff_of_false (by simp) (by simp)

/-- The constant of a plain name, without its underscores, is the name in capitals. -/
theorem ProtocolId.filter_constant (plain : IsPlainName entry.name)
    (made : entry.constant = .ok constant) :
    constant.toList = shouted entry.normalizedName.toList ∧
      constant.toList.filter (· ≠ '_') = entry.normalizedName.toList.map Char.toUpper := by
  rw [ProtocolId.constant_of_plain plain] at made
  have spelled : constant.toList = shouted entry.normalizedName.toList := by
    split at made
    · rw [← Except.ok.inj made, String.toList_ofList]
    · simp only [reduceCtorEq] at made
  refine ⟨spelled, ?_⟩
  rw [spelled]
  exact ConstantName.filter_shouted_of_isAlphanum (isAlphanum_of_mem_normalizeName plain)

theorem RustTables.shared_of_duplicateName {registry : Registry} {name again item : String}
    (failed : (ofRegistry registry).result = .error (.duplicateName name again item)) :
    ∃ first second : ProtocolId, first.name = name ∧ second.name = again ∧
      first.HasConstant item ∧ second.HasConstant item := by
  rw [ofRegistry_result] at failed
  rcases accepted_or_fault registry with accepted | ⟨failure, fault⟩
  · obtain ⟨rows, list, _, _, made⟩ := make_of_accepted accepted
    rw [made] at failed
    contradiction
  · rw [make_of_firstFault fault] at failed
    obtain rfl := Except.error.inj failed
    cases fault with
    | entry split consistent fault =>
        cases fault with
        | duplicate own split same only => exact ⟨_, _, rfl, rfl, same, own⟩

/-- No two entries of one table have the same name, whatever stands between them. -/
theorem RustTables.normalizedName_ne_of_sublist {registry : Registry} {tables : RustTables}
    {first second : ProtocolId} (made : (ofRegistry registry).result = .ok tables)
    (both : [first, second].Sublist registry.ids) :
    first.normalizedName ≠ second.normalizedName := by
  have consistent := (tabulates_of_result made).consistent
  intro same
  obtain ⟨constant, own, _⟩ := consistent.valid first (both.subset List.mem_cons_self)
  have distinct := (List.pairwise_cons.mp (consistent.distinct.sublist both)).1
  exact distinct second List.mem_cons_self constant own (own.of_normalizedName same)

end Entries

/-- A plain name has a constant exactly if it begins, without its underscores, with a letter. The
constant is the name in capitals, divided by underscores; it is never a keyword. Two plain names collide
at most if they differ in case alone, and they do if they do not differ at all. -/
theorem constants_of_plain_names {name again : String} (plain : IsPlainName name)
    (plain' : IsPlainName again) :
    (∀ id, (∃ constant, ProtocolId.constant ⟨name, id⟩ = .ok constant) ↔
      ∃ c, (normalizeName name).toList.head? = some c ∧ c.isDigit = false) ∧
    String.ofList (ConstantName.shouted (normalizeName name).toList) ∉ ConstantName.keywords ∧
    (∀ id constant, ProtocolId.constant ⟨name, id⟩ = .ok constant →
      (∀ c ∈ constant.toList, isConstantCharacter c = true) ∧
        constant.toList.filter (· ≠ '_') = (normalizeName name).toList.map Char.toUpper) ∧
    (∀ registry item,
      (RustTables.ofRegistry registry).result = .error (.duplicateName name again item) →
        (normalizeName name).toList.map Char.toUpper =
          (normalizeName again).toList.map Char.toUpper) ∧
    (∀ registry id id', [⟨name, id⟩, ⟨again, id'⟩].Sublist registry.ids →
      normalizeName name = normalizeName again →
        ∀ tables, (RustTables.ofRegistry registry).result ≠ .ok tables) := by
  have letters := isAlphanum_of_mem_normalizeName plain
  refine ⟨fun id => ?_, ConstantName.shouted_notMem_keywords letters, fun id constant made => ?_,
    fun registry item failed => ?_, fun registry id id' both same tables made => ?_⟩
  · rw [← ConstantName.isIdentifier_shouted letters]
    exact ProtocolId.exists_constant_iff plain
  · have ⟨spelled, kept⟩ := ProtocolId.filter_constant plain made
    refine ⟨fun c member => ?_, kept⟩
    rw [spelled] at member
    exact ConstantName.isConstantCharacter_of_mem_shouted letters c member
  · obtain ⟨first, second, rfl, rfl, own, own'⟩ := RustTables.shared_of_duplicateName failed
    have made := ProtocolId.constant_of_hasConstant own
    have made' := ProtocolId.constant_of_hasConstant own'
    exact (ProtocolId.filter_constant plain made).2.symm.trans
      (ProtocolId.filter_constant plain' made').2
  · exact RustTables.normalizedName_ne_of_sublist made both same

/-- Two names that would be keywords if they were not in capitals. -/
theorem constants_of_plain_names_self :
    let name := "Se_lf"
    let again := "self"
    IsPlainName name ∧ IsPlainName again ∧
      ProtocolId.constant ⟨name, 1⟩ = .ok "SELF" ∧
      "SELF".toList.filter (· ≠ '_') = (normalizeName name).toList.map Char.toUpper ∧
      (RustTables.ofRegistry ⟨[⟨name, 1⟩, ⟨again, 2⟩], []⟩).result =
        .error (.duplicateName name again "SELF") ∧
      (normalizeName name).toList.map Char.toUpper =
        (normalizeName again).toList.map Char.toUpper := by
  intro name again
  have plain : IsPlainName name := by decide +kernel
  have plain' : IsPlainName again := by decide +kernel
  have made : ProtocolId.constant ⟨name, 1⟩ = .ok "SELF" := by decide +kernel
  have failed : (RustTables.ofRegistry ⟨[⟨name, 1⟩, ⟨again, 2⟩], []⟩).result =
      .error (.duplicateName name again "SELF") := by decide +kernel
  have ⟨_, _, kept, collide, _⟩ := constants_of_plain_names plain plain'
  exact ⟨plain, plain', made, (kept 1 "SELF" made).2, failed, collide _ _ failed⟩

end IdRegistry
