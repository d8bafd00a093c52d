import IdRegistry.Proofs.Notices
import IdRegistry.Proofs.Text.Numeral

namespace IdRegistry

/-! The reader takes the digits away from zero on the side of the sign, because there is one word more below
zero than above. Its word is at all times the number that the digits so far make
(`Sign.accumulate?_eq_some_iff`), and nothing is given up too early: the numbers on the way lie between
zero and the last one, and have a word if that one has (`Sign.exists_word_of_le`).
-/

namespace Text

/-- The result of an operation on words, if it is that of the integers and has not wrapped. -/
def checked? (operation : Int64 → Int64 → Int64) (exact : Int → Int → Int) (left right : Int64) :
    Option Int64 :=
  if (operation left right).toInt = exact left.toInt right.toInt then some (operation left right)
  else none

/-- A word further away from zero. -/
def Sign.move? : Sign → Int64 → Nat → Option Int64
  | .plus, word, digit => checked? (· + ·) (· + ·) word (Int64.ofNat digit)
  | .minus, word, digit => checked? (· - ·) (· - ·) word (Int64.ofNat digit)

/-- A number that is continued by one digit. -/
def Sign.extend? (sign : Sign) (word : Int64) (digit : Nat) : Option Int64 :=
  (checked? (· * ·) (· * ·) word 10).bind fun product => sign.move? product digit

/-- A number that is continued by all digits of a text. -/
def Sign.accumulate? (sign : Sign) (word : Int64) : List Char → Option Int64
  | [] => some word
  | c :: rest =>
      match digitValue? c with
      | some digit => (sign.extend? word digit).bind fun next => sign.accumulate? next rest
      | none => none

/-- The word that a value stands for, if it stands for one. -/
def word? (text : String) : Option Int64 :=
  match splitSign (trimBlanks text.toList) with
  | (_, []) => none
  | (sign, digits) => sign.accumulate? 0 digits

theorem toInt_bmod (word : Int64) : word.toInt.bmod (2 ^ 64) = word.toInt := by
  have lower := word.le_toInt
  have upper := word.toInt_lt
  exact Int.bmod_eq_of_le_mul_two (by omega) (by omega)

theorem inRange_toInt (word : Int64) : InRange word.toInt := by
  have upper := word.toInt_lt
  exact inRange_iff.mpr ⟨word.le_toInt, by omega⟩

theorem exists_word {value : Int} (inRange : InRange value) : ∃ word : Int64, word.toInt = value := by
  obtain ⟨lower, upper⟩ := inRange_iff.mp inRange
  exact ⟨Int64.ofInt value, Int64.toInt_ofInt_of_le lower (by omega)⟩

theorem checked?_eq_some_iff {operation : Int64 → Int64 → Int64} {exact : Int → Int → Int}
    {left right word : Int64}
    (wraps : (operation left right).toInt = (exact left.toInt right.toInt).bmod (2 ^ 64)) :
    checked? operation exact left right = some word ↔
      word.toInt = exact left.toInt right.toInt := by
  rw [checked?, Option.ite_none_right_eq_some, Option.some.injEq]
  constructor
  · rintro ⟨fits, rfl⟩
    exact fits
  · intro fits
    have same : operation left right = word := by
      apply Int64.toInt.inj
      rw [wraps, ← fits, toInt_bmod]
    exact ⟨same ▸ fits, same⟩

namespace Sign

variable {sign : Sign} {word next : Int64} {before digit : Nat}

theorem toInt_zero (sign : Sign) : (0 : Int64).toInt = sign.signed 0 := by
  cases sign <;> rfl

theorem signed_add (sign : Sign) (first second : Nat) :
    sign.signed (first + second) = sign.signed first + sign.signed second := by
  cases sign <;> simp only [signed] <;> omega

theorem signed_mul (sign : Sign) (first second : Nat) :
    sign.signed (first * second) = sign.signed first * second := by
  cases sign with
  | plus => exact Int.natCast_mul first second
  | minus => rw [signed, signed, Int.natCast_mul, Int.neg_mul]

/-- What lies nearer to zero than a word has a word too. -/
theorem exists_word_of_le {magnitude : Nat} (valued : word.toInt = sign.signed magnitude)
    (nearer : before ≤ magnitude) : ∃ other : Int64, other.toInt = sign.signed before := by
  apply exists_word
  have inRange := inRange_iff.mp (inRange_toInt word)
  rw [valued] at inRange
  rw [inRange_iff]
  cases sign <;> simp only [signed] at inRange ⊢ <;> omega

theorem move?_eq_some_iff (small : digit < 10) :
    sign.move? word digit = some next ↔ next.toInt = word.toInt + sign.signed digit := by
  have valued : (Int64.ofNat digit).toInt = digit := Int64.toInt_ofNat_of_lt (by omega)
  cases sign with
  | plus => rw [move?, checked?_eq_some_iff (Int64.toInt_add _ _), valued, signed]
  | minus =>
      rw [move?, checked?_eq_some_iff (Int64.toInt_sub _ _), valued, signed, Int.sub_eq_add_neg]

/-- One digit more: the word is given if and only if the number has one. -/
theorem extend?_eq_some_iff (valued : word.toInt = sign.signed before) (small : digit < 10) :
    sign.extend? word digit = some next ↔ next.toInt = sign.signed (before * 10 + digit) := by
  have product (middle : Int64) : checked? (· * ·) (· * ·) word 10 = some middle ↔
      middle.toInt = sign.signed (before * 10) := by
    rw [checked?_eq_some_iff (Int64.toInt_mul _ _), valued, signed_mul]
    rfl
  simp only [extend?, Option.bind_eq_some_iff, product, move?_eq_some_iff small]
  constructor
  · rintro ⟨middle, scaled, moved⟩
    rw [moved, scaled, signed_add]
  · intro reached
    obtain ⟨middle, scaled⟩ := exists_word_of_le reached (Nat.le_add_right (before * 10) digit)
    exact ⟨middle, scaled, by rw [reached, scaled, signed_add]⟩

/-- All digits: the word is given if and only if the number has one, and is never another. -/
theorem accumulate?_eq_some_iff (valued : word.toInt = sign.signed before) {text : List Char}
    {last : Int64} :
    sign.accumulate? word text = some last ↔
      ∃ magnitude, digitsFrom before text = some magnitude ∧ last.toInt = sign.signed magnitude := by
  induction text generalizing word before with
  | nil =>
      simp only [accumulate?, digitsFrom, Option.some.injEq, exists_eq_left', ← valued]
      rw [Int64.toInt_inj, eq_comm]
  | cons c rest ih =>
      cases read : digitValue? c with
      | none => simp [accumulate?, digitsFrom, read]
      | some digit =>
          have small : digit < 10 := by
            obtain ⟨value, -, rfl⟩ := digitValue?_eq_some_iff.mp read
            exact value.isLt
          simp only [accumulate?, digitsFrom, read, Option.bind_eq_some_iff]
          constructor
          · rintro ⟨next, extended, continued⟩
            exact (ih ((extend?_eq_some_iff valued small).mp extended)).mp continued
          · rintro ⟨magnitude, digits, reached⟩
            -- The number so far is as near to zero as the last one, so it is not given up.
            have passed : before * 10 + digit ≤ magnitude := le_of_digitsFrom digits
            obtain ⟨next, extended⟩ := exists_word_of_le reached passed
            exact ⟨next, (extend?_eq_some_iff valued small).mpr extended,
              (ih extended).mpr ⟨magnitude, digits, reached⟩⟩

end Sign

theorem word?_eq_some_iff {text : String} {word : Int64} :
    word? text = some word ↔ integer? text = some word.toInt := by
  rw [integer?_of_stripped (stripped_trimBlanks text.toList), signed?_eq, word?]
  obtain ⟨sign, digits⟩ := splitSign (trimBlanks text.toList)
  cases digits with
  | nil => simp [natural?]
  | cons c rest =>
      simp only [natural?, Option.map_eq_some_iff, inRange_toInt word, and_true]
      rw [Sign.accumulate?_eq_some_iff sign.toInt_zero]
      simp only [eq_comm]

/-- The integers of the reader and those of the words are the same. -/
theorem map_word? (text : String) : (word? text).map Int64.toInt = integer? text := by
  apply Option.ext
  intro value
  rw [Option.map_eq_some_iff]
  constructor
  · rintro ⟨word, read, rfl⟩
    exact word?_eq_some_iff.mp read
  · intro read
    obtain ⟨word, rfl⟩ := exists_word (inRange_of_integer? read)
    exact ⟨word, word?_eq_some_iff.mpr read, rfl⟩

end Text

theorem integers?_eq_some_iff_standsFor {items : List String} {values : List Int} :
    integers? items = some values ↔ List.Forall₂ Text.StandsFor items values := by
  have read : (fun item value => Text.integer? item = some value) = Text.StandsFor :=
    funext fun item => funext fun value => propext Text.integer?_eq_some_iff
  rw [integers?_eq_some_iff, read]

theorem integers?_eq_none_iff_standsFor {items : List String} :
    integers? items = none ↔ ∃ item ∈ items, ∀ value, ¬ Text.StandsFor item value := by
  simp only [integers?_eq_none_iff, Text.integer?_eq_none_iff]

namespace Definition

variable {name text : String} {items : List String}

theorem judge_constant_eq_identifier_iff {id : Int} :
    (constant name text).judge = .identifier ⟨name, id⟩ ↔
      isPrivate name = false ∧ Text.StandsFor text id := by
  rw [← Text.integer?_eq_some_iff]
  cases hidden : isPrivate name <;> cases read : Text.integer? text <;>
    simp [judge, Definition.name, hidden, read]

theorem judge_constant_eq_skipped_iff :
    (constant name text).judge = .skipped (.skippedConstant name text) ↔
      isPrivate name = false ∧ ∀ id, ¬ Text.StandsFor text id := by
  rw [← Text.integer?_eq_none_iff]
  cases hidden : isPrivate name <;> cases read : Text.integer? text <;>
    simp [judge, Definition.name, hidden, read]

theorem judge_list_eq_integers_iff {values : List Int} :
    (list name items).judge = .integers ⟨name, values⟩ ↔
      isPrivate name = false ∧ List.Forall₂ Text.StandsFor items values := by
  rw [← integers?_eq_some_iff_standsFor]
  cases hidden : isPrivate name <;> cases read : integers? items <;>
    simp [judge, Definition.name, hidden, read]

theorem judge_list_eq_skipped_iff :
    (list name items).judge = .skipped (.skippedList name) ↔
      isPrivate name = false ∧ ∃ item ∈ items, ∀ value, ¬ Text.StandsFor item value := by
  rw [← integers?_eq_none_iff_standsFor]
  cases hidden : isPrivate name <;> cases read : integers? items <;>
    simp [judge, Definition.name, hidden, read]

end Definition

/-- A public constant is an identifier if and only if its value is a numeral of an integer in range,
which is then its id, and is left out otherwise. A public list is kept if and only if this holds of each
item, with the integers in the order of the items. Reading in words, digit by digit, gives the same
integers: the word is at all times the number of the digits so far, and is missing only if that number
has none. Every word is read from its decimal form, with any blanks around it. -/
theorem numerals_read_exactly (name text : String) (items : List String) :
    (∀ value, Text.integer? text = some value ↔ Text.StandsFor text value) ∧
    (∀ id, (Definition.constant name text).judge = .identifier ⟨name, id⟩ ↔
      isPrivate name = false ∧ Text.StandsFor text id) ∧
    ((Definition.constant name text).judge = .skipped (.skippedConstant name text) ↔
      isPrivate name = false ∧ ∀ id, ¬ Text.StandsFor text id) ∧
    (∀ values, (Definition.list name items).judge = .integers ⟨name, values⟩ ↔
      isPrivate name = false ∧ List.Forall₂ Text.StandsFor items values) ∧
    ((Definition.list name items).judge = .skipped (.skippedList name) ↔
      isPrivate name = false ∧ ∃ item ∈ items, ∀ value, ¬ Text.StandsFor item value) ∧
    (Text.word? text).map Int64.toInt = Text.integer? text ∧
    (∀ (sign : Text.Sign) (digits : List (Fin 10)) (word : Int64),
      sign.accumulate? 0 (digits.map Text.digitCharacter) = some word ↔
        word.toInt = sign.signed (Text.magnitude digits)) ∧
    ∀ (word : Int64) (before after : List Char), (∀ c ∈ before, Unicode.isBlank c = true) →
      (∀ c ∈ after, Unicode.isBlank c = true) →
      Text.integer? (String.ofList (before ++ Text.decimal word.toInt ++ after)) =
        some word.toInt := by
  refine ⟨fun value => Text.integer?_eq_some_iff,
    fun id => Definition.judge_constant_eq_identifier_iff,
    Definition.judge_constant_eq_skipped_iff,
    fun values => Definition.judge_list_eq_integers_iff,
    Definition.judge_list_eq_skipped_iff, Text.map_word? text, ?_, ?_⟩
  · intro sign digits word
    rw [Text.Sign.accumulate?_eq_some_iff sign.toInt_zero, Text.digitsFrom_digits]
    simp
  · intro word before after leading trailing
    exact Text.integer?_padded (Text.inRange_toInt word) leading trailing

/-- The least word is read between blanks. The next number above the greatest word is no integer of a
registry, with zeros before it or not, and stops the words at its last digit. -/
theorem numerals_read_exactly_ends :
    (∀ c ∈ ['\t'], Unicode.isBlank c = true) ∧
      (∀ c ∈ ['\u3000', '\n'], Unicode.isBlank c = true) ∧
      Text.integer? "\t-9223372036854775808\u3000\n" = some (-2 ^ 63) ∧
      (∀ id, ¬ Text.StandsFor "+009223372036854775808" id) ∧
      Text.word? "+009223372036854775808" = none := by
  have leading : ∀ c ∈ ['\t'], Unicode.isBlank c = true := List.forall_mem_singleton.mpr rfl
  have trailing : ∀ c ∈ ['\u3000', '\n'], Unicode.isBlank c = true :=
    List.forall_mem_cons.mpr ⟨rfl, List.forall_mem_singleton.mpr rfl⟩
  obtain ⟨exactly, -, -, -, -, words, -, padded⟩ :=
    numerals_read_exactly "Qot_Sub" "+009223372036854775808" []
  have written : String.ofList (['\t'] ++ Text.decimal Int64.minValue.toInt ++ ['\u3000', '\n']) =
      "\t-9223372036854775808\u3000\n" := by decide +kernel
  have least := padded Int64.minValue _ _ leading trailing
  rw [written, Int64.toInt_minValue] at least
  have beyond : Text.integer? "+009223372036854775808" = none := by decide +kernel
  refine ⟨leading, trailing, least, fun id stands => ?_, ?_⟩
  · rw [← exactly, beyond] at stands
    exact Option.some_ne_none id stands.symm
  · rwa [beyond, Option.map_eq_none_iff] at words

end IdRegistry
