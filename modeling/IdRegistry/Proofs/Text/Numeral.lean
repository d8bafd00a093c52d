import IdRegistry.Proofs.Text.Decimal
import Mathlib.Data.List.DropRight
import Mathlib.Data.Nat.Digits.Defs
import Mathlib.Tactic.Ring

namespace IdRegistry.Text

open Unicode (isBlank)

inductive Sign where
  | plus
  | minus
deriving DecidableEq, Repr

def Sign.character : Sign → Char
  | .plus => '+'
  | .minus => '-'

/-- The integer of a magnitude on the side of the sign. -/
def Sign.signed : Sign → Nat → Int
  | .plus, magnitude => magnitude
  | .minus, magnitude => -magnitude

/-- The ASCII digit of a value. -/
def digitCharacter (digit : Fin 10) : Char := Char.ofNat ('0'.toNat + digit)

/-- The number that digits make, the last of them in the place of the ones. -/
def magnitude (digits : List (Fin 10)) : Nat :=
  Nat.ofDigits 10 (digits.reverse.map Fin.val)

/-- A sign or none, and one digit or more. -/
structure Numeral where
  sign : Option Sign
  digits : List (Fin 10)
  nonempty : digits ≠ []

namespace Numeral

def characters (numeral : Numeral) : List Char :=
  (numeral.sign.map Sign.character).toList ++ numeral.digits.map digitCharacter

/-- Without a sign a numeral stands for its magnitude. -/
def value (numeral : Numeral) : Int :=
  (numeral.sign.getD .plus).signed (magnitude numeral.digits)

end Numeral

/-- The sign of a number and what stands after it. Where no sign is written it is a plus. -/
def splitSign : List Char → Sign × List Char
  | '+' :: digits => (.plus, digits)
  | '-' :: digits => (.minus, digits)
  | digits => (.plus, digits)

/-- All of a text but the blanks at its two ends. -/
structure Stripped (text core : List Char) : Prop where
  framed : ∃ before after, text = before ++ core ++ after ∧
    (∀ c ∈ before, isBlank c = true) ∧ ∀ c ∈ after, isBlank c = true
  first : ∀ c, core.head? = some c → isBlank c = false
  last : ∀ c, core.getLast? = some c → isBlank c = false

/-- The text is a numeral of the integer, with blanks around it or not, and the integer has a signed
64-bit word. -/
structure StandsFor (text : String) (value : Int) : Prop where
  spelled : ∃ numeral : Numeral, Stripped text.toList numeral.characters ∧ numeral.value = value
  lower : -2 ^ 63 ≤ value
  upper : value ≤ 2 ^ 63 - 1

theorem inRange_iff {value : Int} : InRange value ↔ -2 ^ 63 ≤ value ∧ value ≤ 2 ^ 63 - 1 := by
  simp only [InRange, leastInteger, greatestInteger]
  norm_num

theorem eq_false_of_head?_dropWhile {p : Char → Bool} {text : List Char} {c : Char}
    (first : (text.dropWhile p).head? = some c) : p c = false := by
  have stops := List.head?_dropWhile_not p text
  rwa [first] at stops

theorem stripped_trimBlanks (text : List Char) : Stripped text (trimBlanks text) := by
  have trimmed : trimBlanks text = (text.dropWhile isBlank).rdropWhile isBlank := rfl
  have joined : trimBlanks text ++ (text.dropWhile isBlank).rtakeWhile isBlank =
      text.dropWhile isBlank := by
    rw [trimmed, List.rdropWhile_append_rtakeWhile]
  refine ⟨⟨text.takeWhile isBlank, (text.dropWhile isBlank).rtakeWhile isBlank, ?_,
    fun c => List.mem_takeWhile_imp, fun c => List.mem_rtakeWhile_imp⟩, ?_, ?_⟩
  · rw [List.append_assoc, joined, List.takeWhile_append_dropWhile]
  · intro c first
    have first : (text.dropWhile isBlank).head? = some c := by
      rw [← joined, List.head?_append, first]
      rfl
    exact eq_false_of_head?_dropWhile first
  · intro c last
    rw [trimBlanks, List.getLast?_reverse] at last
    exact eq_false_of_head?_dropWhile last

/-- A text has one core only, and it is what trimming leaves. -/
theorem Stripped.trimBlanks_eq {text core : List Char} (stripped : Stripped text core) :
    trimBlanks text = core := by
  obtain ⟨before, after, rfl, leading, trailing⟩ := stripped.framed
  rw [trimBlanks, List.append_assoc, List.dropWhile_append_of_pos leading]
  -- Blanks before the core go first. Without a core those after it go along with them.
  cases core with
  | nil =>
      have nothing : after.dropWhile isBlank = [] := List.dropWhile_eq_nil_iff.mpr trailing
      rw [List.nil_append, nothing]
      rfl
  | cons c rest =>
      have starts : ¬ isBlank c = true := by simp [stripped.first c rfl]
      have ends : (c :: rest).reverse.dropWhile isBlank = (c :: rest).reverse :=
        dropWhile_of_head? fun d last => stripped.last d (by rwa [List.head?_reverse] at last)
      have trailing : ∀ d ∈ after.reverse, isBlank d = true :=
        fun d member => trailing d (List.mem_reverse.mp member)
      rw [List.cons_append, List.dropWhile_cons_of_neg starts, ← List.cons_append,
        List.reverse_append, List.dropWhile_append_of_pos trailing, ends, List.reverse_reverse]

theorem stripped_of_not_blank {before core after : List Char}
    (leading : ∀ c ∈ before, isBlank c = true) (trailing : ∀ c ∈ after, isBlank c = true)
    (none : ∀ c ∈ core, isBlank c = false) : Stripped (before ++ core ++ after) core where
  framed := ⟨before, after, rfl, leading, trailing⟩
  first c first := none c (List.mem_of_head? first)
  last c last := none c (List.mem_of_getLast? last)

theorem integer?_of_stripped {text : String} {core : List Char} {value : Int}
    (stripped : Stripped text.toList core) :
    integer? text = some value ↔ signed? core = some value ∧ InRange value := by
  rw [integer?, stripped.trimBlanks_eq]
  cases signed? core with
  | none => simp
  | some read =>
      simp only [Option.ite_none_right_eq_some, Option.some.injEq, InRange]
      constructor
      · rintro ⟨inRange, rfl⟩
        exact ⟨rfl, inRange⟩
      · rintro ⟨rfl, inRange⟩
        exact ⟨inRange, rfl⟩

theorem digitValue?_digitCharacter (digit : Fin 10) :
    digitValue? (digitCharacter digit) = some digit.val := by
  revert digit
  decide

theorem digitValue?_eq_some_iff {c : Char} {value : Nat} :
    digitValue? c = some value ↔ ∃ digit : Fin 10, digitCharacter digit = c ∧ digit.val = value := by
  constructor
  · intro read
    obtain ⟨⟨least, greatest⟩, same⟩ := Option.ite_none_right_eq_some.mp read
    have lower : '0'.toNat ≤ c.toNat := least
    have upper : c.toNat ≤ '0'.toNat + 9 := greatest
    refine ⟨⟨c.toNat - '0'.toNat, by omega⟩, ?_, Option.some.inj same⟩
    rw [digitCharacter, Nat.add_sub_cancel' lower, Char.ofNat_toNat]
  · rintro ⟨digit, rfl, rfl⟩
    exact digitValue?_digitCharacter digit

theorem magnitude_cons (digit : Fin 10) (digits : List (Fin 10)) :
    magnitude (digit :: digits) = digit * 10 ^ digits.length + magnitude digits := by
  have places := Nat.ofDigits_reverse_cons (b := 10) (digits.map Fin.val) digit.val
  rw [← List.map_cons, ← List.map_reverse, ← List.map_reverse, List.length_map] at places
  rw [magnitude, places, magnitude, Nat.add_comm, Nat.mul_comm]

/-- Digits that continue a number move it up by as many places. -/
theorem digitsFrom_digits (before : Nat) (digits : List (Fin 10)) :
    digitsFrom before (digits.map digitCharacter) =
      some (before * 10 ^ digits.length + magnitude digits) := by
  induction digits generalizing before with
  | nil => simp [digitsFrom, magnitude]
  | cons digit digits ih =>
      simp only [List.map_cons, digitsFrom, digitValue?_digitCharacter, ih, magnitude_cons,
        List.length_cons]
      ring_nf

theorem exists_digits_of_digitsFrom {before value : Nat} {text : List Char}
    (read : digitsFrom before text = some value) :
    ∃ digits : List (Fin 10), text = digits.map digitCharacter := by
  induction text generalizing before with
  | nil => exact ⟨[], rfl⟩
  | cons c rest ih =>
      cases valued : digitValue? c with
      | none => simp [digitsFrom, valued] at read
      | some first =>
          simp only [digitsFrom, valued] at read
          obtain ⟨digit, rfl, -⟩ := digitValue?_eq_some_iff.mp valued
          obtain ⟨digits, rfl⟩ := ih read
          exact ⟨digit :: digits, rfl⟩

theorem digitsFrom_eq_some_iff {before value : Nat} {text : List Char} :
    digitsFrom before text = some value ↔ ∃ digits : List (Fin 10),
      text = digits.map digitCharacter ∧ value = before * 10 ^ digits.length + magnitude digits := by
  constructor
  · intro read
    obtain ⟨digits, rfl⟩ := exists_digits_of_digitsFrom read
    rw [digitsFrom_digits] at read
    exact ⟨digits, rfl, (Option.some.inj read).symm⟩
  · rintro ⟨digits, rfl, rfl⟩
    exact digitsFrom_digits before digits

/-- Digits that follow do not make a number smaller. -/
theorem le_of_digitsFrom {before value : Nat} {text : List Char}
    (read : digitsFrom before text = some value) : before ≤ value := by
  obtain ⟨digits, -, rfl⟩ := digitsFrom_eq_some_iff.mp read
  have scaled : before ≤ before * 10 ^ digits.length :=
    Nat.le_mul_of_pos_right before (Nat.pow_pos (by decide))
  exact scaled.trans (Nat.le_add_right _ _)

theorem natural?_eq_some_iff {value : Nat} {text : List Char} :
    natural? text = some value ↔ ∃ digits : List (Fin 10),
      digits ≠ [] ∧ text = digits.map digitCharacter ∧ value = magnitude digits := by
  cases text with
  | nil =>
      constructor
      · intro read
        contradiction
      · rintro ⟨digits, nonempty, spelled, -⟩
        exact absurd (List.map_eq_nil_iff.mp spelled.symm) nonempty
  | cons c rest =>
      rw [natural?_of_ne_nil (List.cons_ne_nil c rest), digitsFrom_eq_some_iff]
      refine exists_congr fun digits => ?_
      rw [Nat.zero_mul, Nat.zero_add]
      constructor
      · rintro ⟨spelled, valued⟩
        refine ⟨?_, spelled, valued⟩
        rintro rfl
        contradiction
      · exact And.right

theorem signed?_eq (text : List Char) :
    signed? text = (natural? (splitSign text).2).map (splitSign text).1.signed := by
  fun_cases splitSign text with
  | case1 digits => rfl
  | case2 digits =>
      rw [signed?]
      cases natural? digits <;> rfl
  | case3 _ noPlus noMinus => exact signed?.eq_3 text noPlus noMinus

/-- A text begins with the sign that is split off, unless it begins with none. -/
theorem exists_mark (text : List Char) :
    ∃ sign : Option Sign, text = (sign.map Sign.character).toList ++ (splitSign text).2 ∧
      (splitSign text).1 = sign.getD .plus := by
  fun_cases splitSign text with
  | case1 digits => exact ⟨some .plus, rfl, rfl⟩
  | case2 digits => exact ⟨some .minus, rfl, rfl⟩
  | case3 => exact ⟨none, rfl, rfl⟩

theorem character_ne_digitCharacter (sign : Sign) (digit : Fin 10) :
    sign.character ≠ digitCharacter digit := by
  cases sign <;> revert digit <;> decide

theorem splitSign_characters (numeral : Numeral) :
    splitSign numeral.characters =
      (numeral.sign.getD .plus, numeral.digits.map digitCharacter) := by
  obtain ⟨sign, digits, nonempty⟩ := numeral
  cases sign with
  | some sign => cases sign <;> rfl
  | none =>
      obtain ⟨digit, others, rfl⟩ := List.exists_cons_of_ne_nil nonempty
      have unmarked (sign : Sign) (rest : List Char) :
          (digit :: others).map digitCharacter = sign.character :: rest → False := by
        intro same
        exact character_ne_digitCharacter sign digit (List.cons.inj same).1.symm
      exact splitSign.eq_3 _ (unmarked .plus) (unmarked .minus)

theorem signed?_eq_some_iff {value : Int} {text : List Char} :
    signed? text = some value ↔ ∃ numeral : Numeral, numeral.characters = text ∧
      numeral.value = value := by
  rw [signed?_eq]
  constructor
  · intro read
    obtain ⟨_, natural, rfl⟩ := Option.map_eq_some_iff.mp read
    obtain ⟨digits, nonempty, spelled, rfl⟩ := natural?_eq_some_iff.mp natural
    obtain ⟨sign, marked, side⟩ := exists_mark text
    rw [spelled] at marked
    exact ⟨⟨sign, digits, nonempty⟩, marked.symm, side ▸ rfl⟩
  · rintro ⟨numeral, rfl, rfl⟩
    have read := natural?_eq_some_iff.mpr ⟨numeral.digits, numeral.nonempty, rfl, rfl⟩
    rw [splitSign_characters, read]
    rfl

/-- A text is read as an integer if and only if it stands for it. -/
theorem integer?_eq_some_iff {text : String} {value : Int} :
    integer? text = some value ↔ StandsFor text value := by
  constructor
  · intro read
    have stripped := stripped_trimBlanks text.toList
    obtain ⟨signed, inRange⟩ := (integer?_of_stripped stripped).mp read
    obtain ⟨numeral, spelled, valued⟩ := signed?_eq_some_iff.mp signed
    obtain ⟨lower, upper⟩ := inRange_iff.mp inRange
    exact ⟨⟨numeral, spelled ▸ stripped, valued⟩, lower, upper⟩
  · rintro ⟨⟨numeral, stripped, valued⟩, lower, upper⟩
    exact (integer?_of_stripped stripped).mpr
      ⟨signed?_eq_some_iff.mpr ⟨numeral, rfl, valued⟩, inRange_iff.mpr ⟨lower, upper⟩⟩

theorem integer?_eq_none_iff {text : String} :
    integer? text = none ↔ ∀ value, ¬ StandsFor text value := by
  rw [Option.eq_none_iff_forall_ne_some]
  exact forall_congr' fun value => not_congr integer?_eq_some_iff

/-- Blanks around the shortest form of an integer in range are no part of it. -/
theorem integer?_padded {value : Int} {before after : List Char} (inRange : InRange value)
    (leading : ∀ c ∈ before, isBlank c = true) (trailing : ∀ c ∈ after, isBlank c = true) :
    integer? (String.ofList (before ++ decimal value ++ after)) = some value := by
  have none : ∀ c ∈ decimal value, isBlank c = false := fun c => isBlank_of_mem_decimal
  have stripped := stripped_of_not_blank leading trailing none
  rw [← String.toList_ofList (l := before ++ decimal value ++ after)] at stripped
  exact (integer?_of_stripped stripped).mpr ⟨signed?_decimal value, inRange⟩

/-- The shortest form of an integer in range is a value for it. -/
theorem integer?_decimal {value : Int} (inRange : InRange value) :
    integer? (String.ofList (decimal value)) = some value := by
  have bare := integer?_padded inRange (List.forall_mem_nil _) (List.forall_mem_nil _)
  rwa [List.nil_append, List.append_nil] at bare

end IdRegistry.Text
