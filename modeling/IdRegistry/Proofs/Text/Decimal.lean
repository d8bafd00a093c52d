import IdRegistry.Text.Decimal
import Mathlib.Logic.Function.Basic

namespace IdRegistry.Text

theorem digitValue?_of_isDigit {c : Char} (digit : c.isDigit = true) :
    digitValue? c = some (c.toNat - '0'.toNat) := by
  have bounds : '0' ≤ c ∧ c ≤ '9' := by
    simpa [Char.isDigit, Char.le_def] using digit
  rw [digitValue?, if_pos bounds]

theorem digitsFrom_eq_some {digits : List Char} (before : Nat)
    (all : ∀ c ∈ digits, c.isDigit = true) :
    digitsFrom before digits = some (Nat.ofDigitChars 10 digits before) := by
  induction digits generalizing before with
  | nil => rfl
  | cons c rest ih =>
      simp only [digitsFrom, digitValue?_of_isDigit (all c List.mem_cons_self)]
      rw [ih _ fun other member => all other (List.mem_cons_of_mem _ member),
        Nat.ofDigitChars_cons, Nat.mul_comm]

theorem isDigit_of_mem_toDigits {c : Char} {magnitude : Nat}
    (member : c ∈ Nat.toDigits 10 magnitude) : c.isDigit = true :=
  Nat.isDigit_of_mem_toDigits (by decide) (by decide) member

theorem natural?_of_ne_nil {digits : List Char} (nonempty : digits ≠ []) :
    natural? digits = digitsFrom 0 digits := by
  cases digits with
  | nil => contradiction
  | cons c rest => rfl

theorem natural?_toDigits (magnitude : Nat) :
    natural? (Nat.toDigits 10 magnitude) = some magnitude := by
  rw [natural?_of_ne_nil Nat.toDigits_ne_nil,
    digitsFrom_eq_some 0 fun c => isDigit_of_mem_toDigits, Nat.ofDigitChars_ten_toDigits]

theorem signed?_of_isDigit {c : Char} {rest : List Char} (digit : c.isDigit = true) :
    signed? (c :: rest) = (natural? (c :: rest)).map Int.ofNat := by
  -- The two readings with a sign come first. Neither sign is a digit.
  rw [signed?]
  · rintro digits ⟨rfl, _⟩
    contradiction
  · rintro digits ⟨rfl, _⟩
    contradiction

/-- The shortest form of an integer reads back as that integer, whatever its size. -/
theorem signed?_decimal (value : Int) : signed? (decimal value) = some value := by
  cases value with
  | ofNat magnitude =>
      have nonempty : Nat.toDigits 10 magnitude ≠ [] := Nat.toDigits_ne_nil
      obtain ⟨c, rest, written⟩ := List.exists_cons_of_ne_nil nonempty
      have member : c ∈ Nat.toDigits 10 magnitude := by simp [written]
      have digit := isDigit_of_mem_toDigits member
      rw [decimal, written, signed?_of_isDigit digit, ← written, natural?_toDigits, Option.map_some]
  | negSucc less =>
      simp only [decimal, signed?, natural?_toDigits]
      rfl

theorem decimal_injective : Function.Injective decimal := by
  intro value other same
  have read := signed?_decimal value
  rw [same, signed?_decimal other] at read
  exact (Option.some.inj read).symm

theorem decimal_ne_nil (value : Int) : decimal value ≠ [] := by
  cases value with
  | ofNat magnitude => exact Nat.toDigits_ne_nil
  | negSucc less => simp [decimal]

theorem notMem_decimal {c : Char} (noDigit : c.isDigit = false) (noSign : c ≠ '-') (value : Int) :
    c ∉ decimal value := by
  intro member
  have isDigit : ∃ magnitude, c ∈ Nat.toDigits 10 magnitude := by
    cases value with
    | ofNat magnitude => exact ⟨magnitude, member⟩
    | negSucc less => exact ⟨less + 1, (List.mem_cons.mp member).resolve_left noSign⟩
  obtain ⟨magnitude, member⟩ := isDigit
  rw [isDigit_of_mem_toDigits member] at noDigit
  contradiction

theorem isBlank_of_mem_decimal {c : Char} {value : Int} (member : c ∈ decimal value) :
    Unicode.isBlank c = false := by
  rw [Bool.eq_false_iff]
  intro blank
  refine notMem_decimal (Bool.eq_false_iff.mpr fun digit => ?_) ?_ value member
  · have bounds : '0' ≤ c ∧ c ≤ '9' := by
      simpa [Char.isDigit, Char.le_def] using digit
    have increasing : Unicode.increasingFrom 0 [(48, 57)] = true := rfl
    have digits : Unicode.inRanges [(48, 57)] c.toNat = true :=
      (Unicode.inRanges_iff increasing).mpr ⟨(48, 57), List.mem_cons_self, bounds⟩
    have outside : Unicode.inRanges Unicode.blankRanges c.toNat = false :=
      Unicode.inRanges_eq_false_of_apart increasing (by decide) (by decide) digits
    exact Bool.eq_false_iff.mp outside blank
  · rintro rfl
    contradiction

theorem dropWhile_of_head? {p : Char → Bool} {text : List Char}
    (first : ∀ c, text.head? = some c → p c = false) : text.dropWhile p = text := by
  cases text with
  | nil => rfl
  | cons c rest => exact List.dropWhile_cons_of_neg (by simp [first c rfl])

/-- Nothing is trimmed where there is nothing to trim. -/
theorem trimmed_of_none {p : Char → Bool} {text : List Char} (none : ∀ c ∈ text, p c = false) :
    ((text.dropWhile p).reverse.dropWhile p).reverse = text := by
  have kept (characters : List Char) (among : ∀ c ∈ characters, c ∈ text) :
      characters.dropWhile p = characters :=
    dropWhile_of_head? fun c first => none c (among c (List.mem_of_head? first))
  rw [kept text fun _ => id, kept text.reverse fun _ => List.mem_reverse.mp, List.reverse_reverse]

theorem trimBlanks_of_not_blank {text : List Char} (none : ∀ c ∈ text, Unicode.isBlank c = false) :
    trimBlanks text = text :=
  trimmed_of_none none

/-- Whether an integer lies in the range of a registry. -/
def InRange (value : Int) : Prop := leastInteger ≤ value ∧ value ≤ greatestInteger

theorem inRange_of_integer? {text : String} {value : Int} (read : integer? text = some value) :
    InRange value := by
  rw [integer?] at read
  split at read
  · obtain ⟨inRange, same⟩ := Option.ite_none_right_eq_some.mp read
    exact Option.some.inj same ▸ inRange
  · contradiction

end IdRegistry.Text
