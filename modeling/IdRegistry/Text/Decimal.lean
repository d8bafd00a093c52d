import IdRegistry.Unicode.Blank

namespace IdRegistry.Text

def trimBlanks (text : List Char) : List Char :=
  ((text.dropWhile Unicode.isBlank).reverse.dropWhile Unicode.isBlank).reverse

/-- The value of one decimal digit. Only the ten ASCII digits are digits. -/
def digitValue? (c : Char) : Option Nat :=
  if '0' ≤ c ∧ c ≤ '9' then some (c.toNat - '0'.toNat) else none

/-- The value of a run of digits that continues a number whose value so far is `before`. -/
def digitsFrom (before : Nat) : List Char → Option Nat
  | [] => some before
  | c :: rest =>
      match digitValue? c with
      | some digit => digitsFrom (before * 10 + digit) rest
      | none => none

/-- The value of a run of digits, which has to hold one digit at least. -/
def natural? : List Char → Option Nat
  | [] => none
  | digits => digitsFrom 0 digits

def signed? : List Char → Option Int
  | '+' :: digits => (natural? digits).map Int.ofNat
  | '-' :: digits => (natural? digits).map fun magnitude => -(magnitude : Int)
  | digits => (natural? digits).map Int.ofNat

/-- The least and the greatest integer that a registry can hold. -/
def leastInteger : Int := -9223372036854775808

@[inherit_doc leastInteger]
def greatestInteger : Int := 9223372036854775807

def integer? (text : String) : Option Int :=
  match signed? (trimBlanks text.toList) with
  | some value => if leastInteger ≤ value ∧ value ≤ greatestInteger then some value else none
  | none => none

/-- The shortest decimal form of an integer. -/
def decimal : Int → List Char
  | .ofNat magnitude => Nat.toDigits 10 magnitude
  | .negSucc less => '-' :: Nat.toDigits 10 (less + 1)

end IdRegistry.Text
