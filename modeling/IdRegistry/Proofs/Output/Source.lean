import IdRegistry.Markup.Reference
import IdRegistry.Output.Token
import IdRegistry.Unicode.IdentifierContinue
import IdRegistry.Unicode.IdentifierStart
import IdRegistry.Proofs.Markup.Encoding
import IdRegistry.Proofs.Text.Decimal
import Mathlib.Tactic.SplitIfs

namespace IdRegistry.Source

open Text (digitValue? literal literalBody escaped codePointEscape startsOctal)
open Unicode (isIdentifierStart isIdentifierContinue inRanges)

/-- Where the next character stands. Words and texts under way are held newest character first. -/
inductive Mode where
  | between
  | word (read : List Char)
  | number (value : Nat)
  | text (read : List Char)
  /-- After the quote that ends a text. -/
  | closed (read : List Char)
  | escape (read : List Char)
  /-- After a backslash at the end of a line, where blanks are passed over. -/
  | nextLine (read : List Char)
  /-- In an escape of two hexadecimal digits, with the first one if it has been read. -/
  | byte (read : List Char) (high : Option Nat)
  /-- Before the brace of an escape by code point. -/
  | brace (read : List Char)
  | codePoint (read : List Char) (digits value : Nat)
deriving DecidableEq

def blankRanges : List (Nat × Nat) :=
  [(0x9, 0xD), (0x20, 0x20), (0x85, 0x85), (0x200E, 0x200F), (0x2028, 0x2029)]

def isBlank (c : Char) : Bool := inRanges blankRanges c.toNat

def punctuation : List Char := "~!@#$%^&*-=+|:;,<.>?()[]\x7b\x7d".toList

/-- A character that begins a token or stands between two. -/
def begin (c : Char) : Option (List Token × Mode) :=
  match digitValue? c with
  | some digit => some ([], .number digit)
  | none =>
      if isBlank c then some ([], .between)
      else if c = '_' || isIdentifierStart c then some ([], .word [c])
      else if c = '"' then some ([], .text [])
      else if punctuation.contains c then some ([.mark c], .between)
      else none

def finishToken (token : Token) (c : Char) : Option (List Token × Mode) :=
  (begin c).map fun (tokens, mode) => (token :: tokens, mode)

/-- What a single character stands for after a backslash. -/
def simpleEscape? (c : Char) : Option Char :=
  if c = 'n' then some '\n'
  else if c = 'r' then some '\r'
  else if c = 't' then some '\t'
  else if c = '0' then some '\x00'
  else if c = '\\' ∨ c = '"' ∨ c = '\'' then some c
  else none

def stepText (read : List Char) (c : Char) : Option Mode :=
  if c = '"' then some (.closed read)
  else if c = '\\' then some (.escape read)
  else if c = '\r' then none
  else some (.text (c :: read))

def stepEscape (read : List Char) (c : Char) : Option Mode :=
  match simpleEscape? c with
  | some found => some (.text (found :: read))
  | none =>
      if c = 'x' then some (.byte read none)
      else if c = 'u' then some (.brace read)
      else if c = '\n' then some (.nextLine read)
      else none

def stepByte (read : List Char) (high : Option Nat) (c : Char) : Option Mode :=
  match Markup.digitIn? 16 c, high with
  | none, _ => none
  | some digit, none => if digit < 8 then some (.byte read (some digit)) else none
  | some digit, some high =>
      (Markup.scalar? (high * 16 + digit)).map fun found => .text (found :: read)

def stepCodePoint (read : List Char) (digits value : Nat) (c : Char) : Option Mode :=
  if c = '\x7d' then
    if digits = 0 then none else (Markup.scalar? value).map fun found => .text (found :: read)
  else if c = '_' then
    if digits = 0 then none else some (.codePoint read digits value)
  else
    match Markup.digitIn? 16 c with
    | some digit =>
        if digits < 6 then some (.codePoint read (digits + 1) (value * 16 + digit)) else none
    | none => none

/-- Read one character: the tokens that it shows to be complete, and the mode after it. -/
def step (mode : Mode) (c : Char) : Option (List Token × Mode) :=
  let goOn := fun next : Option Mode => next.map fun mode => ([], mode)
  match mode with
  | .between => begin c
  | .word read =>
      if isIdentifierContinue c then some ([], .word (c :: read))
      else if c = '"' ∨ c = '\'' ∨ c = '#' then none
      else finishToken (.word read.reverse) c
  | .number value =>
      match digitValue? c with
      | some digit => some ([], .number (value * 10 + digit))
      | none =>
          if c = '_' then some ([], .number value)
          else if c = '.' ∨ isIdentifierContinue c then none
          else finishToken (.number value) c
  | .text read => goOn (stepText read c)
  | .closed read =>
      if c = '_' ∨ isIdentifierStart c then none else finishToken (.text read.reverse) c
  | .escape read => goOn (stepEscape read c)
  | .nextLine read =>
      if c = ' ' ∨ c = '\t' ∨ c = '\n' ∨ c = '\r' then some ([], .nextLine read)
      else goOn (stepText read c)
  | .byte read high => goOn (stepByte read high c)
  | .brace read => if c = '\x7b' then some ([], .codePoint read 0 0) else none
  | .codePoint read digits value => goOn (stepCodePoint read digits value c)

def finish : Mode → Option (List Token)
  | .between => some []
  | .word read => some [.word read.reverse]
  | .number value => some [.number value]
  | .closed read => some [.text read.reverse]
  | _ => none

def run (mode : Mode) : List Char → Option (List Token)
  | [] => finish mode
  | c :: rest =>
      match step mode c with
      | some (tokens, next) => (run next rest).map (tokens ++ ·)
      | none => none

/-- The tokens of source text by the rules of Rust. Comments, literals other than numbers and strings, and
the suffixes that a literal can have are refused. -/
def tokens? (text : List Char) : Option (List Token) := run .between text

section Steps

variable {mode next : Mode} {c : Char} {rest : List Char}

theorem run_of_step (silent : step mode c = some ([], next)) : run mode (c :: rest) = run next rest := by
  simp [run, silent]

theorem run_of_finish {token : Token} (finished : step mode c = finishToken token c) :
    run mode (c :: rest) = (run .between (c :: rest)).map (token :: ·) := by
  rw [run, finished, run, finishToken]
  change _ = (match begin c with
    | some (tokens, next) => (run next rest).map (tokens ++ ·)
    | none => none).map (token :: ·)
  cases begin c with
  | none => rfl
  | some result => simp [Function.comp_def]

end Steps

section Texts

variable {c : Char} {read rest : List Char}

theorem run_simpleEscape {shown : Char} (stands : simpleEscape? shown = some c) :
    run (.text read) ('\\' :: shown :: rest) = run (.text (c :: read)) rest := by
  rw [run_of_step rfl]
  exact run_of_step (by simp [step, stepEscape, stands])

theorem digitIn?_digitChar {digit : Nat} (small : digit < 16) :
    Markup.digitIn? 16 digit.digitChar = some digit ∧ digit.digitChar ≠ '\x7d' ∧
      digit.digitChar ≠ '_' := by
  have all : ∀ digit < 16, Markup.digitIn? 16 digit.digitChar = some digit ∧
      digit.digitChar ≠ '\x7d' ∧ digit.digitChar ≠ '_' := by decide
  exact all digit small

theorem run_hexDigit {digit digits value : Nat} (small : digit < 16) (room : digits < 6) :
    run (.codePoint read digits value) (digit.digitChar :: rest) =
      run (.codePoint read (digits + 1) (value * 16 + digit)) rest := by
  obtain ⟨valued, noBrace, noUnderscore⟩ := digitIn?_digitChar small
  exact run_of_step (by simp [step, stepCodePoint, valued, noBrace, noUnderscore, room])

theorem run_hexDigits (value : Nat) (short : (Nat.toDigits 16 value).length ≤ 6) :
    run (.codePoint read 0 0) (Nat.toDigits 16 value ++ rest) =
      run (.codePoint read (Nat.toDigits 16 value).length value) rest := by
  -- Digits are written from the first to the last, so the induction takes off the last one.
  induction value using Nat.strongRecOn generalizing rest with
  | ind value ih =>
      by_cases small : value < 16
      · rw [Nat.toDigits_of_lt_base small]
        rw [List.singleton_append, run_hexDigit small (Nat.succ_pos 5), Nat.zero_mul,
          List.length_singleton, Nat.zero_add, Nat.zero_add]
      · have split := Nat.toDigits_of_base_le (b := 16) (by decide) (by omega : 16 ≤ value)
        rw [split, List.length_append] at short
        simp only [List.length_singleton] at short
        rw [split, List.append_assoc, ih (value / 16) (by omega) (by omega)]
        rw [List.singleton_append, run_hexDigit (Nat.mod_lt value (by decide)) (by omega),
          List.length_append, List.length_singleton]
        congr 2
        omega

theorem run_codePointEscape (c : Char) :
    run (.text read) (codePointEscape c ++ rest) = run (.text (c :: read)) rest := by
  have bound : c.toNat < 16 ^ 6 := by
    have valid : c.toNat.isValidChar := c.valid
    rcases valid with low | high <;> omega
  have short := (Nat.length_toDigits_le_iff (by decide) (by decide)).mpr bound
  have nonempty : (Nat.toDigits 16 c.toNat).length ≠ 0 := by
    simp [Nat.toDigits_ne_nil]
  simp only [codePointEscape, List.cons_append, List.nil_append, List.append_assoc]
  rw [run_of_step rfl, run_of_step rfl, run_of_step rfl, run_hexDigits _ short]
  exact run_of_step (by simp [step, stepCodePoint, nonempty, Markup.scalar?_toNat])

theorem run_escaped (c : Char) :
    run (.text read) (escaped c ++ rest) = run (.text (c :: read)) rest := by
  unfold escaped
  split_ifs with null tab carriage newline quote backslash unseen
  · exact run_simpleEscape (by simp [null, simpleEscape?])
  · exact run_simpleEscape (by simp [tab, simpleEscape?])
  · exact run_simpleEscape (by simp [carriage, simpleEscape?])
  · exact run_simpleEscape (by simp [newline, simpleEscape?])
  · exact run_simpleEscape (by simp [quote, simpleEscape?])
  · exact run_simpleEscape (by simp [backslash, simpleEscape?])
  · exact run_codePointEscape c
  · exact run_of_step (by simp [step, stepText, quote, backslash, carriage])

theorem run_literalBody (text : List Char) :
    run (.text read) (literalBody text ++ rest) = run (.text (text.reverse ++ read)) rest := by
  induction text generalizing read with
  | nil => rfl
  | cons c text ih =>
      rw [literalBody, List.append_assoc, List.reverse_cons, List.append_assoc,
        List.singleton_append, ← ih]
      split_ifs with null
      · rw [null.1]
        simp only [List.cons_append, List.nil_append]
        rw [run_of_step rfl, run_of_step rfl, run_of_step rfl]
        exact run_of_step rfl
      · exact run_escaped c

end Texts

/-- A character that ends every token before it, whatever the token is. -/
def Separates (c : Char) : Prop := c = ' ' ∨ c = '\n' ∨ c = ')' ∨ c = ']'

def isWord : List Char → Bool
  | [] => false
  | c :: rest => (c = '_' || isIdentifierStart c) && rest.all isIdentifierContinue

/-- Whether a token is read as itself: a word that is one, or a mark of punctuation. -/
def isLexeme : Token → Bool
  | .word spelling => isWord spelling
  | .number _ => true
  | .text _ => true
  | .mark c => punctuation.contains c

section Tokens

variable {c : Char} {read rest : List Char}

theorem begin_of_start (starts : (c = '_' || isIdentifierStart c) = true) :
    begin c = some ([], .word [c]) := by
  simp only [Bool.or_eq_true, decide_eq_true_eq] at starts
  rcases starts with rfl | starts
  · rfl
  -- Digits and blanks are asked for first, but no identifier begins with one.
  have outside (ranges : List (Nat × Nat)) (increasing : Unicode.increasingFrom 0 ranges = true)
      (separate : Unicode.apart Unicode.identifierStartRanges ranges = true) :
      inRanges ranges c.toNat = false :=
    Unicode.inRanges_eq_false_of_apart (by decide +kernel) increasing separate starts
  have noBlank : isBlank c = false := outside blankRanges (by decide) (by decide +kernel)
  have noDigit : digitValue? c = none := by
    have outside := outside [(0x30, 0x39)] (by decide) (by decide +kernel)
    rw [digitValue?, if_neg]
    rintro ⟨lower, upper⟩
    have lower' : 0x30 ≤ c.toNat := lower
    have upper' : c.toNat ≤ 0x39 := upper
    simp [inRanges, Nat.not_lt.mpr lower', upper'] at outside
  simp [begin, noDigit, noBlank, starts]

theorem run_word {spelling : List Char} (all : ∀ c ∈ spelling, isIdentifierContinue c = true)
    (ends : Separates c) :
    run (.word read) (spelling ++ c :: rest) =
      (run .between (c :: rest)).map (.word (read.reverse ++ spelling) :: ·) := by
  induction spelling generalizing read with
  | nil =>
      rw [List.nil_append, List.append_nil]
      apply run_of_finish
      rcases ends with rfl | rfl | rfl | rfl <;> rfl
  | cons first spelling ih =>
      have stepped : step (.word read) first = some ([], .word (first :: read)) := by
        simp [step, all first List.mem_cons_self]
      rw [List.cons_append, run_of_step stepped,
        ih fun c member => all c (List.mem_cons_of_mem _ member), List.reverse_cons,
        List.append_assoc, List.singleton_append]

theorem run_digits {digits : List Char} (before : Nat) (all : ∀ c ∈ digits, c.isDigit = true)
    (ends : Separates c) :
    run (.number before) (digits ++ c :: rest) =
      (run .between (c :: rest)).map (.number (Nat.ofDigitChars 10 digits before) :: ·) := by
  induction digits generalizing before with
  | nil =>
      apply run_of_finish
      rcases ends with rfl | rfl | rfl | rfl <;> rfl
  | cons first digits ih =>
      have valued := Text.digitValue?_of_isDigit (all first List.mem_cons_self)
      have stepped : step (.number before) first =
          some ([], .number (before * 10 + (first.toNat - '0'.toNat))) := by
        simp only [step, valued]
      rw [List.cons_append, run_of_step stepped,
        ih _ fun c member => all c (List.mem_cons_of_mem _ member), Nat.ofDigitChars_cons,
        Nat.mul_comm]

theorem run_number (value : Nat) (ends : Separates c) :
    run .between (Nat.toDigits 10 value ++ c :: rest) =
      (run .between (c :: rest)).map (.number value :: ·) := by
  have all : ∀ c ∈ Nat.toDigits 10 value, c.isDigit = true := fun _ => Text.isDigit_of_mem_toDigits
  obtain ⟨first, digits, written⟩ :=
    List.exists_cons_of_ne_nil (Nat.toDigits_ne_nil : Nat.toDigits 10 value ≠ [])
  have valued := Text.digitValue?_of_isDigit (all first (by simp [written]))
  have whole : Nat.ofDigitChars 10 digits (first.toNat - '0'.toNat) = value := by
    have read := Nat.ofDigitChars_ten_toDigits (n := value)
    rw [written, Nat.ofDigitChars_cons, Nat.mul_zero, Nat.zero_add] at read
    exact read
  have begun : step .between first = some ([], .number (first.toNat - '0'.toNat)) := by
    simp only [step, begin, valued]
  rw [written, List.cons_append, run_of_step begun,
    run_digits _ (fun c member => all c (by simp [written, member])) ends, whole]

theorem run_text (content : List Char) (ends : Separates c) :
    run .between (literal content ++ c :: rest) =
      (run .between (c :: rest)).map (.text content :: ·) := by
  have finished (read : List Char) :
      step (.closed read) c = finishToken (.text read.reverse) c := by
    rcases ends with rfl | rfl | rfl | rfl <;> rfl
  simp only [literal, List.cons_append, List.append_assoc, List.nil_append]
  rw [run_of_step rfl, run_literalBody, List.append_nil, run_of_step rfl, run_of_finish (finished _),
    List.reverse_reverse]

theorem run_mark (marked : punctuation.contains c = true) :
    run .between (c :: rest) = (run .between rest).map (.mark c :: ·) := by
  have all : (punctuation.all fun c => begin c = some ([.mark c], .between)) = true := by
    decide +kernel
  have begun : step .between c = some ([.mark c], .between) :=
    of_decide_eq_true (List.all_eq_true.mp all c (List.contains_iff_mem.mp marked))
  rw [run, begun]
  rfl

theorem run_token {token : Token} (lexeme : isLexeme token = true) (ends : Separates c) :
    run .between (token.spelling ++ c :: rest) = (run .between (c :: rest)).map (token :: ·) := by
  cases token with
  | mark c => exact run_mark lexeme
  | word spelling =>
      cases spelling with
      | nil => contradiction
      | cons first spelling =>
          simp only [isLexeme, isWord, Bool.and_eq_true, List.all_eq_true] at lexeme
          have begun : step .between first = some ([], .word [first]) := begin_of_start lexeme.1
          rw [Token.spelling, List.cons_append, run_of_step begun, run_word lexeme.2 ends]
          rfl
  | number value => exact run_number value ends
  | text content => exact run_text content ends

/-- Either a blank follows a token, or one of the two tokens is a parenthesis or a bracket. -/
theorem run_gap {left right : Token} (lexeme : isLexeme left = true) :
    run .between (left.spelling ++ (left.gap right ++ (right.spelling ++ rest))) =
      (run .between (right.spelling ++ rest)).map (left :: ·) := by
  unfold Token.gap
  split_ifs with close
  · rw [List.nil_append]
    simp only [Token.opens, Token.closes, Bool.or_eq_true, decide_eq_true_eq] at close
    rcases close with (rfl | rfl) | rfl | rfl
    · exact run_mark lexeme
    · exact run_mark lexeme
    · exact run_token lexeme (by simp [Separates])
    · exact run_token lexeme (by simp [Separates])
  · rw [List.cons_append, List.nil_append, run_token lexeme (.inl rfl), run_of_step rfl]

theorem run_spell {left : Token} {tokens : List Token}
    (lexemes : ∀ token ∈ left :: tokens, isLexeme token = true) :
    run .between (left.spelling ++ (Token.spellAfter left tokens ++ ['\n'])) =
      some (left :: tokens) := by
  have lexeme := lexemes left List.mem_cons_self
  induction tokens generalizing left with
  | nil =>
      rw [Token.spellAfter, List.nil_append, run_token lexeme (by simp [Separates])]
      rfl
  | cons right tokens ih =>
      have later : ∀ token ∈ right :: tokens, isLexeme token = true :=
        fun token member => lexemes token (List.mem_cons_of_mem _ member)
      rw [Token.spellAfter, List.append_assoc, List.append_assoc, run_gap lexeme,
        ih later (later right List.mem_cons_self)]
      rfl

theorem tokens?_spell {tokens : List Token} (lexemes : ∀ token ∈ tokens, isLexeme token = true) :
    tokens? (Token.spell tokens ++ ['\n']) = some tokens := by
  cases tokens with
  | nil => rfl
  | cons first rest =>
      rw [tokens?, Token.spell, List.append_assoc]
      exact run_spell lexemes

/-- The escapes of a literal are undone, and its text ends where it was meant to. -/
theorem tokens?_literal (content : List Char) :
    tokens? (literal content) = some [.text content] := by
  simp only [tokens?, literal, List.cons_append]
  rw [run_of_step rfl, run_literalBody, List.append_nil, run_of_step rfl]
  simp [run, finish]

end Tokens

end IdRegistry.Source
