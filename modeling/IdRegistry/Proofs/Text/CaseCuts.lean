import IdRegistry.Text.CaseCuts
import Mathlib.Data.List.Induction

namespace IdRegistry.Text

open Unicode (isLowercase isUppercase)

/-! The pass may start afresh after a cut because the first character of a piece has a case of its own
(`piecesAfter_fresh`). So the state is always the case of the text read so far, cuts or no cuts
(`piecesAfter_eq`), and one induction on the word compares the two.
-/

theorem isUppercase_eq_false_of_isLowercase {c : Char} (lower : isLowercase c = true) :
    isUppercase c = false := by
  have increasing : Unicode.increasingFrom 0 Unicode.lowercaseRanges = true := by decide +kernel
  have increasing' : Unicode.increasingFrom 0 Unicode.uppercaseRanges = true := by decide +kernel
  exact Unicode.inRanges_eq_false_of_apartInOrder increasing increasing' (by decide +kernel) lower

theorem isLowercase_eq_false_of_isUppercase {c : Char} (upper : isUppercase c = true) :
    isLowercase c = false := by
  by_contra lower
  rw [isUppercase_eq_false_of_isLowercase (Bool.of_not_eq_false lower)] at upper
  contradiction

def isCased (c : Char) : Bool := isLowercase c || isUppercase c

def lastCased? (text : List Char) : Option Char := text.reverse.find? isCased

/-- A capital stands at a place of a word. The last letter with a case before it is small, or it is a
capital too and the next character is small. -/
def CaseChanges (word : List Char) (place : Nat) : Prop :=
  ∃ c last, word[place]? = some c ∧ isUppercase c = true ∧
    lastCased? (word.take place) = some last ∧
    (isLowercase last = true ∨
      isUppercase last = true ∧ ∃ next, word[place + 1]? = some next ∧ isLowercase next = true)

/-- One of several pieces ends at a place of the text that they make, and another begins there. -/
def CutAt (pieces : List (List Char)) (place : Nat) : Prop :=
  ∃ before after, pieces = before ++ after ∧ before ≠ [] ∧ after ≠ [] ∧
    before.flatten.length = place

namespace LetterCase

/-- The case of a text, if it follows text of the given case. -/
def afterAll (case : LetterCase) (text : List Char) : LetterCase := text.foldl after case

theorem after_of_isLowercase {c : Char} (case : LetterCase) (lower : isLowercase c = true) :
    case.after c = .lower := by
  rw [after, if_pos lower]

theorem after_of_isUppercase {c : Char} (case : LetterCase) (upper : isUppercase c = true) :
    case.after c = .upper := by
  rw [after, if_neg (by simp [isLowercase_eq_false_of_isUppercase upper]), if_pos upper]

theorem after_of_uncased {c : Char} (case : LetterCase) (uncased : isCased c = false) :
    case.after c = case := by
  simp only [isCased, Bool.or_eq_false_iff] at uncased
  rw [after, if_neg (by simp [uncased.1]), if_neg (by simp [uncased.2])]

theorem lastCased?_concat (text : List Char) (c : Char) :
    lastCased? (text ++ [c]) = if isCased c then some c else lastCased? text := by
  rw [lastCased?, List.reverse_append, List.reverse_singleton, List.singleton_append,
    List.find?_cons]
  cases isCased c <;> rfl

/-- The case of a text is that of its last letter with a case. -/
theorem afterAll_unknown (text : List Char) :
    (LetterCase.unknown.afterAll text = .lower ↔
      ∃ last, lastCased? text = some last ∧ isLowercase last = true) ∧
    (LetterCase.unknown.afterAll text = .upper ↔
      ∃ last, lastCased? text = some last ∧ isUppercase last = true) := by
  induction text using List.reverseRecOn with
  | nil => simp [afterAll, lastCased?]
  | append_singleton text c ih =>
      have stepped : LetterCase.unknown.afterAll (text ++ [c]) =
          (LetterCase.unknown.afterAll text).after c := by
        rw [afterAll, List.foldl_append]
        rfl
      rw [stepped, lastCased?_concat]
      cases lower : isLowercase c with
      | true =>
          have upper := isUppercase_eq_false_of_isLowercase lower
          simp [after_of_isLowercase _ lower, isCased, lower, upper]
      | false =>
          cases upper : isUppercase c with
          | true => simp [after_of_isUppercase _ upper, isCased, lower, upper]
          | false =>
              have uncased : isCased c = false := by simp [isCased, lower, upper]
              rw [after_of_uncased _ uncased, if_neg (by simp [uncased])]
              exact ih

end LetterCase

/-- Nothing but the first character decides on what follows it, if it has a case and cannot itself be
cut off. -/
theorem piecesAfter_fresh (case : LetterCase) {c : Char} (rest : List Char)
    (cased : isCased c = true) (kept : isUppercase c = true → case ≠ .upper) :
    piecesAfter .unknown (c :: rest) = piecesAfter case (c :: rest) := by
  have same : LetterCase.unknown.after c = case.after c := by
    simp only [isCased, Bool.or_eq_true] at cased
    rcases cased with lower | upper
    · rw [LetterCase.after_of_isLowercase _ lower, LetterCase.after_of_isLowercase _ lower]
    · rw [LetterCase.after_of_isUppercase _ upper, LetterCase.after_of_isUppercase _ upper]
  cases rest with
  | nil => rfl
  | cons next rest =>
      have stays : ¬ (case = .upper ∧ isUppercase c = true ∧ isLowercase next = true) :=
        fun ⟨isUpper, upper, _⟩ => kept upper isUpper
      simp only [piecesAfter, same, if_neg stays]
      simp

theorem piecesAfter_eq (case : LetterCase) (c next : Char) (rest : List Char) :
    piecesAfter case (c :: next :: rest) =
      let later := piecesAfter (case.after c) (next :: rest)
      if case.after c = .lower ∧ isUppercase next = true then ([c], later.1 :: later.2)
      else if case = .upper ∧ isUppercase c = true ∧ isLowercase next = true then
        ([], (c :: later.1) :: later.2)
      else (c :: later.1, later.2) := by
  rw [piecesAfter]
  split
  next cut =>
    obtain ⟨lower, upper⟩ := cut
    rw [piecesAfter_fresh (case.after c) rest (by simp [isCased, upper]) (by simp [lower])]
  next whole =>
    split
    next cut =>
      have small := isUppercase_eq_false_of_isLowercase cut.2.2
      rw [piecesAfter_fresh (case.after c) rest (by simp [isCased, cut.2.2]) (by simp [small])]
    next => rfl

/-- No piece is empty. The rest of the current piece can only be if a capital before it is kept. -/
theorem piecesAfter_nonempty (case : LetterCase) (word : List Char) :
    (case ≠ .upper → word ≠ [] → (piecesAfter case word).1 ≠ []) ∧
      [] ∉ (piecesAfter case word).2 := by
  fun_induction piecesAfter case word with
  | case1 => simp
  | case2 => simp
  | case3 case c next rest cut here later result ih =>
      simp only [result] at ih
      have first : here ≠ [] := ih.1 (by simp) (by simp)
      exact ⟨by simp, by simp [first.symm, ih.2]⟩
  | case4 case c next rest whole cut here later result ih =>
      simp only [result] at ih
      exact ⟨fun other => absurd cut.1 other, by simp [ih.2]⟩
  | case5 case c next rest whole whole' here later result ih =>
      simp only [result] at ih
      exact ⟨by simp, ih.2⟩

theorem nil_notMem_pieces {word : List Char} (nonempty : word ≠ []) : [] ∉ pieces word := by
  have ⟨first, later⟩ := piecesAfter_nonempty .unknown word
  exact List.not_mem_cons_of_ne_of_not_mem (first (by simp) nonempty).symm later

/-- One of the later pieces begins at a place of text that has been cut into the rest of a piece and
the pieces after it. -/
def StartsAt (here : List Char) (later : List (List Char)) (place : Nat) : Prop :=
  ∃ before after, later = before ++ after ∧ after ≠ [] ∧
    here.length + before.flatten.length = place

section Places

variable {here : List Char} {later : List (List Char)} {place : Nat}

theorem not_startsAt_nil : ¬ StartsAt here [] place := by
  rintro ⟨before, after, split, some, _⟩
  exact some (List.append_eq_nil_iff.mp split.symm).2

theorem startsAt_cons_iff {first : List Char} :
    StartsAt here (first :: later) place ↔
      place = here.length ∨ ∃ rest, place = here.length + rest ∧ StartsAt first later rest := by
  constructor
  · rintro ⟨before, after, split, some, length⟩
    cases before with
    | nil => exact .inl (by simpa using length.symm)
    | cons piece before =>
        obtain ⟨rfl, others⟩ := List.cons.inj split
        refine .inr ⟨_, ?_, before, after, others, some, rfl⟩
        simpa using length.symm
  · rintro (rfl | ⟨rest, rfl, before, after, split, some, length⟩)
    · exact ⟨[], first :: later, rfl, by simp, by simp⟩
    · refine ⟨first :: before, after, by rw [split, List.cons_append], some, ?_⟩
      simp [← length]

theorem startsAt_push_iff {c : Char} :
    StartsAt (c :: here) later place ↔ ∃ rest, place = rest + 1 ∧ StartsAt here later rest := by
  constructor
  · rintro ⟨before, after, split, some, length⟩
    refine ⟨_, ?_, before, after, split, some, rfl⟩
    rw [← length, List.length_cons, Nat.add_right_comm]
  · rintro ⟨rest, rfl, before, after, split, some, length⟩
    refine ⟨before, after, split, some, ?_⟩
    rw [← length, List.length_cons, Nat.add_right_comm]

end Places

/-- The case changes at a place of text that follows text of the given case. At its beginning only the
last capital of a run counts: where the text before is small, that text ends in the cut. -/
def Turns (case : LetterCase) (text : List Char) (place : Nat) : Prop :=
  ∃ c, text[place]? = some c ∧ isUppercase c = true ∧
    (case.afterAll (text.take place) = .lower ∧ 0 < place ∨
      case.afterAll (text.take place) = .upper ∧
        ∃ next, text[place + 1]? = some next ∧ isLowercase next = true)

theorem turns_zero {case : LetterCase} {c next : Char} {rest : List Char} :
    Turns case (c :: next :: rest) 0 ↔
      case = .upper ∧ isUppercase c = true ∧ isLowercase next = true := by
  simp [Turns, LetterCase.afterAll, and_left_comm]

theorem turns_succ {case : LetterCase} {c next : Char} {rest : List Char} {place : Nat} :
    Turns case (c :: next :: rest) (place + 1) ↔
      Turns (case.after c) (next :: rest) place ∨
        place = 0 ∧ case.after c = .lower ∧ isUppercase next = true := by
  have same : case.afterAll ((c :: next :: rest).take (place + 1)) =
      (case.after c).afterAll ((next :: rest).take place) := rfl
  simp only [Turns, same, List.getElem?_cons_succ]
  cases place with
  | zero =>
      have whole : (case.after c).afterAll ((next :: rest).take 0) = case.after c := rfl
      simp only [whole, List.getElem?_cons_zero, Option.some.injEq]
      constructor
      · rintro ⟨_, rfl, upper, ⟨lower, _⟩ | last⟩
        · exact .inr ⟨trivial, lower, upper⟩
        · exact .inl ⟨next, rfl, upper, .inr last⟩
      · rintro (⟨_, rfl, upper, ⟨_, positive⟩ | last⟩ | ⟨_, lower, upper⟩)
        · exact absurd positive (Nat.lt_irrefl 0)
        · exact ⟨next, rfl, upper, .inr last⟩
        · exact ⟨next, rfl, upper, .inl ⟨lower, Nat.zero_lt_one⟩⟩
  | succ place => simp

/-- The pass cuts text where its case changes. -/
theorem startsAt_piecesAfter (case : LetterCase) (text : List Char) (place : Nat) :
    StartsAt (piecesAfter case text).1 (piecesAfter case text).2 place ↔ Turns case text place := by
  induction text generalizing case place with
  | nil => simp [piecesAfter, not_startsAt_nil, Turns]
  | cons c text ih =>
      cases text with
      | nil => cases place <;> simp [piecesAfter, not_startsAt_nil, Turns, LetterCase.afterAll]
      | cons next rest =>
          rw [piecesAfter_eq]
          split
          next cut =>
            have capital := isLowercase_eq_false_of_isUppercase cut.2
            rw [startsAt_cons_iff]
            cases place with
            | zero =>
                simp only [turns_zero, capital, Bool.false_eq_true, and_false, iff_false]
                rintro (early | ⟨_, early, _⟩)
                · exact absurd early Nat.zero_ne_one
                · rw [List.length_singleton] at early
                  omega
            | succ place =>
                simp only [turns_succ, ← ih, cut, List.length_singleton, Nat.add_comm 1,
                  Nat.add_right_cancel_iff, exists_eq_left', and_true, Nat.add_eq_right]
                exact or_comm
          next whole =>
            split
            next cut =>
              rw [startsAt_cons_iff]
              cases place with
              | zero => simp [turns_zero, cut]
              | succ place => simp [turns_succ, whole, ← ih, startsAt_push_iff]
            next whole' =>
              rw [startsAt_push_iff]
              cases place with
              | zero => simp [turns_zero, whole']
              | succ place => simp [turns_succ, whole, ← ih]

/-- A word is cut exactly where its case changes. -/
theorem cutAt_pieces_iff (word : List Char) (place : Nat) :
    CutAt (pieces word) place ↔ CaseChanges word place := by
  have starts : CutAt (pieces word) place ↔
      StartsAt (piecesAfter .unknown word).1 (piecesAfter .unknown word).2 place := by
    constructor
    · rintro ⟨before, after, split, first, last, length⟩
      obtain ⟨piece, before, rfl⟩ := List.exists_cons_of_ne_nil first
      obtain ⟨rfl, later⟩ := List.cons.inj split
      exact ⟨before, after, later, last, by simpa using length⟩
    · rintro ⟨before, after, split, last, length⟩
      refine ⟨(piecesAfter .unknown word).1 :: before, after, ?_, by simp, last, by simpa using length⟩
      rw [List.cons_append, ← split]
      rfl
  rw [starts, startsAt_piecesAfter]
  have ⟨lower, upper⟩ := LetterCase.afterAll_unknown (word.take place)
  constructor
  · rintro ⟨c, here, capital, ⟨small, _⟩ | ⟨run, next⟩⟩
    · obtain ⟨last, found, small⟩ := lower.mp small
      exact ⟨c, last, here, capital, found, .inl small⟩
    · obtain ⟨last, found, run⟩ := upper.mp run
      exact ⟨c, last, here, capital, found, .inr ⟨run, next⟩⟩
  · rintro ⟨c, last, here, capital, found, small | ⟨run, next⟩⟩
    · refine ⟨c, here, capital, .inl ⟨lower.mpr ⟨last, found, small⟩, ?_⟩⟩
      -- A letter comes before the place, so it is not the first.
      rcases Nat.eq_zero_or_pos place with rfl | positive
      · simp [lastCased?] at found
      · exact positive
    · exact ⟨c, here, capital, .inr ⟨upper.mpr ⟨last, found, run⟩, next⟩⟩

end IdRegistry.Text
