import IdRegistry.Unicode.Lowercase
import IdRegistry.Unicode.Uppercase

namespace IdRegistry.Text

open Unicode (isLowercase isUppercase)

/-! A word such as `GetKLines` is written from several smaller ones. `pieces` cuts it where a capital
follows a small letter, and before the last capital of a run that a small letter follows, so that
`HTTPServer` has the pieces `HTTP` and `Server`. Digits and marks take the case of the letter before
them.
-/

inductive LetterCase where
  /-- No letter with a case has been read since the last cut. -/
  | unknown
  | lower
  | upper
deriving DecidableEq, Repr

def LetterCase.after (case : LetterCase) (c : Char) : LetterCase :=
  if isLowercase c then .lower
  else if isUppercase c then .upper
  else case

/-- The rest of the current piece, and the pieces after it. -/
def piecesAfter (case : LetterCase) : List Char → List Char × List (List Char)
  | [] => ([], [])
  | [c] => ([c], [])
  | c :: next :: rest =>
      if case.after c = .lower ∧ isUppercase next then
        let (here, later) := piecesAfter .unknown (next :: rest)
        ([c], here :: later)
      else if case = .upper ∧ isUppercase c ∧ isLowercase next then
        let (here, later) := piecesAfter .unknown (next :: rest)
        ([], (c :: here) :: later)
      else
        let (here, later) := piecesAfter (case.after c) (next :: rest)
        (c :: here, later)

def pieces (word : List Char) : List (List Char) :=
  let (here, later) := piecesAfter .unknown word
  here :: later

theorem flatten_piecesAfter (case : LetterCase) (word : List Char) :
    (piecesAfter case word).1 ++ (piecesAfter case word).2.flatten = word := by
  fun_induction piecesAfter case word with
  | case1 => rfl
  | case2 => rfl
  | case3 case c next rest cut here later result ih => simp [result] at ih; simp [ih]
  | case4 case c next rest noCut cut here later result ih => simp [result] at ih; simp [ih]
  | case5 case c next rest noCut noCut' here later result ih => simp [result] at ih; simp [ih]

theorem flatten_pieces (word : List Char) : (pieces word).flatten = word := by
  simp [pieces, flatten_piecesAfter]

end IdRegistry.Text
