namespace IdRegistry.Unicode

/-- Whether a code point lies in one of the ranges, which are in increasing order. -/
def inRanges : List (Nat × Nat) → Nat → Bool
  | [], _ => false
  | (first, last) :: rest, code =>
      if code < first then false
      else if code ≤ last then true
      else inRanges rest code

/-- Ranges that are nonempty, disjoint and in increasing order, from `bound` on. -/
def increasingFrom (bound : Nat) : List (Nat × Nat) → Bool
  | [] => true
  | (first, last) :: rest =>
      decide (bound ≤ first) && decide (first ≤ last) && increasingFrom (last + 1) rest

theorem le_of_increasingFrom {bound : Nat} {ranges : List (Nat × Nat)}
    (increasing : increasingFrom bound ranges = true) {range : Nat × Nat} (member : range ∈ ranges) :
    bound ≤ range.1 := by
  induction ranges generalizing bound with
  | nil => simp at member
  | cons head rest ih =>
      obtain ⟨first, last⟩ := head
      simp only [increasingFrom, Bool.and_eq_true, decide_eq_true_eq] at increasing
      rcases List.mem_cons.mp member with same | inRest
      · rw [same]; exact increasing.1.1
      · have := ih increasing.2 inRest
        omega

/-- The search finds exactly the code points of the ranges. -/
theorem inRanges_iff {bound : Nat} {ranges : List (Nat × Nat)}
    (increasing : increasingFrom bound ranges = true) {code : Nat} :
    inRanges ranges code = true ↔ ∃ range ∈ ranges, range.1 ≤ code ∧ code ≤ range.2 := by
  induction ranges generalizing bound with
  | nil => simp [inRanges]
  | cons head rest ih =>
      obtain ⟨first, last⟩ := head
      simp only [increasingFrom, Bool.and_eq_true, decide_eq_true_eq] at increasing
      have later : ∀ range ∈ rest, last + 1 ≤ range.1 := fun range member =>
        le_of_increasingFrom increasing.2 member
      simp only [inRanges, List.mem_cons, exists_eq_or_imp]
      split
      · constructor
        · simp
        · rintro (inside | ⟨range, member, inside⟩)
          · omega
          · have := later range member
            omega
      · split
        · simp; omega
        · rw [ih increasing.2]
          constructor
          · exact Or.inr
          · rintro (inside | found)
            · omega
            · exact found

def apart (ranges others : List (Nat × Nat)) : Bool :=
  ranges.all fun range => others.all fun other =>
    decide (range.2 < other.1) || decide (other.2 < range.1)

theorem inRanges_eq_false_of_apart {ranges others : List (Nat × Nat)}
    (increasing : increasingFrom 0 ranges = true)
    (increasing' : increasingFrom 0 others = true) (separate : apart ranges others = true)
    {code : Nat} (inside : inRanges ranges code = true) : inRanges others code = false := by
  rw [Bool.eq_false_iff]
  intro inside'
  obtain ⟨range, member, lower, upper⟩ := (inRanges_iff increasing).mp inside
  obtain ⟨other, member', lower', upper'⟩ := (inRanges_iff increasing').mp inside'
  have disjoint := List.all_eq_true.mp (List.all_eq_true.mp separate range member) other member'
  simp only [Bool.or_eq_true, decide_eq_true_eq] at disjoint
  omega

/-- The same for long lists, which are gone through once and side by side. -/
def apartInOrder (others : List (Nat × Nat)) : List (Nat × Nat) → Bool
  | [] => true
  | range :: rest =>
      let later := others.dropWhile fun other => decide (other.2 < range.1)
      later.head?.all (fun other => decide (range.2 < other.1)) && apartInOrder later rest

theorem increasingFrom_dropWhile {bound : Nat} {ranges : List (Nat × Nat)} (p : Nat × Nat → Bool)
    (increasing : increasingFrom bound ranges = true) :
    ∃ least, increasingFrom least (ranges.dropWhile p) = true := by
  induction ranges generalizing bound with
  | nil => exact ⟨bound, rfl⟩
  | cons range rest ih =>
      rw [List.dropWhile_cons]
      split
      · simp only [increasingFrom, Bool.and_eq_true] at increasing
        exact ih increasing.2
      · exact ⟨bound, increasing⟩

theorem inRanges_dropWhile {bound least code : Nat} {ranges : List (Nat × Nat)}
    (increasing : increasingFrom bound ranges = true) (lower : least ≤ code) :
    inRanges (ranges.dropWhile fun range => decide (range.2 < least)) code =
      inRanges ranges code := by
  induction ranges generalizing bound with
  | nil => rfl
  | cons range rest ih =>
      rw [List.dropWhile_cons]
      split
      next early =>
        simp only [increasingFrom, Bool.and_eq_true, decide_eq_true_eq] at increasing early
        rw [ih increasing.2, inRanges, if_neg (by omega), if_neg (by omega)]
      next => rfl

theorem inRanges_eq_false_of_apartInOrder {bound bound' code : Nat} {ranges others : List (Nat × Nat)}
    (increasing : increasingFrom bound ranges = true)
    (increasing' : increasingFrom bound' others = true)
    (separate : apartInOrder others ranges = true) (inside : inRanges ranges code = true) :
    inRanges others code = false := by
  induction ranges generalizing bound bound' others with
  | nil => contradiction
  | cons range rest ih =>
      simp only [apartInOrder, Bool.and_eq_true] at separate
      obtain ⟨range', member, lower, upper⟩ := (inRanges_iff increasing).mp inside
      have first : range.1 ≤ code := by
        simp only [increasingFrom, Bool.and_eq_true, decide_eq_true_eq] at increasing
        rcases List.mem_cons.mp member with rfl | member
        · exact lower
        · have := le_of_increasingFrom increasing.2 member
          omega
      obtain ⟨least, later⟩ := increasingFrom_dropWhile
        (fun other => decide (other.2 < range.1)) increasing'
      rw [← inRanges_dropWhile increasing' first]
      by_cases here : code ≤ range.2
      · cases kept : others.dropWhile fun other => decide (other.2 < range.1) with
        | nil => rfl
        | cons other after =>
            have beyond : range.2 < other.1 := by simpa [kept] using separate.1
            rw [inRanges, if_pos (by omega)]
      · simp only [increasingFrom, Bool.and_eq_true] at increasing
        refine ih increasing.2 later separate.2 ?_
        rwa [inRanges, if_neg (by omega), if_neg here] at inside

end IdRegistry.Unicode
