import IdRegistry.Markup.Lexer

namespace IdRegistry.Markup.Lexer

/-- In content, with the characters that may turn out to begin a longer mark. -/
inductive Holds : Lexer → List Char → Prop where
  | nothing : Holds .start []
  | bracket : Holds ⟨.content, .content 1⟩ [']']
  | brackets : Holds ⟨.content, .content 2⟩ [']', ']']
  | slash : Holds ⟨.content, .slash⟩ ['/']

/-- The mark for a character that begins no longer mark. -/
def markOf (c : Char) : Mark :=
  if c = '>' then .tagClose else if c = '=' then .equals else single c

theorem markOf_spelling (c : Char) : (markOf c).spelling = [c] := by
  unfold markOf single
  split
  · next close => rw [close]; rfl
  split
  · next equals => rw [equals]; rfl
  split
  · rfl
  split
  · next ampersand => rw [ampersand]; rfl
  split
  · next semicolon => rw [semicolon]; rfl
  · rfl

theorem flatMap_spelling_characters (text : List Char) :
    (text.map Mark.character).flatMap Mark.spelling = text := by
  rw [List.flatMap_map]
  exact List.flatMap_singleton' text

section Steps

variable {lexer : Lexer} {held : List Char} {c : Char}

theorem stepContent_single (noTag : c ≠ '<') (noSlash : c ≠ '/') (noBracket : c ≠ ']') :
    lexer.stepContent c = ({ lexer with state := .content 0 }, [markOf c]) := by
  rw [stepContent, if_neg noTag, if_neg noSlash, if_neg noBracket]
  rfl

/-- A character that can end no longer mark releases what is held back. -/
theorem step_releases (holds : Holds lexer held) (noTag : c ≠ '<') (noSlash : c ≠ '/')
    (noBracket : c ≠ ']') (noClose : c ≠ '>') :
    lexer.step c = some (.start, held.map .character ++ [markOf c]) := by
  cases holds with
  | nothing => simp [step, start, stepContent_single noTag noSlash noBracket]
  | bracket =>
      simp [step, start, stepBrackets, stepContent_single noTag noSlash noBracket, noBracket]
  | brackets =>
      simp [step, start, stepBrackets, stepContent_single noTag noSlash noBracket, noBracket,
        noClose]
  | slash =>
      simp [step, start, stepGround, stepContent_single noTag noSlash noBracket, noClose]

theorem step_start (noTag : c ≠ '<') (noSlash : c ≠ '/') (noBracket : c ≠ ']') :
    start.step c = some (.start, [markOf c]) := by
  simp [step, start, stepContent_single noTag noSlash noBracket]

theorem step_angle (holds : Holds lexer held) :
    lexer.step '<' = some (⟨.content, .angle⟩, held.map .character) := by
  cases holds <;> rfl

/-- Among the marks that come out is the one that ends a section only if the three characters of it
were read. -/
theorem exists_step (holds : Holds lexer held) (noTag : c ≠ '<') :
    ∃ next marks after, lexer.step c = some (next, marks) ∧ Holds next after ∧
      marks.flatMap Mark.spelling ++ after = held ++ [c] ∧
      (∀ mark ∈ marks, mark = markOf c ∨ (∃ d, mark = .character d) ∨ mark = .emptyTagClose ∨
        mark = .sectionClose ∧ held = [']', ']'] ∧ c = '>') ∧
      after.count ']' ≤ if c = ']' then held.count ']' + 1 else 0 := by
  by_cases slash : c = '/'
  · subst slash
    cases holds with
    | nothing => exact ⟨_, [], _, rfl, .slash, rfl, by simp, by decide⟩
    | bracket => exact ⟨_, [.character ']'], _, rfl, .slash, rfl, by simp, by decide⟩
    | brackets => exact ⟨_, _, _, rfl, .slash, rfl, by simp, by decide⟩
    | slash => exact ⟨_, _, _, rfl, .slash, rfl, by simp, by decide⟩
  by_cases bracket : c = ']'
  · subst bracket
    cases holds with
    | nothing => exact ⟨_, _, _, rfl, .bracket, rfl, by simp, by decide⟩
    | bracket => exact ⟨_, _, _, rfl, .brackets, rfl, by simp, by decide⟩
    | brackets => exact ⟨_, _, _, rfl, .brackets, rfl, by simp, by decide⟩
    | slash => exact ⟨_, _, _, rfl, .bracket, rfl, by simp, by decide⟩
  by_cases close : c = '>'
  · subst close
    cases holds with
    | nothing => exact ⟨_, [.tagClose], _, rfl, .nothing, rfl, by simp [markOf], by decide⟩
    | bracket =>
        exact ⟨_, [.character ']', .tagClose], _, rfl, .nothing, rfl, by simp [markOf], by decide⟩
    | brackets => exact ⟨_, _, _, rfl, .nothing, rfl, by simp, by decide⟩
    | slash => exact ⟨_, _, _, rfl, .nothing, rfl, by simp, by decide⟩
  · refine ⟨_, _, _, step_releases holds noTag slash bracket close, .nothing, ?_, ?_, by simp⟩
    · rw [List.flatMap_append, flatMap_spelling_characters, List.flatMap_singleton,
        markOf_spelling, List.append_nil]
    · intro mark member
      rcases List.mem_append.mp member with earlier | last
      · obtain ⟨d, _, rfl⟩ := List.mem_map.mp earlier
        exact .inr (.inl ⟨d, rfl⟩)
      · exact .inl (List.mem_singleton.mp last)

end Steps

end IdRegistry.Markup.Lexer
