import IdRegistry.Proofs.Markup.Node
import Mathlib.Data.List.Infix

namespace IdRegistry.Markup

/-! Between two nodes the scan holds the text since the last tag (`Between`): without the blanks it began
with, and without the characters at its end that the lexer may still hold back. One lemma for each kind
of node says what it adds to that text, and the recursion over a tree puts them together.
-/

/-- A mark that is text between tags. -/
def Mark.isText : Mark → Bool
  | .character c => isLiteral .first c
  | .quote c => !isSpace c
  | .equals => true
  | .semicolon => true
  | .tagClose => true
  | .emptyTagClose => true
  | _ => false

namespace Scan

/-- The scan has collected the text, but for blanks at its beginning. -/
def Collected (scan : Scan) (text : List Char) : Prop :=
  scan.blank = scan.text.all isSpace ∧
    ∃ dropped, dropped.all isSpace = true ∧ text = dropped ++ scan.text.reverse

/-- The scan is inside of the elements and has collected the text. Nothing has been declared. -/
def Within (elements : List Element) (text : List Char) (scan : Scan) : Prop :=
  scan.edition = .first ∧ scan.entities = [] ∧ scan.elements = elements ∧ Collected scan text

/-- The frame in another state of the lexer and another mode. -/
def «at» (frame : Scan) (state : Lexical) (mode : Mode) : Scan :=
  { frame with lexer := ⟨.content, state⟩, mode := mode }

/-- Between two nodes inside of the elements. The lexer holds back the end of the text, which has so
many closing brackets at least. -/
def Between (elements : List Element) (brackets : Nat) (text : List Char) (scan : Scan) : Prop :=
  ∃ (frame : Scan) (lexer : Lexer) (taken held : List Char), Within elements taken frame ∧
    Lexer.Holds lexer held ∧ held.count ']' ≤ brackets ∧ text = taken ++ held ∧
    scan = { frame with lexer := lexer, mode := .content }

section Text

variable {frame scan : Scan} {elements : List Element} {text : List Char} {brackets : Nat}

theorem Within.between (within : Within elements text frame) :
    Between elements brackets text (frame.into .content) :=
  ⟨frame, .start, text, [], within, .nothing, Nat.zero_le _, (List.append_nil _).symm, rfl⟩

theorem within_opened (edition : frame.edition = .first) (entities : frame.entities = []) :
    Within elements [] { frame.opened with elements := elements } :=
  ⟨edition, entities, rfl, rfl, [], rfl, rfl⟩

theorem trimSpaces_append {dropped : List Char} (blank : dropped.all isSpace = true)
    (text : List Char) : trimSpaces (dropped ++ text) = trimSpaces text := by
  rw [trimSpaces, trimSpaces, List.dropWhile_append_of_pos (List.all_eq_true.mp blank)]

theorem Within.textEvents (within : Within elements text frame) :
    frame.textEvents = Markup.textEvents text := by
  obtain ⟨-, -, -, blank, dropped, isBlank, rfl⟩ := within
  have same : (dropped ++ frame.text.reverse).all isSpace = frame.text.all isSpace := by
    rw [List.all_append, isBlank, Bool.true_and, List.all_reverse]
  rw [Scan.textEvents, Markup.textEvents, same, blank, trimSpaces_append isBlank]
  cases empty : frame.text with
  | nil => rfl
  | cons c text => rw [List.isEmpty_cons, Bool.false_or]

theorem Within.addText (within : Within elements text frame) (characters : List Char) {blank : Bool}
    (isBlank : blank = characters.all isSpace) :
    Within elements (text ++ characters) (frame.addText characters blank) := by
  obtain ⟨edition, entities, inside, collected, dropped, allBlank, rfl⟩ := within
  refine ⟨edition, entities, inside, ?_, dropped, allBlank, ?_⟩
  · simp only [Scan.addText, collected, isBlank, List.all_append, List.all_reverse, Bool.and_comm]
  · simp [Scan.addText]

theorem Within.inside (within : Within elements text frame) (nested : elements ≠ []) :
    frame.elements.isEmpty = false := by
  rw [within.2.2.1]
  exact List.isEmpty_eq_false_iff.mpr nested

/-- A blank before any other text is dropped, and so is none of the other characters. -/
theorem Within.takeCharacter {c : Char} (within : Within elements text frame) (nested : elements ≠ [])
    (allowed : isLiteral .first c = true) (lexer : Lexer) :
    ∃ next, Scan.take { frame with lexer := lexer, mode := .content } (.character c) =
        ⟨[], some { next with lexer := lexer, mode := .content }, []⟩ ∧
      Within elements (text ++ [c]) next := by
  have inside := within.inside nested
  have allowed' : isLiteral frame.edition c = true := within.1 ▸ allowed
  change ∃ next, Scan.takeCharacter _ c = _ ∧ _
  by_cases dropped : (isSpace c && frame.text.isEmpty) = true
  · have drops : (isSpace c && (frame.text.isEmpty || frame.elements.isEmpty)) = true := by
      rw [inside, Bool.or_false]
      exact dropped
    refine ⟨{ frame with untouched := false }, if_pos drops, ?_⟩
    rw [Bool.and_eq_true, List.isEmpty_iff] at dropped
    obtain ⟨edition, entities, same, blank, before, isBlank, rfl⟩ := within
    refine ⟨edition, entities, same, blank, before ++ [c], ?_, ?_⟩
    · rw [List.all_append, isBlank, List.all_cons, dropped.1]
      rfl
    · change (before ++ frame.text.reverse) ++ [c] = (before ++ [c]) ++ frame.text.reverse
      rw [dropped.2, List.reverse_nil, List.append_nil, List.append_nil]
  · have keeps : ¬ (isSpace c && (frame.text.isEmpty || frame.elements.isEmpty)) = true := by
      rw [inside, Bool.or_false]
      exact dropped
    have possible : ¬ (frame.elements.isEmpty || !isLiteral frame.edition c) = true := by
      rw [inside, allowed']
      decide
    exact ⟨frame.addText [c] (isSpace c), (if_neg keeps).trans (if_neg possible),
      within.addText [c] (by simp)⟩

/-- One mark of text. -/
theorem Within.take {mark : Mark} (within : Within elements text frame) (nested : elements ≠ [])
    (isText : mark.isText = true) (lexer : Lexer) :
    ∃ next, Scan.take { frame with lexer := lexer, mode := .content } mark =
        ⟨[], some { next with lexer := lexer, mode := .content }, []⟩ ∧
      Within elements (text ++ mark.spelling) next := by
  have sign (shown : List Char) (spelled : mark.spelling = shown) (loud : shown.all isSpace = false)
      (taken : Scan.take { frame with lexer := lexer, mode := .content } mark =
        if frame.elements.isEmpty then malformed
        else ⟨[], some { Scan.addText { frame with untouched := false } shown false with
          lexer := lexer, mode := .content }, []⟩) :
      ∃ next, Scan.take { frame with lexer := lexer, mode := .content } mark =
          ⟨[], some { next with lexer := lexer, mode := .content }, []⟩ ∧
        Within elements (text ++ mark.spelling) next := by
    rw [within.inside nested] at taken
    rw [spelled]
    exact ⟨_, taken, @Within.addText { frame with untouched := false } _ _ within shown false
      loud.symm⟩
  cases mark with
  | character c => exact within.takeCharacter nested isText lexer
  | quote c =>
      have loud : [c].all isSpace = false := by
        rw [List.all_cons, (Bool.not_eq_true' _).mp isText, Bool.false_and]
      exact sign [c] rfl loud rfl
  | equals => exact sign ['='] rfl rfl rfl
  | semicolon => exact sign [';'] rfl rfl rfl
  | tagClose => exact sign ['>'] rfl rfl rfl
  | emptyTagClose => exact sign ['/', '>'] rfl rfl rfl
  | _ => contradiction

theorem Within.takeAll {marks : List Mark} (within : Within elements text frame)
    (nested : elements ≠ []) (isText : ∀ mark ∈ marks, mark.isText = true) (lexer : Lexer) :
    ∃ next, Scan.takeAll { frame with lexer := lexer, mode := .content } marks =
        ⟨[], some { next with lexer := lexer, mode := .content }, []⟩ ∧
      Within elements (text ++ marks.flatMap Mark.spelling) next := by
  induction marks generalizing frame text with
  | nil => exact ⟨frame, rfl, by simpa using within⟩
  | cons mark marks ih =>
      obtain ⟨first, later⟩ := List.forall_mem_cons.mp isText
      obtain ⟨middle, taken, within'⟩ := within.take nested first lexer
      obtain ⟨last, taken', within''⟩ := ih within' later
      refine ⟨last, by simp only [Scan.takeAll, taken, taken', List.nil_append], ?_⟩
      rwa [List.flatMap_cons, ← List.append_assoc]

theorem isText_of_holds {lexer : Lexer} {held : List Char} (holds : Lexer.Holds lexer held) :
    ∀ mark ∈ held.map Mark.character, mark.isText = true := by
  cases holds <;> decide

theorem isText_markOf {c : Char} (noAmpersand : c ≠ '&') (allowed : isLiteral .first c = true) :
    (Lexer.markOf c).isText = true := by
  unfold Lexer.markOf Lexer.single
  split
  · rfl
  split
  · rfl
  split
  · next quote => rcases quote with rfl | rfl <;> rfl
  split
  · rfl
  · exact allowed

/-- What the lexer holds back is part of the text as soon as it comes out. -/
theorem Within.releases {taken held : List Char} {lexer : Lexer} (within : Within elements taken frame)
    (nested : elements ≠ [] ∨ taken ++ held = []) (holds : Lexer.Holds lexer held) (next : Lexer) :
    ∃ after, Scan.takeAll { frame with lexer := next, mode := .content } (held.map .character) =
        ⟨[], some { after with lexer := next, mode := .content }, []⟩ ∧
      Within elements (taken ++ held) after := by
  rcases nested with nested | empty
  · have released := within.takeAll nested (isText_of_holds holds) next
    rwa [Lexer.flatMap_spelling_characters] at released
  · obtain ⟨rfl, rfl⟩ := List.append_eq_nil_iff.mp empty
    exact ⟨frame, rfl, within⟩

theorem Between.step_open (between : Between elements brackets text scan)
    (nested : elements ≠ [] ∨ text = []) :
    ∃ frame, scan.step '<' = ⟨[], some (angled frame), []⟩ ∧ Within elements text frame := by
  obtain ⟨frame, lexer, taken, held, within, holds, -, rfl, rfl⟩ := between
  obtain ⟨after, released, within'⟩ := within.releases nested holds ⟨.content, .angle⟩
  exact ⟨after, (step_of_lexed (Lexer.step_angle holds)).trans released, within'⟩

/-- A character by itself. -/
theorem Between.reads_literal {c : Char} (between : Between elements brackets text scan)
    (nested : elements ≠ []) (written : (Piece.literal c).isWritten .first none = true)
    (apart : ¬ (c = '>' ∧ 2 ≤ brackets)) :
    ∃ next, Reads scan [c] [] next ∧
      Between elements (if c = ']' then brackets + 1 else 0) (text ++ [c]) next := by
  simp only [Piece.isWritten, Bool.and_eq_true, decide_eq_true_eq, ne_eq] at written
  obtain ⟨⟨⟨noTag, noAmpersand⟩, -⟩, allowed⟩ := written
  obtain ⟨frame, lexer, taken, held, within, holds, count, rfl, rfl⟩ := between
  obtain ⟨lexer', marks, after, stepped, holds', spelled, kinds, count'⟩ :=
    Lexer.exists_step holds noTag
  have isText : ∀ mark ∈ marks, mark.isText = true := by
    intro mark member
    rcases kinds mark member with rfl | ⟨d, rfl⟩ | rfl | ⟨rfl, rfl, rfl⟩
    · exact isText_markOf noAmpersand allowed
    · have spelt : d ∈ held ++ [c] := by
        rw [← spelled]
        exact List.mem_append_left _ (List.mem_flatMap.mpr ⟨_, member, List.mem_singleton_self d⟩)
      rcases List.mem_append.mp spelt with earlier | last
      · exact isText_of_holds holds _ (List.mem_map_of_mem earlier)
      · exact List.mem_singleton.mp last ▸ allowed
    · rfl
    · exact absurd ⟨rfl, count⟩ apart
  obtain ⟨next, taken', within'⟩ := within.takeAll nested isText lexer'
  refine ⟨_, .one ?_, next, lexer', taken ++ marks.flatMap Mark.spelling, after, within', holds', ?_,
    ?_, rfl⟩
  · exact (step_of_lexed stepped).trans taken'
  · refine Nat.le_trans count' ?_
    split
    · exact Nat.add_le_add_right count 1
    · exact Nat.le_refl _
  · rw [List.append_assoc, List.append_assoc, spelled]

theorem Between.reads_reference {label : List Char} {found : Char}
    (between : Between elements brackets text scan) (nested : elements ≠ [])
    (named : isReferenceName label = true)
    (stands : (Piece.reference label).character? .first = some found) :
    ∃ next, Reads scan ('&' :: label ++ [';']) [] next ∧
      Between elements 0 (text ++ [found]) next := by
  obtain ⟨frame, lexer, taken, held, within, holds, -, rfl, rfl⟩ := between
  obtain ⟨after, released, within'⟩ := within.releases (.inl nested) holds .start
  let referring : Scan := { after with untouched := false }
  have ampersand : Scan.take { after with lexer := .start, mode := .content } .ampersand =
      ⟨[], some (referring.into (.reference [])), []⟩ := by
    change (if after.elements.isEmpty then malformed else _) = _
    rw [within'.inside nested]
    rfl
  have begun : Scan.step { frame with lexer := lexer, mode := .content } '&' =
      ⟨[], some (referring.into (.reference [])), []⟩ := by
    have lexed := Lexer.step_releases holds (c := '&') (by decide) (by decide) (by decide)
      (by decide)
    have both := @takeAll_append _ _ _ [.ampersand] _ _ released
    rw [takeAll_singleton, ampersand] at both
    exact (step_of_lexed lexed).trans both
  have collected := @Within.addText referring _ _ within' [found] (isSpace found) (by simp)
  have reads : Reads (referring.into (.reference [])) (label ++ [';']) []
      ((referring.addText [found] (isSpace found)).into .content) := by
    refine reads_referenceName (fun read c _ extends' => if_pos extends') named ?_
    have named' : Replacement.ofName? referring.edition referring.entities label.reverse.reverse =
        some (.character found) := by
      rw [List.reverse_reverse, show referring.edition = .first from within'.1]
      exact Piece.ofName?_of_character? _ stands
    change takeReference _ label.reverse .semicolon = _
    simp only [takeReference]
    rw [show (referring.into (.reference label.reverse)).edition = referring.edition from rfl,
      show (referring.into (.reference label.reverse)).entities = referring.entities from rfl, named']
    rfl
  exact ⟨_, .cons begun reads, collected.between⟩

end Text

section Markup

variable {frame : Scan} {elements : List Element} {text more : List Char} {mode : Mode}

theorem takeAll_stays {scan : Scan} {marks : List Mark}
    (stays : ∀ mark ∈ marks, scan.take mark = ⟨[], some scan, []⟩) :
    scan.takeAll marks = ⟨[], some scan, []⟩ := by
  induction marks with
  | nil => rfl
  | cons mark marks ih =>
      obtain ⟨first, later⟩ := List.forall_mem_cons.mp stays
      simp only [Scan.takeAll, first, ih later, List.nil_append]

/-- After so many dashes of a comment, two of which would end it. -/
theorem reads_commentText {dashes : Nat} (edition : frame.edition = .first)
    (allowed : ∀ c ∈ more, isAllowed .first c = true)
    (apart : ¬ ['-', '-'] <:+: List.replicate dashes '-' ++ (more ++ ['-'])) :
    Reads (frame.at (.comment dashes) .comment) (more ++ ['-', '-', '>']) [] (frame.into .content) := by
  have single {c : Char} (isAllowed' : isAllowed .first c = true) :
      (frame.at (.comment 0) .comment).take (.character c) =
        ⟨[], some (frame.at (.comment 0) .comment), []⟩ := by
    have allowed' : isAllowed frame.edition c = true := edition ▸ isAllowed'
    exact if_pos allowed'
  induction more generalizing dashes with
  | nil =>
      cases dashes with
      | zero => exact .quiet rfl (.quiet rfl (.one rfl))
      | succ dashes =>
          refine absurd ⟨List.replicate dashes '-', [], ?_⟩ apart
          rw [List.replicate_succ']
          simp
  | cons c more ih =>
      obtain ⟨first, later⟩ := List.forall_mem_cons.mp allowed
      by_cases dash : c = '-'
      · subst dash
        cases dashes with
        | zero => exact .quiet rfl (ih later apart)
        | succ dashes =>
            refine absurd ⟨List.replicate dashes '-', more ++ ['-'], ?_⟩ apart
            rw [List.replicate_succ']
            simp
      · have next : Reads (frame.at (.comment 0) .comment) (more ++ ['-', '-', '>']) []
            (frame.into .content) := by
          refine ih later fun inner => apart (inner.trans ?_)
          exact ⟨List.replicate dashes '-' ++ [c], [], by simp⟩
        refine .quiet ?_ next
        match dashes with
        | 0 =>
            have lexed : Lexer.step ⟨.content, .comment 0⟩ c =
                some (⟨.content, .comment 0⟩, [.character c]) := by
              simp [Lexer.step, dash]
            rw [@step_of_lexed _ (frame.at (.comment 0) .comment) _ _ lexed]
            exact takeAll_stays (List.forall_mem_singleton.mpr (single first))
        | 1 =>
            have lexed : Lexer.step ⟨.content, .comment 1⟩ c =
                some (⟨.content, .comment 0⟩, [.character '-', .character c]) := by
              simp [Lexer.step, dash]
            rw [@step_of_lexed _ (frame.at (.comment 1) .comment) _ _ lexed]
            exact takeAll_stays (List.forall_mem_cons.mpr
              ⟨single rfl, List.forall_mem_singleton.mpr (single first)⟩)
        | dashes + 2 =>
            refine absurd ⟨List.replicate dashes '-', c :: more ++ ['-'], ?_⟩ apart
            rw [List.replicate_add]
            simp [List.replicate_succ]

theorem reads_comment (edition : frame.edition = .first)
    (allowed : ∀ c ∈ more, isAllowed .first c = true)
    (apart : ¬ ['-', '-'] <:+: more ++ ['-']) :
    Reads frame.angled (['!', '-', '-'] ++ (more ++ ['-', '-', '>'])) []
      ({ frame with untouched := false }.into .content) := by
  have inner := @reads_commentText { frame with untouched := false } more 0 edition allowed apart
  exact .quiet rfl (.quiet rfl (.quiet rfl inner))

theorem Within.takeAll_section {state : Lexical} (within : Within elements text frame)
    (allowed : ∀ c ∈ more, isAllowed .first c = true) :
    ∃ next : Scan, (frame.at state .section).takeAll (more.map .character) =
        ⟨[], some (next.at state .section), []⟩ ∧ Within elements (text ++ more) next := by
  induction more generalizing text frame with
  | nil => exact ⟨frame, rfl, by simpa using within⟩
  | cons c more ih =>
      obtain ⟨first, later⟩ := List.forall_mem_cons.mp allowed
      have added := @Within.addText frame _ _ within [c] (isSpace c) (by simp)
      obtain ⟨next, taken, within'⟩ := ih added later
      have possible : isAllowed frame.edition c = true := within.1 ▸ first
      have one : (frame.at state .section).take (.character c) =
          ⟨[], some ((frame.addText [c] (isSpace c)).at state .section), []⟩ := if_pos possible
      refine ⟨next, ?_, ?_⟩
      · simp only [List.map_cons, Scan.takeAll, one, taken, List.nil_append]
      · rwa [List.append_assoc] at within'

/-- A bracket too many comes out of the lexer, which holds back two. -/
theorem Within.step_bracket (within : Within elements text frame) :
    ∃ next : Scan, (frame.at (.section 2) .section).step ']' =
        ⟨[], some (next.at (.section 2) .section), []⟩ ∧ Within elements (text ++ [']']) next := by
  obtain ⟨next, taken, within'⟩ := @Within.takeAll_section _ _ _ [']'] (.section 2) within
    (List.forall_mem_singleton.mpr rfl)
  exact ⟨next, taken, within'⟩

/-- Any other character lets all brackets out. -/
theorem Within.step_section {brackets : Nat} {c : Char} (within : Within elements text frame)
    (allowed : isAllowed .first c = true) (other : c ≠ ']') (stays : ¬ (c = '>' ∧ 2 ≤ brackets)) :
    ∃ next : Scan, (frame.at (.section brackets) .section).step c =
        ⟨[], some (next.at (.section 0) .section), []⟩ ∧
      Within elements (text ++ (List.replicate brackets ']' ++ [c])) next := by
  have lexed : Lexer.step ⟨.content, .section brackets⟩ c = some (⟨.content, .section 0⟩,
      (List.replicate brackets ']' ++ [c]).map .character) := by
    simp [Lexer.step, Lexer.stepSection, other, stays]
  have all : ∀ d ∈ List.replicate brackets ']' ++ [c], isAllowed .first d = true := by
    intro d member
    rcases List.mem_append.mp member with earlier | last
    · exact (List.eq_of_mem_replicate earlier) ▸ rfl
    · exact List.mem_singleton.mp last ▸ allowed
  obtain ⟨next, taken, within'⟩ := @Within.takeAll_section _ _ _ _ (.section 0) within all
  refine ⟨next, ?_, within'⟩
  rw [@step_of_lexed _ (frame.at (.section brackets) .section) _ _ lexed]
  exact taken

/-- The end of a section, after so many closing brackets of its text. -/
theorem Within.reads_sectionEnd {brackets : Nat} (within : Within elements text frame)
    (few : brackets ≤ 2) :
    ∃ next : Scan, Reads (frame.at (.section brackets) .section) [']', ']', '>'] []
        (next.into .content) ∧
      Within elements (text ++ List.replicate brackets ']') next := by
  match brackets with
  | 0 => exact ⟨frame, .quiet rfl (.quiet rfl (.one rfl)), by simpa using within⟩
  | 1 =>
      obtain ⟨next, step, within'⟩ := within.step_bracket
      exact ⟨next, .quiet rfl (.quiet step (.one rfl)), within'⟩
  | 2 =>
      obtain ⟨middle, step, within'⟩ := within.step_bracket
      obtain ⟨next, step', within''⟩ := within'.step_bracket
      exact ⟨next, .quiet step (.quiet step' (.one rfl)), by simpa using within''⟩
  | brackets + 3 => omega

/-- After so many closing brackets of a section, which the lexer holds back. -/
theorem reads_sectionText {brackets : Nat} (few : brackets ≤ 2)
    (within : Within elements text frame) (allowed : ∀ c ∈ more, isAllowed .first c = true)
    (apart : ¬ [']', ']', '>'] <:+: List.replicate brackets ']' ++ more) :
    ∃ next : Scan, Reads (frame.at (.section brackets) .section) (more ++ [']', ']', '>']) []
        (next.into .content) ∧
      Within elements (text ++ (List.replicate brackets ']' ++ more)) next := by
  induction more generalizing brackets text frame with
  | nil =>
      rw [List.append_nil]
      exact within.reads_sectionEnd few
  | cons c more ih =>
      obtain ⟨first, later⟩ := List.forall_mem_cons.mp allowed
      by_cases close : c = ']'
      · subst close
        have moved : List.replicate brackets ']' ++ ']' :: more =
            List.replicate (brackets + 1) ']' ++ more := by
          rw [List.replicate_succ']
          simp
        rw [moved] at apart ⊢
        match brackets with
        | 0 =>
            obtain ⟨next, reads, within'⟩ := ih (by omega) within later apart
            exact ⟨next, .quiet rfl reads, within'⟩
        | 1 =>
            obtain ⟨next, reads, within'⟩ := ih (by omega) within later apart
            exact ⟨next, .quiet rfl reads, within'⟩
        | 2 =>
            obtain ⟨middle, step, within'⟩ := within.step_bracket
            have apart' : ¬ [']', ']', '>'] <:+: List.replicate 2 ']' ++ more :=
              fun inner => apart (inner.trans ⟨[']'], [], by simp [List.replicate_succ]⟩)
            obtain ⟨next, reads, within''⟩ := ih (by omega) within' later apart'
            refine ⟨next, .quiet step reads, ?_⟩
            simpa [List.replicate_succ] using within''
        | brackets + 3 => omega
      · have stays : ¬ (c = '>' ∧ 2 ≤ brackets) := by
          rintro ⟨rfl, many⟩
          obtain rfl : brackets = 2 := by omega
          exact apart ⟨[], more, rfl⟩
        obtain ⟨middle, step, within'⟩ := within.step_section first close stays
        have apart' : ¬ [']', ']', '>'] <:+: List.replicate 0 ']' ++ more :=
          fun inner => apart (inner.trans ⟨List.replicate brackets ']' ++ [c], [], by simp⟩)
        obtain ⟨next, reads, within''⟩ := ih (Nat.zero_le 2) within' later apart'
        refine ⟨next, .quiet step reads, ?_⟩
        simpa using within''

theorem reads_section (within : Within elements text frame) (nested : elements ≠ [])
    (allowed : ∀ c ∈ more, isAllowed .first c = true) (apart : ¬ [']', ']', '>'] <:+: more) :
    ∃ next : Scan, Reads frame.angled ("![CDATA[".toList ++ (more ++ [']', ']', '>'])) []
        (next.into .content) ∧ Within elements (text ++ more) next := by
  obtain ⟨next, reads, within'⟩ := @reads_sectionText { frame with untouched := false } elements text
    more 0 (Nat.zero_le 2) within allowed apart
  have opened : (frame.at (.keyword ['['] .sectionOpen) .content).step '[' =
      ⟨[], some ({ frame with untouched := false }.at (.section 0) .section), []⟩ := by
    change Scan.takeAll _ [Mark.sectionOpen] = _
    rw [takeAll_singleton]
    change (if frame.elements.isEmpty then malformed else _) = _
    rw [within.inside nested]
    rfl
  refine ⟨next, ?_, within'⟩
  exact .quiet rfl (.quiet rfl (.quiet rfl (.quiet rfl (.quiet rfl (.quiet rfl (.quiet rfl
    (.quiet opened reads)))))))

theorem take_instruction {state : Lexical} {c : Char} (edition : frame.edition = .first)
    (allowed : isAllowed .first c = true) :
    (frame.at state .instruction).take (.character c) =
      ⟨[], some (frame.at state .instruction), []⟩ := by
  have allowed' : isAllowed frame.edition c = true := edition ▸ allowed
  exact if_pos allowed'

/-- Whatever mark a character of an instruction is, it says nothing. -/
theorem marks_of_instruction {lexer : Lexer} {state : Lexical} {c : Char}
    (edition : frame.edition = .first) (allowed : isAllowed .first c = true) :
    ∀ mark ∈ (lexer.stepInstruction c).2, (frame.at state .instruction).take mark =
      ⟨[], some (frame.at state .instruction), []⟩ := by
  intro mark member
  unfold Lexer.stepInstruction at member
  split at member
  · contradiction
  obtain rfl := List.mem_singleton.mp member
  unfold Lexer.single
  split
  · rfl
  split
  · rfl
  split
  · rfl
  split
  · rfl
  split
  · rfl
  split
  · rfl
  split
  · rfl
  · exact take_instruction edition allowed

/-- What a question mark held back does not change what the next character is. -/
theorem step_instruction {question : Bool} {c : Char} (edition : frame.edition = .first)
    (allowed : isAllowed .first c = true) (apart : ¬ (question = true ∧ c = '>')) :
    (frame.at (.instruction question) .instruction).step c =
      ⟨[], some (frame.at (.instruction (c = '?')) .instruction), []⟩ := by
  let lexer : Lexer := ⟨.content, .instruction question⟩
  have next : (lexer.stepInstruction c).1 = ⟨.content, .instruction (c = '?')⟩ := by
    unfold Lexer.stepInstruction
    split
    · next mark => simp [lexer, mark]
    · next noMark => simp [lexer, noMark]
  have stays := @marks_of_instruction frame lexer (.instruction (c = '?')) c edition allowed
  cases question with
  | false =>
      have lexed : lexer.step c = some (⟨.content, .instruction (c = '?')⟩,
          (lexer.stepInstruction c).2) := by
        rw [← next]
        rfl
      rw [@step_of_lexed _ (frame.at (.instruction false) .instruction) _ _ lexed]
      exact takeAll_stays stays
  | true =>
      have open' : c ≠ '>' := fun close => apart ⟨rfl, close⟩
      have lexed : lexer.step c = some (⟨.content, .instruction (c = '?')⟩,
          .character '?' :: (lexer.stepInstruction c).2) := by
        rw [← next]
        exact if_neg open'
      rw [@step_of_lexed _ (frame.at (.instruction true) .instruction) _ _ lexed]
      exact takeAll_stays (List.forall_mem_cons.mpr ⟨take_instruction edition rfl, stays⟩)

/-- In an instruction, perhaps after a question mark. -/
theorem reads_instructionText {question : Bool} (edition : frame.edition = .first)
    (allowed : ∀ c ∈ more, isAllowed .first c = true)
    (apart : ¬ ['?', '>'] <:+: (if question then ['?'] else []) ++ more) :
    Reads (frame.at (.instruction question) .instruction) (more ++ ['?', '>']) []
      (frame.into .content) := by
  induction more generalizing question with
  | nil => exact .quiet (step_instruction edition rfl (by simp)) (.one rfl)
  | cons c more ih =>
      obtain ⟨first, later⟩ := List.forall_mem_cons.mp allowed
      have open' : ¬ (question = true ∧ c = '>') := by
        rintro ⟨rfl, rfl⟩
        exact apart ⟨[], more, rfl⟩
      have apart' : ¬ ['?', '>'] <:+: (if decide (c = '?') then ['?'] else []) ++ more := by
        intro inner
        refine apart (inner.trans ?_)
        by_cases mark : c = '?'
        · exact ⟨if question then ['?'] else [], [], by simp [mark]⟩
        · exact ⟨(if question then ['?'] else []) ++ [c], [], by simp [mark]⟩
      exact .quiet (step_instruction edition first open') (ih later apart')

/-- The name of an instruction, from what has been read of it. -/
theorem reads_instructionName {read : List Char} (named : ∀ c ∈ more, isNameChar c = true)
    (starts : read = [] → ∀ c ∈ more.head?, isNameStart c = true) :
    Reads (frame.at (.instruction false) (.instructionName read)) more []
      (frame.at (.instruction false) (.instructionName (more.reverse ++ read))) := by
  induction more generalizing read with
  | nil => exact .nil _
  | cons c more ih =>
      obtain ⟨isName, others⟩ := List.forall_mem_cons.mp named
      have differs := ne_of_isNameChar isName
      simp only [delimiters, List.forall_mem_cons] at differs
      obtain ⟨noTag, noSlash, -, noClose, noEquals, noDouble, noQuote, noAmpersand, noSemicolon,
        noQuestion, -⟩ := differs
      have lexed : Lexer.step ⟨.content, .instruction false⟩ c =
          some (⟨.content, .instruction false⟩, [.character c]) := by
        simp [Lexer.step, Lexer.stepInstruction, Lexer.single, noTag, noSlash, noClose, noEquals,
          noDouble, noQuote, noAmpersand, noSemicolon, noQuestion]
      have goesOn : (if read.isEmpty then isNameStart c else isNameChar c) = true := by
        cases read with
        | nil => exact starts rfl c rfl
        | cons last read => exact isName
      have step : (frame.at (.instruction false) (.instructionName read)).step c =
          ⟨[], some (frame.at (.instruction false) (.instructionName (c :: read))), []⟩ := by
        rw [@step_of_lexed _ (frame.at (.instruction false) (.instructionName read)) _ _ lexed,
          takeAll_singleton]
        exact if_pos goesOn
      rw [List.reverse_cons, List.append_assoc]
      exact .quiet step (ih others fun empty => absurd empty (List.cons_ne_nil _ _))

/-- An instruction from the end of its name. -/
theorem reads_instructionEnd {name : List Char} (edition : frame.edition = .first)
    (nonempty : name.isEmpty = false) (unreserved : isDeclarationName name.reverse = false)
    (allowed : ∀ c ∈ more, isAllowed .first c = true)
    (blank : more.head?.all isSpace = true) (apart : ¬ ['?', '>'] <:+: more) :
    Reads (frame.at (.instruction false) (.instructionName name)) (more ++ ['?', '>']) []
      ({ frame with untouched := false }.into .content) := by
  cases more with
  | nil =>
      have close : (frame.at (.instruction true) (.instructionName name)).step '>' =
          ⟨[], some ({ frame with untouched := false }.into .content), []⟩ := by
        change Scan.takeAll _ [Mark.instructionClose] = _
        rw [takeAll_singleton]
        change (if _ then malformed else _) = _
        rw [nonempty, unreserved]
        rfl
      exact .quiet rfl (.one close)
  | cons c more =>
      have space : isSpace c = true := blank
      have unnamed := isNameChar_of_isSpace space
      have lexed : Lexer.step ⟨.content, .instruction false⟩ c =
          some (⟨.content, .instruction false⟩, [.character c]) := by
        simp only [isSpace, Bool.or_eq_true, decide_eq_true_eq] at space
        rcases space with ((rfl | rfl) | rfl) | rfl <;> rfl
      have noDeclaration : ¬ (name.reverse = standardQualifier ∧ frame.untouched = true) := by
        rintro ⟨same, -⟩
        rw [same] at unreserved
        contradiction
      have step : (frame.at (.instruction false) (.instructionName name)).step c =
          ⟨[], some ({ frame with untouched := false }.at (.instruction false) .instruction), []⟩ := by
        rw [@step_of_lexed _ (frame.at (.instruction false) (.instructionName name)) _ _ lexed,
          takeAll_singleton]
        change takeInstructionName _ name (.character c) = _
        simp only [takeInstructionName, nonempty, unnamed, space, unreserved]
        exact if_neg noDeclaration
      obtain ⟨-, others⟩ := List.forall_mem_cons.mp allowed
      refine .quiet step (reads_instructionText edition others fun inner => apart ?_)
      exact inner.trans ⟨[c], [], by simp⟩

theorem reads_instruction {name : List Char} (within : Within elements text frame)
    (named : isInstructionName name = true) (allowed : ∀ c ∈ more, isAllowed .first c = true)
    (blank : more.head?.all isSpace = true) (apart : ¬ ['?', '>'] <:+: more) :
    ∃ next : Scan, Reads frame.angled ('?' :: name ++ (more ++ ['?', '>']))
        (Markup.textEvents text) (next.into .content) ∧ Within elements [] next := by
  let cleared : Scan := { frame with text := [], blank := true }
  have begun : frame.angled.step '?' = ⟨Markup.textEvents text,
      some (cleared.at (.instruction false) (.instructionName [])), []⟩ := by
    have lexed : frame.angled.lexer.step '?' =
        some (⟨.content, .instruction false⟩, [.instructionOpen]) := rfl
    rw [← within.textEvents, step_of_lexed lexed, takeAll_singleton]
    rfl
  cases name with
  | nil => contradiction
  | cons first rest =>
      simp only [isInstructionName, Bool.and_eq_true, List.all_eq_true, Bool.not_eq_true'] at named
      obtain ⟨⟨starts, others⟩, unreserved⟩ := named
      have name := @reads_instructionName cleared (first :: rest) []
        (List.forall_mem_cons.mpr ⟨isNameChar_of_isNameStart starts, others⟩)
        (fun _ c isFirst => Option.some.inj isFirst ▸ starts)
      rw [List.append_nil] at name
      have ended := @reads_instructionEnd cleared more (first :: rest).reverse within.1 (by simp)
        (by rwa [List.reverse_reverse]) allowed blank apart
      have whole := Reads.cons begun (name.silent ended)
      rw [List.append_nil] at whole
      exact ⟨_, whole, within.1, within.2.1, within.2.2.1, rfl, [], rfl, rfl⟩

end Markup

section Trees

variable {scan : Scan} {elements : List Element} {text : List Char} {brackets : Nat}

/-- The scan reads what is in an element, up to its end tag. -/
def ReadsAll (elements : List Element) (text : List Char) (scan : Scan) (nodes : List Node) : Prop :=
  ∃ (events : List Event) (last : Scan) (brackets : Nat) (more : List Char),
    Reads scan (Node.writtenAll nodes) events last ∧ Between elements brackets more last ∧
      Node.eventsAll text nodes = events ++ Markup.textEvents more

theorem Between.reads_emptyElement {tag : StartTag} (between : Between elements brackets text scan)
    (nested : elements ≠ [] ∨ text = [])
    (written : tag.isWritten .first (elements.flatMap Element.qualifiers) = true) :
    ∃ next, Reads scan ('<' :: tag.written ++ ['/', '>'])
        (Markup.textEvents text ++ [.start tag.localName (tag.given .first), .close]) next ∧
      Between elements 0 [] next := by
  obtain ⟨frame, opened, within⟩ := between.step_open nested
  have edition := within.1
  have same := within.2.2.1
  have tagged := reads_empty (edition.symm ▸ written) (congrArg _ same.symm)
  rw [within.textEvents, edition] at tagged
  have after : Within elements [] frame.opened :=
    ⟨edition, within.2.1, same, rfl, [], rfl, rfl⟩
  exact ⟨_, .quiet opened tagged, after.between⟩

/-- An element with an end tag, from what is inside of it. -/
theorem Between.reads_fullElement {tag : StartTag} {children : List Node} {gap : List Char}
    (between : Between elements brackets text scan) (nested : elements ≠ [] ∨ text = [])
    (written : tag.isWritten .first (elements.flatMap Element.qualifiers) = true)
    (blanks : gap.all isSpace = true)
    (inner : ∀ next, Between (⟨tag.name.spelling, tag.declared⟩ :: elements) 0 [] next →
      ReadsAll (⟨tag.name.spelling, tag.declared⟩ :: elements) [] next children) :
    ∃ next, Reads scan (('<' :: (tag.written ++ ['>'])) ++ (Node.writtenAll children ++
          '<' :: ('/' :: tag.name.spelling ++ gap ++ ['>'])))
        (Markup.textEvents text ++ [.start tag.localName (tag.given .first)] ++
          (Node.eventsAll [] children ++ [.close])) next ∧
      Between elements 0 [] next := by
  obtain ⟨frame, opened, within⟩ := between.step_open nested
  have edition := within.1
  have same := within.2.2.1
  have tagged := reads_start (edition.symm ▸ written) (congrArg _ same.symm)
  rw [within.textEvents, edition, same] at tagged
  have started := @within_opened frame (⟨tag.name.spelling, tag.declared⟩ :: elements) edition
    within.2.1
  obtain ⟨events, last, count, more, reads, ending, said⟩ := inner _ started.between
  obtain ⟨frame', opened', within'⟩ := ending.step_open (.inl (List.cons_ne_nil _ _))
  have named : tag.name.isWritten = true := by
    simp only [StartTag.isWritten, Bool.and_eq_true] at written
    exact written.1.1.1.1.1.1
  have closed := reads_end named within'.2.2.1 rfl blanks
  rw [within'.textEvents] at closed
  have ended := @within_opened frame' elements within'.1 within'.2.1
  have whole := (Reads.quiet opened tagged).append (reads.append (.quiet opened' closed))
  rw [said, List.append_assoc events]
  exact ⟨_, whole, ended.between⟩

theorem Between.reads_element {tag : StartTag} {children : List Node} {closing : Option (List Char)}
    (between : Between elements brackets text scan) (nested : elements ≠ [] ∨ text = [])
    (written : tag.isWritten .first (elements.flatMap Element.qualifiers) = true)
    (blanks : (closing.getD []).all isSpace = true)
    (inner : ∀ next, Between (⟨tag.name.spelling, tag.declared⟩ :: elements) 0 [] next →
      ReadsAll (⟨tag.name.spelling, tag.declared⟩ :: elements) [] next children) :
    ∃ next, Reads scan (Node.element tag children closing).written
        ((Node.element tag children closing).events text) next ∧ Between elements 0 [] next := by
  rw [Node.written, Node.events]
  by_cases short : (closing.isNone && children.isEmpty) = true
  · have empty : children = [] := by
      rw [Bool.and_eq_true, List.isEmpty_iff] at short
      exact short.2
    rw [if_pos short, empty]
    exact between.reads_emptyElement nested written
  · rw [if_neg short]
    have reads := between.reads_fullElement nested written blanks inner
    simpa only [List.append_assoc, List.cons_append, List.nil_append] using reads

mutual
/-- A node is read to its events. What it adds to the text is kept for what follows. -/
theorem reads_node : ∀ (node : Node) {elements : List Element} {brackets : Nat} {text : List Char}
    {scan : Scan}, Between elements brackets text scan → elements ≠ [] →
    node.wellFormed (elements.flatMap Element.qualifiers) brackets = true →
    ∃ next, Reads scan node.written (node.events text) next ∧
      Between elements (node.bracketsAfter brackets) (node.textAfter text) next
  | .piece (.literal c), elements, brackets, text, scan, between, nested, valid => by
      simp only [Node.wellFormed, Bool.and_eq_true, Bool.not_eq_true', Bool.and_eq_false_iff,
        decide_eq_false_iff_not, Piece.literal.injEq] at valid
      have apart : ¬ (c = '>' ∧ 2 ≤ brackets) := by
        rintro ⟨close, many⟩
        exact valid.2.elim (fun differs => differs close) fun few => few many
      exact between.reads_literal nested valid.1 apart
  | .piece (.reference name), elements, brackets, text, scan, between, nested, valid => by
      simp only [Node.wellFormed, Piece.isWritten, Bool.and_eq_true] at valid
      obtain ⟨⟨named, stands⟩, -⟩ := valid
      obtain ⟨found, stands⟩ := Option.isSome_iff_exists.mp stands
      have reads := between.reads_reference nested named stands
      rw [Node.textAfter, stands]
      exact reads
  | .section more, elements, brackets, text, scan, between, nested, valid => by
      simp only [Node.wellFormed, Bool.and_eq_true, List.all_eq_true, Bool.not_eq_true',
        decide_eq_false_iff_not] at valid
      obtain ⟨frame, opened, within⟩ := between.step_open (.inl nested)
      obtain ⟨next, reads, within'⟩ := reads_section within nested valid.1 valid.2
      have spelled : (Node.section more).written =
          '<' :: ("![CDATA[".toList ++ (more ++ [']', ']', '>'])) := by
        rw [Node.written]
        rfl
      rw [spelled, Node.events]
      exact ⟨_, .quiet opened reads, within'.between⟩
  | .comment more, elements, brackets, text, scan, between, nested, valid => by
      simp only [Node.wellFormed, Bool.and_eq_true, List.all_eq_true, Bool.not_eq_true',
        decide_eq_false_iff_not] at valid
      obtain ⟨frame, opened, within⟩ := between.step_open (.inl nested)
      have reads := reads_comment within.1 valid.1 valid.2
      have within' : Within elements text { frame with untouched := false } := within
      have spelled : (Node.comment more).written =
          '<' :: (['!', '-', '-'] ++ (more ++ ['-', '-', '>'])) := by
        rw [Node.written]
        rfl
      rw [spelled, Node.events]
      exact ⟨_, .quiet opened reads, within'.between⟩
  | .instruction name more, elements, brackets, text, scan, between, nested, valid => by
      simp only [Node.wellFormed, Bool.and_eq_true, List.all_eq_true, Bool.not_eq_true',
        decide_eq_false_iff_not] at valid
      obtain ⟨⟨⟨named, allowed⟩, blank⟩, apart⟩ := valid
      obtain ⟨frame, opened, within⟩ := between.step_open (.inl nested)
      obtain ⟨next, reads, within'⟩ := reads_instruction within named allowed blank apart
      have spelled : (Node.instruction name more).written =
          '<' :: ('?' :: name ++ (more ++ ['?', '>'])) := by
        rw [Node.written]
        rfl
      rw [spelled, Node.events]
      exact ⟨_, .quiet opened reads, within'.between⟩
  | .element tag children closing, elements, brackets, text, scan, between, nested, valid => by
      simp only [Node.wellFormed, Bool.and_eq_true] at valid
      obtain ⟨⟨written, blanks⟩, inside⟩ := valid
      refine between.reads_element (.inl nested) written blanks fun next started => ?_
      exact reads_nodes children started (List.cons_ne_nil _ _) inside

theorem reads_nodes : ∀ (nodes : List Node) {elements : List Element} {brackets : Nat}
    {text : List Char} {scan : Scan}, Between elements brackets text scan → elements ≠ [] →
    Node.wellFormedAll (elements.flatMap Element.qualifiers) brackets nodes = true →
    ReadsAll elements text scan nodes
  | [], elements, brackets, text, scan, between, _, _ =>
      ⟨[], scan, brackets, text, .nil scan, between, rfl⟩
  | node :: rest, elements, brackets, text, scan, between, nested, valid => by
      simp only [Node.wellFormedAll, Bool.and_eq_true] at valid
      obtain ⟨next, first, between'⟩ := reads_node node between nested valid.1
      obtain ⟨events, last, count, more, later, between'', said⟩ :=
        reads_nodes rest between' nested valid.2
      refine ⟨_, last, count, more, first.append later, between'', ?_⟩
      rw [Node.eventsAll, said, List.append_assoc]
end

/-- A well-formed document is read to its events. -/
theorem reads_document {tag : StartTag} {children : List Node} {closing : Option (List Char)}
    (valid : (Node.element tag children closing).wellFormed [] 0 = true) :
    ∃ last, Reads .start (Node.element tag children closing).written
      ((Node.element tag children closing).events []) last := by
  simp only [Node.wellFormed, Bool.and_eq_true] at valid
  obtain ⟨⟨written, blanks⟩, inside⟩ := valid
  have started : Between [] 0 [] .start :=
    @Within.between Scan.start [] [] 0 ⟨rfl, rfl, rfl, rfl, [], rfl, rfl⟩
  obtain ⟨last, reads, -⟩ := started.reads_element (.inr rfl) written blanks fun next opened =>
    reads_nodes children opened (List.cons_ne_nil _ _) (by simpa using inside)
  exact ⟨last, reads⟩

end Trees

end Scan

end IdRegistry.Markup
