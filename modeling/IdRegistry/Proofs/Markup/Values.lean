import IdRegistry.Proofs.Markup.Scan

namespace IdRegistry.Markup

/-- A character of a value, such that it neither ends the value nor begins anything else. -/
def escaped (c : Char) : List Char :=
  if c = '&' then "&amp;".toList
  else if c = '<' then "&lt;".toList
  else if c = '"' then "&quot;".toList
  else [c]

/-- A character as it is written, by itself or by a reference. -/
inductive Piece where
  | literal (c : Char)
  | reference (name : List Char)
deriving DecidableEq, Repr

/-- A name, or a number sign and digits. -/
def isReferenceName : List Char → Bool
  | [] => false
  | first :: rest => (isNameStart first || first = '#') && rest.all isNameChar

namespace Piece

def written : Piece → List Char
  | .literal c => [c]
  | .reference name => '&' :: name ++ [';']

/-- The character that the piece stands for. References to declared texts stand for none. -/
def character? (edition : Edition) : Piece → Option Char
  | .literal c => some c
  | .reference name =>
      match Replacement.ofName? edition [] name with
      | some (.character c) => some c
      | _ => none

/-- Whether the piece can stand between tags or, if a quote is given, between two of it. -/
def isWritten (edition : Edition) (quote : Option Char) (piece : Piece) : Bool :=
  match piece with
  | .literal c => c ≠ '<' && c ≠ '&' && some c ≠ quote && isLiteral edition c
  | .reference name => isReferenceName name && (piece.character? edition).isSome

/-- The piece for a character between double quotes. -/
def ofCharacter (c : Char) : Piece :=
  if c = '&' then .reference "amp".toList
  else if c = '<' then .reference "lt".toList
  else if c = '"' then .reference "quot".toList
  else .literal c

theorem written_ofCharacter (c : Char) : (ofCharacter c).written = escaped c := by
  unfold ofCharacter escaped
  split
  · rfl
  split
  · rfl
  split <;> rfl

theorem character?_ofCharacter (edition : Edition) (c : Char) :
    (ofCharacter c).character? edition = some c := by
  unfold ofCharacter
  split
  · next ampersand => exact ampersand ▸ rfl
  split
  · next less => exact less ▸ rfl
  split
  · next double => exact double ▸ rfl
  · rfl

theorem isWritten_ofCharacter {edition : Edition} {c : Char} (allowed : isLiteral edition c = true) :
    (ofCharacter c).isWritten edition (some '"') = true := by
  unfold ofCharacter
  split
  · rfl
  split
  · rfl
  split
  · rfl
  · next noAmpersand noLess noDouble => simp [isWritten, noAmpersand, noLess, noDouble, allowed]

theorem flatMap_written (text : List Char) :
    (text.map ofCharacter).flatMap written = text.flatMap escaped := by
  simp only [List.flatMap_map, written_ofCharacter]

theorem filterMap_character? (edition : Edition) (text : List Char) :
    (text.map ofCharacter).filterMap (character? edition) = text := by
  have inverse : character? edition ∘ ofCharacter = some := funext (character?_ofCharacter edition)
  rw [List.filterMap_map, inverse, List.filterMap_some]

/-- A reference that stands for a character does so whatever texts are declared. -/
theorem ofName?_of_character? {edition : Edition} {name : List Char} {c : Char} (entities : Entities)
    (stands : (reference name).character? edition = some c) :
    Replacement.ofName? edition entities name = some (.character c) := by
  have named : Replacement.ofName? edition [] name = some (.character c) := by
    simp only [character?] at stands
    split at stands
    · next found named => exact Option.some.inj stands ▸ named
    · contradiction
  unfold Replacement.ofName? at named ⊢
  split at named
  all_goals first | exact named | simp [Entities.text?] at named

end Piece

namespace Scan

section Values

variable {frame : Scan} {owner : Owner} {name : QualifiedName}
variable {quote c : Char} {read text : List Char}

/-- A character that the value of an attribute can hold as it is. -/
def Inert (edition : Edition) (quote c : Char) : Prop :=
  c ≠ '<' ∧ c ≠ '&' ∧ c ≠ quote ∧ isLiteral edition c = true

instance (edition : Edition) (quote c : Char) : Decidable (Inert edition quote c) :=
  inferInstanceAs (Decidable (_ ∧ _))

theorem takeValue_quote (scan : Scan) :
    scan.takeValue owner name quote read (.quote quote) =
      scan.finishValue owner name read.reverse := if_pos rfl

theorem take_value {scan : Scan} {mark : Mark}
    (reading : scan.mode = .value owner name quote read)
    (inert : ∀ c ∈ mark.spelling, Inert scan.edition quote c) :
    scan.take mark = scan.goOn (.value owner name quote (mark.spelling.reverse ++ read)) := by
  have noEnd : mark ≠ .quote quote := by
    rintro rfl
    exact (inert quote (List.mem_singleton_self quote)).2.2.1 rfl
  have taken : scan.take mark = scan.takeValue owner name quote read mark := by
    cases scan
    cases reading
    rfl
  rw [taken]
  cases mark with
  | character c =>
      have literal := (inert c (List.mem_singleton_self c)).2.2.2
      exact (if_neg noEnd).trans (if_pos literal)
  | ampersand => exact absurd rfl (inert '&' (by decide)).2.1
  | tagOpen => exact absurd rfl (inert '<' (by decide)).1
  | instructionOpen => exact absurd rfl (inert '<' (by decide)).1
  | _ => exact if_neg noEnd

theorem takeAll_value {scan : Scan} {marks : List Mark}
    (reading : scan.mode = .value owner name quote read)
    (inert : ∀ c ∈ marks.flatMap Mark.spelling, Inert scan.edition quote c) :
    scan.takeAll marks = scan.goOn
      (.value owner name quote ((marks.flatMap Mark.spelling).reverse ++ read)) := by
  induction marks generalizing scan read with
  | nil => simp [takeAll, goOn, ← reading]
  | cons mark marks ih =>
      simp only [List.flatMap_cons, List.forall_mem_append] at inert
      have later := @ih (mark.spelling.reverse ++ read)
        { scan with mode := .value owner name quote (mark.spelling.reverse ++ read) } rfl inert.2
      simp only [takeAll, take_value reading inert.1, goOn, later]
      simp

/-- A value that has been read up to the given text, the end of which the lexer may hold back. -/
def ReadingValue (frame : Scan) (owner : Owner) (name : QualifiedName) (quote : Char)
    (text : List Char) (scan : Scan) : Prop :=
  ∃ lexer held read, Lexer.Holds lexer held ∧ read.reverse ++ held = text ∧
    scan = { frame.into (.value owner name quote read) with lexer := lexer }

theorem ReadingValue.start :
    ReadingValue frame owner name quote [] (frame.into (.value owner name quote [])) :=
  ⟨.start, [], [], .nothing, rfl, rfl⟩

theorem inert_of_holds {lexer : Lexer} {held : List Char} (edition : Edition)
    (holds : Lexer.Holds lexer held) (quoted : quote = '"' ∨ quote = '\'') :
    ∀ c ∈ held, Inert edition quote c := by
  have both : Inert edition quote ']' ∧ Inert edition quote '/' := by
    rcases quoted with rfl | rfl <;> cases edition <;> decide
  cases holds with
  | nothing => exact List.forall_mem_nil _
  | bracket => exact List.forall_mem_singleton.mpr both.1
  | brackets => exact List.forall_mem_cons.mpr ⟨both.1, List.forall_mem_singleton.mpr both.1⟩
  | slash => exact List.forall_mem_singleton.mpr both.2

namespace ReadingValue

variable {scan : Scan}

theorem step_inert (value : ReadingValue frame owner name quote text scan)
    (quoted : quote = '"' ∨ quote = '\'') (inert : Inert frame.edition quote c) :
    ∃ next, scan.step c = ⟨[], some next, []⟩ ∧
      ReadingValue frame owner name quote (text ++ [c]) next := by
  obtain ⟨lexer, held, read, holds, rfl, rfl⟩ := value
  obtain ⟨lexer', marks, after, stepped, holds', spelled, -, -⟩ := Lexer.exists_step holds inert.1
  -- What comes out spells what was held back and the new character, which are inert both.
  have allInert : ∀ d ∈ marks.flatMap Mark.spelling, Inert frame.edition quote d := by
    intro d member
    have spelt : d ∈ held ++ [c] := spelled ▸ List.mem_append_left after member
    rcases List.mem_append.mp spelt with earlier | last
    · exact inert_of_holds frame.edition holds quoted d earlier
    · exact List.mem_singleton.mp last ▸ inert
  have taken := @takeAll_value owner name quote read
    { frame.into (.value owner name quote read) with lexer := lexer' } marks rfl allInert
  refine ⟨_, ?_, lexer', after, (marks.flatMap Mark.spelling).reverse ++ read, holds', ?_, rfl⟩
  · exact (step_of_lexed stepped).trans taken
  · rw [List.reverse_append, List.reverse_reverse, List.append_assoc, spelled, List.append_assoc]

theorem step_release (value : ReadingValue frame owner name quote text scan)
    (quoted : quote = '"' ∨ quote = '\'') (noTag : c ≠ '<') (noSlash : c ≠ '/')
    (noBracket : c ≠ ']') (noClose : c ≠ '>') :
    scan.step c = (frame.into (.value owner name quote text.reverse)).take (Lexer.markOf c) := by
  obtain ⟨lexer, held, read, holds, rfl, rfl⟩ := value
  have released := Lexer.flatMap_spelling_characters held
  have taken := @takeAll_value owner name quote read (frame.into (.value owner name quote read))
    (held.map Mark.character) rfl (released.symm ▸ inert_of_holds frame.edition holds quoted)
  rw [released] at taken
  have stepped := Lexer.step_releases holds noTag noSlash noBracket noClose
  refine (step_of_lexed stepped).trans ((takeAll_append taken).trans ?_)
  rw [takeAll_singleton, List.reverse_append, List.reverse_reverse]
  rfl

end ReadingValue

/-- A reference up to its semicolon, wherever references are read. -/
theorem reads_referenceName {mode : List Char → Mode} {label : List Char} {next : Scan}
    (collects : ∀ read c, isNameChar c = true ∨ c = '#' → extendsReference read c = true →
      (frame.into (mode read)).take (.character c) =
        ⟨[], some (frame.into (mode (c :: read))), []⟩)
    (named : isReferenceName label = true)
    (ended : (frame.into (mode label.reverse)).take .semicolon = ⟨[], some next, []⟩) :
    Reads (frame.into (mode [])) (label ++ [';']) [] next := by
  cases label with
  | nil => contradiction
  | cons first rest =>
      simp only [isReferenceName, Bool.and_eq_true, Bool.or_eq_true, decide_eq_true_eq,
        List.all_eq_true] at named
      obtain ⟨starts, named⟩ := named
      have begun : (frame.into (mode [])).step first =
          ⟨[], some (frame.into (mode [first])), []⟩ := by
        have extends' : extendsReference [] first = true := by simpa [extendsReference] using starts
        rcases starts with starts | rfl
        · have isName := isNameChar_of_isNameStart starts
          rw [step_nameChar isName, collects [] first (.inl isName) extends']
        · rw [step_into (by decide) (by decide) (by decide)]
          exact collects [] '#' (.inr rfl) extends'
      have middle : Reads (frame.into (mode [first])) rest []
          (frame.into (mode (rest.reverse ++ [first]))) := by
        refine @reads_collected frame rest mode (fun c => isNameChar c = true)
          (fun last read c isName => ?_) named first []
        rw [step_nameChar isName, collects _ c (.inl isName) (by simp [extendsReference, isName])]
      have last : (frame.into (mode (rest.reverse ++ [first]))).step ';' =
          ⟨[], some next, []⟩ := by
        rw [step_into (by decide) (by decide) (by decide), ← List.reverse_cons]
        exact ended
      exact .cons begun (middle.silent (.one last))

namespace ReadingValue

variable {scan : Scan} {piece : Piece}

theorem reads_reference {label : List Char} {found : Char}
    (value : ReadingValue frame owner name quote text scan) (quoted : quote = '"' ∨ quote = '\'')
    (named : isReferenceName label = true)
    (stands : Replacement.ofName? frame.edition frame.entities label = some (.character found)) :
    ∃ next, Reads scan ('&' :: label ++ [';']) [] next ∧
      ReadingValue frame owner name quote (text ++ [found]) next := by
  have begun : scan.step '&' = ⟨[], some (frame.into
      (.valueReference owner name quote text.reverse [])), []⟩ := by
    rw [value.step_release quoted (by decide) (by decide) (by decide) (by decide)]
    rfl
  have reference : Reads (frame.into (.valueReference owner name quote text.reverse []))
      (label ++ [';']) [] (frame.into (.value owner name quote (found :: text.reverse))) := by
    refine reads_referenceName (fun read c _ extends' => if_pos extends') named ?_
    change takeValueReference _ _ _ _ _ label.reverse .semicolon = _
    have named' : Replacement.ofName? (frame.into (.valueReference owner name quote text.reverse
        label.reverse)).edition frame.entities label.reverse.reverse = some (.character found) := by
      rw [List.reverse_reverse]
      exact stands
    simp only [takeValueReference]
    rw [show (frame.into _).entities = frame.entities from rfl, named']
    rfl
  exact ⟨_, .cons begun reference, .start, [], found :: text.reverse, .nothing, by simp, rfl⟩

theorem reads_piece (value : ReadingValue frame owner name quote text scan)
    (quoted : quote = '"' ∨ quote = '\'')
    (written : piece.isWritten frame.edition (some quote) = true) :
    ∃ next, Reads scan piece.written [] next ∧ ReadingValue frame owner name quote
      (text ++ (piece.character? frame.edition).toList) next := by
  cases piece with
  | literal c =>
      simp only [Piece.isWritten, Bool.and_eq_true, decide_eq_true_eq, ne_eq,
        Option.some.injEq] at written
      obtain ⟨⟨⟨noTag, noAmpersand⟩, noQuote⟩, allowed⟩ := written
      obtain ⟨next, stepped, value'⟩ :=
        value.step_inert quoted ⟨noTag, noAmpersand, noQuote, allowed⟩
      exact ⟨next, .one stepped, value'⟩
  | reference label =>
      simp only [Piece.isWritten, Bool.and_eq_true] at written
      obtain ⟨named, stands⟩ := written
      obtain ⟨found, stands⟩ := Option.isSome_iff_exists.mp stands
      rw [stands]
      exact value.reads_reference quoted named (Piece.ofName?_of_character? frame.entities stands)

theorem reads_pieces {pieces : List Piece}
    (value : ReadingValue frame owner name quote text scan) (quoted : quote = '"' ∨ quote = '\'')
    (written : ∀ piece ∈ pieces, piece.isWritten frame.edition (some quote) = true) :
    ∃ next, Reads scan (pieces.flatMap Piece.written) [] next ∧
      ReadingValue frame owner name quote
        (text ++ pieces.filterMap (Piece.character? frame.edition)) next := by
  induction pieces generalizing text scan with
  | nil => exact ⟨scan, .nil scan, by simpa using value⟩
  | cons piece pieces ih =>
      obtain ⟨first, others⟩ := List.forall_mem_cons.mp written
      obtain ⟨next, reads, value'⟩ := value.reads_piece quoted first
      obtain ⟨last, later, value''⟩ := ih value' others
      refine ⟨last, reads.silent later, ?_⟩
      have pieced : (piece.character? frame.edition).toList ++
          pieces.filterMap (Piece.character? frame.edition) =
            (piece :: pieces).filterMap (Piece.character? frame.edition) := by
        cases stands : piece.character? frame.edition <;> simp [stands]
      rwa [List.append_assoc, pieced] at value''

end ReadingValue

theorem reads_value {pieces : List Piece} (quoted : quote = '"' ∨ quote = '\'')
    (written : ∀ piece ∈ pieces, piece.isWritten frame.edition (some quote) = true) {tag tag' : Tag}
    (adds : tag.add name (pieces.filterMap (Piece.character? frame.edition)) = some tag') :
    Reads (frame.into (.value (.tag tag) name quote [])) (pieces.flatMap Piece.written ++ [quote]) []
      (frame.into (.afterValue tag')) := by
  obtain ⟨next, reads, value⟩ := ReadingValue.start.reads_pieces quoted written
  refine reads.silent (.one ?_)
  rw [List.nil_append] at value
  have marked : Lexer.markOf quote = .quote quote := by rcases quoted with rfl | rfl <;> rfl
  have differs : quote ≠ '<' ∧ quote ≠ '/' ∧ quote ≠ ']' ∧ quote ≠ '>' := by
    rcases quoted with rfl | rfl <;> decide
  rw [value.step_release quoted differs.1 differs.2.1 differs.2.2.1 differs.2.2.2, marked]
  refine (takeValue_quote _).trans ?_
  rw [finishValue, List.reverse_reverse, adds]
  rfl

end Values

end Scan

end IdRegistry.Markup
