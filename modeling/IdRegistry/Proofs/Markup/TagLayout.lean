import IdRegistry.Proofs.Markup.Values

namespace IdRegistry.Markup

/-- An attribute in some layout. -/
structure Attribute where
  /-- The blanks before it. -/
  gap : List Char
  name : QualifiedName
  beforeEquals : List Char
  afterEquals : List Char
  quote : Char
  value : List Piece
deriving DecidableEq, Repr

namespace Attribute

def written (attr : Attribute) : List Char :=
  attr.gap ++ attr.name.spelling ++ attr.beforeEquals ++ '=' ::
    (attr.afterEquals ++ attr.quote ::
      (attr.value.flatMap Piece.written ++ [attr.quote]))

def text (edition : Edition) (attr : Attribute) : List Char :=
  attr.value.filterMap (Piece.character? edition)

def declaresQualifier (attr : Attribute) : Bool :=
  attr.name.qualifier = some declaringQualifier

/-- Whether the attribute declares names instead of being one of its element. -/
def isDeclaration (attr : Attribute) : Bool :=
  attr.declaresQualifier || attr.name = ⟨none, declaringQualifier⟩

/-- What a declaration may say: nothing about the two qualifiers with a fixed meaning. -/
def mayDeclare (edition : Edition) (attr : Attribute) : Bool :=
  let said := attr.text edition
  if attr.declaresQualifier then
    attr.name.localName ≠ declaringQualifier
      && (attr.name.localName ≠ standardQualifier || said = Tag.standardNames)
      && !said.isEmpty
  else if attr.name = ⟨none, declaringQualifier⟩ then
    said ≠ declaringQualifier && said ≠ standardQualifier && said ≠ Tag.standardNames
      && said ≠ Tag.declaringNames
  else true

def isWritten (edition : Edition) (attr : Attribute) : Bool :=
  !attr.gap.isEmpty && attr.gap.all isSpace
    && attr.name.isWritten
    && attr.beforeEquals.all isSpace && attr.afterEquals.all isSpace
    && (attr.quote = '"' || attr.quote = '\'')
    && attr.value.all (Piece.isWritten edition (some attr.quote))
    && attr.mayDeclare edition

def given (edition : Edition) (attr : Attribute) : String × String :=
  (String.ofList attr.name.localName, String.ofList (attr.text edition))

end Attribute

/-- A start tag in some layout. -/
structure StartTag where
  name : QualifiedName
  attributes : List Attribute
  /-- The blanks before its end. -/
  gap : List Char
deriving DecidableEq, Repr

namespace StartTag

/-- The tag from its name up to its end. -/
def written (tag : StartTag) : List Char :=
  tag.name.spelling ++ tag.attributes.flatMap Attribute.written ++ tag.gap

def localName (tag : StartTag) : String := String.ofList tag.name.localName

/-- The attributes that the element has. -/
def visible (tag : StartTag) : List Attribute :=
  tag.attributes.filter fun attr => !attr.isDeclaration

def given (edition : Edition) (tag : StartTag) : List (String × String) :=
  tag.visible.map (Attribute.given edition)

/-- The qualifiers that the tag declares, newest first. -/
def declared (tag : StartTag) : List (List Char) :=
  ((tag.attributes.filter Attribute.declaresQualifier).map fun attr =>
    attr.name.localName).reverse

/-- Whether a name can be used in the tag, if the elements around it declare the given qualifiers. -/
def binds (tag : StartTag) (scope : List (List Char)) (name : QualifiedName) : Bool :=
  match name.qualifier with
  | none => true
  | some qualifier =>
      qualifier = standardQualifier || tag.declared.contains qualifier || scope.contains qualifier

end StartTag

/-- Whether the tag can stand inside of elements that declare the given qualifiers. -/
def StartTag.isWritten (edition : Edition) (scope : List (List Char)) (tag : StartTag) : Bool :=
  tag.name.isWritten && !isReserved tag.name
    && tag.attributes.all (Attribute.isWritten edition)
    && (tag.attributes.map Attribute.name).Nodup
    && tag.gap.all isSpace
    && tag.binds scope tag.name
    && tag.visible.all fun attr => tag.binds scope attr.name

/-- The tag as the scan holds it, after some of its attributes. -/
def Tag.after (edition : Edition) (name : QualifiedName) (attributes : List Attribute) : Tag where
  name := name
  spelling := name.spelling
  attributes := ((attributes.filter fun attr => !attr.isDeclaration).map fun attr =>
    (attr.name, attr.text edition)).reverse
  qualifiers := ((attributes.filter Attribute.declaresQualifier).map fun attr =>
    attr.name.localName).reverse

namespace Scan

section Tags

variable {frame : Scan} {mode : Mode} {tag : Tag} {name : QualifiedName} {attr : Attribute}
variable {attributes : List Attribute} {gap : List Char}

theorem isNameChar_of_isSpace {c : Char} (blank : isSpace c = true) : isNameChar c = false := by
  cases named : isNameChar c with
  | false => rfl
  | true => simp [isSpace_of_isNameChar named] at blank

theorem ends_of_isSpace {d : Char} (blank : isSpace d = true) :
    ∀ c, Mark.character d = .character c → isNameChar c = false := by
  rintro c ⟨⟩
  exact isNameChar_of_isSpace blank

theorem add_after {edition : Edition} (may : attr.mayDeclare edition = true) :
    (Tag.after edition name attributes).add attr.name (attr.text edition) =
      some (Tag.after edition name (attributes ++ [attr])) := by
  rw [Attribute.mayDeclare] at may
  by_cases declares : attr.declaresQualifier = true
  · have qualified : attr.name.qualifier = some declaringQualifier :=
      of_decide_eq_true declares
    rw [if_pos declares] at may
    simp only [Bool.and_eq_true, Bool.or_eq_true, decide_eq_true_eq, Bool.not_eq_true',
      List.isEmpty_eq_false_iff, ne_eq] at may
    obtain ⟨⟨noSelf, standard⟩, nonempty⟩ := may
    have fixed : ¬ (attr.name.localName = standardQualifier ∧
        attr.text edition ≠ Tag.standardNames) := by
      rintro ⟨named, other⟩
      exact standard.elim (fun differs => differs named) other
    rw [Tag.add, if_pos qualified, if_neg noSelf, if_neg fixed,
      if_neg (by simpa using nonempty)]
    simp [Tag.after, Attribute.isDeclaration, declares]
  · have unqualified : attr.name.qualifier ≠ some declaringQualifier := by
      simpa [Attribute.declaresQualifier] using declares
    rw [if_neg declares] at may
    by_cases default : attr.name = ⟨none, declaringQualifier⟩
    · rw [if_pos default] at may
      simp only [Bool.and_eq_true, decide_eq_true_eq, ne_eq] at may
      obtain ⟨⟨⟨noDeclaring, noStandard⟩, noNames⟩, noDeclaringNames⟩ := may
      have both : attr.name.qualifier = none ∧ attr.name.localName = declaringQualifier :=
        default ▸ ⟨rfl, rfl⟩
      rw [Tag.add, if_neg unqualified, if_pos both, if_neg (by simp [*])]
      simp [Tag.after, Attribute.isDeclaration, declares, default]
    · have ordinary : ¬ (attr.name.qualifier = none ∧
          attr.name.localName = declaringQualifier) := by
        rintro ⟨qualifier, named⟩
        exact default (by rw [← qualifier, ← named])
      rw [Tag.add, if_neg unqualified, if_neg ordinary]
      simp [Tag.after, Attribute.isDeclaration, declares, default]

/-- Where a tag can end or go on with an attribute. What stands there is taken like after a blank. -/
def Pending (frame : Scan) (mode : Mode) (tag : Tag) : Prop :=
  ∀ mark, mark.isBlank = true ∨ mark = .tagClose ∨ mark = .emptyTagClose →
    (frame.into mode).take mark = (frame.into (.tag tag)).takeTag tag mark

theorem pending_afterValue : Pending frame (.afterValue tag) tag := by
  rintro mark (blank | rfl | rfl)
  · cases mark with
    | character c =>
        change takeAfterValue _ tag (.character c) = takeTag _ tag (.character c)
        have space : isSpace c = true := blank
        rw [takeAfterValue, takeTag, if_pos space, if_pos space]
        rfl
    | _ => contradiction
  · rfl
  · rfl

theorem pending_tag : Pending frame (.tag tag) tag := fun _ _ => rfl

theorem pending_tagName (written : name.isWritten = true) (unreserved : isReserved name = false) :
    Pending frame (.tagName name.spelling.reverse) ⟨name, name.spelling, [], []⟩ := by
  intro mark expected
  have ends : ∀ c, mark = .character c → isNameChar c = false := by
    rintro c rfl
    rcases expected with blank | close | close
    · exact isNameChar_of_isSpace blank
    · contradiction
    · contradiction
  change takeName _ name.spelling.reverse .tagName (finishTagName _ mark) mark = _
  rw [takeName_ended written ends]
  rcases expected with blank | rfl | rfl
  · cases mark with
    | character c =>
        have space : isSpace c = true := blank
        rw [takeTag, if_pos space]
        simp only [finishTagName, unreserved, blank, if_true]
        rfl
    | _ => cases blank
  · simp only [finishTagName, unreserved]
    rfl
  · simp only [finishTagName, unreserved]
    rfl

/-- Blanks and the character after them. The scan may tell the first blank from the others. -/
theorem reads_spaced {scan waiting next : Scan} {c : Char} {events : List Event}
    (blanks : gap.all isSpace = true)
    (waits : ∀ d, isSpace d = true → scan.step d = ⟨[], some waiting, []⟩ ∧
      waiting.step d = ⟨[], some waiting, []⟩)
    (ends : scan.step c = ⟨events, some next, []⟩)
    (waited : waiting.step c = ⟨events, some next, []⟩) : Reads scan (gap ++ [c]) events next := by
  cases gap with
  | nil => exact .one ends
  | cons d gap =>
      simp only [List.all_cons, Bool.and_eq_true, List.all_eq_true] at blanks
      have others := reads_all fun other member => (waits other (blanks.2 other member)).2
      exact .cons (waits d blanks.1).1 (others.silent (.one waited))

theorem Pending.reads_space {c : Char} (pending : Pending frame mode tag) (blank : isSpace c = true) :
    Reads (frame.into mode) [c] [] (frame.into (.tag tag)) := by
  refine .one ((step_space blank).trans ((pending (.character c) (.inl blank)).trans ?_))
  rw [takeTag, if_pos blank]
  rfl

theorem reads_blanks (blanks : gap.all isSpace = true) (tag : Tag) :
    Reads (frame.into (.tag tag)) gap [] (frame.into (.tag tag)) := by
  refine reads_all fun c member => ?_
  have blank := List.all_eq_true.mp blanks c member
  rw [step_space blank]
  exact if_pos blank

theorem Pending.reads_gap (pending : Pending frame mode tag) (blanks : gap.all isSpace = true)
    (nonempty : gap ≠ []) : Reads (frame.into mode) gap [] (frame.into (.tag tag)) := by
  obtain ⟨c, rest, rfl⟩ := List.exists_cons_of_ne_nil nonempty
  simp only [List.all_cons, Bool.and_eq_true] at blanks
  exact (pending.reads_space blanks.1).silent (reads_blanks blanks.2 tag)

/-- From the equals sign to the value. -/
theorem reads_toQuote {after : List Char} {quote : Char} (blanks : after.all isSpace = true)
    (quoted : quote = '"' ∨ quote = '\'') :
    Reads (frame.into (.beforeValue (.tag tag) name)) (after ++ [quote]) []
      (frame.into (.value (.tag tag) name quote [])) := by
  have begins : (frame.into (.beforeValue (.tag tag) name)).step quote =
      ⟨[], some (frame.into (.value (.tag tag) name quote [])), []⟩ := by
    rcases quoted with rfl | rfl <;> rfl
  refine reads_spaced blanks (fun d space => ?_) begins begins
  rw [step_space space]
  exact ⟨if_pos space, if_pos space⟩

/-- The name of an attribute and what stands between it and the value. -/
theorem reads_attributeName {before after : List Char} {quote : Char}
    (written : name.isWritten = true) (new : tag.has name = false)
    (blanks : before.all isSpace = true) (blanks' : after.all isSpace = true)
    (quoted : quote = '"' ∨ quote = '\'') :
    Reads (frame.into (.tag tag)) (name.spelling ++ before ++ '=' :: (after ++ [quote])) []
      (frame.into (.value (.tag tag) name quote [])) := by
  obtain ⟨first, rest, spelled, starts, -⟩ := exists_of_isWritten written
  have isName := isNameChar_of_isNameStart starts
  have naming : Naming (.attributeName (.tag tag)) := fun _ _ _ goesOn => if_pos goesOn
  have begun : (frame.into (.tag tag)).step first =
      ⟨[], some (frame.into (.attributeName (.tag tag) [first])), []⟩ := by
    rw [step_nameChar isName]
    change takeTag _ tag (.character first) = _
    rw [takeTag, isSpace_of_isNameChar isName, starts]
    rfl
  have whole := Reads.cons begun (naming.reads_rest written spelled)
  rw [← spelled] at whole
  -- The first mark after the name shows its end.
  have ended (mark : Mark) (ends : ∀ c, mark = .character c → isNameChar c = false) :
      (frame.into (.attributeName (.tag tag) name.spelling.reverse)).take mark =
        (frame.into (.attributeName (.tag tag) name.spelling.reverse)).takeAfterAttributeName
          (.tag tag) name mark := by
    change takeName _ name.spelling.reverse (.attributeName (.tag tag))
      (fun _ => finishAttributeName _ (.tag tag) mark) mark = _
    rw [takeName_ended written ends, finishAttributeName, Owner.allows, new]
    rfl
  have equals : Reads (frame.into (.attributeName (.tag tag) name.spelling.reverse))
      (before ++ ['=']) [] (frame.into (.beforeValue (.tag tag) name)) := by
    refine @reads_spaced before _ (frame.into (.afterAttributeName (.tag tag) name)) _ '=' [] blanks
      (fun d space => ⟨?_, ?_⟩) ?_ rfl
    · rw [step_space space, ended _ (ends_of_isSpace space)]
      exact (if_neg (by simp)).trans (if_pos space)
    · rw [step_space space]
      exact if_pos (show (Mark.character d).isBlank = true from space)
    · rw [step_into (by decide) (by decide) (by decide)]
      exact ended .equals fun c same => by cases same
  have all := (whole.silent equals).silent (reads_toQuote blanks' quoted)
  simpa using all

theorem reads_attribute (pending : Pending frame mode (Tag.after frame.edition name attributes))
    (written : attr.isWritten frame.edition = true)
    (new : ∀ other ∈ attributes, other.name ≠ attr.name) :
    Reads (frame.into mode) attr.written []
      (frame.into (.afterValue (Tag.after frame.edition name (attributes ++ [attr])))) := by
  simp only [Attribute.isWritten, Bool.and_eq_true, Bool.or_eq_true, decide_eq_true_eq,
    Bool.not_eq_true', List.isEmpty_eq_false_iff] at written
  obtain ⟨⟨⟨⟨⟨⟨⟨nonempty, blanks⟩, named⟩, before⟩, between⟩, quoted⟩, pieces⟩, may⟩ := written
  have absent : (Tag.after frame.edition name attributes).has attr.name = false := by
    simp only [Tag.has, Tag.after, List.any_reverse, List.any_map, List.any_eq_false,
      Function.comp_apply, decide_eq_true_eq]
    exact fun other member => new other (List.mem_filter.mp member |>.1)
  have label := @reads_attributeName frame _ _ _ _ _ named absent before between quoted
  have added := @add_after name attr attributes frame.edition may
  have value := @reads_value frame _ _ _ quoted (List.all_eq_true.mp pieces) _ _ added
  have whole := ((pending.reads_gap blanks nonempty).silent label).silent value
  simpa [Attribute.written] using whole

theorem reads_attributes {more : List Attribute}
    (pending : Pending frame mode (Tag.after frame.edition name attributes))
    (written : more.all (Attribute.isWritten frame.edition) = true)
    (distinct : ((attributes ++ more).map Attribute.name).Nodup) :
    ∃ ended, Reads (frame.into mode) (more.flatMap Attribute.written) [] (frame.into ended) ∧
      Pending frame ended (Tag.after frame.edition name (attributes ++ more)) := by
  induction more generalizing mode attributes with
  | nil => exact ⟨mode, .nil _, by simpa using pending⟩
  | cons attr more ih =>
      simp only [List.all_cons, Bool.and_eq_true] at written
      have new : ∀ other ∈ attributes, other.name ≠ attr.name := by
        rw [List.map_append, List.nodup_append] at distinct
        exact fun other earlier =>
          distinct.2.2 other.name (List.mem_map_of_mem earlier) attr.name (by simp)
      have first := reads_attribute pending written.1 new
      rw [List.append_cons] at distinct ⊢
      obtain ⟨ended, later, pending'⟩ := ih pending_afterValue written.2 distinct
      exact ⟨ended, first.silent later, pending'⟩

/-- Between two tags, after the angle bracket that begins the second. -/
def angled (frame : Scan) : Scan :=
  { frame with lexer := ⟨.content, .angle⟩, mode := .content }

/-- The frame after a tag has begun, which ends the text before it. -/
def opened (frame : Scan) : Scan := { frame with untouched := false, text := [], blank := true }

theorem reads_tagName (written : name.isWritten = true) :
    Reads frame.angled name.spelling frame.textEvents
      (frame.opened.into (.tagName name.spelling.reverse)) := by
  -- The mark that begins the tag comes out together with the first character of the name.
  have naming : Naming .tagName := fun _ _ _ goesOn => if_pos goesOn
  obtain ⟨first, rest, spelled, starts, noColon⟩ := exists_of_isWritten written
  have isName := isNameChar_of_isNameStart starts
  have differs := ne_of_isNameChar isName
  have lexed : Lexer.step ⟨.content, .angle⟩ first =
      some (.start, [.tagOpen, .character first]) := by
    simp [Lexer.step, Lexer.stepAngle, differs '?' (by decide), differs '/' (by decide),
      differs '!' (by decide), isName, Lexer.stepGround, markOf_nameChar isName, Lexer.start,
      Lexer.stepContent_single (differs '<' (by decide)) (differs '/' (by decide))
        (differs ']' (by decide))]
  have opening : takeAll { frame.angled with lexer := .start } [.tagOpen] =
      ⟨frame.textEvents, some (frame.opened.into (.tagName [])), []⟩ := by
    rw [takeAll_singleton]
    rfl
  have both := @takeAll_append _ _ _ [.character first] _ _ opening
  rw [takeAll_singleton, naming _ _ _ (extendsName_first starts noColon), List.append_nil] at both
  have began : frame.angled.step first =
      ⟨frame.textEvents, some (frame.opened.into (.tagName [first])), []⟩ :=
    (@step_of_lexed _ frame.angled _ _ lexed).trans both
  have whole := Reads.cons began (naming.reads_rest written spelled)
  rwa [← spelled, List.append_nil] at whole

variable {written : StartTag} {scope : List (List Char)}

theorem reads_openTag (isWritten : written.isWritten frame.edition scope = true) :
    ∃ ended, Reads frame.angled written.written frame.textEvents (frame.opened.into ended) ∧
      Pending frame.opened ended (Tag.after frame.edition written.name written.attributes) := by
  simp only [StartTag.isWritten, Bool.and_eq_true, decide_eq_true_eq, Bool.not_eq_true'] at isWritten
  obtain ⟨⟨⟨⟨⟨⟨named, unreserved⟩, attributes⟩, distinct⟩, blanks⟩, -⟩, -⟩ := isWritten
  have pending : Pending frame.opened (.tagName written.name.spelling.reverse)
      (Tag.after frame.opened.edition written.name []) := pending_tagName named unreserved
  obtain ⟨ended, reads, pending'⟩ := reads_attributes pending attributes distinct
  have opening := (reads_tagName named).append reads
  rw [List.append_nil] at opening
  by_cases close : written.gap = []
  · refine ⟨ended, ?_, pending'⟩
    rw [StartTag.written, close, List.append_nil]
    exact opening
  · refine ⟨_, ?_, pending_tag⟩
    have whole := opening.append (pending'.reads_gap blanks close)
    rwa [List.append_nil] at whole

theorem inScope_after {elements : List Element} (edition : Edition) (used : QualifiedName)
    (around : scope = elements.flatMap Element.qualifiers) :
    (Tag.after edition written.name written.attributes).inScope elements used =
      written.binds scope used := by
  rw [Tag.inScope, StartTag.binds]
  cases used.qualifier with
  | none => rfl
  | some qualifier =>
      have outer : (elements.any fun element => element.qualifiers.contains qualifier) =
          scope.contains qualifier := by
        rw [around, Bool.eq_iff_iff]
        simp [List.mem_flatMap]
      simp only [outer]
      rfl

theorem finishTag_after (isWritten : written.isWritten frame.edition scope = true)
    (around : scope = frame.elements.flatMap Element.qualifiers) (empty : Bool) :
    (frame.into mode).finishTag (Tag.after frame.edition written.name written.attributes) empty =
      if empty then
        ⟨[.start written.localName (written.given frame.edition), .close],
          some (frame.into .content), []⟩
      else
        ⟨[.start written.localName (written.given frame.edition)],
          some ({ frame with elements :=
            ⟨written.name.spelling, written.declared⟩ :: frame.elements }.into .content), []⟩ := by
  simp only [StartTag.isWritten, Bool.and_eq_true, List.all_eq_true] at isWritten
  obtain ⟨⟨-, bound⟩, all⟩ := isWritten
  have visible : (Tag.after frame.edition written.name written.attributes).visibleAttributes =
      written.given frame.edition := by
    simp [Tag.after, Tag.visibleAttributes, StartTag.given, StartTag.visible, Attribute.given]
  have inScope : ((Tag.after frame.edition written.name written.attributes).inScope
      (frame.into mode).elements (Tag.after frame.edition written.name written.attributes).name &&
      (Tag.after frame.edition written.name written.attributes).attributes.all fun entry =>
        (Tag.after frame.edition written.name written.attributes).inScope
          (frame.into mode).elements entry.1) = true := by
    rw [Bool.and_eq_true, List.all_eq_true]
    refine ⟨(inScope_after _ _ around).trans bound, ?_⟩
    intro entry member
    simp only [Tag.after, List.mem_reverse, List.mem_map] at member
    obtain ⟨attr, isVisible, rfl⟩ := member
    exact (inScope_after _ _ around).trans (all attr isVisible)
  rw [finishTag, if_pos inScope, visible]
  cases empty <;> rfl

/-- A start tag, after the angle bracket that begins it. -/
theorem reads_start (isWritten : written.isWritten frame.edition scope = true)
    (around : scope = frame.elements.flatMap Element.qualifiers) :
    Reads frame.angled (written.written ++ ['>'])
      (frame.textEvents ++ [.start written.localName (written.given frame.edition)])
      ({ frame.opened with elements :=
        ⟨written.name.spelling, written.declared⟩ :: frame.elements }.into .content) := by
  obtain ⟨ended, reads, pending⟩ := reads_openTag isWritten
  refine reads.append (.one ?_)
  rw [step_into (by decide) (by decide) (by decide)]
  have close := pending .tagClose (.inr (.inl rfl))
  have finished := @finishTag_after frame.opened
    (.tag (Tag.after frame.edition written.name written.attributes)) written scope isWritten around
    false
  exact close.trans finished

/-- The tag of an empty element. -/
theorem reads_empty (isWritten : written.isWritten frame.edition scope = true)
    (around : scope = frame.elements.flatMap Element.qualifiers) :
    Reads frame.angled (written.written ++ ['/', '>'])
      (frame.textEvents ++ [.start written.localName (written.given frame.edition), .close])
      (frame.opened.into .content) := by
  obtain ⟨ended, reads, pending⟩ := reads_openTag isWritten
  refine reads.append (reads_emptyTagClose ?_)
  have close := pending .emptyTagClose (.inr (.inr rfl))
  have finished := @finishTag_after frame.opened
    (.tag (Tag.after frame.edition written.name written.attributes)) written scope isWritten around
    true
  exact close.trans finished

/-- An end tag, after the angle bracket that begins it. -/
theorem reads_end {element : Element} {outer : List Element} (written : name.isWritten = true)
    (inside : frame.elements = element :: outer) (same : element.spelling = name.spelling)
    (blanks : gap.all isSpace = true) :
    Reads frame.angled ('/' :: name.spelling ++ gap ++ ['>']) (frame.textEvents ++ [.close])
      ({ frame.opened with elements := outer }.into .content) := by
  have naming : Naming .closingName := fun _ _ _ goesOn => if_pos goesOn
  have begun : frame.angled.step '/' =
      ⟨frame.textEvents, some (frame.opened.into (.closingName [])), []⟩ := by
    have nonempty : frame.angled.elements.isEmpty = false := by
      rw [show frame.angled.elements = frame.elements from rfl, inside]
      rfl
    have lexed : frame.angled.lexer.step '/' = some (.start, [.endTagOpen]) := rfl
    rw [step_of_lexed lexed, takeAll_singleton]
    change (if frame.angled.elements.isEmpty then malformed else _) = _
    rw [nonempty]
    rfl
  have named := @Naming.reads frame.opened _ _ naming written
  have ended (mark : Mark) (ends : ∀ c, mark = .character c → isNameChar c = false) :
      (frame.opened.into (.closingName name.spelling.reverse)).take mark =
        (frame.opened.into (.closingName name.spelling.reverse)).takeClosing name.spelling mark := by
    change takeName _ name.spelling.reverse .closingName
      (fun spelling _ => takeClosing _ spelling mark) mark = _
    rw [takeName_ended written ends]
  have finished (mode : Mode) : (frame.opened.into mode).takeClosing name.spelling .tagClose =
      ⟨[.close], some ({ frame.opened with elements := outer }.into .content), []⟩ := by
    rw [takeClosing, if_pos rfl, finishClosing,
      show (frame.opened.into mode).elements = element :: outer from inside]
    exact if_pos same
  have rest : Reads (frame.opened.into (.closingName name.spelling.reverse)) (gap ++ ['>']) [.close]
      ({ frame.opened with elements := outer }.into .content) := by
    refine @reads_spaced gap _ (frame.opened.into (.closing name.spelling)) _ '>' _ blanks
      (fun d space => ⟨?_, ?_⟩) ?_ ?_
    · rw [step_space space, ended _ (ends_of_isSpace space)]
      exact (if_neg (by simp)).trans (if_pos space)
    · rw [step_space space]
      exact if_pos (show (Mark.character d).isBlank = true from space)
    · rw [step_into (by decide) (by decide) (by decide)]
      exact (ended .tagClose nofun).trans (finished _)
    · rw [step_into (by decide) (by decide) (by decide)]
      exact finished _
  have whole := Reads.cons begun (named.silent rest)
  simpa using whole

end Tags

end Scan

end IdRegistry.Markup
