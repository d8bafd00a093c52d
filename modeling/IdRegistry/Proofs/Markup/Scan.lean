import IdRegistry.Markup.Scan
import IdRegistry.Proofs.Markup.Lexer
import Mathlib.Data.List.TakeWhile

namespace IdRegistry.Markup

/-- A name without a qualifier. -/
def isPlainName : List Char → Bool
  | [] => false
  | first :: rest => isNameStart first && (first :: rest).all fun c => isNameChar c && c ≠ ':'

namespace Scan

/-- The scan reads the characters, which complete the events and call for no declared text. -/
inductive Reads : Scan → List Char → List Event → Scan → Prop where
  | nil (scan : Scan) : Reads scan [] [] scan
  | cons {scan next last : Scan} {c : Char} {rest : List Char} {events later : List Event}
      (stepped : scan.step c = ⟨events, some next, []⟩) (reads : Reads next rest later last) :
      Reads scan (c :: rest) (events ++ later) last

namespace Reads

variable {scan next last : Scan} {c : Char} {text more : List Char} {events later : List Event}

theorem one (stepped : scan.step c = ⟨events, some next, []⟩) : Reads scan [c] events next := by
  have reads := cons stepped (nil next)
  rwa [List.append_nil] at reads

theorem quiet (stepped : scan.step c = ⟨[], some next, []⟩) (reads : Reads next text later last) :
    Reads scan (c :: text) later last := cons stepped reads

theorem append (first : Reads scan text events next) (second : Reads next more later last) :
    Reads scan (text ++ more) (events ++ later) last := by
  induction first with
  | nil => exact second
  | cons stepped _ ih =>
      rw [List.append_assoc]
      exact cons stepped (ih second)

theorem silent (first : Reads scan text [] next) (second : Reads next more later last) :
    Reads scan (text ++ more) later last := first.append second

end Reads

/-- Read characters that call for no declared text. -/
def readAll? (scan : Scan) : List Char → Option (List Event × Scan)
  | [] => some ([], scan)
  | c :: rest =>
      match scan.step c with
      | ⟨events, some next, []⟩ =>
          (next.readAll? rest).map fun (later, last) => (events ++ later, last)
      | _ => none

theorem reads_of_readAll? {scan last : Scan} {text : List Char} {events : List Event}
    (read : scan.readAll? text = some (events, last)) : Reads scan text events last := by
  induction text generalizing scan events with
  | nil =>
      obtain ⟨rfl, rfl⟩ := Prod.mk.inj (Option.some.inj read)
      exact .nil scan
  | cons c rest ih =>
      rw [readAll?] at read
      split at read
      next events next stepped =>
        obtain ⟨⟨later, last⟩, readRest, same⟩ := Option.map_eq_some_iff.mp read
        obtain ⟨rfl, rfl⟩ := Prod.mk.inj same
        exact .cons stepped (ih readRest)
      next => contradiction

/-- The frame in another mode, at the beginning of a mark. -/
def into (frame : Scan) (mode : Mode) : Scan := { frame with lexer := .start, mode := mode }

section Steps

variable {frame : Scan} {mode : Mode} {c : Char}

theorem takeAll_singleton (scan : Scan) (mark : Mark) : scan.takeAll [mark] = scan.take mark := by
  rcases taken : scan.take mark with ⟨events, _ | next, replacement⟩ <;> simp [takeAll, taken]

theorem takeAll_append {scan next : Scan} {marks more : List Mark} {events : List Event}
    {replacement : List Char}
    (first : scan.takeAll marks = ⟨events, some next, replacement⟩) :
    scan.takeAll (marks ++ more) = ⟨events ++ (next.takeAll more).events, (next.takeAll more).next,
      replacement ++ (next.takeAll more).replacement⟩ := by
  induction marks generalizing scan events replacement with
  | nil =>
      obtain ⟨rfl, ⟨rfl⟩, rfl⟩ := Step.mk.inj first
      rfl
  | cons mark marks ih =>
      rcases taken : scan.take mark with ⟨begun, _ | after, called⟩
      · simp [takeAll, taken] at first
      · simp only [takeAll, taken, Step.mk.injEq] at first
        obtain ⟨rfl, continued, rfl⟩ := first
        have later : after.takeAll marks =
            ⟨(after.takeAll marks).events, some next, (after.takeAll marks).replacement⟩ := by
          rw [← continued]
        simp [takeAll, taken, ih later]

theorem step_of_lexed {scan : Scan} {lexer : Lexer} {marks : List Mark}
    (lexed : scan.lexer.step c = some (lexer, marks)) :
    scan.step c = { scan with lexer := lexer }.takeAll marks := by
  simp only [step, lexed]

theorem step_into (noTag : c ≠ '<') (noSlash : c ≠ '/') (noBracket : c ≠ ']') :
    (frame.into mode).step c = (frame.into mode).take (Lexer.markOf c) := by
  have lexed : (frame.into mode).lexer.step c = some (.start, [Lexer.markOf c]) :=
    Lexer.step_start noTag noSlash noBracket
  exact (step_of_lexed lexed).trans (takeAll_singleton _ _)

theorem reads_emptyTagClose {events : List Event} {next : Scan}
    (taken : (frame.into mode).take .emptyTagClose = ⟨events, some next, []⟩) :
    Reads (frame.into mode) ['/', '>'] events next := by
  have slash : (frame.into mode).step '/' =
      ⟨[], some { frame.into mode with lexer := ⟨.content, .slash⟩ }, []⟩ := rfl
  exact .cons slash (.one ((takeAll_singleton _ _).trans taken))

/-- Characters that leave the scan as it is. -/
theorem reads_all {scan : Scan} {text : List Char}
    (each : ∀ c ∈ text, scan.step c = ⟨[], some scan, []⟩) : Reads scan text [] scan := by
  induction text with
  | nil => exact .nil scan
  | cons c text ih =>
      obtain ⟨first, later⟩ := List.forall_mem_cons.mp each
      exact .cons first (ih later)

theorem step_space (blank : isSpace c = true) :
    (frame.into mode).step c = (frame.into mode).take (.character c) := by
  simp only [isSpace, Bool.or_eq_true, decide_eq_true_eq] at blank
  rcases blank with ((rfl | rfl) | rfl) | rfl <;> exact step_into (by decide) (by decide) (by decide)

end Steps

section Names

variable {frame : Scan} {mode : Mode} {c : Char} {read rest : List Char}

def delimiters : List Char :=
  ['<', '/', ']', '>', '=', '"', '\'', '&', ';', '?', '!', ' ', '\n', '\t', '\r']

theorem ne_of_isNameChar (named : isNameChar c = true) : ∀ special ∈ delimiters, c ≠ special := by
  have unnamed : (delimiters.all fun special => !isNameChar special) = true := by decide
  rintro special member rfl
  simpa [named] using List.all_eq_true.mp unnamed c member

theorem isSpace_of_isNameChar (named : isNameChar c = true) : isSpace c = false := by
  have differs := ne_of_isNameChar named
  simp only [isSpace, Bool.or_eq_false_iff, decide_eq_false_iff_not]
  exact ⟨⟨⟨differs ' ' (by decide), differs '\n' (by decide)⟩, differs '\t' (by decide)⟩,
    differs '\r' (by decide)⟩

theorem isNameChar_of_isNameStart (starts : isNameStart c = true) : isNameChar c = true := by
  rw [isNameChar, starts, Bool.true_or]

theorem markOf_nameChar (named : isNameChar c = true) : Lexer.markOf c = .character c := by
  have differs := ne_of_isNameChar named
  simp only [delimiters, List.forall_mem_cons] at differs
  obtain ⟨-, -, -, close, equals, double, quote, ampersand, semicolon, -⟩ := differs
  simp [Lexer.markOf, Lexer.single, close, equals, double, quote, ampersand, semicolon]

theorem step_nameChar (named : isNameChar c = true) :
    (frame.into mode).step c = (frame.into mode).take (.character c) := by
  have differs := ne_of_isNameChar named
  rw [step_into (differs '<' (by decide)) (differs '/' (by decide)) (differs ']' (by decide)),
    markOf_nameChar named]

theorem reads_collected {mode : List Char → Mode} {good : Char → Prop}
    (collects : ∀ last read c, good c → (frame.into (mode (last :: read))).step c =
      ⟨[], some (frame.into (mode (c :: last :: read))), []⟩)
    (all : ∀ c ∈ rest, good c) (last : Char) (read : List Char) :
    Reads (frame.into (mode (last :: read))) rest []
      (frame.into (mode (rest.reverse ++ last :: read))) := by
  induction rest generalizing last read with
  | nil => exact .nil _
  | cons c rest ih =>
      rw [List.reverse_cons, List.append_assoc]
      exact .cons (collects last read c (all c List.mem_cons_self))
        (ih (fun c member => all c (List.mem_cons_of_mem _ member)) c (last :: read))

theorem exists_of_isPlainName {name : List Char} (plain : isPlainName name = true) :
    ∃ first rest, name = first :: rest ∧ isNameStart first = true ∧
      ∀ c ∈ first :: rest, isNameChar c = true ∧ c ≠ ':' := by
  cases name with
  | nil => contradiction
  | cons first rest =>
      simp only [isPlainName, Bool.and_eq_true, List.all_eq_true, decide_eq_true_eq] at plain
      exact ⟨first, rest, rfl, plain.1, plain.2⟩

theorem extendsName_first {first : Char} (starts : isNameStart first = true) (noColon : first ≠ ':') :
    extendsName [] first = true := by
  rw [extendsName, if_neg noColon]
  exact starts

/-- Where a name is read, whatever comes of it. -/
def Naming (mode : List Char → Mode) : Prop :=
  ∀ (frame : Scan) (read : List Char) (c : Char), extendsName read c = true →
    (frame.into (mode read)).take (.character c) = ⟨[], some (frame.into (mode (c :: read))), []⟩

theorem Naming.step {mode : List Char → Mode} (naming : Naming mode) (named : isNameChar c = true)
    (goesOn : extendsName read c = true) :
    (frame.into (mode read)).step c = ⟨[], some (frame.into (mode (c :: read))), []⟩ :=
  (step_nameChar named).trans (naming frame read c goesOn)

/-- Characters without a colon after the first one. -/
theorem Naming.reads_plain {mode : List Char → Mode} (naming : Naming mode)
    (named : ∀ c ∈ rest, isNameChar c = true ∧ c ≠ ':') (last : Char) (read : List Char) :
    Reads (frame.into (mode (last :: read))) rest []
      (frame.into (mode (rest.reverse ++ last :: read))) := by
  refine reads_collected (fun last read c plain => naming.step plain.1 ?_) named last read
  rw [extendsName, if_neg plain.2]
  exact plain.1

end Names

end Scan

/-- The name as it is written. -/
def QualifiedName.spelling (name : QualifiedName) : List Char :=
  match name.qualifier with
  | none => name.localName
  | some qualifier => qualifier ++ ':' :: name.localName

/-- Both parts of the name are names without a colon. -/
def QualifiedName.isWritten (name : QualifiedName) : Bool :=
  name.qualifier.all isPlainName && isPlainName name.localName

namespace Scan

section Names

variable {frame : Scan} {mode : Mode} {name : QualifiedName}

theorem exists_of_isWritten (written : name.isWritten = true) :
    ∃ first rest, name.spelling = first :: rest ∧ isNameStart first = true ∧ first ≠ ':' := by
  obtain ⟨qualifier, localName⟩ := name
  simp only [QualifiedName.isWritten, Bool.and_eq_true] at written
  cases qualifier with
  | none =>
      obtain ⟨first, rest, rfl, starts, named⟩ := exists_of_isPlainName written.2
      exact ⟨first, rest, rfl, starts, (named first List.mem_cons_self).2⟩
  | some qualifier =>
      obtain ⟨first, rest, rfl, starts, named⟩ := exists_of_isPlainName written.1
      exact ⟨first, rest ++ ':' :: localName, rfl, starts, (named first List.mem_cons_self).2⟩

theorem ofSpelling?_spelling (written : name.isWritten = true) :
    QualifiedName.ofSpelling? name.spelling = some name := by
  obtain ⟨qualifier, localName⟩ := name
  simp only [QualifiedName.isWritten, Bool.and_eq_true] at written
  obtain ⟨first, rest, rfl, -, named⟩ := exists_of_isPlainName written.2
  have noColon : ∀ c ∈ first :: rest, decide (c ≠ ':') = true :=
    fun c member => decide_eq_true (named c member).2
  cases qualifier with
  | none =>
      have before := List.takeWhile_eq_self_iff.mpr noColon
      have after := List.dropWhile_eq_nil_iff.mpr noColon
      simp only [QualifiedName.ofSpelling?, QualifiedName.spelling, before, after]
      rfl
  | some qualifier =>
      obtain ⟨initial, others, rfl, -, qualified⟩ := exists_of_isPlainName written.1
      have noColon' : ∀ c ∈ initial :: others, decide (c ≠ ':') = true :=
        fun c member => decide_eq_true (qualified c member).2
      have before : ((initial :: others) ++ ':' :: (first :: rest)).takeWhile (· ≠ ':') =
          initial :: others := by
        rw [List.takeWhile_append_of_pos noColon', List.takeWhile_cons_of_neg (by simp),
          List.append_nil]
      have after : ((initial :: others) ++ ':' :: (first :: rest)).dropWhile (· ≠ ':') =
          ':' :: (first :: rest) := by
        rw [List.dropWhile_append_of_pos noColon', List.dropWhile_cons_of_neg (by simp)]
      have once : (first :: rest).contains ':' = false := by
        rw [List.contains_eq_mem, decide_eq_false_iff_not]
        exact fun member => (named ':' member).2 rfl
      simp only [QualifiedName.ofSpelling?, QualifiedName.spelling, before, after, once]
      rfl

theorem takeName_ended {within : List Char → Mode} {after : List Char → QualifiedName → Step}
    {mark : Mark} (written : name.isWritten = true)
    (ends : ∀ c, mark = .character c → isNameChar c = false) :
    (frame.into mode).takeName name.spelling.reverse within after mark =
      after name.spelling name := by
  have found := ofSpelling?_spelling written
  have nonempty : name.spelling.reverse.isEmpty = false := by
    obtain ⟨first, rest, spelled, -⟩ := exists_of_isWritten written
    simp [spelled]
  have stops : ∀ c, mark = .character c → extendsName name.spelling.reverse c = false := by
    intro c same
    have unnamed := ends c same
    have noColon : c ≠ ':' := by
      rintro rfl
      exact absurd unnamed (by decide)
    rw [extendsName, if_neg noColon, nonempty]
    exact unnamed
  cases mark with
  | character c => simp [takeName, stops c rfl, found]
  | _ => simp [takeName, found]

/-- A name whose first character has been read. -/
theorem Naming.reads_rest {mode : List Char → Mode} (naming : Naming mode) {first : Char}
    {rest : List Char} (written : name.isWritten = true) (spelled : name.spelling = first :: rest) :
    Reads (frame.into (mode [first])) rest [] (frame.into (mode name.spelling.reverse)) := by
  obtain ⟨qualifier, localName⟩ := name
  simp only [QualifiedName.isWritten, Bool.and_eq_true] at written
  obtain ⟨initial, others, rfl, -, named⟩ := exists_of_isPlainName written.2
  cases qualifier with
  | none =>
      obtain ⟨rfl, rfl⟩ := List.cons.inj spelled
      have reads := @Naming.reads_plain frame others mode naming (List.forall_mem_cons.mp named).2
        initial []
      rwa [← List.reverse_cons] at reads
  | some qualifier =>
      obtain ⟨begins, remaining, rfl, -, qualified⟩ := exists_of_isPlainName written.1
      obtain ⟨rfl, rfl⟩ := List.cons.inj spelled
      have before := @Naming.reads_plain frame remaining mode naming
        (List.forall_mem_cons.mp qualified).2 begins []
      rw [← List.reverse_cons] at before
      have goesOn : extendsName (begins :: remaining).reverse ':' = true := by
        have absent : ':' ∉ (begins :: remaining).reverse :=
          fun member => (qualified ':' (List.mem_reverse.mp member)).2 rfl
        rw [extendsName, if_pos rfl, List.contains_eq_mem, decide_eq_false absent]
        simp
      have colon := @Naming.step frame ':' _ mode naming (by decide) goesOn
      have after := @Naming.reads_plain frame (initial :: others) mode naming named ':'
        (begins :: remaining).reverse
      have reversed : (QualifiedName.mk (some (begins :: remaining)) (initial :: others)).spelling.reverse =
          (initial :: others).reverse ++ ':' :: (begins :: remaining).reverse := by
        simp [QualifiedName.spelling]
      rw [reversed]
      exact before.silent (.cons colon after)

/-- A name from its first character. -/
theorem Naming.reads {mode : List Char → Mode} (naming : Naming mode)
    (written : name.isWritten = true) :
    Reads (frame.into (mode [])) name.spelling [] (frame.into (mode name.spelling.reverse)) := by
  obtain ⟨first, rest, spelled, starts, noColon⟩ := exists_of_isWritten written
  have stepped := @Naming.step frame first [] mode naming (isNameChar_of_isNameStart starts)
    (extendsName_first starts noColon)
  have whole := Reads.cons stepped (naming.reads_rest written spelled)
  rwa [← spelled] at whole

end Names

end Scan

end IdRegistry.Markup
