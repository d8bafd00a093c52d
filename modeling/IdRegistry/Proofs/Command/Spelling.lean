import IdRegistry.Command.Arguments

namespace IdRegistry.Command

/-! The reading keeps a value that stands alone unjudged until something follows it. What arguments do is
therefore stated of every reading, as what they add to the settled one (`Reads`).
-/

def wordOfTarget : Target → String
  | .go => "go"
  | .rust => "rust"

def Setting.name : Setting → String
  | .registry => "registry"
  | .target => "target"
  | .package => "package"
  | .output => "output"

def Setting.letter : Setting → Char
  | .registry => 'r'
  | .target => 't'
  | .package => 'p'
  | .output => 'o'

theorem Setting.letter_ne_dash (setting : Setting) : setting.letter ≠ '-' := by
  cases setting <;> decide

theorem Setting.ofLetter?_letter (setting : Setting) :
    Choice.ofLetter? setting.letter = some (.setting setting) := by
  cases setting <;> rfl

/-- A value that can be spelled in every way. -/
structure Setting.Takes (setting : Setting) (value : String) : Prop where
  nonempty : value ≠ ""
  no_dash : value.toList.head? ≠ some '-'
  no_equals : value.toList.head? ≠ some '='
  known : setting = .target → value = "go" ∨ value = "rust"

theorem Setting.Takes.ne_dashes {setting : Setting} {value : String} (takes : setting.Takes value) :
    value ≠ "--" := by
  intro dashes
  exact takes.no_dash (by rw [dashes]; decide)

theorem targetOfWord?_wordOfTarget (target : Target) :
    targetOfWord? (wordOfTarget target) = some target := by
  cases target <;> rfl

theorem Setting.Takes.target {value : String} (takes : Setting.target.Takes value) :
    ∃ target : Target, targetOfWord? value = some target ∧ wordOfTarget target = value := by
  rcases takes.known rfl with rfl | rfl
  · exact ⟨.go, targetOfWord?_wordOfTarget .go, rfl⟩
  · exact ⟨.rust, targetOfWord?_wordOfTarget .rust, rfl⟩

/-- An option among the arguments, with its value. -/
inductive Occurrence where
  | setting (setting : Setting) (value : String)
  | verbose
deriving DecidableEq, Repr

def Occurrence.choice : Occurrence → Choice
  | .setting option _ => .setting option
  | .verbose => .switch .verbose

def Occurrence.Valid : Occurrence → Prop
  | .setting option value => option.Takes value
  | .verbose => True

/-- The ways to write an option and its value. -/
inductive Spelling where
  | long
  | longEquals
  | short
  | shortEquals
  | attached

def Setting.spelled (setting : Setting) (value : String) : Spelling → List String
  | .long => ["--" ++ setting.name, value]
  | .longEquals => ["--" ++ setting.name ++ "=" ++ value]
  | .short => ["-".push setting.letter, value]
  | .shortEquals => ["-".push setting.letter ++ "=" ++ value]
  | .attached => ["-".push setting.letter ++ value]

theorem toList_shortEquals (setting : Setting) (value : String) :
    ("-".push setting.letter ++ "=" ++ value).toList =
      '-' :: setting.letter :: '=' :: value.toList := by
  simp

theorem toList_attached (setting : Setting) (value : String) :
    ("-".push setting.letter ++ value).toList = '-' :: setting.letter :: value.toList := by
  simp

/-- Arguments that are made of these options. The letter of the switch can also stand in front of the
letters of another argument. -/
inductive Spells : List String → List Occurrence → Prop
  | nil : Spells [] []
  | setting {setting : Setting} {value : String} {arguments : List String}
      {occurrences : List Occurrence} (takes : setting.Takes value) (spelling : Spelling) :
      Spells arguments occurrences →
      Spells (setting.spelled value spelling ++ arguments) (.setting setting value :: occurrences)
  | verbose {arguments : List String} {occurrences : List Occurrence} :
      Spells arguments occurrences → Spells ("--verbose" :: arguments) (.verbose :: occurrences)
  | letter {arguments : List String} {occurrences : List Occurrence} :
      Spells arguments occurrences → Spells ("-v" :: arguments) (.verbose :: occurrences)
  | letters {letter : Char} {letters : List Char} {arguments : List String}
      {occurrences : List Occurrence} (short : letter ≠ '-') :
      Spells (String.ofList ('-' :: letter :: letters) :: arguments) occurrences →
      Spells (String.ofList ('-' :: 'v' :: letter :: letters) :: arguments)
        (.verbose :: occurrences)

namespace Given

def take (given : Given) : Occurrence → Except Stop Given
  | .setting setting value => given.set setting value
  | .verbose => given.turnOn .verbose

def takeAll (given : Given) (occurrences : List Occurrence) : Except Stop Given :=
  occurrences.foldlM take given

theorem takeAll_cons (given : Given) (occurrence : Occurrence) (occurrences : List Occurrence) :
    given.takeAll (occurrence :: occurrences) =
      given.take occurrence >>= (·.takeAll occurrences) :=
  List.foldlM_cons

end Given

/-- What these arguments add to any reading. -/
def Reads (arguments : List String) (occurrences : List Occurrence) : Prop :=
  ∀ reading : Reading, reading.arguments arguments =
    reading.settle >>= fun given => given.takeAll occurrences

theorem ne_dashes {text : String} {letter : Char} {letters : List Char}
    (written : text.toList = '-' :: letter :: letters) (no_dash : letter ≠ '-') : text ≠ "--" := by
  rintro rfl
  cases written
  contradiction

namespace Reading

variable {setting : Setting} {value : String}

theorem arguments_cons (reading : Reading) {first : String} (goes_on : first ≠ "--")
    (rest : List String) :
    reading.arguments (first :: rest) = reading.argument first >>= fun next => next.arguments rest := by
  rw [arguments, if_neg goes_on]
  cases reading.argument first <;> rfl

theorem argument_dash (reading : Reading) {letter : Char} (no_dash : letter ≠ '-')
    {letters : List Char} {text : String} (written : text.toList = '-' :: letter :: letters) :
    reading.argument text = reading.short (letter :: letters) := by
  unfold argument
  split <;> grind

theorem argument_long (reading : Reading) :
    reading.argument ("--" ++ setting.name) = reading.expect setting := by
  cases setting <;> rfl

theorem argument_short (reading : Reading) :
    reading.argument ("-".push setting.letter) = reading.expect setting := by
  cases setting <;> rfl

theorem argument_longEquals (reading : Reading) :
    reading.argument ("--" ++ setting.name ++ "=" ++ value) =
      reading.attach setting value.toList := by
  have written : ("--" ++ setting.name ++ "=" ++ value).toList =
      '-' :: '-' :: (setting.name.toList ++ '=' :: value.toList) := by
    simp
  have no_equals : ∀ character ∈ setting.name.toList, decide (character ≠ '=') = true := by
    cases setting <;> simp [Setting.name]
  simp only [argument, written, long, List.takeWhile_append_of_pos no_equals,
    List.dropWhile_append_of_pos no_equals]
  cases setting <;> rfl

/-- What follows the letter of an option in its argument is the value, up to one equals sign. -/
theorem argument_letter (reading : Reading) {first : Char} {rest : List Char} {text : String}
    (written : text.toList = '-' :: setting.letter :: first :: rest) :
    reading.argument text = reading.attach setting (afterEquals (first :: rest)) := by
  rw [reading.argument_dash setting.letter_ne_dash written]
  simp only [short, Setting.ofLetter?_letter, List.isEmpty_cons, Bool.false_eq_true, if_false]

theorem argument_shortEquals (reading : Reading) :
    reading.argument ("-".push setting.letter ++ "=" ++ value) =
      reading.attach setting value.toList := by
  rw [reading.argument_letter (toList_shortEquals setting value)]
  rfl

theorem argument_attached (reading : Reading) (takes : setting.Takes value) :
    reading.argument ("-".push setting.letter ++ value) = reading.attach setting value.toList := by
  obtain ⟨first, rest, begins⟩ : ∃ first rest, value.toList = first :: rest :=
    List.exists_cons_of_ne_nil (by simpa using takes.nonempty)
  have kept : afterEquals (first :: rest) = first :: rest := by
    have no_equals := takes.no_equals
    rw [begins] at no_equals
    unfold afterEquals
    grind
  have written := toList_attached setting value
  rw [begins] at written ⊢
  rw [reading.argument_letter written, kept]

theorem argument_value (reading : Reading) (takes : setting.Takes value) :
    reading.argument value = reading.plain value := by
  have no_dash := takes.no_dash
  unfold argument
  split <;> grind

theorem short_verbose (reading : Reading) (letters : List Char) :
    reading.short ('v' :: letters) = reading.turnOn .verbose >>= (·.short letters) := by
  have found : Choice.ofLetter? 'v' = some (.switch .verbose) := rfl
  simp only [short, found]
  cases reading.turnOn .verbose <;> rfl

theorem argument_verbose (reading : Reading) : reading.argument "-v" = reading.turnOn .verbose := by
  have written : "-v".toList = ['-', 'v'] := by decide
  rw [reading.argument_dash (by decide) written, short_verbose]
  cases reading.turnOn .verbose <;> rfl

theorem argument_letters (reading : Reading) {letter : Char} (no_dash : letter ≠ '-')
    (letters : List Char) :
    reading.argument (String.ofList ('-' :: 'v' :: letter :: letters)) =
      reading.turnOn .verbose >>=
        (·.argument (String.ofList ('-' :: letter :: letters))) := by
  simp only [argument_dash _ no_dash String.toList_ofList]
  rw [argument_dash _ (by decide) String.toList_ofList, short_verbose]

theorem attach_eq (reading : Reading) (setting : Setting) (value : String) :
    reading.attach setting value.toList =
      reading.settle >>= (·.take (.setting setting value)) >>= fun given => .ok ⟨given, none⟩ := by
  rw [attach, String.ofList_toList, bind_assoc]
  rfl

theorem turnOn_eq (reading : Reading) :
    reading.turnOn .verbose =
      reading.settle >>= (·.take .verbose) >>= fun given => .ok ⟨given, none⟩ := by
  rw [turnOn, bind_assoc]
  rfl

end Reading

namespace Reads

variable {setting : Setting} {value first : String} {arguments rest : List String}
  {occurrence : Occurrence} {occurrences : List Occurrence}

theorem nil : Reads [] [] := by
  intro reading
  simp [Reading.arguments, Given.takeAll]

/-- Where the reading has taken an option and waits for nothing, it goes on with the others. -/
theorem take
    (reads : ∀ reading : Reading, reading.arguments arguments =
      reading.settle >>= (·.take occurrence) >>= fun given => Reading.arguments ⟨given, none⟩ rest)
    (follows : Reads rest occurrences) : Reads arguments (occurrence :: occurrences) := by
  intro reading
  have after (given : Given) : Reading.arguments ⟨given, none⟩ rest = given.takeAll occurrences :=
    follows ⟨given, none⟩
  simp only [reads, after, Given.takeAll_cons, bind_assoc]

/-- One argument with an option and its value. -/
theorem cons (goes_on : first ≠ "--")
    (reads : ∀ reading : Reading, reading.argument first =
      reading.settle >>= (·.take occurrence) >>= fun given => .ok ⟨given, none⟩)
    (follows : Reads rest occurrences) : Reads (first :: rest) (occurrence :: occurrences) := by
  refine take (fun reading => ?_) follows
  rw [reading.arguments_cons goes_on, reads, bind_assoc]
  rfl

/-- An option and its value in two arguments. The value is taken with what comes after it. -/
theorem cons_value (goes_on : first ≠ "--") (takes : setting.Takes value)
    (reads : ∀ reading : Reading, reading.argument first = reading.expect setting)
    (follows : Reads rest occurrences) :
    Reads (first :: value :: rest) (.setting setting value :: occurrences) := by
  intro reading
  have waiting (given : Given) :
      Reading.arguments ⟨given, some (setting, none)⟩ (value :: rest) =
        given.takeAll (.setting setting value :: occurrences) :=
    calc Reading.arguments ⟨given, some (setting, none)⟩ (value :: rest)
        = Reading.arguments ⟨given, some (setting, some value)⟩ rest := by
          rw [Reading.arguments_cons _ takes.ne_dashes, Reading.argument_value _ takes]
          rfl
      _ = given.set setting value >>= (·.takeAll occurrences) := follows _
      _ = given.takeAll (.setting setting value :: occurrences) := by
          rw [Given.takeAll_cons]
          rfl
  rw [reading.arguments_cons goes_on, reads, Reading.expect, bind_assoc]
  simp only [← waiting]
  rfl

/-- The letter of the switch in front of the letters of an argument. -/
theorem cons_letter {letter : Char} {letters : List Char} (no_dash : letter ≠ '-')
    (follows : Reads (String.ofList ('-' :: letter :: letters) :: rest) occurrences) :
    Reads (String.ofList ('-' :: 'v' :: letter :: letters) :: rest) (.verbose :: occurrences) := by
  refine take (fun reading => ?_) follows
  rw [reading.arguments_cons (ne_dashes String.toList_ofList (by decide)),
    reading.argument_letters no_dash, Reading.turnOn_eq, bind_assoc, bind_assoc]
  simp only [Reading.arguments_cons _ (ne_dashes String.toList_ofList no_dash)]
  rfl

end Reads

theorem Reads.spelled {setting : Setting} {value : String} {rest : List String}
    {occurrences : List Occurrence} (takes : setting.Takes value) (spelling : Spelling)
    (follows : Reads rest occurrences) :
    Reads (setting.spelled value spelling ++ rest) (.setting setting value :: occurrences) := by
  cases spelling with
  | long => exact cons_value (by cases setting <;> decide) takes Reading.argument_long follows
  | longEquals =>
      refine cons (fun dashes => ?_) (fun reading => ?_) follows
      · simpa using congrArg String.toList dashes
      · rw [Reading.argument_longEquals, Reading.attach_eq]
  | short => exact cons_value (by cases setting <;> decide) takes Reading.argument_short follows
  | shortEquals =>
      refine cons (ne_dashes (toList_shortEquals setting value) setting.letter_ne_dash)
        (fun reading => ?_) follows
      rw [Reading.argument_shortEquals, Reading.attach_eq]
  | attached =>
      refine cons (ne_dashes (toList_attached setting value) setting.letter_ne_dash)
        (fun reading => ?_) follows
      rw [Reading.argument_attached _ takes, Reading.attach_eq]

/-- Spelled arguments are read as what they spell. -/
theorem Spells.reads {arguments : List String} {occurrences : List Occurrence}
    (spells : Spells arguments occurrences) : Reads arguments occurrences := by
  induction spells with
  | nil => exact .nil
  | setting takes spelling _ ih => exact ih.spelled takes spelling
  | verbose _ ih => exact .cons (by decide) (fun reading => reading.turnOn_eq) ih
  | letter _ ih =>
      refine .cons (by decide) (fun reading => ?_) ih
      rw [Reading.argument_verbose, Reading.turnOn_eq]
  | letters no_dash _ ih => exact ih.cons_letter no_dash

theorem Spells.valid {arguments : List String} {occurrences : List Occurrence}
    (spells : Spells arguments occurrences) : ∀ occurrence ∈ occurrences, occurrence.Valid := by
  induction spells with
  | nil => nofun
  | setting takes _ _ ih => exact List.forall_mem_cons.mpr ⟨takes, ih⟩
  | verbose _ ih => exact List.forall_mem_cons.mpr ⟨trivial, ih⟩
  | letter _ ih => exact List.forall_mem_cons.mpr ⟨trivial, ih⟩
  | letters _ _ ih => exact List.forall_mem_cons.mpr ⟨trivial, ih⟩

end IdRegistry.Command
