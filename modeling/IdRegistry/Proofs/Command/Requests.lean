import IdRegistry.Proofs.Command.Spelling
import Mathlib.Data.List.Nodup

namespace IdRegistry.Command

def Occurrence.value? : Occurrence → Setting → Option String
  | .setting option value, wanted => if option = wanted then some value else none
  | .verbose, _ => none

/-- The value of an option among these. -/
def valueOf? (occurrences : List Occurrence) (setting : Setting) : Option String :=
  occurrences.findSome? (·.value? setting)

section Values

variable {occurrences : List Occurrence} {setting : Setting} {value : String}

theorem valueOf?_cons (occurrence : Occurrence) (occurrences : List Occurrence) (setting : Setting) :
    valueOf? (occurrence :: occurrences) setting =
      (occurrence.value? setting).or (valueOf? occurrences setting) := by
  rw [valueOf?, List.findSome?_cons]
  cases occurrence.value? setting <;> rfl

theorem eq_of_value? {occurrence : Occurrence} (found : occurrence.value? setting = some value) :
    occurrence = .setting setting value := by
  cases occurrence with
  | verbose => contradiction
  | setting option given =>
      simp only [Occurrence.value?] at found
      grind

theorem mem_of_valueOf? (found : valueOf? occurrences setting = some value) :
    .setting setting value ∈ occurrences := by
  obtain ⟨occurrence, occurs, found⟩ := List.exists_of_findSome?_eq_some found
  rwa [← eq_of_value? found]

theorem isSome_valueOf? :
    (valueOf? occurrences setting).isSome ↔ .setting setting ∈ occurrences.map Occurrence.choice := by
  induction occurrences with
  | nil => simp [valueOf?]
  | cons occurrence occurrences ih =>
      rw [valueOf?_cons, List.map_cons, List.mem_cons, ← ih]
      cases occurrence with
      | verbose => simp [Occurrence.value?, Occurrence.choice]
      | setting option value =>
          by_cases same : option = setting
          · simp [Occurrence.value?, Occurrence.choice, same]
          · simp [Occurrence.value?, Occurrence.choice, same, Ne.symm same]

theorem valueOf?_eq_some_iff (once : (occurrences.map Occurrence.choice).Nodup) :
    valueOf? occurrences setting = some value ↔ .setting setting value ∈ occurrences := by
  refine ⟨mem_of_valueOf?, fun occurs => ?_⟩
  have given : (valueOf? occurrences setting).isSome :=
    isSome_valueOf?.mpr (List.mem_map.mpr ⟨_, occurs, rfl⟩)
  obtain ⟨other, found⟩ := Option.isSome_iff_exists.mp given
  have same := List.inj_on_of_nodup_map once (mem_of_valueOf? found) occurs rfl
  cases same
  exact found

theorem valueOf?_perm {others : List Occurrence}
    (once : (occurrences.map Occurrence.choice).Nodup) (reordered : occurrences.Perm others) :
    valueOf? others setting = valueOf? occurrences setting := by
  have once' : (others.map Occurrence.choice).Nodup := (reordered.map _).nodup_iff.mp once
  ext value
  rw [valueOf?_eq_some_iff once, valueOf?_eq_some_iff once', reordered.mem_iff]

end Values

/-- The word for an option's value, if it has one. -/
def Given.word (given : Given) : Setting → Option String
  | .registry => given.registry
  | .target => given.target.map wordOfTarget
  | .package => given.package
  | .output => given.output

/-- Whether an option is already taken. -/
def Given.holds (given : Given) : Choice → Bool
  | .setting setting => (given.word setting).isSome
  | .switch .verbose => given.verbose
  | .switch _ => false

/-- These options are what is given after, and was not given before. -/
structure Given.Adds (given : Given) (occurrences : List Occurrence) (after : Given) : Prop where
  word : ∀ setting, after.word setting = (given.word setting).or (valueOf? occurrences setting)
  verbose : after.verbose = (given.verbose || decide (.verbose ∈ occurrences))

namespace Given

variable {given middle after : Given} {occurrence : Occurrence} {occurrences : List Occurrence}

theorem has_eq (given : Given) (setting : Setting) :
    given.has setting = (given.word setting).isSome := by
  cases setting <;> simp [has, word]

theorem Adds.cons (first : given.Adds [occurrence] middle) (others : middle.Adds occurrences after) :
    given.Adds (occurrence :: occurrences) after where
  word setting := by
    rw [others.word, first.word, valueOf?_cons, valueOf?_cons, Option.or_assoc]
    simp [valueOf?]
  verbose := by
    rw [others.verbose, first.verbose]
    simp [Bool.or_assoc]

theorem Adds.holds_iff (adds : given.Adds [occurrence] after) (choice : Choice) :
    after.holds choice ↔ given.holds choice ∨ choice = occurrence.choice := by
  cases choice with
  | setting setting =>
      simp only [holds, adds.word, Option.isSome_or, Bool.or_eq_true, isSome_valueOf?,
        List.map_cons, List.map_nil, List.mem_singleton]
  | switch switch => cases switch <;> cases occurrence <;> simp [holds, adds.verbose, Occurrence.choice]

theorem set_adds {setting : Setting} {value : String} (takes : setting.Takes value)
    (free : given.word setting = none) :
    ∃ after, given.set setting value = .ok after ∧ given.Adds [.setting setting value] after := by
  have room : given.has setting = false := by rw [has_eq, free]; rfl
  -- The options differ in the field that takes the value, and in what is refused before.
  have adds {after : Given} (quiet : after.verbose = given.verbose)
      (written : ∀ wanted, after.word wanted =
        if setting = wanted then some value else given.word wanted) :
      given.Adds [.setting setting value] after := by
    refine ⟨fun wanted => ?_, by simp [quiet]⟩
    by_cases same : setting = wanted
    · subst same
      simp [written, free, valueOf?, Occurrence.value?]
    · simp [written, same, valueOf?, Occurrence.value?]
  cases setting with
  | registry =>
      refine ⟨{ given with registry := some value }, by simp [set, room, takes.nonempty], adds rfl ?_⟩
      intro wanted
      cases wanted <;> rfl
  | target =>
      obtain ⟨target, found, rfl⟩ := takes.target
      refine ⟨{ given with target := some target }, by simp [set, room, found], adds rfl ?_⟩
      intro wanted
      cases wanted <;> rfl
  | package =>
      refine ⟨{ given with package := some value }, by simp [set, room], adds rfl ?_⟩
      intro wanted
      cases wanted <;> rfl
  | output =>
      refine ⟨{ given with output := some value }, by simp [set, room, takes.nonempty], adds rfl ?_⟩
      intro wanted
      cases wanted <;> rfl

theorem turnOn_adds (free : given.verbose = false) :
    ∃ after, given.turnOn .verbose = .ok after ∧ given.Adds [.verbose] after := by
  refine ⟨{ given with verbose := true }, by simp [turnOn, free], ?_, by simp⟩
  intro setting
  cases setting <;> simp [word, valueOf?, Occurrence.value?]

theorem take_of_holds (held : given.holds occurrence.choice) :
    given.take occurrence = .error .repeatedOption := by
  cases occurrence with
  | setting setting value =>
      have held : given.has setting := (given.has_eq setting).trans held
      simp [take, set, held]
  | verbose =>
      have held : given.verbose = true := held
      simp [take, turnOn, held]

theorem take_adds (valid : occurrence.Valid) (free : ¬ given.holds occurrence.choice) :
    ∃ after, given.take occurrence = .ok after ∧ given.Adds [occurrence] after := by
  cases occurrence with
  | setting setting value =>
      exact set_adds valid (by simpa [Occurrence.choice, holds] using free)
  | verbose => exact turnOn_adds (by simpa [Occurrence.choice, holds] using free)

/-- None of these options is given twice, and none was given before. -/
def Admits (given : Given) (occurrences : List Occurrence) : Prop :=
  (occurrences.map Occurrence.choice).Nodup ∧
    ∀ choice ∈ occurrences.map Occurrence.choice, ¬ given.holds choice

/-- What can be taken after an option that was free is what could be taken together with it. -/
theorem Adds.admits_iff (adds : given.Adds [occurrence] middle)
    (free : ¬ given.holds occurrence.choice) :
    middle.Admits occurrences ↔ given.Admits (occurrence :: occurrences) := by
  simp only [Admits, adds.holds_iff, List.map_cons, List.nodup_cons, List.forall_mem_cons]
  grind

theorem takeAll_adds (admits : given.Admits occurrences)
    (valid : ∀ occurrence ∈ occurrences, occurrence.Valid) :
    ∃ after, given.takeAll occurrences = .ok after ∧ given.Adds occurrences after := by
  induction occurrences generalizing given with
  | nil => exact ⟨given, rfl, fun setting => by simp [valueOf?], by simp⟩
  | cons occurrence occurrences ih =>
      obtain ⟨first, later⟩ := List.forall_mem_cons.mp valid
      have free : ¬ given.holds occurrence.choice := admits.2 _ List.mem_cons_self
      obtain ⟨middle, taken, adds⟩ := take_adds first free
      obtain ⟨after, others, adds'⟩ := ih ((adds.admits_iff free).mpr admits) later
      refine ⟨after, ?_, adds.cons adds'⟩
      rw [takeAll_cons, taken]
      exact others

theorem takeAll_repeated (repeats : ¬ given.Admits occurrences)
    (valid : ∀ occurrence ∈ occurrences, occurrence.Valid) :
    given.takeAll occurrences = .error .repeatedOption := by
  induction occurrences generalizing given with
  | nil => exact absurd ⟨List.nodup_nil, nofun⟩ repeats
  | cons occurrence occurrences ih =>
      obtain ⟨first, later⟩ := List.forall_mem_cons.mp valid
      rw [takeAll_cons]
      by_cases held : given.holds occurrence.choice
      · rw [take_of_holds held]
        rfl
      · obtain ⟨middle, taken, adds⟩ := take_adds first held
        rw [taken]
        exact ih (mt (adds.admits_iff held).mp repeats) later

theorem nothing_admits_iff :
    nothing.Admits occurrences ↔ (occurrences.map Occurrence.choice).Nodup := by
  have free (choice : Choice) : ¬ nothing.holds choice := by
    rcases choice with setting | switch
    · cases setting <;> decide
    · cases switch <;> decide
  simp [Admits, free]

end Given

/-- The request of these options: their values, or those of the environment, or the defaults. -/
def requestOf (environment : Environment) (occurrences : List Occurrence) : Request where
  registry := (valueOf? occurrences .registry).or (environment.lookup "PROTOID_REGISTRY")
  target := ((valueOf? occurrences .target).bind targetOfWord?).getD .go
  package := ((valueOf? occurrences .package).or (environment.lookup "PROTOID_PACKAGE")).getD
    GoMaps.defaultPackage
  output := valueOf? occurrences .output
  verbose := .verbose ∈ occurrences

variable {environment : Environment} {arguments : List String} {occurrences : List Occurrence}

theorem requestOf_perm {others : List Occurrence}
    (once : (occurrences.map Occurrence.choice).Nodup) (reordered : occurrences.Perm others) :
    requestOf environment others = requestOf environment occurrences := by
  simp only [requestOf, valueOf?_perm once reordered, reordered.mem_iff]

theorem registryFrom_eq (given : Given)
    (named : environment.lookup "PROTOID_REGISTRY" ≠ some "") :
    registryFrom given environment =
      .ok (given.registry.or (environment.lookup "PROTOID_REGISTRY")) := by
  unfold registryFrom
  generalize environment.lookup "PROTOID_REGISTRY" = found at named
  rcases given.registry with _ | path <;> rcases found with _ | path' <;> grind

theorem packageFrom_eq (given : Given) (environment : Environment) :
    packageFrom given environment =
      (given.package.or (environment.lookup "PROTOID_PACKAGE")).getD GoMaps.defaultPackage := by
  unfold packageFrom
  generalize environment.lookup "PROTOID_PACKAGE" = found
  cases given.package <;> cases found <;> rfl

/-- What the options add to nothing is what the request is made of. -/
theorem requestOf_adds {given : Given} (adds : Given.nothing.Adds occurrences given) :
    requestOf environment occurrences =
      { registry := given.registry.or (environment.lookup "PROTOID_REGISTRY")
        target := given.target.getD .go
        package := packageFrom given environment
        output := given.output
        verbose := given.verbose } := by
  have word (setting : Setting) : valueOf? occurrences setting = given.word setting := by
    rw [adds.word]
    cases setting <;> rfl
  have target : (given.word .target).bind targetOfWord? = given.target := by
    rw [Given.word]
    cases given.target <;> simp [targetOfWord?_wordOfTarget]
  have verbose : decide (.verbose ∈ occurrences) = given.verbose := adds.verbose.symm
  simp only [requestOf, word, target, packageFrom_eq, verbose]
  rfl

theorem Spells.ofArguments_eq (spells : Spells arguments occurrences)
    (named : environment.lookup "PROTOID_REGISTRY" ≠ some "") :
    Request.ofArguments environment arguments =
      if (occurrences.map Occurrence.choice).Nodup then .ok (requestOf environment occurrences)
      else .error .repeatedOption := by
  have read : Reading.arguments ⟨.nothing, none⟩ arguments = Given.nothing.takeAll occurrences :=
    spells.reads ⟨.nothing, none⟩
  rw [Request.ofArguments, read]
  split
  · next once =>
      obtain ⟨given, taken, adds⟩ := Given.takeAll_adds (Given.nothing_admits_iff.mpr once)
        spells.valid
      rw [taken, requestOf_adds adds]
      simp only [bind, Except.bind, registryFrom_eq given named]
  · next repeats =>
      rw [Given.takeAll_repeated (mt Given.nothing_admits_iff.mp repeats) spells.valid]
      rfl

/-- How options and values are spelled and in which order they stand does not matter. Options that
are all given once make a request, of their values first, of the environment second, and of the
defaults last; any option that is given twice is why there is none. -/
theorem Request.ofArguments_spelled (spells : Spells arguments occurrences)
    (named : environment.lookup "PROTOID_REGISTRY" ≠ some "") :
    ((occurrences.map Occurrence.choice).Nodup →
      ofArguments environment arguments = .ok (requestOf environment occurrences)) ∧
    (¬ (occurrences.map Occurrence.choice).Nodup →
      ofArguments environment arguments = .error .repeatedOption) ∧
    ∀ arguments' occurrences', Spells arguments' occurrences' → occurrences.Perm occurrences' →
      ofArguments environment arguments' = ofArguments environment arguments := by
  refine ⟨fun once => ?_, fun repeats => ?_, fun arguments' occurrences' spells' reordered => ?_⟩
  · rw [spells.ofArguments_eq named, if_pos once]
  · rw [spells.ofArguments_eq named, if_neg repeats]
  · have choices := (reordered.map Occurrence.choice).nodup_iff
    rw [spells.ofArguments_eq named, spells'.ofArguments_eq named]
    by_cases once : (occurrences.map Occurrence.choice).Nodup
    · rw [if_pos once, if_pos (choices.mp once), requestOf_perm once reordered]
    · rw [if_neg once, if_neg (mt choices.mpr once)]

/-- Two ways to ask for the same request, with the registry named by the environment, and an option
that is given twice. -/
theorem Request.ofArguments_spelled_mixed :
    let environment := [("PROTOID_REGISTRY", "ids.json")]
    let request : Request := ⟨some "ids.json", .rust, "futu", none, true⟩
    ofArguments environment ["-vt", "rust", "--package=futu"] = .ok request ∧
      ofArguments environment ["-pfutu", "-t=rust", "--verbose"] = .ok request ∧
      ofArguments environment ["-v", "-vr", "ids.rs"] = .error .repeatedOption := by
  intro environment request
  have named : environment.lookup "PROTOID_REGISTRY" ≠ some "" := by decide
  have rust : Setting.target.Takes "rust" := ⟨by decide, by decide, by decide, by decide⟩
  have futu : Setting.package.Takes "futu" := ⟨by decide, by decide, by decide, by decide⟩
  have file : Setting.registry.Takes "ids.rs" := ⟨by decide, by decide, by decide, by decide⟩
  have spells : Spells ["-vt", "rust", "--package=futu"]
      [.verbose, .setting .target "rust", .setting .package "futu"] :=
    .letters (by decide) (.setting rust .short (.setting futu .longEquals .nil))
  have others : Spells ["-pfutu", "-t=rust", "--verbose"]
      [.setting .package "futu", .setting .target "rust", .verbose] :=
    .setting futu .attached (.setting rust .shortEquals (.verbose .nil))
  have twice : Spells ["-v", "-vr", "ids.rs"] [.verbose, .verbose, .setting .registry "ids.rs"] :=
    .letter (.letters (by decide) (.setting file .short .nil))
  have made : ofArguments environment ["-vt", "rust", "--package=futu"] = .ok request :=
    (ofArguments_spelled spells named).1 (by decide)
  refine ⟨made, ?_, (ofArguments_spelled twice named).2.1 (by decide)⟩
  rw [(ofArguments_spelled spells named).2.2 _ _ others (by decide), made]

end IdRegistry.Command
