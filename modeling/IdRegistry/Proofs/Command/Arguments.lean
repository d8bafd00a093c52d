import IdRegistry.Command.Arguments

namespace IdRegistry.Command

def Given.loud (given : Given) : Given := { given with verbose := true }

namespace Reading

def loud (reading : Reading) : Reading := { reading with given := reading.given.loud }

/-- A way of reading that does the same in a verbose reading, unless it makes the reading verbose
itself. -/
def Unmoved (read : Reading → Except Stop Reading) : Prop :=
  ∀ reading next, read reading = .ok next → next.given.verbose = false →
    reading.given.verbose = false ∧ read reading.loud = .ok next.loud

variable {reading : Reading} {setting : Setting} {given : Given}

theorem set_loud (given : Given) (setting : Setting) (value : String) :
    given.loud.set setting value = (given.set setting value).map Given.loud := by
  have same : given.loud.has setting = given.has setting := by cases setting <;> rfl
  unfold Given.set
  rw [same]
  cases given.has setting with
  | true => rfl
  | false =>
      cases setting with
      | registry => by_cases empty : value = "" <;> simp [empty, Given.loud, Except.map]
      | target => cases targetOfWord? value <;> rfl
      | package => rfl
      | output => by_cases empty : value = "" <;> simp [empty, Given.loud, Except.map]

theorem verbose_of_set {value : String} {after : Given}
    (taken : given.set setting value = .ok after) : after.verbose = given.verbose := by
  unfold Given.set at taken
  cases setting <;> grind

theorem settle_loud (reading : Reading) :
    reading.loud.settle = reading.settle.map Given.loud := by
  obtain ⟨given, pending⟩ := reading
  cases pending with
  | none => rfl
  | some option =>
      obtain ⟨setting, value⟩ := option
      cases value with
      | none => rfl
      | some value => exact set_loud given setting value

theorem verbose_of_settle (settled : reading.settle = .ok given) :
    given.verbose = reading.given.verbose := by
  obtain ⟨before, pending⟩ := reading
  cases pending with
  | none =>
      cases settled
      rfl
  | some option =>
      obtain ⟨setting, value⟩ := option
      cases value with
      | none => contradiction
      | some value => exact verbose_of_set settled

namespace Unmoved

theorem fail (stop : Stop) : Unmoved fun _ => .error stop :=
  fun _ _ impossible => nomatch impossible

theorem expect (setting : Setting) : Unmoved (·.expect setting) := by
  intro reading next read quiet
  cases settled : reading.settle with
  | error stop => simp [Reading.expect, settled, bind, Except.bind] at read
  | ok given =>
      simp only [Reading.expect, settled, bind, Except.bind, Except.ok.injEq] at read
      subst read
      refine ⟨(verbose_of_settle settled).symm.trans quiet, ?_⟩
      simp only [Reading.expect, settle_loud, settled, bind, Except.bind, Except.map]
      rfl

theorem attach (setting : Setting) (value : List Char) : Unmoved (·.attach setting value) := by
  intro reading next read quiet
  cases settled : reading.settle with
  | error stop => simp [Reading.attach, settled, bind, Except.bind] at read
  | ok given =>
      cases taken : given.set setting (String.ofList value) with
      | error stop => simp [Reading.attach, settled, taken, bind, Except.bind] at read
      | ok after =>
          simp only [Reading.attach, settled, taken, bind, Except.bind, Except.ok.injEq] at read
          subst read
          refine ⟨(verbose_of_settle settled).symm.trans ((verbose_of_set taken).symm.trans quiet), ?_⟩
          simp only [Reading.attach, settle_loud, settled, set_loud, taken, bind, Except.bind,
            Except.map]
          rfl

/-- Switches either end the reading or make it verbose. -/
theorem turnOn (switch : Switch) : Unmoved (·.turnOn switch) := by
  intro reading next read quiet
  cases settled : reading.settle with
  | error stop => simp [Reading.turnOn, settled, bind, Except.bind] at read
  | ok given =>
      cases switch with
      | verbose =>
          cases loud : given.verbose with
          | true => simp [Reading.turnOn, Given.turnOn, settled, loud, bind, Except.bind] at read
          | false =>
              simp only [Reading.turnOn, Given.turnOn, settled, loud, bind, Except.bind,
                Bool.false_eq_true, if_false, Except.ok.injEq] at read
              subst read
              contradiction
      | help => simp [Reading.turnOn, Given.turnOn, settled, bind, Except.bind] at read
      | version => simp [Reading.turnOn, Given.turnOn, settled, bind, Except.bind] at read

theorem andThen {first second : Reading → Except Stop Reading} (unmoved : Unmoved first)
    (unmoved' : Unmoved second) :
    Unmoved fun reading =>
      match first reading with
      | .ok reading => second reading
      | .error stop => .error stop := by
  intro reading next read quiet
  cases between : first reading with
  | error stop => simp [between] at read
  | ok middle =>
      simp only [between] at read
      obtain ⟨quiet, after⟩ := unmoved' middle next read quiet
      obtain ⟨quiet, before⟩ := unmoved reading middle between quiet
      exact ⟨quiet, by simp only [before, after]⟩

theorem short (letters : List Char) : Unmoved (·.short letters) := by
  induction letters with
  | nil =>
      intro reading next read quiet
      cases read
      exact ⟨quiet, rfl⟩
  | cons letter rest ih =>
      simp only [Reading.short]
      cases Choice.ofLetter? letter with
      | none => exact fail _
      | some choice =>
          cases choice with
          | switch switch => exact (turnOn switch).andThen ih
          | setting setting =>
              cases rest with
              | nil => exact expect setting
              | cons next rest => exact attach setting _

theorem long (argument : List Char) : Unmoved (·.long argument) := by
  simp only [Reading.long]
  cases Choice.ofName? (String.ofList (argument.takeWhile (· ≠ '='))) with
  | none => exact fail _
  | some choice =>
      cases choice <;> cases argument.dropWhile (· ≠ '=')
      · exact expect _
      · exact attach _ _
      · exact turnOn _
      · exact fail _

theorem plain (argument : String) : Unmoved (·.plain argument) := by
  intro reading next read quiet
  obtain ⟨given, pending⟩ := reading
  cases pending with
  | none => contradiction
  | some option =>
      obtain ⟨setting, value⟩ := option
      cases value with
      | some value => contradiction
      | none =>
          cases read
          exact ⟨quiet, rfl⟩

theorem argument (argument : String) : Unmoved (·.argument argument) := by
  simp only [Reading.argument]
  split
  · exact long _
  · exact short _
  · exact plain _

end Unmoved

theorem arguments_loud (list : List String) (read : reading.arguments list = .ok given)
    (quiet : given.verbose = false) :
    reading.given.verbose = false ∧ reading.loud.arguments list = .ok given.loud := by
  have settling {reading : Reading} (settled : reading.settle = .ok given) :
      reading.given.verbose = false ∧ reading.loud.settle = .ok given.loud :=
    ⟨(verbose_of_settle settled).symm.trans quiet, by rw [settle_loud, settled]; rfl⟩
  induction list generalizing reading with
  | nil => exact settling read
  | cons first rest ih =>
      rw [arguments] at read ⊢
      by_cases ends : first = "--"
      · rw [if_pos ends] at read ⊢
        cases rest with
        | nil => exact settling read
        | cons next rest => contradiction
      · rw [if_neg ends] at read ⊢
        cases step : reading.argument first with
        | error stop => simp [step] at read
        | ok next =>
            simp only [step] at read
            obtain ⟨quiet, after⟩ := ih read
            obtain ⟨quiet, before⟩ := Unmoved.argument first reading next step quiet
            exact ⟨quiet, by simp only [before, after]⟩

theorem arguments_verbose {spelled : String} (spells : spelled = "-v" ∨ spelled = "--verbose")
    (list : List String) :
    arguments ⟨.nothing, none⟩ (spelled :: list) = arguments (loud ⟨.nothing, none⟩) list := by
  rcases spells with rfl | rfl <;> rfl

end Reading

variable {environment : Environment} {arguments : List String} {request : Request}

/-- Asking for verbosity in front of all other arguments changes the request in that alone. -/
theorem Request.ofArguments_verbose (made : ofArguments environment arguments = .ok request)
    (quiet : request.verbose = false) {spelled : String}
    (spells : spelled = "-v" ∨ spelled = "--verbose") :
    ofArguments environment (spelled :: arguments) = .ok { request with verbose := true } := by
  cases read : Reading.arguments ⟨.nothing, none⟩ arguments with
  | error stop => simp [ofArguments, read, bind, Except.bind] at made
  | ok given =>
      cases found : registryFrom given environment with
      | error stop => simp [ofArguments, read, found, bind, Except.bind] at made
      | ok registry =>
          simp only [ofArguments, read, found, bind, Except.bind, Except.ok.injEq] at made
          subst made
          have loud := (Reading.arguments_loud arguments read quiet).2
          have found' : registryFrom given.loud environment = .ok registry := found
          simp only [ofArguments, Reading.arguments_verbose spells, loud, found', bind, Except.bind]
          rfl

end IdRegistry.Command
