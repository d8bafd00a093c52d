import IdRegistry.Command.Run
import IdRegistry.Proofs.Command.Arguments
import IdRegistry.Proofs.Command.Folder

namespace IdRegistry.Command

namespace Request

/-- The registry that a request is about: the bundled one, or what the bytes of a file describe. -/
def Concerns (request : Request) (folder : Folder) (registry : Registry) : Prop :=
  match request.registry with
  | none => Bundled.registry.result = .ok registry
  | some path => ∃ bytes, folder.read path = .ok bytes ∧ (readRegistry bytes).result = .ok registry

/-- The text is what the request calls for, with the files as they are. -/
def Makes (request : Request) (folder : Folder) (text : String) : Prop :=
  ∃ registry, request.Concerns folder registry ∧ (request.render registry).result = .ok text

/-- The text goes to standard output and to no file, or to one file and not to standard output. -/
def Delivers (request : Request) (text : String) (before : Folder) (output : String)
    (after : Folder) : Prop :=
  match request.output with
  | none => output = text ∧ after = before
  | some path => output = "" ∧ ∃ names, before.Receives path text names after ∧
      (before.IsPlain names → after.read path = .ok text.toUTF8.toList)

/-- How a run for a request can end. It fails only if there is no text for the request or if the text
cannot be written where it should be. -/
inductive Outcome (request : Request) (folder : Folder) : Report × Folder → Prop where
  | delivered {text : String} {report : Report} {after : Folder}
      (made : request.Makes folder text) (success : report.exit = 0)
      (delivers : request.Delivers text folder report.output after) :
      Outcome request folder (report, after)
  | failed {report : Report} (failure : report.exit ≠ 0) (silent : report.output = "")
      (impossible : ∀ text, request.Makes folder text → ∃ path error,
        request.output = some path ∧ folder.write path text = .error error) :
      Outcome request folder (report, folder)

end Request

namespace Folder

variable (folder : Folder) (path text : String)

theorem access_read : (access.read path).run folder = (folder.read path, folder) := rfl

theorem access_write : (access.write path text).run folder =
    match folder.write path text with
    | .ok after => (.ok (), after)
    | .error error => (.error error, folder) := by
  simp only [access, StateT.run_bind, StateT.run_get, pure_bind]
  cases folder.write path text <;> rfl

end Folder

/-- Two runs that differ in their reports at most. -/
structure Alike (first second : Report × Folder) : Prop where
  exit : first.1.exit = second.1.exit
  output : first.1.output = second.1.output
  files : first.2 = second.2

namespace Request

variable {request : Request} {folder : Folder} {text : String} {environment : Environment}

theorem complete_result_iff (request : Request) (read : Reported Registry) (text : String) :
    (request.complete read).result = .ok text ↔
      ∃ registry, read.result = .ok registry ∧ (request.render registry).result = .ok text := by
  rw [complete]
  cases read.result with
  | error failure => simp
  | ok registry => simp

/-- Making the text reads files and changes none. -/
theorem text_run (request : Request) (folder : Folder) :
    ∃ stage, (request.text Folder.access).run folder = pure (stage, folder) ∧
      ∀ text, stage.result = .ok text ↔ request.Makes folder text := by
  have mapped {found : Except Failure String} {text : String} :
      found.mapError RunError.failure = .ok text ↔ found = .ok text := by
    cases found with
    | error failure => exact ⟨nofun, nofun⟩
    | ok made =>
        change Except.ok made = Except.ok text ↔ _
        rw [Except.ok.injEq, Except.ok.injEq]
  unfold Request.text
  cases named : request.registry with
  | none =>
      refine ⟨_, rfl, fun text => ?_⟩
      simp only [mapped, complete_result_iff, Makes, Concerns, named]
  | some path =>
      rw [StateT.run_bind, Folder.access_read]
      cases read : folder.read path with
      | error error =>
          refine ⟨⟨[.reading path], .error (.unreadable path error)⟩, rfl, fun text => ?_⟩
          simp [Makes, Concerns, named, read]
      | ok bytes =>
          refine ⟨_, rfl, fun text => ?_⟩
          simp only [mapped, complete_result_iff, Makes, Concerns, named, read, Except.ok.injEq,
            exists_eq_left']

theorem deliver_run (request : Request) (folder : Folder) (text : String) :
    ∃ stage after, (request.deliver Folder.access text).run folder = pure (stage, after) ∧
      ((∃ output, stage.result = .ok output ∧ request.Delivers text folder output after) ∨
        after = folder ∧ (∃ error, stage.result = .error error) ∧
          ∃ path error, request.output = some path ∧ folder.write path text = .error error) := by
  unfold Request.deliver
  cases named : request.output with
  | none =>
      refine ⟨_, _, rfl, .inl ⟨text, rfl, ?_⟩⟩
      simp [Delivers, named]
  | some path =>
      rw [StateT.run_bind, Folder.access_write]
      cases written : folder.write path text with
      | error error => exact ⟨_, _, rfl, .inr ⟨rfl, ⟨_, rfl⟩, path, error, rfl, written⟩⟩
      | ok after =>
          refine ⟨_, _, rfl, .inl ⟨"", rfl, ?_⟩⟩
          obtain ⟨names, received⟩ := Folder.write_receives written
          simp only [Delivers, named]
          exact ⟨trivial, names, received, Folder.read_of_receives written received⟩

theorem perform_run (request : Request) (folder : Folder) :
    ∃ stage after, (request.perform Folder.access).run folder = pure (stage, after) ∧
      ((∃ text output, request.Makes folder text ∧ stage.result = .ok output ∧
          request.Delivers text folder output after) ∨
        after = folder ∧ (∃ error, stage.result = .error error) ∧
          ∀ text, request.Makes folder text → ∃ path error,
            request.output = some path ∧ folder.write path text = .error error) := by
  obtain ⟨made, run, makes⟩ := request.text_run folder
  rw [perform, StateT.run_bind, run, pure_bind]
  cases result : made.result with
  | error error =>
      have unmade : ∀ text, ¬ request.Makes folder text := by
        intro text found
        rw [← makes text, result] at found
        contradiction
      refine ⟨⟨made.notices, .error error⟩, folder, ?_, .inr ⟨rfl, ⟨error, rfl⟩, ?_⟩⟩
      · rfl
      · exact fun text found => absurd found (unmade text)
  | ok text =>
      have found := (makes text).mp result
      obtain ⟨delivered, after, run', outcome⟩ := request.deliver_run folder text
      refine ⟨⟨made.notices ++ delivered.notices, delivered.result⟩, after, ?_, ?_⟩
      · dsimp only
        rw [StateT.run_bind, run', pure_bind]
        rfl
      rcases outcome with ⟨output, result', delivers⟩ | ⟨same, failed, path, error, named, refused⟩
      · exact .inl ⟨text, output, found, result', delivers⟩
      · refine .inr ⟨same, failed, fun other made' => ?_⟩
        obtain rfl : text = other := Except.ok.inj (result.symm.trans ((makes other).mpr made'))
        exact ⟨path, error, named, refused⟩

theorem complete_verbose (request : Request) (verbose : Bool) (read : Reported Registry) :
    complete { request with verbose := verbose } read = request.complete read := by
  rw [complete, complete]
  cases read.result <;> rfl

theorem perform_verbose {m : Type → Type} [Monad m] (request : Request) (verbose : Bool)
    (files : FileAccess m) :
    perform { request with verbose := verbose } files = request.perform files := by
  simp only [perform, Request.text, deliver, complete_verbose]

end Request

section Runs

variable {folder : Folder} {environment environment' : Environment}
variable {arguments arguments' : List String} {request request' : Request}

theorem runOn_of_request (asked : Request.ofArguments environment arguments = .ok request) :
    runOn folder environment arguments =
      let (stage, after) := (request.perform Folder.access).run folder
      (request.report environment stage, after) := by
  simp only [runOn, run, asked]
  rfl

theorem runOn_of_stop {stop : Stop}
    (stopped : Request.ofArguments environment arguments = .error stop) :
    runOn folder environment arguments = (stop.report, folder) := by
  simp only [runOn, run, stopped]
  rfl

theorem runOn_outcome (folder : Folder)
    (asked : Request.ofArguments environment arguments = .ok request) :
    request.Outcome folder (runOn folder environment arguments) := by
  rw [runOn_of_request asked]
  obtain ⟨stage, after, run, outcome⟩ := request.perform_run folder
  rw [run]
  rcases outcome with
    ⟨text, output, made, result, delivers⟩ | ⟨rfl, ⟨error, result⟩, impossible⟩
  · refine .delivered made ?_ ?_
    · simp only [Request.report, result]
    · simpa only [Request.report, result] using delivers
  · refine .failed ?_ ?_ impossible
    · simp [Request.report, result]
    · simp only [Request.report, result]

/-- Nothing but the two settings that a request can take from the environment is looked at before the
run begins. -/
theorem ofArguments_congr
    (same : ∀ name, name ≠ "RUST_LOG" → environment'.lookup name = environment.lookup name)
    (arguments : List String) :
    Request.ofArguments environment' arguments = Request.ofArguments environment arguments := by
  simp only [Request.ofArguments, registryFrom, packageFrom, same "PROTOID_REGISTRY" (by decide),
    same "PROTOID_PACKAGE" (by decide)]

theorem Request.report_alike (request request' : Request)
    (environment environment' : Environment) (stage : Stage String) (after : Folder) :
    Alike (request.report environment stage, after) (request'.report environment' stage, after) := by
  cases result : stage.result <;> constructor <;> simp only [Request.report, result]

theorem Alike.refl (outcome : Report × Folder) : Alike outcome outcome :=
  ⟨rfl, rfl, rfl⟩

theorem alike_of_environment (folder : Folder) (arguments : List String)
    (same : ∀ name, name ≠ "RUST_LOG" → environment'.lookup name = environment.lookup name) :
    Alike (runOn folder environment' arguments) (runOn folder environment arguments) := by
  have equal := ofArguments_congr same arguments
  cases asked : Request.ofArguments environment arguments with
  | error stop =>
      rw [runOn_of_stop asked, runOn_of_stop (equal.trans asked)]
      exact .refl _
  | ok request =>
      rw [runOn_of_request asked, runOn_of_request (equal.trans asked)]
      exact request.report_alike request _ _ _ _

theorem alike_of_verbose (folder : Folder)
    (asked : Request.ofArguments environment arguments = .ok request)
    (asked' : Request.ofArguments environment arguments' = .ok request')
    (same : { request' with verbose := request.verbose } = request) :
    Alike (runOn folder environment arguments') (runOn folder environment arguments) := by
  have performed : request'.perform Folder.access = request.perform Folder.access := by
    rw [← same]
    exact (request'.perform_verbose request.verbose Folder.access).symm
  rw [runOn_of_request asked, runOn_of_request asked', performed]
  exact request'.report_alike request _ _ _ _

/-- A run for a request delivers the whole text that the files call for, or fails without a trace.
A run without a request changes no file. How verbose a run is and which notices are selected makes no
difference, and verbosity can be asked for in front of any arguments. -/
theorem runOn_all_or_nothing (folder : Folder) (environment : Environment)
    (arguments : List String) :
    (∀ stop, Request.ofArguments environment arguments = .error stop →
      (runOn folder environment arguments).2 = folder) ∧
    (∀ request, Request.ofArguments environment arguments = .ok request →
      request.Outcome folder (runOn folder environment arguments)) ∧
    (∀ environment' : Environment,
      (∀ name, name ≠ "RUST_LOG" → environment'.lookup name = environment.lookup name) →
      Alike (runOn folder environment' arguments) (runOn folder environment arguments)) ∧
    (∀ arguments' request request', Request.ofArguments environment arguments = .ok request →
      Request.ofArguments environment arguments' = .ok request' →
      { request' with verbose := request.verbose } = request →
      Alike (runOn folder environment arguments') (runOn folder environment arguments)) ∧
    (∀ request spelled, Request.ofArguments environment arguments = .ok request →
      request.verbose = false → spelled = "-v" ∨ spelled = "--verbose" →
      Request.ofArguments environment (spelled :: arguments) =
          .ok { request with verbose := true } ∧
        Alike (runOn folder environment (spelled :: arguments))
          (runOn folder environment arguments)) := by
  refine ⟨?_, ?_, ?_, ?_, ?_⟩
  · intro stop stopped
    rw [runOn_of_stop stopped]
  · exact fun request asked => runOn_outcome folder asked
  · exact fun environment' same => alike_of_environment folder arguments same
  · exact fun arguments' request request' asked asked' same =>
      alike_of_verbose folder asked asked' same
  · intro request spelled asked quiet spells
    have asked' := Request.ofArguments_verbose asked quiet spells
    exact ⟨asked', alike_of_verbose folder asked asked' rfl⟩

/-- The registry is to be read from a file that does not exist yet, and its place is where the text
would go. -/
theorem runOn_all_or_nothing_unreadable :
    let folder := Folder.empty ["work"]
    let arguments := ["-r", "ids.xml", "-o", "ids.xml"]
    let request : Request := ⟨some "ids.xml", .go, "main", some "ids.xml", false⟩
    Request.ofArguments [] arguments = .ok request ∧ folder.IsPlain ["work", "ids.xml"] ∧
      (runOn folder [] arguments).1.exit ≠ 0 ∧ (runOn folder [] arguments).2 = folder ∧
      Alike (runOn folder [] ("-v" :: arguments)) (runOn folder [] arguments) := by
  intro folder arguments request
  have asked : Request.ofArguments [] arguments = .ok request := rfl
  have absent : folder.node? ["work", "ids.xml"] = none := rfl
  have unread : folder.read "ids.xml" = .error .notFound := rfl
  obtain ⟨_, outcome, _, _, verbose⟩ := runOn_all_or_nothing folder [] arguments
  have failed : (runOn folder [] arguments).1.exit ≠ 0 ∧ (runOn folder [] arguments).2 = folder := by
    cases outcome request asked with
    | delivered made success delivers =>
        obtain ⟨registry, ⟨bytes, read, _⟩, _⟩ := made
        exact nomatch unread.symm.trans read
    | failed failure silent impossible => exact ⟨failure, rfl⟩
  exact ⟨asked, fun node standing => by simp [absent] at standing, failed.1, failed.2,
    (verbose request "-v" asked rfl (.inl rfl)).2⟩

end Runs

end IdRegistry.Command
