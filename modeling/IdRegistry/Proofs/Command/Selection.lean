import IdRegistry.Proofs.Command.Run
import IdRegistry.Proofs.Text.Decimal

namespace IdRegistry.Command

/-- The name of a level. -/
def Limit.word : Limit → String
  | none => "off"
  | some .error => "error"
  | some .warn => "warn"
  | some .info => "info"
  | some .debug => "debug"
  | some .trace => "trace"

/-- The text of a directive for the sources that begin with the given text. -/
def Limit.wordFor (limit : Limit) (start : String) : String := start ++ "=" ++ limit.word

/-- The text has no separator and no blank, so that it stands in a directive as it is. -/
def IsPlain (text : List Char) : Prop :=
  ∀ c ∈ text, c ≠ ',' ∧ c ≠ '/' ∧ c ≠ '=' ∧ Unicode.isBlank c = false

instance (text : List Char) : Decidable (IsPlain text) := List.decidableBAll _ text

def Diagnostic.notice? : Diagnostic → Option Notice
  | .notice found => some found
  | _ => none

/-- The notices that a run has printed. -/
def Report.notices (report : Report) : List Notice := report.diagnostics.filterMap Diagnostic.notice?

/-- What a run for the request has to report, whether it is printed or not. -/
def Request.notices (request : Request) (folder : Folder) : List Notice :=
  ((request.perform Folder.access).run folder).1.notices

theorem splitAt_of_notMem {separator : Char} {text : List Char} (absent : separator ∉ text) :
    Text.splitAt separator text = [text] := by
  induction text with
  | nil => rfl
  | cons c rest ih =>
      obtain ⟨other, absent⟩ := not_or.mp (mt List.mem_cons.mpr absent)
      rw [Text.splitAt, if_neg (Ne.symm other), ih absent]

theorem splitAt_append {separator : Char} {text : List Char} (absent : separator ∉ text)
    (rest : List Char) :
    Text.splitAt separator (text ++ separator :: rest) = text :: Text.splitAt separator rest := by
  induction text with
  | nil => exact if_pos rfl
  | cons c text ih =>
      obtain ⟨other, absent⟩ := not_or.mp (mt List.mem_cons.mpr absent)
      rw [List.cons_append, Text.splitAt, if_neg (Ne.symm other), ih absent]

theorem Limit.isPlain_word (limit : Limit) : IsPlain limit.word.toList := by
  rcases limit with _ | severity
  · decide
  · cases severity <;> decide

theorem Limit.ofWord?_word (limit : Limit) : Limit.ofWord? limit.word.toList = some limit := by
  rcases limit with _ | severity
  · rfl
  · cases severity <;> rfl

theorem Limit.word_ne_nil (limit : Limit) : limit.word.toList ≠ [] := by
  rcases limit with _ | severity
  · decide
  · cases severity <;> decide

section Directives

variable {start : List Char} {directive : Directive}

theorem ofText_word (limit : Limit) : Directive.ofText limit.word.toList = .ok ⟨none, limit⟩ := by
  have absent : '=' ∉ limit.word.toList := fun member => (limit.isPlain_word '=' member).2.2.1 rfl
  rw [Directive.ofText, splitAt_of_notMem absent]
  simp only [limit.ofWord?_word]

theorem ofText_named (plain : IsPlain start) (limit : Limit) :
    Directive.ofText (start ++ '=' :: limit.word.toList) = .ok ⟨some start, limit⟩ := by
  have absent : '=' ∉ start := fun member => (plain '=' member).2.2.1 rfl
  have absent' : '=' ∉ limit.word.toList := fun member => (limit.isPlain_word '=' member).2.2.1 rfl
  have whole : Text.trimBlanks limit.word.toList = limit.word.toList :=
    Text.trimBlanks_of_not_blank fun c member => (limit.isPlain_word c member).2.2.2
  rw [Directive.ofText, splitAt_append absent, splitAt_of_notMem absent']
  simp only [whole, List.isEmpty_eq_false_iff.mpr limit.word_ne_nil, limit.ofWord?_word]
  rfl

/-- A text with one directive and no pattern. -/
theorem ofText_of_directive {text : List Char} (nonempty : text ≠ [])
    (plain : ∀ c ∈ text, c ≠ ',' ∧ c ≠ '/' ∧ Unicode.isBlank c = false)
    (read : Directive.ofText text = .ok directive) :
    Selection.ofText text = (⟨[directive], none⟩, []) := by
  have noSlash : '/' ∉ text := fun member => (plain '/' member).2.1 rfl
  have noComma : ',' ∉ text := fun member => (plain ',' member).1 rfl
  have whole : Text.trimBlanks text = text :=
    Text.trimBlanks_of_not_blank fun c member => (plain c member).2.2
  have found : directivesFrom [] [text] = ([directive], []) := by
    simp only [directivesFrom, whole, List.isEmpty_eq_false_iff.mpr nonempty, read, replaceOrAppend]
    rfl
  rw [Selection.ofText, splitAt_of_notMem noSlash]
  simp only [splitAt_of_notMem noComma, found]

end Directives

section Runs

variable {environment : Environment} {request : Request} {limit : Limit}

/-- The name of a level asks for nothing that the program does not replace. -/
theorem selection_of_general
    (general : environment.lookup "RUST_LOG" = none ∨
      ∃ limit : Limit, environment.lookup "RUST_LOG" = some limit.word) :
    request.selection environment = (⟨[⟨none, request.limit⟩], none⟩, []) := by
  rcases general with unset | ⟨limit, set⟩
  · rw [Request.selection, unset]
    rfl
  · have plain : ∀ c ∈ limit.word.toList, c ≠ ',' ∧ c ≠ '/' ∧ Unicode.isBlank c = false := by
      intro c member
      obtain ⟨noComma, noSlash, _, noBlank⟩ := limit.isPlain_word c member
      exact ⟨noComma, noSlash, noBlank⟩
    have read := ofText_of_directive limit.word_ne_nil plain (ofText_word limit)
    rw [Request.selection, set, Option.getD_some, read]
    rfl

theorem selection_of_named {start : String} (plain : IsPlain start.toList)
    (named : environment.lookup "RUST_LOG" = some (limit.wordFor start)) :
    request.selection environment =
      (⟨[⟨some start.toList, limit⟩, ⟨none, request.limit⟩], none⟩, []) := by
  have spelled : (limit.wordFor start).toList = start.toList ++ '=' :: limit.word.toList := by
    simp [Limit.wordFor]
  have nonempty : start.toList ++ '=' :: limit.word.toList ≠ [] := by simp
  have noSeparator : ∀ c ∈ start.toList ++ '=' :: limit.word.toList,
      c ≠ ',' ∧ c ≠ '/' ∧ Unicode.isBlank c = false := by
    intro c member
    rcases List.mem_append.mp member with inStart | inRest
    · obtain ⟨noComma, noSlash, _, noBlank⟩ := plain c inStart
      exact ⟨noComma, noSlash, noBlank⟩
    rcases List.mem_cons.mp inRest with rfl | inWord
    · decide
    · obtain ⟨noComma, noSlash, _, noBlank⟩ := limit.isPlain_word c inWord
      exact ⟨noComma, noSlash, noBlank⟩
  have read := ofText_of_directive nonempty noSeparator (ofText_named plain limit)
  rw [Request.selection, named, Option.getD_some, spelled, read]
  rfl

theorem Request.notices_report {selection : Selection} {warnings : List String}
    (selected : request.selection environment = (selection, warnings)) (stage : Stage String) :
    (request.report environment stage).notices = stage.notices.filter selection.selects := by
  have texts : (warnings.map Diagnostic.text).filterMap Diagnostic.notice? = [] := by
    rw [List.filterMap_map]
    exact List.filterMap_eq_nil_iff.mpr fun _ _ => rfl
  have notices (printed : List Notice) :
      (printed.map Diagnostic.notice).filterMap Diagnostic.notice? = printed := by
    rw [List.filterMap_map]
    exact List.filterMap_some
  rw [Report.notices, Request.report, selected]
  cases stage.result with
  | error error => simp only [List.filterMap_append, texts, notices]; exact List.append_nil _
  | ok output => simp only [List.filterMap_append, texts, notices]; rfl

theorem notices_runOn {folder : Folder} {arguments : List String} {selection : Selection}
    {warnings : List String} (asked : Request.ofArguments environment arguments = .ok request)
    (selected : request.selection environment = (selection, warnings)) :
    (runOn folder environment arguments).1.notices =
      (request.notices folder).filter selection.selects := by
  rw [runOn_of_request asked]
  exact Request.notices_report selected _

theorem selects_general (notice : Notice) :
    Selection.selects ⟨[⟨none, limit⟩], none⟩ notice = limit.allows notice.severity :=
  Bool.and_true _

/-- A directive that names sources is the longer one. -/
theorem selects_named {start : List Char} (nonempty : start ≠ []) (own : Limit) (notice : Notice) :
    Selection.selects ⟨[⟨some start, limit⟩, ⟨none, own⟩], none⟩ notice =
      (if start.isPrefixOf notice.source.toList then limit else own).allows notice.severity := by
  have longer : (String.ofList start).utf8ByteSize ≠ 0 := by
    intro zero
    have empty := congrArg String.toList (String.utf8ByteSize_eq_zero_iff.mp zero)
    exact nonempty (String.toList_ofList.symm.trans empty)
  have shorter : Directive.size ⟨none, own⟩ < Directive.size ⟨some start, limit⟩ :=
    Nat.pos_of_ne_zero longer
  have last : deciding notice.source.toList [⟨none, own⟩] = some ⟨none, own⟩ := rfl
  have decided : deciding notice.source.toList [⟨some start, limit⟩, ⟨none, own⟩] =
      if start.isPrefixOf notice.source.toList then some ⟨some start, limit⟩
      else some ⟨none, own⟩ := by
    rw [deciding, last]
    simp only [shorter, decide_true, Bool.and_true]
    rfl
  rw [Selection.selects, decided]
  cases start.isPrefixOf notice.source.toList with
  | true => exact Bool.and_true _
  | false => exact Bool.and_true _

theorem source_starts (notice : Notice) :
    "protoid".toList.isPrefixOf notice.source.toList = true := by
  cases notice <;> rw [Notice.source] <;> decide

theorem notices_of_general (folder : Folder) {arguments : List String}
    (asked : Request.ofArguments environment arguments = .ok request)
    (general : environment.lookup "RUST_LOG" = none ∨
      ∃ limit : Limit, environment.lookup "RUST_LOG" = some limit.word) :
    (runOn folder environment arguments).1.notices =
      (request.notices folder).filter fun notice => request.limit.allows notice.severity := by
  rw [notices_runOn asked (selection_of_general general)]
  exact List.filter_congr fun notice _ => selects_general notice

theorem notices_of_named (folder : Folder) {arguments : List String} {start : String}
    (asked : Request.ofArguments environment arguments = .ok request)
    (nonempty : start ≠ "") (plain : IsPlain start.toList)
    (named : environment.lookup "RUST_LOG" = some (limit.wordFor start)) :
    (runOn folder environment arguments).1.notices =
      (request.notices folder).filter fun notice =>
        (if start.toList.isPrefixOf notice.source.toList then limit else request.limit).allows
          notice.severity := by
  have nonempty' : start.toList ≠ [] := mt String.toList_eq_nil_iff.mp nonempty
  rw [notices_runOn asked (selection_of_named plain named)]
  exact List.filter_congr fun notice _ => selects_named nonempty' request.limit notice

/-- With no directives, or with a limit for all sources, a run prints what its own limit allows, in
order: results, and the other notices if it is verbose. A limit for some sources holds for these. All
sources begin with one text, and so a limit for that text is the one that holds for all. -/
theorem notices_selected (folder : Folder) (environment : Environment) (arguments : List String)
    (request : Request) (asked : Request.ofArguments environment arguments = .ok request) :
    let printed := (runOn folder environment arguments).1.notices
    let reported := request.notices folder
    ((environment.lookup "RUST_LOG" = none ∨
        ∃ limit : Limit, environment.lookup "RUST_LOG" = some limit.word) →
      printed = reported.filter fun notice => notice.severity.rank ≤
        (if request.verbose then Severity.debug else Severity.info).rank) ∧
    (∀ (start : String) (limit : Limit), start ≠ "" → IsPlain start.toList →
      environment.lookup "RUST_LOG" = some (limit.wordFor start) →
      printed = reported.filter fun notice =>
        (if start.toList.isPrefixOf notice.source.toList then limit else request.limit).allows
          notice.severity) ∧
    (∀ limit : Limit, environment.lookup "RUST_LOG" = some (limit.wordFor "protoid") →
      printed = reported.filter fun notice => limit.allows notice.severity) := by
  intro printed reported
  refine ⟨?general, ?named, ?all⟩
  case general => exact notices_of_general folder asked
  case named => exact fun start limit nonempty plain => notices_of_named folder asked nonempty plain
  case all =>
    intro limit named
    have plain : IsPlain "protoid".toList := by decide
    rw [show printed = _ from notices_of_named folder asked (by decide) plain named]
    exact List.filter_congr fun notice _ => by rw [if_pos (source_starts notice)]

/-- A verbose run for a file that does not exist has one notice to print. A limit for all sources does
not keep it back, a limit for some does, and so does one for the beginning of all. -/
theorem notices_selected_unreadable :
    let folder := Folder.empty ["work"]
    let printed (text : String) :=
      (runOn folder [("RUST_LOG", text)] ["-v", "-r", "ids.xml"]).1.notices
    printed "off" = [.reading "ids.xml"] ∧ printed "protoid_gen=info" = [] ∧
      printed "protoid_codegen=info" = [.reading "ids.xml"] ∧ printed "protoid=off" = [] := by
  intro folder printed
  let request : Request := ⟨some "ids.xml", .go, "main", none, true⟩
  have asked (text : String) :
      Request.ofArguments [("RUST_LOG", text)] ["-v", "-r", "ids.xml"] = .ok request := rfl
  have reported : request.notices folder = [.reading "ids.xml"] := rfl
  have plain : IsPlain "protoid_gen".toList ∧ IsPlain "protoid_codegen".toList := by decide
  refine ⟨?_, ?_, ?_, ?_⟩
  · rw [show printed "off" = _ from
      (notices_selected folder _ _ request (asked "off")).1 (.inr ⟨none, rfl⟩), reported]
    rfl
  · rw [show printed "protoid_gen=info" = _ from
      (notices_selected folder _ _ request (asked "protoid_gen=info")).2.1 "protoid_gen"
        (some .info) (by decide) plain.1 rfl, reported]
    rfl
  · rw [show printed "protoid_codegen=info" = _ from
      (notices_selected folder _ _ request (asked "protoid_codegen=info")).2.1 "protoid_codegen"
        (some .info) (by decide) plain.2 rfl, reported]
    rfl
  · rw [show printed "protoid=off" = _ from
      (notices_selected folder _ _ request (asked "protoid=off")).2.2 none rfl, reported]
    rfl

/-- The name of a level asks neither for less than the program's own limit nor for more: silence is
not had by `off`, and the file that is read is not named at `debug`. -/
theorem limit_for_all_not_heeded :
    let folder := Folder.empty ["work"]
    let arguments := ["-r", "ids.xml"]
    let request : Request := ⟨some "ids.xml", .go, "main", none, false⟩
    let verbose : Request := ⟨some "ids.xml", .go, "main", none, true⟩
    (Request.ofArguments [("RUST_LOG", "off")] ("-v" :: arguments) = .ok verbose ∧
      (verbose.notices folder).filter (fun notice => Limit.allows none notice.severity) = [] ∧
      (runOn folder [("RUST_LOG", "off")] ("-v" :: arguments)).1.notices = [.reading "ids.xml"]) ∧
    (Request.ofArguments [("RUST_LOG", "debug")] arguments = .ok request ∧
      (request.notices folder).filter (fun notice => Limit.allows (some .debug) notice.severity) =
        [.reading "ids.xml"] ∧
      (runOn folder [("RUST_LOG", "debug")] arguments).1.notices = []) :=
  ⟨⟨rfl, rfl, rfl⟩, rfl, rfl, rfl⟩

end Runs

end IdRegistry.Command
