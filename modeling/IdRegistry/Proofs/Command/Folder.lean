import IdRegistry.Command.Folder

namespace IdRegistry.Command

/-- What stands at a place after a text was written there. Devices take a text in their own way. -/
def Node.receiving (text : String) : Option Node → Node
  | some .sink => .sink
  | some .full => .full
  | some (.outlet passed) => .outlet (passed ++ text)
  | _ => .file text.toUTF8.toList

/-- The place at the end of a path, unless that is a directory. -/
def Place.IsAt (names : List String) : Place → Prop
  | .directory => False
  | .vacant there => there = names
  | .other there _ => there = names

theorem Place.IsAt.unique {place : Place} {names there : List String} (at_end : place.IsAt names)
    (at_end' : place.IsAt there) : names = there := by
  cases place with
  | directory => exact at_end.elim
  | vacant found => exact Eq.trans (Eq.symm at_end) at_end'
  | other found node => exact Eq.trans (Eq.symm at_end) at_end'

namespace Folder

/-- What a place says about the folder in which it was found. -/
def Holds (folder : Folder) : Place → Prop
  | .directory => True
  | .vacant there => there ≠ [] ∧ folder.node? there = none
  | .other there node => there ≠ [] ∧ folder.node? there = some node ∧ node ≠ .directory

/-- A path leads to a place if a file or a device stands there, or nothing yet in a directory that
exists. -/
def LeadsTo (folder : Folder) (path : String) (names : List String) : Prop :=
  ∃ place, folder.locate path = .ok place ∧ place.IsAt names

/-- No device stands at the place. -/
def IsPlain (folder : Folder) (names : List String) : Prop :=
  ∀ node, folder.node? names = some node → ∃ bytes, node = .file bytes

/-- The place that a path leads to has taken the text, and nothing else has changed. -/
structure Receives (before : Folder) (path text : String) (names : List String) (after : Folder) :
    Prop where
  leads : before.LeadsTo path names
  there : after.node? names = some (Node.receiving text (before.node? names))
  elsewhere : ∀ other, other ≠ names → after.node? other = before.node? other
  here : after.here = before.here

variable {folder after : Folder} {names there other here : List String} {node : Node}
variable {path text : String} {place : Place}

theorem lookup_filter_ne (nodes : List (List String × Node)) (different : other ≠ names) :
    (nodes.filter fun entry => entry.1 ≠ names).lookup other = nodes.lookup other := by
  induction nodes with
  | nil => rfl
  | cons entry rest ih =>
      obtain ⟨found, value⟩ := entry
      by_cases dropped : found = names
      · have passed : (other == found) = false := beq_eq_false_iff_ne.mpr (dropped ▸ different)
        rw [List.filter_cons_of_neg (by simpa using dropped), ih, List.lookup_cons, passed]
      · rw [List.filter_cons_of_pos (by simpa using dropped), List.lookup_cons, List.lookup_cons, ih]

theorem node?_put_same (nonempty : names ≠ []) (node : Node) :
    (folder.put names node).node? names = some node := by
  simp [node?, put, nonempty]

theorem node?_put_other (different : other ≠ names) (node : Node) :
    (folder.put names node).node? other = folder.node? other := by
  have passed : (other == names) = false := beq_eq_false_iff_ne.mpr different
  simp only [node?, put, List.lookup_cons, passed, lookup_filter_ne folder.nodes different]

/-- Following names ends at a place that says the truth. -/
theorem follow_holds (found : folder.follow here names = .ok place) : folder.Holds place := by
  induction names generalizing here with
  | nil =>
      cases found
      trivial
  | cons name rest ih =>
      rw [follow] at found
      split at found
      · exact ih found
      split at found
      · exact ih found
      split at found
      · contradiction
      dsimp only at found
      split at found
      · exact ih found
      · rename_i node different standing
        split at found
        · cases found
          exact ⟨by simp, standing, by simpa using different⟩
        · contradiction
      · rename_i standing
        split at found
        · cases found
          exact ⟨by simp, standing⟩
        · contradiction

theorem Holds.isAt (holds : folder.Holds place) (at_end : place.IsAt there) :
    there ≠ [] ∧ folder.node? there ≠ some .directory := by
  cases place with
  | directory => exact at_end.elim
  | vacant found =>
      obtain rfl : found = there := at_end
      exact ⟨holds.1, by simp [holds.2]⟩
  | other found node =>
      obtain rfl : found = there := at_end
      exact ⟨holds.1, by simpa [holds.2.1] using holds.2.2⟩

/-- Names lead to the same place after something was put there. -/
theorem follow_put (found : folder.follow here names = .ok place) (at_end : place.IsAt there)
    (ordinary : node ≠ .directory) :
    (folder.put there node).follow here names = .ok (.other there node) := by
  induction names generalizing here with
  | nil =>
      cases found
      exact at_end.elim
  | cons name rest ih =>
      have aside := ((follow_holds found).isAt at_end).2
      have nonempty := ((follow_holds found).isAt at_end).1
      have put_there : (folder.put there node).node? there = some node :=
        node?_put_same nonempty node
      rw [follow] at found ⊢
      by_cases stays : name = "" ∨ name = "."
      · rw [if_pos stays] at found ⊢
        exact ih found
      rw [if_neg stays] at found ⊢
      by_cases up : name = ".."
      · rw [if_pos up] at found ⊢
        exact ih found
      rw [if_neg up] at found ⊢
      by_cases long : nameLimit < name.utf8ByteSize
      · rw [if_pos long] at found
        contradiction
      rw [if_neg long] at found ⊢
      dsimp only at found ⊢
      by_cases reached : here ++ [name] = there
      · -- Nothing but the last name can lead there, since no directory stands there.
        subst reached
        rw [put_there]
        cases node with
        | directory => exact absurd rfl ordinary
        | _ =>
            all_goals
              dsimp only
              cases rest with
              | nil => rfl
              | cons next rest =>
                  split at found <;> simp_all
      · rw [node?_put_other reached]
        split at found
        · exact ih found
        · split at found
          · cases found
            exact absurd at_end reached
          · contradiction
        · split at found
          · cases found
            exact absurd at_end reached
          · contradiction

theorem locate_eq (valid : checkPath path = .ok ()) :
    folder.locate path = folder.follow (folder.origin path) (pathNames path) := by
  rw [locate, valid]
  rfl

/-- A write that succeeds puts what the node makes of the text at the end of the path. Devices that
stay as they are need not be put there again. -/
theorem write_cases (written : folder.write path text = .ok after) :
    ∃ place there, checkPath path = .ok () ∧ folder.locate path = .ok place ∧ place.IsAt there ∧
      (after = folder.put there (Node.receiving text (folder.node? there)) ∨
        after = folder ∧ folder.node? there = some (Node.receiving text (folder.node? there)) ∧
          ¬ folder.IsPlain there) := by
  cases valid : checkPath path with
  | error error =>
      rw [write, valid] at written
      contradiction
  | ok _ =>
      rw [locate_eq valid]
      simp only [write, valid, bind, Except.bind] at written
      split at written
      · split at written <;> contradiction
      cases found : folder.follow (folder.origin path) (pathNames path) with
      | error error => simp [found] at written
      | ok place =>
          have holds := follow_holds found
          rw [found] at written
          refine ⟨place, ?_⟩
          cases place with
          | directory => contradiction
          | vacant there =>
              refine ⟨there, rfl, rfl, rfl, .inl ?_⟩
              simpa [holds.2, Node.receiving] using written.symm
          | other there node =>
              refine ⟨there, rfl, rfl, rfl, ?_⟩
              have device (noFile : ∀ bytes, node ≠ .file bytes) : ¬ folder.IsPlain there := by
                intro plain
                obtain ⟨bytes, same⟩ := plain node holds.2.1
                exact noFile bytes same
              rw [holds.2.1]
              cases node with
              | directory => exact absurd rfl holds.2.2
              | file bytes => exact .inl (Except.ok.inj written).symm
              | sink => exact .inr ⟨(Except.ok.inj written).symm, rfl, device (by simp)⟩
              | full =>
                  by_cases nothing : text = ""
                  · exact .inr ⟨by simpa [nothing] using written.symm, rfl, device (by simp)⟩
                  · simp [nothing] at written
              | outlet passed => exact .inl (Except.ok.inj written).symm

theorem write_receives (written : folder.write path text = .ok after) :
    ∃ names, folder.Receives path text names after := by
  obtain ⟨place, there, valid, found, at_end, rfl | ⟨rfl, standing, _⟩⟩ := write_cases written
  · have nonempty := ((follow_holds (locate_eq valid ▸ found)).isAt at_end).1
    exact ⟨there, ⟨place, found, at_end⟩, node?_put_same nonempty _,
      fun _ different => node?_put_other different _, rfl⟩
  · exact ⟨there, ⟨place, found, at_end⟩, standing, fun _ _ => rfl, rfl⟩

theorem read_of_locate {bytes : List UInt8} (found : folder.locate path = .ok (.other names (.file bytes))) :
    folder.read path = .ok bytes := by
  rw [read, found]
  rfl

/-- A text that was written is read back by the same path. -/
theorem read_of_receives (written : folder.write path text = .ok after)
    (received : folder.Receives path text names after) (plain : folder.IsPlain names) :
    after.read path = .ok text.toUTF8.toList := by
  obtain ⟨place, there, valid, found, at_end, rfl | ⟨_, _, device⟩⟩ := write_cases written
  all_goals
    obtain ⟨place', found', at_end'⟩ := received.leads
    obtain rfl : place = place' := Except.ok.inj (found.symm.trans found')
    obtain rfl := at_end.unique at_end'
  · have content : Node.receiving text (folder.node? there) = .file text.toUTF8.toList := by
      cases standing : folder.node? there with
      | none => rfl
      | some node =>
          obtain ⟨bytes, rfl⟩ := plain node standing
          rfl
    apply read_of_locate
    rw [locate_eq valid, content]
    exact follow_put (locate_eq valid ▸ found) at_end (by simp)
  · exact absurd plain device

end Folder

end IdRegistry.Command
