import IdRegistry.Output.RustTables
import Mathlib.Data.List.Forall2

namespace IdRegistry

/-! `Accepted` says what a registry has to satisfy for its tables to be made, and `FirstFault` what is
reported if it does not. What ties both to the making of rows is `Tracks`: while the rows are made, the
constants in use are those of the entries passed so far, each with the name of its entry.
-/

/-- The name of an entry, in capitals, reads as one identifier. -/
def ProtocolId.HasConstant (entry : ProtocolId) (constant : String) : Prop :=
  ConstantName.identifier? (ConstantName.shouted entry.normalizedName.toList) =
    some constant.toList

def FitsWord (id : Int) : Prop := 0 ≤ id ∧ id ≤ 4294967295

instance (id : Int) : Decidable (FitsWord id) := inferInstanceAs (Decidable (_ ∧ _))

structure Consistent (entries : List ProtocolId) : Prop where
  valid : ∀ entry ∈ entries, ∃ constant, entry.HasConstant constant ∧
    ConstantName.isIdentifier constant.toList = true
  distinct : entries.Pairwise fun first second =>
    ∀ constant, first.HasConstant constant → ¬ second.HasConstant constant
  fits : ∀ entry ∈ entries, FitsWord entry.id

/-- The first of the lists that are named for push notifications. -/
def Registry.IsPushList (registry : Registry) (list : IdList) : Prop :=
  ∃ before after, registry.lists = before ++ list :: after ∧ list.name = pushListName ∧
    ∀ other ∈ before, other.name ≠ pushListName

structure Accepted (registry : Registry) : Prop where
  consistent : Consistent registry.ids
  listed : ∃ list, registry.IsPushList list ∧ ∀ value ∈ list.values, FitsWord value

/-- What is wrong with an entry that comes after others, the most urgent first. -/
inductive EntryFault (before : List ProtocolId) (entry : ProtocolId) : Failure → Prop where
  | invalid (unreadable : ∀ constant, ¬ entry.HasConstant constant) :
      EntryFault before entry (.invalidIdentifier entry.name
        (String.ofList (ConstantName.shouted entry.normalizedName.toList)))
  | duplicate {constant : String} {first : ProtocolId} {earlier between : List ProtocolId}
      (own : entry.HasConstant constant) (split : before = earlier ++ first :: between)
      (same : first.HasConstant constant)
      (only : ∀ other ∈ earlier ++ between, ¬ other.HasConstant constant) :
      EntryFault before entry (.duplicateName first.name entry.name constant)
  | range {constant : String} (own : entry.HasConstant constant)
      (new : ∀ first ∈ before, ¬ first.HasConstant constant) (wide : ¬ FitsWord entry.id) :
      EntryFault before entry (.idOutOfRange entry.name entry.id)

/-- The first thing that is wrong with a registry: its entries come first, in their order, then the
list of push notifications. -/
inductive FirstFault (registry : Registry) : Failure → Prop where
  | entry {before after : List ProtocolId} {entry : ProtocolId} {failure : Failure}
      (split : registry.ids = before ++ entry :: after) (consistent : Consistent before)
      (fault : EntryFault before entry failure) : FirstFault registry failure
  | unlisted (consistent : Consistent registry.ids)
      (absent : ∀ list ∈ registry.lists, list.name ≠ pushListName) :
      FirstFault registry (.missingList pushListName)
  | pushId {list : IdList} {before after : List Int} {value : Int}
      (consistent : Consistent registry.ids) (first : registry.IsPushList list)
      (split : list.values = before ++ value :: after)
      (fitting : ∀ earlier ∈ before, FitsWord earlier) (wide : ¬ FitsWord value) :
      FirstFault registry (.idOutOfRange pushListName value)

structure TableRow.Describes (row : TableRow) (entry : ProtocolId) : Prop where
  constant : entry.HasConstant row.constant
  id : (row.id : Int) = entry.id
  name : row.name = entry.normalizedName

/-- The constants in use are those of the entries, each with the name of its entry. -/
def Tracks (used : List (String × String)) (entries : List ProtocolId) : Prop :=
  ∀ constant name, used.lookup constant = some name ↔
    ∃ entry ∈ entries, entry.HasConstant constant ∧ entry.name = name

theorem ConstantName.isIdentifier_of_identifier? {text token : List Char}
    (read : identifier? text = some token) : isIdentifier token = true := by
  simp only [identifier?, Option.ite_none_right_eq_some, Option.some.injEq] at read
  obtain ⟨valid, rfl⟩ := read
  exact valid

namespace ProtocolId

variable {entry other : ProtocolId} {constant : String}

theorem HasConstant.isIdentifier (own : entry.HasConstant constant) :
    ConstantName.isIdentifier constant.toList = true :=
  ConstantName.isIdentifier_of_identifier? own

theorem HasConstant.unique {again : String} (own : entry.HasConstant constant)
    (own' : entry.HasConstant again) : constant = again :=
  String.toList_inj.mp (Option.some.inj (own.symm.trans own'))

/-- The constant depends on the name without underscores only. -/
theorem HasConstant.of_normalizedName (same : entry.normalizedName = other.normalizedName)
    (own : entry.HasConstant constant) : other.HasConstant constant := by
  unfold HasConstant
  rw [← same]
  exact own

theorem constant_of_hasConstant (own : entry.HasConstant constant) :
    entry.constant = .ok constant := by
  unfold HasConstant at own
  simp only [ProtocolId.constant, own, String.ofList_toList]

theorem constant_of_unreadable (unreadable : ∀ constant, ¬ entry.HasConstant constant) :
    entry.constant = .error (.invalidIdentifier entry.name
      (String.ofList (ConstantName.shouted entry.normalizedName.toList))) := by
  cases read : ConstantName.identifier? (ConstantName.shouted entry.normalizedName.toList) with
  | none => simp only [ProtocolId.constant, read]
  | some token =>
      have own : entry.HasConstant (String.ofList token) := by
        rw [HasConstant, read, String.toList_ofList]
      exact absurd own (unreadable _)

end ProtocolId

theorem word32_of_fits {id : Int} (name : String) (fits : FitsWord id) :
    word32 name id = .ok id.toNat := if_pos fits

theorem word32_of_wide {id : Int} (name : String) (wide : ¬ FitsWord id) :
    word32 name id = .error (.idOutOfRange name id) := if_neg wide

namespace Consistent

variable {before : List ProtocolId} {entry : ProtocolId} {constant : String}

theorem nil : Consistent [] :=
  ⟨by simp, .nil, by simp⟩

theorem of_append {after : List ProtocolId} (consistent : Consistent (before ++ after)) :
    Consistent before where
  valid other member := consistent.valid other (List.mem_append_left _ member)
  distinct := (List.pairwise_append.mp consistent.distinct).1
  fits other member := consistent.fits other (List.mem_append_left _ member)

theorem concat (consistent : Consistent before) (own : entry.HasConstant constant)
    (new : ∀ first ∈ before, ¬ first.HasConstant constant) (fits : FitsWord entry.id) :
    Consistent (before ++ [entry]) where
  valid other member := by
    rcases List.mem_append.mp member with earlier | last
    · exact consistent.valid other earlier
    · obtain rfl := List.mem_singleton.mp last
      exact ⟨constant, own, own.isIdentifier⟩
  distinct := by
    refine List.pairwise_append.mpr ⟨consistent.distinct, List.pairwise_singleton _ _, ?_⟩
    intro first member last isLast shared ofFirst ofLast
    obtain rfl := List.mem_singleton.mp isLast
    exact new first member (own.unique ofLast ▸ ofFirst)
  fits other member := by
    rcases List.mem_append.mp member with earlier | last
    · exact consistent.fits other earlier
    · exact List.mem_singleton.mp last ▸ fits

theorem last (consistent : Consistent (before ++ [entry])) :
    (∃ constant, entry.HasConstant constant ∧ ∀ first ∈ before, ¬ first.HasConstant constant) ∧
      FitsWord entry.id := by
  have member : entry ∈ before ++ [entry] := by simp
  obtain ⟨constant, own, _⟩ := consistent.valid entry member
  have distinct := (List.pairwise_append.mp consistent.distinct).2.2
  exact ⟨⟨constant, own, fun first earlier shared =>
    distinct first earlier entry List.mem_cons_self constant shared own⟩,
    consistent.fits entry member⟩

theorem concat_or_fault (consistent : Consistent before) (entry : ProtocolId) :
    Consistent (before ++ [entry]) ∨ ∃ failure, EntryFault before entry failure := by
  by_cases readable : ∃ constant, entry.HasConstant constant
  · obtain ⟨constant, own⟩ := readable
    by_cases used : ∃ first ∈ before, first.HasConstant constant
    · obtain ⟨first, member, same⟩ := used
      obtain ⟨earlier, between, rfl⟩ := List.append_of_mem member
      have around := List.pairwise_append.mp consistent.distinct
      have after := (List.pairwise_cons.mp around.2.1).1
      have only : ∀ other ∈ earlier ++ between, ¬ other.HasConstant constant := by
        intro other member shared
        rcases List.mem_append.mp member with left | right
        · exact around.2.2 other left first List.mem_cons_self constant shared same
        · exact after other right constant same shared
      exact .inr ⟨_, .duplicate own rfl same only⟩
    · have new : ∀ first ∈ before, ¬ first.HasConstant constant :=
        fun first member shared => used ⟨first, member, shared⟩
      by_cases fits : FitsWord entry.id
      · exact .inl (consistent.concat own new fits)
      · exact .inr ⟨_, .range own new fits⟩
  · exact .inr ⟨_, .invalid fun constant own => readable ⟨constant, own⟩⟩

end Consistent

theorem consistent_or_fault {before : List ProtocolId} (consistent : Consistent before)
    (entries : List ProtocolId) :
    Consistent (before ++ entries) ∨ ∃ earlier entry later failure,
      entries = earlier ++ entry :: later ∧ Consistent (before ++ earlier) ∧
        EntryFault (before ++ earlier) entry failure := by
  induction entries generalizing before with
  | nil => exact .inl (by simpa using consistent)
  | cons entry rest ih =>
      rcases consistent.concat_or_fault entry with joined | ⟨failure, fault⟩
      · rcases ih joined with all | ⟨earlier, other, later, failure, rfl, prior, fault⟩
        · exact .inl (by simpa using all)
        · exact .inr ⟨entry :: earlier, other, later, failure, rfl, by simpa using prior,
            by simpa using fault⟩
      · exact .inr ⟨[], entry, rest, failure, rfl, by simpa using consistent, by simpa using fault⟩

namespace Tracks

variable {used : List (String × String)} {before : List ProtocolId} {entry : ProtocolId}
variable {constant : String}

theorem nil : Tracks [] [] := by
  intro constant name
  simp

theorem lookup_eq_none (tracks : Tracks used before)
    (new : ∀ first ∈ before, ¬ first.HasConstant constant) : used.lookup constant = none := by
  cases found : used.lookup constant with
  | none => rfl
  | some name =>
      obtain ⟨first, member, shared, _⟩ := (tracks constant name).mp found
      exact absurd shared (new first member)

theorem cons (tracks : Tracks used before) (own : entry.HasConstant constant)
    (new : ∀ first ∈ before, ¬ first.HasConstant constant) :
    Tracks ((constant, entry.name) :: used) (before ++ [entry]) := by
  intro other name
  -- Only the constant of the new entry is affected, and no entry before it has that.
  by_cases same : other = constant
  · subst other
    constructor
    · intro found
      refine ⟨entry, by simp, own, ?_⟩
      simpa using found
    · rintro ⟨holder, member, shared, rfl⟩
      rcases List.mem_append.mp member with earlier | last
      · exact absurd shared (new holder earlier)
      · obtain rfl := List.mem_singleton.mp last
        simp
  · have differs : (other == constant) = false := beq_eq_false_iff_ne.mpr same
    have passed : ((constant, entry.name) :: used).lookup other = used.lookup other := by
      simp only [List.lookup_cons, differs]
    rw [passed, tracks other name]
    constructor
    · rintro ⟨holder, member, shared, named⟩
      exact ⟨holder, List.mem_append_left _ member, shared, named⟩
    · rintro ⟨holder, member, shared, named⟩
      rcases List.mem_append.mp member with earlier | last
      · exact ⟨holder, earlier, shared, named⟩
      · obtain rfl := List.mem_singleton.mp last
        exact absurd (shared.unique own) same

end Tracks

namespace RustTables

variable {used : List (String × String)} {before : List ProtocolId} {entry : ProtocolId}
variable {constant : String}

theorem rowsAfter_cons (tracks : Tracks used before) (own : entry.HasConstant constant)
    (new : ∀ first ∈ before, ¬ first.HasConstant constant) (fits : FitsWord entry.id)
    (rest : List ProtocolId) :
    rowsAfter used (entry :: rest) =
      (rowsAfter ((constant, entry.name) :: used) rest).map
        (⟨constant, entry.id.toNat, entry.normalizedName⟩ :: ·) := by
  simp only [rowsAfter, ProtocolId.constant_of_hasConstant own, tracks.lookup_eq_none new,
    word32_of_fits entry.name fits, bind, Except.bind]
  cases rowsAfter ((constant, entry.name) :: used) rest <;> rfl

theorem rowsAfter_of_fault {failure : Failure} (tracks : Tracks used before)
    (fault : EntryFault before entry failure) (rest : List ProtocolId) :
    rowsAfter used (entry :: rest) = .error failure := by
  cases fault with
  | invalid unreadable =>
      simp only [rowsAfter, ProtocolId.constant_of_unreadable unreadable, bind, Except.bind]
  | @duplicate constant first earlier between own split same only =>
      have member : first ∈ before := by simp [split]
      have found : used.lookup constant = some first.name :=
        (tracks constant first.name).mpr ⟨first, member, same, rfl⟩
      simp only [rowsAfter, ProtocolId.constant_of_hasConstant own, found, bind, Except.bind]
  | range own new wide =>
      simp only [rowsAfter, ProtocolId.constant_of_hasConstant own, tracks.lookup_eq_none new,
        word32_of_wide entry.name wide, bind, Except.bind]

/-- Entries that are consistent with what came before each give one row. What follows depends on
them only through the constants in use. -/
theorem rowsAfter_append {passed : List ProtocolId} (tracks : Tracks used before)
    (consistent : Consistent (before ++ passed)) :
    ∃ usedAfter rows, Tracks usedAfter (before ++ passed) ∧
      List.Forall₂ TableRow.Describes rows passed ∧
      ∀ later, rowsAfter used (passed ++ later) = (rowsAfter usedAfter later).map (rows ++ ·) := by
  induction passed generalizing used before with
  | nil =>
      refine ⟨used, [], by simpa using tracks, .nil, fun later => ?_⟩
      cases result : rowsAfter used later <;> simp [result, Except.map]
  | cons entry passed ih =>
      rw [List.append_cons] at consistent
      obtain ⟨⟨constant, own, new⟩, fits⟩ := consistent.of_append.last
      obtain ⟨usedAfter, rows, tracksAfter, described, run⟩ :=
        ih (tracks.cons own new) consistent
      refine ⟨usedAfter, ⟨constant, entry.id.toNat, entry.normalizedName⟩ :: rows,
        by simpa using tracksAfter, .cons ⟨own, Int.toNat_of_nonneg fits.1, rfl⟩ described,
        fun later => ?_⟩
      rw [List.cons_append, rowsAfter_cons tracks own new fits, run]
      cases rowsAfter usedAfter later <;> rfl

theorem rowsAfter_of_consistent {entries : List ProtocolId} (consistent : Consistent entries) :
    ∃ rows, rowsAfter [] entries = .ok rows ∧ List.Forall₂ TableRow.Describes rows entries := by
  obtain ⟨usedAfter, rows, _, described, run⟩ := rowsAfter_append Tracks.nil consistent
  refine ⟨rows, ?_, described⟩
  rw [← List.append_nil entries, run]
  simp [rowsAfter, Except.map]

theorem rowsAfter_of_first_fault {after : List ProtocolId} {failure : Failure}
    (consistent : Consistent before) (fault : EntryFault before entry failure) :
    rowsAfter [] (before ++ entry :: after) = .error failure := by
  obtain ⟨usedAfter, rows, tracks, _, run⟩ := rowsAfter_append Tracks.nil consistent
  rw [run, rowsAfter_of_fault tracks fault]
  rfl

theorem pushWords_append {passed : List Int} (fitting : ∀ value ∈ passed, FitsWord value)
    (later : List Int) :
    pushWords (passed ++ later) = (pushWords later).map (passed.map Int.toNat ++ ·) := by
  induction passed with
  | nil => cases result : pushWords later <;> simp [result, Except.map]
  | cons value passed ih =>
      have first := word32_of_fits pushListName (fitting value List.mem_cons_self)
      have rest := ih fun other member => fitting other (List.mem_cons_of_mem _ member)
      simp only [List.cons_append, pushWords, first, rest, bind, Except.bind]
      cases pushWords later <;> rfl

theorem pushWords_of_fitting {values : List Int} (fitting : ∀ value ∈ values, FitsWord value) :
    pushWords values = .ok (values.map Int.toNat) := by
  rw [← List.append_nil values, pushWords_append fitting]
  simp [pushWords, Except.map]

theorem pushWords_of_wide {earlier after : List Int} {value : Int}
    (fitting : ∀ other ∈ earlier, FitsWord other) (wide : ¬ FitsWord value) :
    pushWords (earlier ++ value :: after) = .error (.idOutOfRange pushListName value) := by
  rw [pushWords_append fitting, pushWords, word32_of_wide pushListName wide]
  rfl

end RustTables

namespace Registry

variable {registry : Registry} {list : IdList}

theorem list?_eq_some_iff :
    registry.list? pushListName = some list ↔ registry.IsPushList list := by
  rw [Registry.list?, List.find?_eq_some_iff_append]
  simp only [decide_eq_true_eq, Bool.not_eq_eq_eq_not, Bool.not_true, decide_eq_false_iff_not]
  constructor
  · rintro ⟨named, before, after, split, others⟩
    exact ⟨before, after, split, named, others⟩
  · rintro ⟨before, after, split, named, others⟩
    exact ⟨named, before, after, split, others⟩

theorem pushIds_of_isPushList (first : registry.IsPushList list) :
    registry.pushIds = .ok list.values := by
  rw [Registry.pushIds, list?_eq_some_iff.mpr first]

theorem pushIds_of_absent (absent : ∀ list ∈ registry.lists, list.name ≠ pushListName) :
    registry.pushIds = .error (.missingList pushListName) := by
  have missing : registry.list? pushListName = none := by
    simpa [Registry.list?] using absent
  rw [Registry.pushIds, missing]

theorem isPushList_or_absent (registry : Registry) :
    (∃ list, registry.IsPushList list) ∨ ∀ list ∈ registry.lists, list.name ≠ pushListName := by
  cases found : registry.list? pushListName with
  | some list => exact .inl ⟨list, list?_eq_some_iff.mp found⟩
  | none => exact .inr (by simpa [Registry.list?] using found)

end Registry

theorem fitting_or_wide (values : List Int) :
    (∀ value ∈ values, FitsWord value) ∨ ∃ before value after,
      values = before ++ value :: after ∧ (∀ earlier ∈ before, FitsWord earlier) ∧
        ¬ FitsWord value := by
  cases found : values.find? fun value => ¬ FitsWord value with
  | none => exact .inl (by simpa using found)
  | some value =>
      obtain ⟨wide, before, after, split, fitting⟩ := List.find?_eq_some_iff_append.mp found
      exact .inr ⟨before, value, after, split, by simpa using fitting, by simpa using wide⟩

theorem accepted_or_fault (registry : Registry) :
    Accepted registry ∨ ∃ failure, FirstFault registry failure := by
  rcases consistent_or_fault Consistent.nil registry.ids with
    consistent | ⟨before, entry, after, failure, split, prior, fault⟩
  · rcases registry.isPushList_or_absent with ⟨list, first⟩ | absent
    · rcases fitting_or_wide list.values with fitting | ⟨before, value, after, split, fitting, wide⟩
      · exact .inl ⟨consistent, list, first, fitting⟩
      · exact .inr ⟨_, .pushId consistent first split fitting wide⟩
    · exact .inr ⟨_, .unlisted consistent absent⟩
  · exact .inr ⟨failure, .entry split prior fault⟩

namespace RustTables

variable {registry : Registry} {failure : Failure}

theorem ofRegistry_result (registry : Registry) : (ofRegistry registry).result = make registry := by
  rw [ofRegistry]
  cases make registry <;> rfl

theorem make_of_accepted (accepted : Accepted registry) :
    ∃ rows list, List.Forall₂ TableRow.Describes rows registry.ids ∧ registry.IsPushList list ∧
      make registry = .ok (ofRows rows (list.values.map Int.toNat)) := by
  obtain ⟨consistent, list, first, fitting⟩ := accepted
  obtain ⟨rows, made, described⟩ := rowsAfter_of_consistent consistent
  refine ⟨rows, list, described, first, ?_⟩
  simp only [make, made, Registry.pushIds_of_isPushList first, pushWords_of_fitting fitting, bind,
    Except.bind]

theorem make_of_firstFault (fault : FirstFault registry failure) :
    make registry = .error failure := by
  cases fault with
  | entry split consistent fault =>
      simp only [make, split, rowsAfter_of_first_fault consistent fault, bind, Except.bind]
  | unlisted consistent absent =>
      obtain ⟨rows, made, _⟩ := rowsAfter_of_consistent consistent
      simp only [make, made, Registry.pushIds_of_absent absent, bind, Except.bind]
  | pushId consistent first split fitting wide =>
      obtain ⟨rows, made, _⟩ := rowsAfter_of_consistent consistent
      simp only [make, made, Registry.pushIds_of_isPushList first, split,
        pushWords_of_wide fitting wide, bind, Except.bind]

theorem accepted_of_make {tables : RustTables} (made : make registry = .ok tables) :
    Accepted registry := by
  rcases accepted_or_fault registry with accepted | ⟨failure, fault⟩
  · exact accepted
  · rw [make_of_firstFault fault] at made
    contradiction

/-- Tables are made exactly for the accepted registries. For any other, what is reported is the first
thing that is wrong with it. -/
theorem ofRegistry_outcome (registry : Registry) :
    ((∃ tables, (ofRegistry registry).result = .ok tables) ↔ Accepted registry) ∧
      ∀ failure, (ofRegistry registry).result = .error failure ↔ FirstFault registry failure := by
  simp only [ofRegistry_result]
  refine ⟨⟨?_, ?_⟩, fun failure => ⟨?_, make_of_firstFault⟩⟩
  · rintro ⟨tables, made⟩
    exact accepted_of_make made
  · intro accepted
    obtain ⟨rows, list, _, _, made⟩ := make_of_accepted accepted
    exact ⟨_, made⟩
  · intro failed
    rcases accepted_or_fault registry with accepted | ⟨reported, fault⟩
    · obtain ⟨rows, list, _, _, made⟩ := make_of_accepted accepted
      rw [made] at failed
      contradiction
    · rw [make_of_firstFault fault] at failed
      exact Except.error.inj failed ▸ fault

/-- Of several things that are wrong, the shared constant of the second entry comes before its
identifier, and both come before the missing list. -/
example : (ofRegistry ⟨[⟨"Qot_Sub", 3001⟩, ⟨"QotSub", -1⟩], []⟩).result =
    .error (.duplicateName "Qot_Sub" "QotSub" "QOT_SUB") := rfl

end RustTables

end IdRegistry
