import IdRegistry.Proofs.Document.Written

namespace IdRegistry

namespace Document

namespace Reader

/-- Reading comes to an end at one byte, and is under way at every byte before it. -/
theorem exists_extent {reader : Reader} {bytes : List UInt8}
    {result : Except DocumentFault (List Definition)}
    (ended : reader.run bytes = .finished result) :
    ∃ head rest, bytes = head ++ rest ∧ reader.run head = .finished result ∧
      ∀ earlier after, head = earlier ++ after → after ≠ [] →
        ∃ session, reader.run earlier = .reading session := by
  induction bytes generalizing reader with
  | nil =>
      refine ⟨[], [], rfl, ended, fun earlier after split more => ?_⟩
      exact absurd (List.append_eq_nil_iff.mp split.symm).2 more
  | cons byte bytes ih =>
      cases reader with
      | finished other =>
          have same : Reader.finished other = .finished result :=
            (run_finished other (byte :: bytes)).symm.trans ended
          refine ⟨[], byte :: bytes, rfl, same, fun earlier after split more => ?_⟩
          exact absurd (List.append_eq_nil_iff.mp split.symm).2 more
      | reading session =>
          obtain ⟨head, rest, rfl, ran, underWay⟩ := ih ended
          refine ⟨byte :: head, rest, rfl, ran, fun earlier after split more => ?_⟩
          cases earlier with
          | nil => exact ⟨session, rfl⟩
          | cons first earlier =>
              obtain ⟨rfl, later⟩ := List.cons.inj split
              exact underWay earlier after later more

end Reader

theorem run_of_parse {bytes : List UInt8} {result : Except DocumentFault (List Definition)}
    (parsed : parse bytes = result) (decided : result ≠ .error .malformed) :
    Reader.start.run bytes = .finished result := by
  cases ran : Reader.start.run bytes with
  | finished other =>
      rw [parse, ran] at parsed
      exact congrArg Reader.finished parsed
  | reading session =>
      rw [parse, ran] at parsed
      exact absurd parsed.symm decided

theorem parse_of_run {bytes : List UInt8} {result : Except DocumentFault (List Definition)}
    (ran : Reader.start.run bytes = .finished result) : parse bytes = result := by
  rw [parse, ran]
  rfl

end Document

open Document Markup

/-- A result that is not merely the refusal of the markup: a registry, a name that is used twice, or a
fault in the entries. -/
inductive Decided : Except Failure Registry → Prop where
  | read (registry : Registry) : Decided (.ok registry)
  | repeated (name : String) : Decided (.error (.duplicateEntry name))
  | faulty {fault : DocumentFault} {detail : String} (told : fault.detail? = some detail) :
      Decided (.error (.document fault))

theorem parse_of_decided {bytes : List UInt8} (decided : Decided (readRegistry bytes).result) :
    parse bytes ≠ .error .malformed := by
  intro parsed
  rw [readRegistry, parsed] at decided
  cases decided with
  | faulty told => simp [DocumentFault.detail?] at told

theorem readRegistry_congr {bytes others : List UInt8} (same : parse bytes = parse others) :
    readRegistry bytes = readRegistry others := by
  rw [readRegistry, same, readRegistry]

/-- A decided result stands from one byte of the document on: whatever follows that byte, also after
the whole document, and nothing is decided before it. -/
theorem readRegistry_decided {bytes : List UInt8} (decided : Decided (readRegistry bytes).result) :
    (∀ more, readRegistry (bytes ++ more) = readRegistry bytes) ∧
      ∃ head rest, bytes = head ++ rest ∧
        (∀ more, readRegistry (head ++ more) = readRegistry bytes) ∧
        ∀ earlier after, head = earlier ++ after → after ≠ [] →
          readRegistry earlier = ⟨[], .error (.document .malformed)⟩ := by
  have ran := run_of_parse rfl (parse_of_decided decided)
  obtain ⟨head, rest, split, ended, underWay⟩ := Reader.exists_extent ran
  have anything (more : List UInt8) : readRegistry (head ++ more) = readRegistry bytes :=
    readRegistry_congr (parse_of_run (Reader.run_append_of_finished ended more))
  refine ⟨fun more => ?_, head, rest, split, anything, fun earlier after before more => ?_⟩
  · rw [split, List.append_assoc, anything, ← split]
  · obtain ⟨session, reading⟩ := underWay earlier after before more
    have unread : parse earlier = .error .malformed := by
      rw [parse, reading]
      rfl
    rw [readRegistry, unread]

/-- A registry and a fault in an entry, each followed by what is neither UTF-8 nor markup. -/
theorem readRegistry_decided_junk :
    let element (name : String) (attributes : List (String × String)) (children : List Node) :
        Node := .element (plainTag name attributes) children (some [])
    let list := element "r" []
      [element "list" [("name", "L")] [.comment [' '], element "item" [("value", "1")] []]]
    let other := element "r" [] [element "x" [] [], element "constant" [] []]
    let junk : List UInt8 := [0xFF, 0x3C, 0x21, 0x00]
    (readRegistry (list.bytes ++ junk)).result = .ok ⟨[], [⟨"L", [1]⟩]⟩ ∧
      (readRegistry (other.bytes ++ junk)).result =
        .error (.document (.unknownEntry "x")) := by
  intro element list other junk
  have listed : parse list.bytes = .ok [.list "L" ["1"]] :=
    parse_eq_ok_of_run (tells_of_wellFormed (by decide +kernel)) (by decide +kernel)
  have unknown : parse other.bytes = .error (.unknownEntry "x") :=
    parse_eq_error_of_run (tells_of_wellFormed (by decide +kernel)) (by decide +kernel)
  have first : (readRegistry list.bytes).result = .ok ⟨[], [⟨"L", [1]⟩]⟩ := by
    rw [readRegistry, listed]
    decide
  have second : (readRegistry other.bytes).result = .error (.document (.unknownEntry "x")) := by
    rw [readRegistry, unknown]
  constructor
  · rw [(readRegistry_decided (first ▸ .read _)).1, first]
  · rw [(readRegistry_decided (second ▸ .faulty rfl)).1, second]

end IdRegistry
