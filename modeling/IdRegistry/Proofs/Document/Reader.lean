import IdRegistry.Document.Reader
import IdRegistry.Proofs.Markup.Encoding
import IdRegistry.Proofs.Markup.Scan

namespace IdRegistry.Document

open Markup (Decoder Event Scan)

/-! The builder only ever sees events. `Tells` is what the other two machines of a reader make of bytes: the
events of the document, whatever encoding it is in and whatever texts it declares. What comes out of a
document is then what its events lead to (`parse_of_tells`).
-/

namespace Builder

/-- Take events until the root element ends or something is wrong. -/
def run (builder : Builder) : List Event → Outcome
  | [] => .more builder
  | event :: rest =>
      match builder.step event with
      | .more next => run next rest
      | outcome => outcome

theorem run_append (builder : Builder) (events more : List Event) :
    builder.run (events ++ more) = match builder.run events with
      | .more next => next.run more
      | outcome => outcome := by
  induction events generalizing builder with
  | nil => rfl
  | cons event events ih =>
      rw [List.cons_append, run, run]
      cases builder.step event with
      | more next => exact ih next
      | complete entries => rfl
      | fault found => rfl

theorem run_append_of_more {builder next : Builder} {events : List Event}
    (first : builder.run events = .more next) (more : List Event) :
    builder.run (events ++ more) = next.run more := by
  rw [run_append, first]

end Builder

/-- The reader after events with the given outcome. -/
def Outcome.reader (decoder : Decoder) (scan : Scan) : Outcome → Reader
  | .more builder => .reading ⟨decoder, scan, builder⟩
  | .complete entries => .finished (.ok entries)
  | .fault found => .finished (.error found)

/-- What comes of a document whose events have the given outcome. -/
def Outcome.result : Outcome → Except DocumentFault (List Definition)
  | .more _ => .error .malformed
  | .complete entries => .ok entries
  | .fault found => .error found

/-- Events with this outcome decide what comes of a document, whatever follows them. -/
def Outcome.isLast : Outcome → Bool
  | .more _ => false
  | .complete _ => true
  | .fault _ => true

/-- The decoder after events. A declaration among them may give it another encoding. -/
def heed? (decoder : Decoder) : List Event → Option Decoder
  | [] => some decoder
  | .declared (some label) :: rest =>
      match (Decoder.encoding? label).bind decoder.declare with
      | some next => heed? next rest
      | none => none
  | _ :: rest => heed? decoder rest

/-- No event declares the encoding. -/
def Undeclared (events : List Event) : Prop := ∀ label, Event.declared label ∉ events

theorem undeclared_append {events more : List Event} :
    Undeclared (events ++ more) ↔ Undeclared events ∧ Undeclared more := by
  simp [Undeclared, not_or, forall_and]

theorem heed?_of_undeclared {events : List Event} (undeclared : Undeclared events)
    (decoder : Decoder) : heed? decoder events = some decoder := by
  induction events with
  | nil => rfl
  | cons event events ih =>
      have later : Undeclared events :=
        fun label member => undeclared label (List.mem_cons_of_mem _ member)
      cases event with
      | declared label => exact absurd List.mem_cons_self (undeclared label)
      | _ => exact ih later

theorem Builder.step_declared (builder : Builder) (label : Option (List Char)) :
    builder.step (.declared label) = .more builder := by
  cases builder with
  | beforeRoot => rfl
  | root entries => rfl
  | entry entries kind fields place => cases place <;> rfl

theorem deliver_of_heed? {events : List Event} {decoder after : Decoder}
    (heeded : heed? decoder events = some after) (builder : Builder) :
    deliver decoder builder events = match builder.run events with
      | .more next => .more after next
      | .complete entries => .finished (.ok entries)
      | .fault fault => .finished (.error fault) := by
  induction events generalizing decoder builder with
  | nil =>
      obtain rfl := Option.some.inj heeded
      rfl
  | cons event events ih =>
      have other (first : deliver decoder builder (event :: events) = match builder.step event with
          | .more next => deliver decoder next events
          | .complete entries => .finished (.ok entries)
          | .fault fault => .finished (.error fault))
          (later : heed? decoder events = some after) :
          deliver decoder builder (event :: events) = match builder.run (event :: events) with
            | .more next => .more after next
            | .complete entries => .finished (.ok entries)
            | .fault fault => .finished (.error fault) := by
        rw [first, Builder.run]
        cases builder.step event with
        | more next => exact ih later next
        | complete entries => rfl
        | fault found => rfl
      cases event with
      | start name attributes => exact other rfl heeded
      | close => exact other rfl heeded
      | text content => exact other rfl heeded
      | declared label =>
          cases label with
          | none => exact other rfl heeded
          | some label =>
              cases declared : (Decoder.encoding? label).bind decoder.declare with
              | none => simp [heed?, declared] at heeded
              | some next =>
                  simp only [heed?, declared] at heeded
                  simp only [deliver, declared, Builder.run, Builder.step_declared]
                  exact ih heeded builder

/-- The machines of a reader that come before the builder. -/
structure Source where
  decoder : Decoder
  scan : Scan

/-- Characters that give events, with the declared texts that they call for: at most `limit` of them,
but for those that are empty. -/
inductive Feeds : Nat → List Char → Source → List Event → Source → Prop where
  | nil {limit : Nat} (source : Source) : Feeds limit [] source [] source
  | plain {limit : Nat} {c : Char} {rest : List Char} {source last : Source} {scan : Scan}
      {decoder : Decoder} {events more : List Event}
      (stepped : source.scan.step c = ⟨events, some scan, []⟩)
      (heeded : heed? source.decoder events = some decoder)
      (later : Feeds limit rest ⟨decoder, scan⟩ more last) :
      Feeds limit (c :: rest) source (events ++ more) last
  | replaced {limit : Nat} {c first : Char} {text rest : List Char} {source last : Source}
      {scan : Scan} {decoder : Decoder} {events more : List Event}
      (stepped : source.scan.step c = ⟨events, some scan, first :: text⟩)
      (heeded : heed? source.decoder events = some decoder)
      (later : Feeds limit (first :: text ++ rest) ⟨decoder, scan⟩ more last) :
      Feeds (limit + 1) (c :: rest) source (events ++ more) last

/-- Bytes that give events. -/
inductive Source.Reads : Source → List UInt8 → List Event → Source → Prop where
  | nil (source : Source) : Reads source [] [] source
  | silent {source last : Source} {decoder : Decoder} {byte : UInt8} {rest : List UInt8}
      {events : List Event} (stepped : source.decoder.step byte = some (decoder, none))
      (later : Reads ⟨decoder, source.scan⟩ rest events last) :
      Reads source (byte :: rest) events last
  | character {source next last : Source} {decoder : Decoder} {c : Char} {byte : UInt8}
      {rest : List UInt8} {events more : List Event}
      (stepped : source.decoder.step byte = some (decoder, some c))
      (fed : Feeds replacementLimit [c] ⟨decoder, source.scan⟩ events next)
      (later : Reads next rest more last) : Reads source (byte :: rest) (events ++ more) last

/-- The bytes begin with a document that gives the events. -/
def Tells (bytes : List UInt8) (events : List Event) : Prop :=
  ∃ head rest last, bytes = head ++ rest ∧ Source.Reads ⟨.opening, .start⟩ head events last

section Documents

variable {source next last : Source} {builder : Builder} {bytes : List UInt8}
variable {events : List Event}

theorem feed_of_feeds {limit : Nat} {text : List Char} (feeds : Feeds limit text source events last) :
    feed limit text ⟨source.decoder, source.scan, builder⟩ =
      (builder.run events).reader last.decoder last.scan := by
  induction feeds generalizing builder with
  | nil source =>
      rw [feed]
      rfl
  | plain stepped heeded later ih =>
      rw [feed, Builder.run_append]
      simp only [stepped, deliver_of_heed? heeded]
      cases builder.run _ with
      | more builder => simpa using ih
      | complete => rfl
      | fault => rfl
  | replaced stepped heeded later ih =>
      rw [feed, Builder.run_append]
      simp only [stepped, deliver_of_heed? heeded]
      cases builder.run _ with
      | more builder => simpa using ih
      | complete => rfl
      | fault => rfl

/-- The builder can be looked at after the machines that come before it. -/
theorem run_of_reads (reads : Source.Reads source bytes events last) :
    (Reader.reading ⟨source.decoder, source.scan, builder⟩).run bytes =
      (builder.run events).reader last.decoder last.scan := by
  induction reads generalizing builder with
  | nil source => rfl
  | silent stepped later ih =>
      rw [Reader.run, List.foldl_cons, Reader.step]
      simp only [stepped]
      exact ih
  | character stepped fed later ih =>
      rw [Reader.run, List.foldl_cons, Reader.step, Builder.run_append]
      simp only [stepped, feed_of_feeds fed]
      cases builder.run _ with
      | more builder => exact ih
      | complete entries => exact Reader.run_finished _ _
      | fault found => exact Reader.run_finished _ _

theorem parse_of_tells (tells : Tells bytes events)
    (ended : (Builder.beforeRoot.run events).isLast = true) :
    parse bytes = (Builder.beforeRoot.run events).result := by
  obtain ⟨head, rest, last, rfl, reads⟩ := tells
  have ran : Reader.start.run head =
      (Builder.beforeRoot.run events).reader last.decoder last.scan := run_of_reads reads
  rw [parse, Reader.run_append, ran]
  cases outcome : Builder.beforeRoot.run events with
  | more builder => simp [outcome, Outcome.isLast] at ended
  | complete entries => rw [Outcome.reader, Reader.run_finished]; rfl
  | fault found => rw [Outcome.reader, Reader.run_finished]; rfl

theorem parse_eq_ok_of_run {definitions : List Definition} (tells : Tells bytes events)
    (ran : Builder.beforeRoot.run events = .complete definitions) : parse bytes = .ok definitions := by
  rw [parse_of_tells tells (by rw [ran]; rfl), ran]
  rfl

theorem parse_eq_error_of_run {fault : DocumentFault} (tells : Tells bytes events)
    (ran : Builder.beforeRoot.run events = .fault fault) : parse bytes = .error fault := by
  rw [parse_of_tells tells (by rw [ran]; rfl), ran]
  rfl

end Documents

namespace Source

variable {scan next last : Scan} {marked untouched : Bool} {c : Char}
variable {text : List Char} {events : List Event}

theorem Reads.append {source next last : Source} {bytes rest : List UInt8} {more : List Event}
    (first : Reads source bytes events next) (second : Reads next rest more last) :
    Reads source (bytes ++ rest) (events ++ more) last := by
  induction first with
  | nil source => exact second
  | silent stepped _ ih => exact .silent stepped (ih second)
  | character stepped fed _ ih =>
      rw [List.append_assoc]
      exact .character stepped fed (ih second)

theorem reads_of_completes {decoder after : Decoder} {bytes : List UInt8}
    (completes : Decoder.Completes decoder bytes after c)
    (stepped : scan.step c = ⟨events, some next, []⟩) (undeclared : Undeclared events) :
    Reads ⟨decoder, scan⟩ bytes events ⟨after, next⟩ := by
  induction completes with
  | @last decoder after byte c decoded =>
      have fed : Feeds replacementLimit [c] ⟨after, scan⟩ (events ++ []) ⟨after, next⟩ :=
        .plain stepped (heed?_of_undeclared undeclared after) (.nil _)
      have reads : Reads ⟨decoder, scan⟩ [byte] (events ++ [] ++ []) ⟨after, next⟩ :=
        .character decoded fed (.nil _)
      rwa [List.append_nil, List.append_nil] at reads
  | more decoded _ ih => exact .silent decoded (ih stepped)

/-- Text is read character by character. The first one may not be taken for a byte order mark. -/
theorem reads_encoded (reads : Scan.Reads scan text events last) (undeclared : Undeclared events)
    (unmarked : untouched = true → text.head? ≠ some '\uFEFF') :
    Reads ⟨.utf8 marked untouched .none, scan⟩ (text.flatMap String.utf8EncodeChar) events
      ⟨.utf8 marked (untouched && text.isEmpty) .none, last⟩ := by
  induction reads generalizing untouched with
  | nil scan =>
      rw [List.isEmpty_nil, Bool.and_true]
      exact .nil _
  | @cons scan next last c rest events later stepped reads ih =>
      obtain ⟨first, second⟩ := undeclared_append.mp undeclared
      have shown : ¬ (untouched = true ∧ c = '\uFEFF') := by
        rintro ⟨before, rfl⟩
        exact unmarked before rfl
      rw [List.flatMap_cons, List.isEmpty_cons, Bool.and_false]
      exact (reads_of_completes (Decoder.utf8_completes shown) stepped first).append (ih second nofun)

/-- Without a byte order mark a document is read as UTF-8. -/
theorem reads_opening {bytes : List UInt8} {byte : UInt8} {source : Source}
    (plain : byte.toNat < 0xFE)
    (reads : Reads ⟨.utf8 false true .none, scan⟩ (byte :: bytes) events source) :
    Reads ⟨.opening, scan⟩ (byte :: bytes) events source := by
  have same := Decoder.step_opening plain
  cases reads with
  | silent stepped later => exact .silent (same.trans stepped) later
  | character stepped fed later => exact .character (same.trans stepped) fed later

theorem reads_start (reads : Scan.Reads .start text events last) (undeclared : Undeclared events)
    (nonempty : text ≠ []) (unmarked : text.head? ≠ some '\uFEFF') :
    Reads ⟨.opening, .start⟩ (text.flatMap String.utf8EncodeChar) events
      ⟨.utf8 false false .none, last⟩ := by
  have encoded := @reads_encoded _ _ false true _ _ reads undeclared fun _ => unmarked
  rw [List.isEmpty_eq_false_iff.mpr nonempty, Bool.and_false] at encoded
  obtain ⟨c, rest, rfl⟩ := List.exists_cons_of_ne_nil nonempty
  obtain ⟨byte, bytes, begins, plain⟩ := Decoder.exists_utf8EncodeChar c
  rw [List.flatMap_cons, begins, List.cons_append] at encoded ⊢
  exact reads_opening plain encoded

end Source

variable {last : Scan} {text : List Char} {events : List Event}

theorem Reader.run_start (reads : Scan.Reads .start text events last)
    (undeclared : Undeclared events) (nonempty : text ≠ []) (unmarked : text.head? ≠ some '\uFEFF') :
    Reader.start.run (text.flatMap String.utf8EncodeChar) =
      (Builder.beforeRoot.run events).reader (.utf8 false false .none) last :=
  run_of_reads (Source.reads_start reads undeclared nonempty unmarked)

theorem run_of_completes {decoder after : Decoder} {bytes : List UInt8} {c : Char} (scan : Scan)
    (builder : Builder) (completes : Decoder.Completes decoder bytes after c) :
    (Reader.reading ⟨decoder, scan, builder⟩).run bytes =
      feed replacementLimit [c] ⟨after, scan, builder⟩ := by
  induction completes with
  | last decoded =>
      rw [Reader.run, List.foldl_cons, Reader.step]
      simp only [decoded, List.foldl_nil]
  | more decoded _ ih =>
      rw [Reader.run, List.foldl_cons, Reader.step]
      simp only [decoded]
      exact ih

/-- A document is lost with the first character that the scan refuses, unless it has come to a result
before. -/
theorem parse_of_refused_after {c : Char} {rest : List Char} {builder : Builder}
    (reads : Scan.Reads .start text events last) (undeclared : Undeclared events)
    (ran : Builder.beforeRoot.run events = .more builder) (refused : last.step c = ⟨[], none, []⟩)
    (nonempty : text ≠ []) (unmarked : text.head? ≠ some '\uFEFF') :
    parse (String.ofList (text ++ c :: rest)).toUTF8.toList = .error .malformed := by
  have stopped : Reader.start.run (text.flatMap String.utf8EncodeChar ++ String.utf8EncodeChar c) =
      .finished (.error .malformed) := by
    have completes : Decoder.Completes (.utf8 false false .none) (String.utf8EncodeChar c)
      (.utf8 false false .none) c := Decoder.utf8_completes (by simp)
    rw [Reader.run_append, Reader.run_start reads undeclared nonempty unmarked, ran]
    change (Reader.reading _).run _ = _
    rw [run_of_completes last builder completes, feed, refused]
    rfl
  have split : (text ++ c :: rest).flatMap String.utf8EncodeChar =
      text.flatMap String.utf8EncodeChar ++ String.utf8EncodeChar c ++
        rest.flatMap String.utf8EncodeChar := by
    rw [List.flatMap_append, List.flatMap_cons, List.append_assoc]
  rw [parse, Markup.toUTF8_ofList, split, Reader.run_append_of_finished stopped]
  rfl

theorem parse_of_refused {c : Char} {rest : List Char} (reads : Scan.Reads .start text [] last)
    (refused : last.step c = ⟨[], none, []⟩) (nonempty : text ≠ [])
    (unmarked : text.head? ≠ some '\uFEFF') :
    parse (String.ofList (text ++ c :: rest)).toUTF8.toList = .error .malformed :=
  parse_of_refused_after reads (by simp [Undeclared]) rfl refused nonempty unmarked

theorem tells_of_reads (reads : Scan.Reads .start text events last) (undeclared : Undeclared events)
    (nonempty : text ≠ []) (unmarked : text.head? ≠ some '\uFEFF') :
    Tells (String.ofList text).toUTF8.toList events := by
  rw [Markup.toUTF8_ofList]
  exact ⟨_, [], _, (List.append_nil _).symm,
    Source.reads_start reads undeclared nonempty unmarked⟩

end IdRegistry.Document
