import IdRegistry.Document.Builder
import IdRegistry.Markup.Encoding
import IdRegistry.Markup.Scan

namespace IdRegistry.Document

open Markup (Decoder Event Scan)

/-! A document is read byte by byte through three machines: the bytes of a character are decoded, the
character is scanned, and the events that it completes go to the builder.

Of the bounds that a reader sets to documents only `replacementLimit` is here. The others are left out,
such as those of the length of a name (262144), of the attributes of a tag (65536) and of the characters
that declared texts make (1000000).
-/

structure Session where
  decoder : Decoder
  scan : Scan
  builder : Builder

inductive Reader where
  | reading (session : Session)
  | finished (result : Except DocumentFault (List Definition))

/-- What events lead to. The encoding that a document declares counts from there on. -/
inductive Delivery where
  | more (decoder : Decoder) (builder : Builder)
  | finished (result : Except DocumentFault (List Definition))

def deliver (decoder : Decoder) (builder : Builder) : List Event → Delivery
  | [] => .more decoder builder
  | .declared (some label) :: rest =>
      match (Decoder.encoding? label).bind decoder.declare with
      | some decoder => deliver decoder builder rest
      | none => .finished (.error .malformed)
  | event :: rest =>
      match builder.step event with
      | .more builder => deliver decoder builder rest
      | .complete entries => .finished (.ok entries)
      | .fault fault => .finished (.error fault)

/-- How many declared texts may be put in for one character of the document. -/
def replacementLimit : Nat := 10

/-- Read characters. Declared texts that they call for are read before the rest, at most `limit` of
them; one that is empty does not count. -/
def feed (limit : Nat) (characters : List Char) (session : Session) : Reader :=
  match characters with
  | [] => .reading session
  | c :: rest =>
      let step := session.scan.step c
      match deliver session.decoder session.builder step.events, step.next with
      | .finished result, _ => .finished result
      | .more _ _, none => .finished (.error .malformed)
      | .more decoder builder, some scan =>
          let session : Session := ⟨decoder, scan, builder⟩
          if step.replacement.isEmpty then feed limit rest session
          else
            match limit with
            | 0 => .finished (.error .malformed)
            | limit + 1 => feed limit (step.replacement ++ rest) session
termination_by (limit, characters.length)

namespace Reader

def start : Reader := .reading ⟨.opening, .start, .beforeRoot⟩

def step (reader : Reader) (byte : UInt8) : Reader :=
  match reader with
  | .finished result => .finished result
  | .reading session =>
      match session.decoder.step byte with
      | none => .finished (.error .malformed)
      | some (decoder, none) => .reading { session with decoder := decoder }
      | some (decoder, some c) => feed replacementLimit [c] { session with decoder := decoder }

def run (reader : Reader) (bytes : List UInt8) : Reader := bytes.foldl step reader

/-- The result, if there is no more to read. A document that has not ended is not well formed. -/
def result : Reader → Except DocumentFault (List Definition)
  | .finished result => result
  | .reading _ => .error .malformed

theorem run_append (reader : Reader) (bytes more : List UInt8) :
    reader.run (bytes ++ more) = (reader.run bytes).run more :=
  List.foldl_append

theorem run_finished (result : Except DocumentFault (List Definition)) (bytes : List UInt8) :
    (Reader.finished result).run bytes = .finished result := by
  induction bytes with
  | nil => rfl
  | cons byte rest ih => exact ih

/-- What follows the point where reading ends does not matter. -/
theorem run_append_of_finished {reader : Reader} {bytes : List UInt8}
    {result : Except DocumentFault (List Definition)}
    (ended : reader.run bytes = .finished result) (more : List UInt8) :
    reader.run (bytes ++ more) = .finished result := by
  rw [run_append, ended, run_finished]

end Reader

def parse (bytes : List UInt8) : Except DocumentFault (List Definition) :=
  (Reader.start.run bytes).result

end IdRegistry.Document
