import Nexolab.PythonValues

/-!
# The durable queue of the device agent

One SQLite database of the edge holds the outbound records and the last sequence
of each node stream.  A record gets its sequence in the transaction which inserts
it, so a retry of the same event finds its row.  Row identifiers are drawn in
order and never reused.
-/

namespace Nexolab

abbrev StreamSequences := String → Option ℕ

def StreamSequences.next (sequences : StreamSequences) (stream : String) :
    StreamSequences × ℕ :=
  let lastSequence := (sequences stream).getD 0 + 1
  (Function.update sequences stream (some lastSequence), lastSequence)

/-- A telemetry record: its event identifier and the rest of its fields. -/
structure EdgeRecord (D : Type) where
  eventId : String
  fields : D

structure SequencedPayload (D : Type) where
  record : EdgeRecord D
  nodeSequence : ℕ

structure OutboundRow (D : Type) where
  id : ℕ
  (eventId topic : String)
  payload : SequencedPayload D

structure EdgeDatabase (D : Type) where
  outboundQueue : List (OutboundRow D)
  nextId : ℕ
  sequences : StreamSequences

def EdgeDatabase.empty (D : Type) : EdgeDatabase D where
  outboundQueue := []
  nextId := 1
  sequences := fun _ => none

namespace EdgeDatabase

variable {D : Type}

/-- The transaction of `enqueue_with_sequence`; SQLite may refuse it. -/
def enqueueWithSequence (database : EdgeDatabase D) (topic : String)
    (record : EdgeRecord D) (stream : String) : EdgeDatabase D :=
  match database.outboundQueue.find? fun row => row.eventId = record.eventId with
  | some _ => database
  | none =>
    let (sequences, sequence) := database.sequences.next stream
    { outboundQueue := database.outboundQueue ++
        [⟨database.nextId, record.eventId, topic, ⟨record, sequence⟩⟩]
      nextId := database.nextId + 1
      sequences }

def oldest (database : EdgeDatabase D) (limit : ℕ) : List (OutboundRow D) :=
  database.outboundQueue.take limit

def delete (database : EdgeDatabase D) (recordId : ℕ) : EdgeDatabase D :=
  { database with
    outboundQueue := database.outboundQueue.filter fun row => row.id ≠ recordId }

end EdgeDatabase

end Nexolab
