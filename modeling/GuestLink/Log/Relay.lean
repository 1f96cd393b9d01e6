/-!
# Relays

Records pass from the thread that makes them to the one that writes them through a `Relay`, a queue
of fixed size.  A record that finds the queue full is lost, so that nobody waits for the terminal.
-/

namespace GuestLink.Log

/-- How many records may wait. -/
def relayCapacity : Nat := 1024

/-- A queue of records, and those that were taken from it, in order. -/
structure Relay (α : Type) where
  waiting : List α := []
  delivered : List α := []

namespace Relay

variable {α : Type}

/-- Queues a record unless the queue is full. -/
def offer (q : Relay α) (a : α) : Relay α :=
  if q.waiting.length < relayCapacity then { q with waiting := q.waiting ++ [a] } else q

/-- Delivers the oldest waiting record. -/
def deliver (q : Relay α) : Relay α :=
  match q.waiting with
  | [] => q
  | a :: rest => { waiting := rest, delivered := q.delivered ++ [a] }

/-- Delivers all waiting records. -/
def drain (q : Relay α) : Relay α := { waiting := [], delivered := q.delivered ++ q.waiting }

/-- What is delivered of records that all come while the first of them is being written. -/
def burst : List α → List α
  | [] => []
  | a :: rest => (rest.foldl offer (offer {} a).deliver).drain.delivered

end Relay

end GuestLink.Log
