import RQuant.Foundation.Runs
import RQuant.Signal.RouteLedger

/-!
# Calls on the signal bus

A run is a sequence of calls on one store under one retry policy, made by any
number of callers with clocks of their own; a call that raises leaves the tables
as they were.
-/

namespace RQuant.Signal

open Foundation

/-- A call on the store.  The two calls that may rotate a source carry the
previous generations their release knows. -/
inductive BusCall where
  | ingest (signal : SignalEnvelopeFamily) (receivedAt : Time)
  | route (signalId : Digest) (targets : List DeliveryTarget) (now : Time)
  | bindRouteSource (previous : PreviousGenerations) (request : RouteSourceBindingRequest)
  | commitSourceRoute (previous : PreviousGenerations) (commit : SourceRouteCommit)
  | claimDue (workerId : String) (now leaseFor : Time) (limit : ℕ)
  | completeSuccess (outboxId : Digest) (workerId : String) (attemptNo : ℕ)
      (completedAt : Time) (providerReceipt : String)
  | completeFailure (outboxId : Digest) (workerId : String) (attemptNo : ℕ)
      (completedAt : Time) (error : String)
  | releaseUnattempted (outboxId : Digest) (workerId : String) (attemptNo : ℕ)
      (releasedAt : Time) (reason : String)
  | recordUnknownDelivery (outboxId : Digest) (workerId : String) (attemptNo : ℕ)
      (observedAt : Time) (reason : String) (providerReceipt : Option String)
  | recoverExpiredLeases (now : Time)

section

variable (store : SignalBusStore)

def BusCall.apply : BusCall → SignalBus → SignalBus
  | .ingest signal receivedAt, bus => (store.ingest signal receivedAt bus).2
  | .route signalId targets now, bus => (store.route signalId targets now bus).2
  | .bindRouteSource previous request, bus => (Signal.bindRouteSource previous request bus).2
  | .commitSourceRoute previous commit, bus => (store.commitSourceRoute previous commit bus).2
  | .claimDue workerId now leaseFor limit, bus => (store.claimDue workerId now leaseFor limit bus).2
  | .completeSuccess outboxId workerId attemptNo completedAt receipt, bus =>
    (store.completeSuccess outboxId workerId attemptNo completedAt receipt bus).2
  | .completeFailure outboxId workerId attemptNo completedAt error, bus =>
    (store.completeFailure outboxId workerId attemptNo completedAt error bus).2
  | .releaseUnattempted outboxId workerId attemptNo releasedAt reason, bus =>
    (store.releaseUnattempted outboxId workerId attemptNo releasedAt reason bus).2
  | .recordUnknownDelivery outboxId workerId attemptNo observedAt reason receipt, bus =>
    (SignalBusStore.recordUnknownDelivery outboxId workerId attemptNo
      observedAt reason receipt bus).2
  | .recoverExpiredLeases now, bus => (store.recoverExpiredLeases now bus).2

def BusStep (bus : SignalBus) (call : BusCall) (after : SignalBus) : Prop :=
  call.apply store bus = after

def BusReaches (allowed : SignalBus → BusCall → Prop) : SignalBus → SignalBus → Prop :=
  Reaches (BusStep store) allowed

def applyCalls (bus : SignalBus) (calls : List BusCall) : SignalBus :=
  calls.foldl (fun current call => call.apply store current) bus

end

end RQuant.Signal
