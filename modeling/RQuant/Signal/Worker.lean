import RQuant.Signal.Calls

/-!
# Notification workers

`run_notification_batch` claims due deliveries and works through them one by
one.  A running batch stops before each store call and each provider call, so
that batches interleave at exactly those points.  A store call is atomic, and
may raise for reasons of its own: the `fault` of a step.
-/

namespace RQuant.Signal

open Foundation

/-- `_error_text` of what the store raises. -/
def BusError.errorText : BusError → String
  | .value text => "ValueError: " ++ text
  | .activation text => "LegacySignalWriteActivationError: " ++ text
  | .lease text => "SignalBusLeaseError: " ++ text
  | .conflict text => "SignalRouteConflictError: " ++ text
  | .sequence text => "SignalRouteSequenceError: " ++ text
  | .sourceSequence text => "SignalBusSourceSequenceError: " ++ text
  | .missing text => "KeyError: \"" ++ text ++ "\""
  | .integrity text => "IntegrityError: " ++ text
  | .overflow text => "OverflowError: " ++ text
  | .encoding text => "UnicodeEncodeError: " ++ text

inductive NotificationItemOutcome where
  | succeeded
  | failed
  | unknown
  | notAttempted
  deriving DecidableEq

structure NotificationItemResult where
  (outboxId signalId : Digest)
  channel : DeliveryChannel
  attemptNo : ℕ
  outcome : NotificationItemOutcome
  observedAt : Time
  (providerReceipt error : Option String)
  deriving DecidableEq

def OutboxRecord.result (record : OutboxRecord) (outcome : NotificationItemOutcome)
    (observedAt : Time) (providerReceipt error : Option String) :
    NotificationItemResult where
  outboxId := record.outboxId
  signalId := record.signalId
  channel := record.target.channel
  attemptNo := record.attemptCount
  outcome := outcome
  observedAt := observedAt
  providerReceipt := providerReceipt
  error := error

/-- How a provider call ends: a receipt, or something that is none, a failure
the provider confirms, or any other raise. -/
inductive ProviderOutcome where
  | returned (receipt : Option String)
  | confirmedFailure (error : String)
  | raised (error : String)
  deriving DecidableEq

/-- Where a batch stands between two store or provider calls. -/
inductive BatchPhase where
  | ready
  | delivering (record : OutboxRecord) (invocation : ℕ)
  | completing (record : OutboxRecord) (completedAt : Time) (receipt : String)
  | failing (record : OutboxRecord) (completedAt : Time) (error : String)
  | releasing (record : OutboxRecord) (observedAt : Time) (reason : String)
  | recording (record : OutboxRecord) (observedAt : Time) (error : String) (receipt : Option String)
  deriving DecidableEq

/-- A running `run_notification_batch`. -/
structure Batch where
  workerId : String
  channels : List DeliveryChannel
  (startedAt leaseFor : Time)
  (limit claimedCount : ℕ)
  pending : List OutboxRecord
  cursorTime : Time
  items : List NotificationItemResult
  phase : BatchPhase
  deriving DecidableEq

def Batch.start (workerId : String) (channels : List DeliveryChannel)
    (now leaseFor : Time) (limit : ℕ) (records : List OutboxRecord) :
    Batch where
  workerId := workerId
  channels := channels
  startedAt := now
  leaseFor := leaseFor
  limit := limit
  claimedCount := records.length
  pending := records
  cursorTime := now
  items := []
  phase := .ready

/-- What the surroundings decide about the next step of a batch: the clock it
reads, how the provider answers, whether the store is out of order. -/
structure BatchInput where
  (clock secondClock : Time)
  provider : ProviderOutcome
  fault : Option BusError

/-- What a step of a batch does besides moving on. -/
inductive BatchEffect where
  | quiet
  | invoke (outboxId : Digest)
  | answer (invocation : ℕ) (outcome : ProviderOutcome)

/-- A store call as a worker sees it: the fault, or the call's own outcome. -/
def attemptCall {α : Type} (fault : Option BusError)
    (call : SignalBus → Except BusError α × SignalBus) (bus : SignalBus) :
    Except BusError α × SignalBus :=
  match fault with
  | some raised => (.error raised, bus)
  | none => call bus

namespace Batch

def done (batch : Batch) (item : NotificationItemResult) : Batch :=
  { batch with items := batch.items ++ [item], phase := .ready }

/-- `NotificationDelivery` for a claimed record, or why it cannot be built. -/
def prepare (store : SignalBusStore) (fault : Option BusError)
    (record : OutboxRecord) (bus : SignalBus) : Except String SignalEnvelope :=
  let read : Except BusError (Option SignalEnvelope) :=
    match fault with
    | some raised => .error raised
    | none => store.signal record.signalId bus
  match read with
  | .error raised => .error raised.errorText
  | .ok none => .error "RuntimeError: leased signal is missing"
  | .ok (some signal) =>
    if record.status ≠ .leased then
      .error "ValidationError: notification delivery requires a leased outbox record"
    else if record.signalId ≠ signal.signalId then
      .error "ValidationError: signal does not match the leased outbox record"
    else .ok signal

/-- The head of the loop: release a delivery whose lease has elapsed or that
cannot be prepared, fail one without a provider, else call the provider. -/
def take (store : SignalBusStore) (input : BatchInput) (invocation : ℕ)
    (record : OutboxRecord) (deadline : Time) (rest : List OutboxRecord)
    (bus : SignalBus) (batch : Batch) : Batch × BatchEffect :=
  let cursorTime := max batch.cursorTime input.clock
  let moved := { batch with pending := rest, cursorTime := cursorTime }
  if deadline ≤ cursorTime ∨ record.expiresAt ≤ cursorTime then
    ({ moved with
        phase := .releasing record cursorTime "batch lease elapsed before provider call" }, .quiet)
  else
    match prepare store input.fault record bus with
    | .error reason =>
      ({ moved with
          phase := .releasing record cursorTime
            ("delivery preparation failed: " ++ reason) }, .quiet)
    | .ok _ =>
      if record.target.channel ∈ batch.channels then
        ({ moved with phase := .delivering record invocation }, .invoke record.outboxId)
      else
        ({ moved with
            cursorTime := input.secondClock
            phase := .failing record input.secondClock
              ("no provider configured for " ++ record.target.channel.text) }, .quiet)

def receive (input : BatchInput) (record : OutboxRecord) (invocation : ℕ)
    (batch : Batch) : Batch × BatchEffect :=
  let completedAt := input.clock
  let moved := { batch with cursorTime := completedAt }
  let next := match input.provider with
    | .confirmedFailure error => BatchPhase.failing record completedAt error
    | .raised error => .recording record completedAt error none
    | .returned none =>
      .recording record completedAt
        "provider returned an empty or invalid receipt after delivery" none
    | .returned (some receipt) =>
      if Blank receipt then
        .recording record completedAt
          "provider returned an empty or invalid receipt after delivery" none
      else .completing record completedAt receipt
  ({ moved with phase := next }, .answer invocation input.provider)

section

variable (store : SignalBusStore) (fault : Option BusError) (record : OutboxRecord)

def writeSuccess (completedAt : Time) (receipt : String)
    (batch : Batch) (bus : SignalBus) : Batch × SignalBus :=
  match attemptCall fault
      (store.completeSuccess record.outboxId batch.workerId
        record.attemptCount completedAt receipt) bus with
  | (.ok _, after) => (batch.done (record.result .succeeded completedAt (some receipt) none), after)
  | (.error raised, after) =>
    ({ batch with
        phase := .recording record completedAt
          ("success write-back unknown: " ++ raised.errorText)
          (some receipt) }, after)

/-- `_complete_known_failure`. -/
def writeFailure (completedAt : Time) (error : String)
    (batch : Batch) (bus : SignalBus) : Batch × SignalBus :=
  match attemptCall fault
      (store.completeFailure record.outboxId batch.workerId
        record.attemptCount completedAt error) bus with
  | (.ok _, after) => (batch.done (record.result .failed completedAt none (some error)), after)
  | (.error raised, after) =>
    (batch.done (record.result .unknown completedAt none
      (some ("failure write-back unknown: " ++ raised.errorText))), after)

/-- `_release_not_attempted`, up to the evidence of a failed release. -/
def writeRelease (observedAt : Time) (reason : String)
    (batch : Batch) (bus : SignalBus) : Batch × SignalBus :=
  match attemptCall fault
      (store.releaseUnattempted record.outboxId batch.workerId
        record.attemptCount observedAt reason) bus with
  | (.ok _, after) =>
    (batch.done (record.result .notAttempted observedAt none (some reason)), after)
  | (.error raised, after) =>
    ({ batch with
        phase := .recording record observedAt
          ("unattempted release failed: " ++ raised.errorText) none }, after)

end

/-- `_record_unknown`. -/
def writeUnknown (fault : Option BusError)
    (record : OutboxRecord) (observedAt : Time) (error : String)
    (receipt : Option String) (batch : Batch) (bus : SignalBus) :
    Batch × SignalBus :=
  match attemptCall fault
      (SignalBusStore.recordUnknownDelivery record.outboxId batch.workerId
        record.attemptCount observedAt error receipt) bus with
  | (.ok _, after) => (batch.done (record.result .unknown observedAt none (some error)), after)
  | (.error raised, after) =>
    (batch.done (record.result .unknown observedAt none
      (some (error ++ "; unknown evidence write failed: " ++ raised.errorText))), after)

/-- One step of a batch; there is none once every record is worked off, nor
after a claimed record without a lease, which the loop asserts against. -/
def step (store : SignalBusStore) (input : BatchInput) (invocation : ℕ)
    (batch : Batch) (bus : SignalBus) :
    Option (Batch × SignalBus × BatchEffect) :=
  match batch.phase with
  | .ready =>
    match batch.pending with
    | [] => none
    | record :: rest =>
      match record.leaseUntil with
      | none => none
      | some deadline =>
        let taken := take store input invocation record deadline rest bus batch
        some (taken.1, bus, taken.2)
  | .delivering record number =>
    let received := receive input record number batch
    some (received.1, bus, received.2)
  | .completing record completedAt receipt =>
    let written := writeSuccess store input.fault record completedAt receipt batch bus
    some (written.1, written.2, .quiet)
  | .failing record completedAt error =>
    let written := writeFailure store input.fault record completedAt error batch bus
    some (written.1, written.2, .quiet)
  | .releasing record observedAt reason =>
    let written := writeRelease store input.fault record observedAt reason batch bus
    some (written.1, written.2, .quiet)
  | .recording record observedAt error receipt =>
    let written := writeUnknown input.fault record observedAt error receipt batch bus
    some (written.1, written.2, .quiet)

end Batch

/-- One call of a provider; it has no outcome while it runs, nor when its
worker crashed during it. -/
structure Invocation where
  number : ℕ
  outboxId : Digest
  outcome : Option ProviderOutcome
  deriving DecidableEq

/-- One bus, the batches running on it, and the provider calls so far. -/
structure NotificationSystem where
  bus : SignalBus
  batches : List Batch
  invocations : List Invocation

/-- What can happen next. -/
inductive SystemEvent where
  | ingest (signal : SignalEnvelopeFamily) (receivedAt : Time)
  | route (signalId : Digest) (targets : List DeliveryTarget) (now : Time)
  | bindRouteSource (previous : PreviousGenerations) (request : RouteSourceBindingRequest)
  | commitSourceRoute (previous : PreviousGenerations) (commit : SourceRouteCommit)
  | recoverExpiredLeases (now : Time)
  | start (workerId : String) (channels : List DeliveryChannel) (now leaseFor : Time) (limit : ℕ)
  | work (batch : ℕ) (input : BatchInput)
  | crash (batch : ℕ)

def SystemEvent.call? : SystemEvent → Option BusCall
  | .ingest signal receivedAt => some (.ingest signal receivedAt)
  | .route signalId targets now => some (.route signalId targets now)
  | .bindRouteSource previous request => some (.bindRouteSource previous request)
  | .commitSourceRoute previous commit => some (.commitSourceRoute previous commit)
  | .recoverExpiredLeases now => some (.recoverExpiredLeases now)
  | _ => none

namespace NotificationSystem

def initial : NotificationSystem where
  bus := SignalBus.initial
  batches := []
  invocations := []

def logEffect (invocations : List Invocation) : BatchEffect → List Invocation
  | .quiet => invocations
  | .invoke outboxId => invocations ++ [{ number := invocations.length, outboxId, outcome := none }]
  | .answer number outcome =>
    updateKey Invocation.number number
      (fun invocation => { invocation with outcome := some outcome })
      invocations

section

variable (store : SignalBusStore)

/-- A new batch claims its deliveries; a claim that raises starts nothing. -/
def startBatch (workerId : String)
    (channels : List DeliveryChannel) (now leaseFor : Time) (limit : ℕ)
    (system : NotificationSystem) : NotificationSystem :=
  match store.claimDue workerId now leaseFor limit system.bus with
  | (.ok records, after) =>
    { system with
      bus := after,
      batches := system.batches ++ [Batch.start workerId channels now leaseFor limit records] }
  | (.error _, after) => { system with bus := after }

def workBatch (index : ℕ) (input : BatchInput) (system : NotificationSystem) : NotificationSystem :=
  match system.batches[index]? with
  | none => system
  | some batch =>
    match batch.step store input system.invocations.length system.bus with
    | none => system
    | some (moved, after, effect) =>
      { bus := after, batches := system.batches.set index moved,
        invocations := logEffect system.invocations effect }

def step (system : NotificationSystem) : SystemEvent → NotificationSystem
  | .start workerId channels now leaseFor limit =>
    system.startBatch store workerId channels now leaseFor limit
  | .work index input => system.workBatch store index input
  | .crash index => { system with batches := system.batches.eraseIdx index }
  | event =>
    match event.call? with
    | some call => { system with bus := call.apply store system.bus }
    | none => system

/-- The systems that any interleaving of events leads to. -/
def Reaches : NotificationSystem → NotificationSystem → Prop :=
  Foundation.Reaches (fun system event after => system.step store event = after) fun _ _ => True

end

/-- The provider calls made for one delivery, in order. -/
def invocationsOf (system : NotificationSystem) (outboxId : Digest) : List Invocation :=
  system.invocations.filter fun invocation => invocation.outboxId = outboxId

end NotificationSystem

end RQuant.Signal
