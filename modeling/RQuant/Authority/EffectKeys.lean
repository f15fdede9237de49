import RQuant.Authority.Accounting

/-!
# Effect keys

An operation takes effect once because its effect key is unique in the journal.
The key joins the kind of the operation, the parent and the call with colons.
It tells two operations apart when the parents, or when the calls, contain no
colon themselves.
-/

namespace RQuant.Authority

open Foundation Quota List Database

/-- The refusal of an operation whose effect key is in the journal. -/
def effectBound : AuthorityError := .conflict "effect key is already bound to another operation"

section

variable (operation : OperationKind)

def OperationKind.OnParent : Prop :=
  operation = .reserveParent ∨ operation = .releaseUnused
deriving Decidable

def effectKeyOf (parentId : String) (callId : Option String) : String :=
  match callId with
  | none => parentEffectKey operation parentId
  | some called => callEffectKey operation parentId called

theorem Request.effectKey_eq (request : Request) :
    request.effectKey = effectKeyOf request.kind request.parentId request.callId? := by
  cases request <;> rfl

theorem Request.onParent_iff (request : Request) :
    request.kind.OnParent ↔ request.callId? = none := by
  cases request <;> simp [Request.kind, Request.callId?, OperationKind.OnParent]

theorem effectStem_plain : ':' ∉ operation.effectStem.toList := by
  cases operation <;> decide

theorem effectStem_injective : Function.Injective OperationKind.effectStem := by
  intro left right same
  cases left <;> cases right <;> first | rfl | exact absurd same (by decide)

theorem toList_parentEffectKey (parentId : String) : (parentEffectKey operation parentId).toList =
    operation.effectStem.toList ++ ':' :: parentId.toList := by
  simp [parentEffectKey, String.toList_append]

theorem toList_callEffectKey (parentId callId : String) :
    (callEffectKey operation parentId callId).toList =
      operation.effectStem.toList ++ ':' :: (parentId.toList ++ ':' :: callId.toList) := by
  simp [callEffectKey, String.toList_append]

end

def Separable (left right : String × Option String) : Prop :=
  (':' ∉ left.1.toList ∧ ':' ∉ right.1.toList) ∨
    (∀ callId ∈ left.2, ':' ∉ callId.toList) ∧ ∀ callId ∈ right.2, ':' ∉ callId.toList

theorem effectKeyOf_injective (leftShape : left.OnParent ↔ leftCall = none)
    (rightShape : right.OnParent ↔ rightCall = none)
    (separable : Separable (leftParent, leftCall) (rightParent, rightCall))
    (same : effectKeyOf left leftParent leftCall = effectKeyOf right rightParent rightCall) :
    left = right ∧ leftParent = rightParent ∧ leftCall = rightCall := by
  have lists := congrArg String.toList same
  have stems : ∀ {leftRest rightRest},
      left.effectStem.toList ++ ':' :: leftRest = right.effectStem.toList ++ ':' :: rightRest →
      left = right ∧ leftRest = rightRest := by
    intro leftRest rightRest joined
    obtain ⟨stem, rest⟩ := append_separator_inj (effectStem_plain left)
      (effectStem_plain right) joined
    exact ⟨effectStem_injective (String.toList_inj.mp stem), rest⟩
  cases leftCall with
  | none =>
    cases rightCall with
    | none =>
      simp only [effectKeyOf, toList_parentEffectKey] at lists
      obtain ⟨rfl, parents⟩ := stems lists
      exact ⟨rfl, String.toList_inj.mp parents, rfl⟩
    | some called =>
      simp only [effectKeyOf, toList_parentEffectKey, toList_callEffectKey] at lists
      obtain ⟨rfl, -⟩ := stems lists
      exact absurd (rightShape.mp (leftShape.mpr rfl)) (by simp)
  | some called =>
    cases rightCall with
    | none =>
      simp only [effectKeyOf, toList_parentEffectKey, toList_callEffectKey] at lists
      obtain ⟨rfl, -⟩ := stems lists
      exact absurd (leftShape.mp (rightShape.mpr rfl)) (by simp)
    | some other =>
      simp only [effectKeyOf, toList_callEffectKey] at lists
      obtain ⟨rfl, rests⟩ := stems lists
      have parts : leftParent.toList = rightParent.toList ∧ called.toList = other.toList := by
        rcases separable with ⟨leftPlain, rightPlain⟩ | calls
        · exact append_separator_inj leftPlain rightPlain rests
        · exact append_separator_inj_right (calls.1 called rfl) (calls.2 other rfl) rests
      exact ⟨rfl, String.toList_inj.mp parts.1, congrArg some (String.toList_inj.mp parts.2)⟩

def JournalRow.subject (row : JournalRow) : String × Option String :=
  (row.parentId, row.call.map CallAllocation.callId)

/-- The subject of a request, as the checks of its arguments leave it. -/
def Request.subject (request : Request) : String × Option String :=
  (strip request.parentId, request.callId?.map strip)

theorem Request.normalized_eq_ok {request : Request}
    (normalized : request.normalized = .ok checked) :
    checked.kind = request.kind ∧ (checked.parentId, checked.callId?) = request.subject := by
  cases request <;>
    simp only [run_eq_ok, Request.normalized, requireNonempty_eq_ok] at normalized
  case reserveParent =>
    obtain ⟨_, ⟨-, rfl⟩, _, ⟨-, rfl⟩, _, ⟨-, rfl⟩, -, -, -, rfl⟩ := normalized
    exact ⟨rfl, rfl⟩
  case recordIntent =>
    obtain ⟨_, ⟨-, rfl⟩, _, ⟨-, rfl⟩, -, rfl⟩ := normalized
    exact ⟨rfl, rfl⟩
  case finalize =>
    obtain ⟨-, _, ⟨-, rfl⟩, _, ⟨-, rfl⟩, rfl⟩ := normalized
    exact ⟨rfl, rfl⟩
  case releaseUnused =>
    obtain ⟨_, ⟨-, rfl⟩, rfl⟩ := normalized
    exact ⟨rfl, rfl⟩
  all_goals
    obtain ⟨_, ⟨-, rfl⟩, _, ⟨-, rfl⟩, rfl⟩ := normalized
    exact ⟨rfl, rfl⟩

variable {request : Request} {operationId : String} {now : Time}

theorem Commit.row_subject (commit : Commit authority before operationId request now) :
    commit.row.subject = (request.parentId, request.callId?) := by
  have parent : commit.parent.parentId = request.parentId := by
    obtain ⟨row, _, _, _, found, -, -, -, valid⟩ :=
      snapshotParent_eq_ok commit.outcome.snapshot
    rw [validated_eq_ok valid]
    exact (mem_of_findKey found).2
  have call : commit.call.map CallAllocation.callId = request.callId? := by
    have reported := commit.outcome.reported
    cases asked : request.callId? with
    | none =>
      simp only [asked] at reported
      rw [reported]
      rfl
    | some callId =>
      simp only [asked] at reported
      obtain ⟨_, isSome, read⟩ := reported
      rw [isSome, Option.map_some, (mem_of_findKey (snapshotCall_eq_ok read).1).2]
  exact Prod.ext parent call

/-- Each row is filed under the key of its own subject, and the subjects keep
what the requests were allowed by. -/
structure Filed (plain : String × Option String → Prop) (db : Database) : Prop where
  key : ∀ row ∈ db.journal, row.effectKey = effectKeyOf row.operation row.subject.1 row.subject.2
  shape : ∀ row ∈ db.journal, row.operation.OnParent ↔ row.subject.2 = none
  plain : ∀ row ∈ db.journal, plain row.subject

def AuthorityCall.Plain (plain : String × Option String → Prop) : AuthorityCall → Prop
  | .perform _ request _ _ => plain request.subject
  | _ => True

instance (plain : String × Option String → Prop) [DecidablePred plain]
    (call : AuthorityCall) : Decidable (call.Plain plain) :=
  match call with
  | .declareWindow _ _ _ _ _ => isTrue trivial
  | .perform _ request _ _ => inferInstanceAs (Decidable (plain request.subject))
  | .synchronize _ => isTrue trivial

theorem ParentAuthority.Run.filed {authority : ParentAuthority}
    (run : authority.Run (fun _ call => call.Plain plain) db) :
    Filed plain db := by
  refine run.invariant (Filed plain) ?_ ?_ ?_ ?_
  · intro _ created
    obtain ⟨_, rfl, -⟩ := ParentAuthority.created_eq_ok created
    constructor <;> simp
  · intro before _ filed _ _
    exact ⟨filed.key, filed.shape, filed.plain⟩
  · intro before _ _ _ _ filed allowed checked normalized commit
    obtain ⟨-, subject⟩ := Request.normalized_eq_ok normalized
    have rowSubject := commit.row_subject
    refine ⟨?_, ?_, ?_⟩
    · refine forall_mem_concat.mpr ⟨filed.key, ?_⟩
      rw [rowSubject]
      exact checked.effectKey_eq
    · refine forall_mem_concat.mpr ⟨filed.shape, ?_⟩
      rw [rowSubject]
      exact checked.onParent_iff
    · refine forall_mem_concat.mpr ⟨filed.plain, ?_⟩
      rw [rowSubject, subject]
      exact allowed
  · intro before _ filed
    exact ⟨filed.key, filed.shape, filed.plain⟩

/-! ## What else an operation raises

Only the lookup of the key raises this refusal; everything that a commit runs
raises other errors. -/

@[simp] theorem integrity_ne {text : String} : AuthorityError.integrity text ≠ effectBound :=
  nofun

@[simp] theorem value_ne {text : String} : AuthorityError.value text ≠ effectBound :=
  nofun

@[simp] theorem validation_ne {text : String} : AuthorityError.validation text ≠ effectBound :=
  nofun

@[simp] theorem evidenceError_ne {text : String} : evidenceError text ≠ effectBound :=
  nofun

@[simp] theorem conflict_ne_iff {text : String} : AuthorityError.conflict text ≠ effectBound ↔
    text ≠ "effect key is already bound to another operation" := by
  simp [effectBound]

theorem avoids_liftQuota {α : Type} {computed : Except QuotaError α}
    (avoids : ∀ text, Avoids (QuotaError.conflict text) computed) :
    Avoids effectBound (liftQuota computed) := by
  cases computed with
  | ok value => exact avoids_ok
  | error raised =>
    cases raised with
    | conflict text => exact absurd rfl (avoids text)
    | _ => simp [liftQuota, AuthorityError.ofQuota, effectBound]

@[simp] theorem avoids_orMalformed {α : Type} {text : String} {computed : Except AuthorityError α}
    (avoids : Avoids effectBound computed) :
    Avoids effectBound (orMalformed text computed) := by
  cases computed with
  | ok value => exact avoids_ok
  | error raised => cases raised <;> first | exact avoids | simp [orMalformed]

@[simp] theorem avoids_fromRow (row : CallAllocation) : Avoids effectBound row.fromRow := by
  simp [CallAllocation.fromRow, CallAllocation.validateOutcome]

@[simp] theorem avoids_parentValidated (parent : ParentSnapshot) :
    Avoids effectBound parent.validated := by
  unfold ParentSnapshot.validated
  cases parent.state <;> simp

@[simp] theorem avoids_receiptValidated (receipt : OperationReceipt) :
    Avoids effectBound receipt.validated := by
  simp [OperationReceipt.validated]

section Reads

variable (db : Database)

@[simp] theorem avoids_readCalls (parentId : String) :
    Avoids effectBound (db.readCalls parentId) := by
  simp [readCalls]

@[simp] theorem avoids_snapshotParent (parentId : String) :
    Avoids effectBound (db.snapshotParent parentId) := by
  simp [snapshotParent, requireParentLease]

@[simp] theorem avoids_report (parentId callId : String) :
    Avoids effectBound (db.report parentId callId) := by
  simp [report, snapshotCall]

@[simp] theorem avoids_requireOpenParent (parentId : String) :
    Avoids effectBound (db.requireOpenParent parentId) := by
  simp [requireOpenParent]

@[simp] theorem avoids_requireCall (callId parentId : String) :
    Avoids effectBound (db.requireCall callId parentId) := by
  simp [requireCall]

end Reads

section Bodies

variable (authority : ParentAuthority) (db : Database) (now : Time)

@[simp] theorem avoids_validateGlobalCheckpoint :
    Avoids effectBound (authority.validateGlobalCheckpoint db) := by
  simp [ParentAuthority.validateGlobalCheckpoint]

@[simp] theorem avoids_rejectClockRollback :
    Avoids effectBound (authority.rejectClockRollback db now) := by
  simp [ParentAuthority.rejectClockRollback]

@[simp] theorem avoids_reserveParent (parentId source owner : String) (totalCost : ℤ)
    (expiresAt : Time) (claim : ClaimBinding) :
    Avoids effectBound
      (authority.reserveParent db parentId source owner totalCost expiresAt claim now) := by
  have window : Avoids effectBound (liftQuota (db.quota.activeWindow source now)) :=
    avoids_liftQuota (by simp [QuotaLedger.activeWindow])
  have lease : ∀ window, Avoids effectBound
      (liftQuota (authority.store.grantLease db.quota window owner totalCost now expiresAt)) :=
    fun _ => avoids_liftQuota (by
      simp [SourceQuotaStore.grantLease, SourceQuotaStore.sourceQuotaLease,
        QuotaLedger.insertLease])
  simp [ParentAuthority.reserveParent, remainingInWindow, insertParent,
    window, lease]

section

variable (parentId callId : String)

@[simp] theorem avoids_recordIntent (cost : ℤ) :
    Avoids effectBound (authority.recordIntent db parentId callId cost now) := by
  simp [ParentAuthority.recordIntent, requireLifecycleTime, requireParentLease]

@[simp] theorem avoids_authorizeDispatch :
    Avoids effectBound (authority.authorizeDispatch db parentId callId now) := by
  have usage : ∀ (quota : QuotaLedger) row,
      Avoids effectBound (liftQuota (quota.insertUsage row)) :=
    fun _ _ => avoids_liftQuota (by simp [QuotaLedger.insertUsage])
  simp [ParentAuthority.authorizeDispatch, requireLifecycleTime, requireParentLease, usage]

@[simp] theorem avoids_finalize (outcome : CallOutcome) :
    Avoids effectBound (authority.finalize db parentId callId outcome now) := by
  simp [ParentAuthority.finalize, requireLifecycleTime]

@[simp] theorem avoids_terminalizeBeforeDispatch (outcome : Option CallOutcome) :
    Avoids effectBound (authority.terminalizeBeforeDispatch db parentId callId outcome now) := by
  simp [ParentAuthority.terminalizeBeforeDispatch, requireLifecycleTime, requireParentLease]

end

@[simp] theorem avoids_releaseUnused (parentId : String) :
    Avoids effectBound (authority.releaseUnused db parentId now) := by
  refine avoids_bind.mpr ⟨by simp, fun _ _ => ?_⟩
  split
  · simp only [avoids_error, conflict_ne_iff]
    intro same
    -- the two texts differ in their first letter
    have letters := congrArg (fun text => text.toList.head?) same
    simp [String.toList_append] at letters
  · simp

theorem avoids_body (request : Request) : Avoids effectBound (request.body authority now db) := by
  cases request <;> simp [Request.body]

end Bodies

section Evidence

variable (db : Database) (operation : OperationKind) (parent : ParentSnapshot)

@[simp] theorem avoids_validateOperationResultShape (call : Option CallAllocation) :
    Avoids effectBound (validateOperationResultShape operation parent call) := by
  have shape : Avoids effectBound (operation.validateShape parent call) := by
    unfold OperationKind.validateShape
    split <;> simp
    split <;> simp
  simp [validateOperationResultShape, shape]

@[simp] theorem avoids_validateImmutableCallEvidence (call : CallAllocation) :
    Avoids effectBound (db.validateImmutableCallEvidence parent call) := by
  simp [validateImmutableCallEvidence, validateUsage]
  split <;> simp
  split <;> simp

@[simp] theorem avoids_validateCurrentTerminalLedger (durable : ParentRow) (lease : LeaseRow) :
    Avoids effectBound (db.validateCurrentTerminalLedger durable lease) := by
  have released : Avoids effectBound (db.validateReleasedLedger durable lease) := by
    unfold validateReleasedLedger
    split <;> simp [validateUsageSet]
  simp [validateCurrentTerminalLedger, validateCurrentOpenLedger,
    validateUsageSet, released]

@[simp] theorem avoids_validateContractRows :
    Avoids effectBound (db.validateContractRows parent) := by
  simp [validateContractRows, validateParentReplayTransition]

@[simp] theorem avoids_validateImmutableResultEvidence (call : Option CallAllocation) :
    Avoids effectBound (db.validateImmutableResultEvidence operation parent call) := by
  cases call <;> simp [validateImmutableResultEvidence, validateReleaseEvidence]

@[simp] theorem avoids_operationPayload (call : Option CallAllocation) :
    Avoids effectBound (operationPayload operation parent call) := by
  unfold operationPayload
  split <;> simp

end Evidence

section Commits

variable (authority : ParentAuthority) (db : Database)

@[simp] theorem avoids_externalCheckpoint (binding : RootBinding) :
    Avoids effectBound (authority.externalCheckpoint db binding) := by
  simp [ParentAuthority.externalCheckpoint]

@[simp] theorem avoids_acknowledgedCheckpoint :
    Avoids effectBound (authority.acknowledgedCheckpoint db) := by
  have bound : ∀ binding state,
      Avoids effectBound (authority.requireExternalStateBinding binding state) := by
    intro binding state
    refine avoids_bind.mpr ⟨by simp [effectBound], fun _ _ => ?_⟩
    split
    · simp
    · split <;> simp
  unfold ParentAuthority.acknowledgedCheckpoint
  split <;> simp [ParentAuthority.requireExternalAcknowledgement, bound]

@[simp] theorem avoids_stage (operationId : String) (nonce : Digest)
    (acknowledged : Option Digest) :
    Avoids effectBound (authority.stage db operationId nonce acknowledged) := by
  unfold ParentAuthority.stage
  split <;> simp [ParentAuthority.stageExternalAdvance]

@[simp] theorem avoids_validateParentCheckpoint (parentId : String) :
    Avoids effectBound (authority.validateParentCheckpoint db parentId none false false) := by
  unfold ParentAuthority.validateParentCheckpoint
  split <;> simp

theorem avoids_commit (operationId effectKey : String) (operation : OperationKind)
    (payload : OperationPayload) (nonce : Digest) (bodyAvoids : Avoids effectBound (body db)) :
    Avoids effectBound
      (authority.commit db operationId effectKey operation payload nonce body) := by
  simp [ParentAuthority.commit, ParentAuthority.insertJournal,
    ParentAuthority.writeParentCheckpoint, ParentAuthority.writeGlobalCheckpoint, bodyAvoids]

theorem avoids_normalized (request : Request) : Avoids effectBound request.normalized := by
  cases request <;> simp [Request.normalized, requireNonempty]

end Commits

/-- A new operation that is refused for its key found the key in the
journal. -/
theorem ParentAuthority.exists_of_effectBound {authority : ParentAuthority}
    (fresh : strip operationId ∉ db.journal.map JournalRow.operationId)
    (refused : (authority.perform db operationId request now nonce).1 = .error effectBound) :
    ∃ checked, request.normalized = .ok checked ∧
      ∃ row ∈ db.journal, row.effectKey = checked.effectKey := by
  unfold ParentAuthority.perform at refused
  cases normalizedAs : request.normalized with
  | error raised =>
    simp only [normalizedAs, error_bind] at refused
    rw [Except.error.inj refused] at normalizedAs
    exact absurd normalizedAs (avoids_normalized request)
  | ok checked =>
    refine ⟨checked, rfl, ?_⟩
    by_contra unfiled
    have unkeyed : findKey JournalRow.effectKey checked.effectKey db.journal = none := by
      cases found : findKey JournalRow.effectKey checked.effectKey db.journal with
      | none => rfl
      | some row =>
        obtain ⟨mem, named⟩ := mem_of_findKey found
        exact absurd ⟨row, mem, named⟩ unfiled
    have avoids : Avoids effectBound
        (authority.operate db operationId checked.effectKey checked.kind
          checked.payload nonce fun db => checked.body authority now db) := by
      unfold ParentAuthority.operate requireNonempty
      by_cases named : strip operationId ≠ ""
      · simp only [require_of named, ok_bind, pure_bind, findKey_eq_none.mpr fresh, unkeyed]
        exact avoids_commit authority db _ _ _ _ _ (avoids_body authority db now checked)
      · simp only [require_of_not named, error_bind]
        exact avoids_error.mpr value_ne
    simp only [normalizedAs, ok_bind] at refused
    cases operated : authority.operate db operationId checked.effectKey checked.kind
        checked.payload nonce fun db => checked.body authority now db with
    | error raised =>
      simp only [operated] at refused
      rw [Except.error.inj refused] at operated
      exact avoids operated
    | ok done =>
      simp only [operated] at refused
      cases refused

/-- An operation under a new id is refused for its effect key only if an
operation of its kind was applied to its parent and its call, in every run in
which no parent id, or in which no call id, contains a colon. -/
theorem effect_key_refusal (authority : ParentAuthority) {plain : String × Option String → Prop}
    (separates : (∀ subject, plain subject → ':' ∉ subject.1.toList) ∨
      ∀ subject, plain subject → ∀ callId ∈ subject.2, ':' ∉ callId.toList)
    {db : Database} (run : authority.Run (fun _ call => call.Plain plain) db)
    {operationId : String} {request : Request} {now : Time} {nonce : Digest}
    (asked : plain request.subject)
    (fresh : strip operationId ∉ db.journal.map JournalRow.operationId)
    (refused : (authority.perform db operationId request now nonce).1 = .error effectBound) :
    ∃ row ∈ db.journal, row.operation = request.kind ∧ row.subject = request.subject := by
  obtain ⟨checked, normalized, row, member, sameKey⟩ :=
    ParentAuthority.exists_of_effectBound fresh refused
  obtain ⟨kind, subject⟩ := Request.normalized_eq_ok normalized
  have filed := run.filed
  rw [filed.key row member, checked.effectKey_eq] at sameKey
  have separable : Separable row.subject (checked.parentId, checked.callId?) := by
    rw [subject]
    rcases separates with parents | calls
    · exact .inl ⟨parents _ (filed.plain row member), parents _ asked⟩
    · exact .inr ⟨calls _ (filed.plain row member), calls _ asked⟩
  obtain ⟨sameKind, sameParent, sameCall⟩ :=
    effectKeyOf_injective (filed.shape row member) checked.onParent_iff separable sameKey
  exact ⟨row, member, sameKind.trans kind, (Prod.ext sameParent sameCall).trans subject⟩

namespace ParentAuthority

def colonCalls : List AuthorityCall :=
  [ .declareWindow "ticks" "today" 0 100 10,
    .perform "1" (.reserveParent "a:b" "ticks" "live" 4 50 ⟨1, 1, 1⟩) 1 0,
    .perform "2" (.reserveParent "a" "ticks" "research" 4 50 ⟨1, 1, 1⟩) 2 0,
    .perform "3" (.recordIntent "a:b" "c" 1) 3 0 ]

/-- A call of parent `a:b` takes the effect key of a call of parent `a`. -/
theorem effect_key_collision :
    ∃ db, sample.Run (fun _ _ => True) db ∧ strip "4" ∉ db.journal.map JournalRow.operationId ∧
      (sample.perform db "4" (.recordIntent "a" "b:c" 1) 4 0).1 = .error effectBound ∧
      ∀ row ∈ db.journal, ¬ (row.operation = .recordIntent ∧ row.subject.1 = "a") :=
  ⟨_, ⟨sampleStart, rfl, reaches_foldl (fun _ _ => trivial) sampleStart colonCalls⟩,
    by decide +kernel, by decide +kernel, by decide +kernel⟩

/-- The second recording of an intent is refused because of the first. -/
theorem effect_key_refusal_sample :
    ∃ db, sample.Run (fun _ call => call.Plain fun subject => ':' ∉ subject.1.toList) db ∧
      (sample.perform db "7" (.recordIntent "p" "first" 4) 9 0).1 = .error effectBound ∧
      ∃ row ∈ db.journal, row.operation = .recordIntent ∧ row.subject = ("p", some "first") := by
  have run : sample.Run (fun _ call => call.Plain fun subject => ':' ∉ subject.1.toList)
      (finalState
        (applyAllowed sample.apply fun _ call => call.Plain fun subject => ':' ∉ subject.1.toList)
        sampleStart sampleCalls) :=
    ⟨sampleStart, rfl, reaches_applyAllowed sampleStart sampleCalls⟩
  have refused : (sample.perform
        (finalState
          (applyAllowed sample.apply fun _ call => call.Plain fun subject => ':' ∉ subject.1.toList)
          sampleStart sampleCalls)
        "7" (.recordIntent "p" "first" 4) 9 0).1 =
      .error effectBound := by
    decide +kernel
  exact ⟨_, run, refused,
    effect_key_refusal sample (.inl fun _ => id) run (by decide) (by decide +kernel) refused⟩

end ParentAuthority

end RQuant.Authority
