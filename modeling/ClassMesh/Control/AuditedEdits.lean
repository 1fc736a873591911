import ClassMesh.Control.LiveAuthorization
import ClassMesh.Security.AuditReplay

namespace ClassMesh

open Foundation

section Decisions

variable {before after : AuthorizationStore} {credential : CredentialFingerprint} {nowUnixMs : UInt64}

theorem AuthorizationStore.ClassroomChange.principalForCredential (changed : before.ClassroomChange after) :
    after.principalForCredential credential nowUnixMs = before.principalForCredential credential nowUnixMs := by
  unfold AuthorizationStore.principalForCredential
  rw [changed.owners]
  cases before.credentialOwners[credential]? with
  | none => rfl
  | some owner =>
    have related := changed.records owner
    simp only [Option.bind_eq_bind, Option.bind_some, AuthorizationStore.principal] at related ⊢
    generalize before.principals[owner]? = old, after.principals[owner]? = new at related ⊢
    cases related with
    | none => rfl
    | some record => simp [Principal.acceptsCredential, record.enabled, record.credentials]

theorem AuthorizationStore.ClassroomChange.authorize {id : PrincipalId} {permission : Permission}
    (changed : before.ClassroomChange after) (differ : after.authorize id permission ≠ before.authorize id permission) :
    ∃ record, before.principal id = some record ∧ ∃ classroom : ClassroomPermission,
      classroom.underlyingPermission = permission ∧ classroom.allowedFor record.kind = true := by
  have related := changed.records id
  unfold AuthorizationStore.authorize at differ
  unfold AuthorizationStore.principal at related ⊢
  generalize before.principals[id]? = old, after.principals[id]? = new at related differ ⊢
  cases related with
  | none => exact absurd rfl differ
  | some record =>
    refine ⟨_, rfl, (record.permissions permission fun same => differ ?_).2⟩
    simp [Principal.allows, record.enabled, same]

end Decisions

variable {history : List StoreCall} {initial : AuthorizationStore} {Editor : Type} [DecidableEq Editor]
  {past : List (EditCall Editor)} {state : EditState Editor}

/-- Whatever the order in which administrators edit the live store, a credential stands for the same principal, and what
it may do differs only in classroom permissions that this principal's role may have. -/
theorem edits_never_escalate (reachable : Run (Total AuthorizationStore.step) {} history initial)
    (run : Run (Partial EditState.step) (EditState.new initial) past state) (credential : CredentialFingerprint)
    (permission : Permission) (nowUnixMs : UInt64) :
    state.live.published.authorization.principalForCredential credential nowUnixMs =
        initial.principalForCredential credential nowUnixMs ∧
      (state.live.published.authorization.authorizeCredential credential permission nowUnixMs ≠
          initial.authorizeCredential credential permission nowUnixMs →
        ∃ id record, initial.principalForCredential credential nowUnixMs = some id ∧
          initial.principal id = some record ∧ ∃ classroom : ClassroomPermission,
            classroom.underlyingPermission = permission ∧ classroom.allowedFor record.kind = true) := by
  have changed := (EditState.Serial.of_run (AuthorizationStore.indexed_of_run reachable) run).replays.classroomChange
  refine ⟨changed.principalForCredential, fun differ => ?_⟩
  unfold AuthorizationStore.authorizeCredential at differ
  rw [changed.principalForCredential] at differ
  cases found : initial.principalForCredential credential nowUnixMs with
  | none => simp [found] at differ
  | some id =>
    rw [found] at differ
    obtain ⟨record, held⟩ := changed.authorize differ
    exact ⟨id, record, rfl, held⟩

/-- The log of the publications leads the audit from the first store to the live one, however it is cut, unless a clock
went back or a request id was used twice. -/
theorem edits_audited (reachable : Run (Total AuthorizationStore.step) {} history initial)
    (run : Run (Partial EditState.step) (EditState.new initial) past state)
    {batches : List (List ClassroomAuditIntentRecord)} (sizes : ChainSizes batches)
    (logged : intentsOf batches.flatten = publications past) :
    checkClassroomAuditChainAgainstBaseline initial state.live.published.authorization 1 batches = .ok () ↔
      batches.flatten.Pairwise (·.checkedAtUnixMs ≤ ·.checkedAtUnixMs) ∧ (batches.flatten.map (·.request)).Nodup := by
  have indexed := AuthorizationStore.indexed_of_run reachable
  have serial := EditState.Serial.of_run indexed run
  have numbered : NumberedFrom 1 batches.flatten := by
    have generations := serial.numbered
    rw [← logged] at generations
    simpa [NumberedFrom, intentsOf, Function.comp_def] using generations
  rw [chainAgainstBaseline_ok indexed sizes]
  constructor
  · intro flat
    exact ⟨flat.ordered, flat.distinct⟩
  · rintro ⟨ordered, distinct⟩
    exact ⟨sizes.started numbered, numbered, fun record _ => record.generation_range.2, ordered, distinct,
      logged ▸ serial.replays⟩

/-- An administrator grants a permission to the teacher. -/
theorem granting : ∃ (past : List (EditCall Unit)) (state : EditState Unit),
    Run (Partial EditState.step) (EditState.new (runOn AuthorizationStore.step {} sampleBaseline)) past state ∧
      publications past = [sampleIntent true 1] ∧
      state.live.published.authorization.authorizeCredential sampleFingerprint .viewMonitoring 10 = true := by
  have made : (tryCalls EditState.step (EditState.new (runOn AuthorizationStore.step {} sampleBaseline))
      [.snapshot (), .stage () ⟨.replicate 9⟩ ⟨⟨.replicate 2⟩, .viewMonitoring, true, 1, 0⟩ 10, .publish ()]).map
      (fun result => (publications result.1,
        result.2.live.published.authorization.authorizeCredential sampleFingerprint .viewMonitoring 10)) =
      some ([sampleIntent true 1], true) := by
    decide +kernel
  obtain ⟨past, state, run, _, outcome⟩ := Run.of_traced made
  obtain ⟨logged, granted⟩ := Prod.mk.inj outcome
  exact ⟨past, state, run, logged, granted⟩

theorem edits_never_escalate_granted : ∃ id record,
    (runOn AuthorizationStore.step {} sampleBaseline).principalForCredential sampleFingerprint 10 = some id ∧
      (runOn AuthorizationStore.step {} sampleBaseline).principal id = some record ∧
      ∃ classroom : ClassroomPermission, classroom.underlyingPermission = .viewMonitoring ∧
        classroom.allowedFor record.kind = true := by
  obtain ⟨_, _, run, _, granted⟩ := granting
  refine (edits_never_escalate (Run.of_calls _ _ sampleBaseline) run sampleFingerprint .viewMonitoring 10).2 ?_
  rw [granted]
  decide +kernel

/-- One change is published, and the log of its one record is accepted. -/
theorem edits_audited_granted : ∃ (state : EditState Unit) (record : ClassroomAuditIntentRecord),
    checkClassroomAuditChainAgainstBaseline (runOn AuthorizationStore.step {} sampleBaseline)
      state.live.published.authorization 1 [[record]] = .ok () := by
  obtain ⟨_, state, run, logged, _⟩ := granting
  have sizes : ChainSizes [[⟨sampleIntent true 1, rfl⟩]] :=
    ⟨by simp, by simp [maxAuditChainBatches], by simp [BatchSizes, maxAuditBatchEntries]⟩
  exact ⟨state, ⟨sampleIntent true 1, rfl⟩,
    (edits_audited (Run.of_calls _ _ sampleBaseline) run sizes logged.symm).mpr ⟨by simp, by simp⟩⟩

end ClassMesh
