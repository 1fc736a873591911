import ClassMesh.Security.AuthorizationStore

namespace ClassMesh

open Std

inductive ClassroomPermission
  | viewMonitoring
  | viewInteractive
  | startPresentation
  | receivePresentation
deriving DecidableEq

namespace ClassroomPermission

def underlyingPermission : ClassroomPermission → Permission
  | .viewMonitoring => .viewMonitoring
  | .viewInteractive => .viewInteractive
  | .startPresentation => .startPresentation
  | .receivePresentation => .receivePresentation

def allowedFor : ClassroomPermission → PrincipalKind → Bool
  | .viewMonitoring, .teacher => true
  | .viewInteractive, .teacher => true
  | .startPresentation, .teacher => true
  | .receivePresentation, .studentDevice => true
  | _, _ => false

end ClassroomPermission

structure ClassroomPermissionChange where
  target : PrincipalId
  permission : ClassroomPermission
  grant : Bool
  requestId : UInt64
  expectedPolicyGeneration : UInt64
deriving DecidableEq

inductive ClassroomPolicyPreviewError
  | invalidRequest
  | unauthenticated
  | notAdministrator
  | notAuthorized
  | targetUnavailable
  | protectedTarget
  | unsupportedRolePermission
  | noChange
deriving DecidableEq

structure ClassroomPolicyPreview where
  actor : PrincipalId
  target : PrincipalId
  permission : ClassroomPermission
  grant : Bool
  previouslyGranted : Bool
  requestId : UInt64
  expectedPolicyGeneration : UInt64
  checkedAtUnixMs : UInt64
deriving DecidableEq

def AuthorizationStore.principal (store : AuthorizationStore) (id : PrincipalId) : Option Principal :=
  store.principals[id]?

def previewClassroomPermissionChange (store : AuthorizationStore) (actorCredential : CredentialFingerprint)
    (request : ClassroomPermissionChange) (nowUnixMs : UInt64) :
    Except ClassroomPolicyPreviewError ClassroomPolicyPreview :=
  if request.requestId = 0 ∨ request.expectedPolicyGeneration = 0 then .error .invalidRequest
  else
    match store.principalForCredential actorCredential nowUnixMs with
    | none => .error .unauthenticated
    | some actor =>
      match store.principal actor with
      | none => .error .unauthenticated
      | some actorRecord =>
        if actorRecord.kind ≠ .administrator then .error .notAdministrator
        else if store.authorizeCredential actorCredential .managePolicy nowUnixMs = false then .error .notAuthorized
        else
          match (store.principal request.target).filter (·.enabled) with
          | none => .error .targetUnavailable
          | some targetRecord =>
            if ¬(targetRecord.kind = .teacher ∨ targetRecord.kind = .studentDevice) then .error .protectedTarget
            else if request.permission.allowedFor targetRecord.kind = false then .error .unsupportedRolePermission
            else
              let previouslyGranted := targetRecord.permissions.contains request.permission.underlyingPermission
              if previouslyGranted = request.grant then .error .noChange
              else .ok
                { actor := actor
                  target := request.target
                  permission := request.permission
                  grant := request.grant
                  previouslyGranted := previouslyGranted
                  requestId := request.requestId
                  expectedPolicyGeneration := request.expectedPolicyGeneration
                  checkedAtUnixMs := nowUnixMs }

inductive ClassroomPolicyStageError
  | denied (reason : ClassroomPolicyPreviewError)
  | candidateConflict
deriving DecidableEq

structure ClassroomAuditIntent where
  actor : PrincipalId
  target : PrincipalId
  permission : ClassroomPermission
  previousGrant : Bool
  newGrant : Bool
  requestId : UInt64
  expectedPolicyGeneration : UInt64
  checkedAtUnixMs : UInt64
deriving DecidableEq

structure ClassroomPolicyDraft where
  candidate : AuthorizationStore
  audit : ClassroomAuditIntent

/-- The one permission of the record, granted or taken away. -/
def Principal.setPermission (principal : Principal) (permission : Permission) (grant : Bool) : Principal :=
  { principal with
    permissions := if grant then principal.permissions.insert permission else principal.permissions.erase permission }

def stageClassroomPermissionChange (store : AuthorizationStore) (actorCredential : CredentialFingerprint)
    (change : ClassroomPermissionChange) (nowUnixMs : UInt64) : Except ClassroomPolicyStageError ClassroomPolicyDraft :=
  match previewClassroomPermissionChange store actorCredential change nowUnixMs with
  | .error reason => .error (.denied reason)
  | .ok preview =>
    match store.principal preview.target with
    | none => .error .candidateConflict
    | some target =>
      match store.upsert (target.setPermission preview.permission.underlyingPermission preview.grant) with
      | (_, .error _) => .error .candidateConflict
      | (candidate, .ok ()) => .ok
          { candidate := candidate
            audit :=
              { actor := preview.actor
                target := preview.target
                permission := preview.permission
                previousGrant := preview.previouslyGranted
                newGrant := preview.grant
                requestId := preview.requestId
                expectedPolicyGeneration := preview.expectedPolicyGeneration
                checkedAtUnixMs := preview.checkedAtUnixMs } }

namespace AuthorizationStore

/-- The store in which one permission of one principal is granted or taken away, and nothing else is different. -/
def withPermission (store : AuthorizationStore) (target : PrincipalId) (permission : Permission) (grant : Bool) :
    AuthorizationStore :=
  match store.principal target with
  | none => store
  | some record => { store with principals := store.principals.insert target (record.setPermission permission grant) }

variable {store : AuthorizationStore} {target : PrincipalId} {record : Principal} {permission : Permission}
  {grant : Bool}

theorem Indexed.upsert_setPermission (indexed : store.Indexed) (stored : store.principal target = some record) :
    store.upsert (record.setPermission permission grant) = (store.withPermission target permission grant, .ok ()) := by
  have own := indexed.keyed target record stored
  have atRecord : store.principals[(record.setPermission permission grant).id]? = some record := by
    rw [show (record.setPermission permission grant).id = target from own]
    exact stored
  rw [indexed.upsert_replace atRecord rfl]
  unfold withPermission
  rw [stored, show (record.setPermission permission grant).id = target from own]

theorem Indexed.withPermission (indexed : store.Indexed) (target : PrincipalId) (permission : Permission)
    (grant : Bool) : (store.withPermission target permission grant).Indexed := by
  unfold AuthorizationStore.withPermission
  split
  · exact indexed
  · rename_i record stored
    exact indexed.replace stored (indexed.keyed target record stored) rfl

theorem principal_withPermission (store : AuthorizationStore) (stored : store.principal target = some record)
    (permission : Permission) (grant : Bool) (id : PrincipalId) :
    (store.withPermission target permission grant).principal id =
      if id = target then some (record.setPermission permission grant) else store.principal id := by
  rw [withPermission, stored]
  dsimp only [principal]
  rw [ExtTreeMap.getElem?_insert]
  simp only [Std.compare_eq_iff_eq, eq_comm (a := target)]

end AuthorizationStore

section Grants

variable {principal : Principal} {permission other : Permission} {grant : Bool}

theorem Principal.contains_setPermission_self :
    (principal.setPermission permission grant).permissions.contains permission = grant := by
  cases grant <;> simp [Principal.setPermission]

theorem Principal.contains_setPermission_ne (differ : other ≠ permission) :
    (principal.setPermission permission grant).permissions.contains other = principal.permissions.contains other := by
  cases grant <;> simp [Principal.setPermission, ExtTreeSet.contains_insert, ExtTreeSet.contains_erase, differ.symm]

end Grants

/-- The change is one that a writer may make in this store: the actor is an enabled administrator with
`ManagePolicy` and a credential accepted at the time, and the target is enabled, of a kind the permission is for,
and has the grant that the intent says it had. -/
structure ClassroomAuditIntent.LegalIn (intent : ClassroomAuditIntent) (store : AuthorizationStore) : Prop where
  actor : ∃ record, store.principal intent.actor = some record ∧ record.enabled = true ∧
    record.kind = .administrator ∧ record.permissions.contains .managePolicy = true ∧
    ∃ (fingerprint : CredentialFingerprint) (credential : CredentialRecord),
      record.credentials[fingerprint]? = some credential ∧ credential.isAcceptedAt intent.checkedAtUnixMs = true
  target : ∃ record, store.principal intent.target = some record ∧ record.enabled = true ∧
    intent.permission.allowedFor record.kind = true ∧
    record.permissions.contains intent.permission.underlyingPermission = intent.previousGrant

/-- The store after the change. -/
def ClassroomAuditIntent.appliedTo (intent : ClassroomAuditIntent) (store : AuthorizationStore) : AuthorizationStore :=
  store.withPermission intent.target intent.permission.underlyingPermission intent.newGrant

theorem AuthorizationStore.Indexed.appliedTo {store : AuthorizationStore} (indexed : store.Indexed)
    (intent : ClassroomAuditIntent) : (intent.appliedTo store).Indexed :=
  indexed.withPermission _ _ _

/-- One after another, every change is legal where it is applied, and the last one leads to `final`. -/
inductive Replays : AuthorizationStore → List ClassroomAuditIntent → AuthorizationStore → Prop
  | done (store : AuthorizationStore) : Replays store [] store
  | next {store final : AuthorizationStore} {intent : ClassroomAuditIntent} {rest : List ClassroomAuditIntent}
      (legal : intent.LegalIn store) (replays : Replays (intent.appliedTo store) rest final) :
      Replays store (intent :: rest) final

section Replay

variable {store middle final : AuthorizationStore} {intent : ClassroomAuditIntent}
  {rest first second : List ClassroomAuditIntent}

theorem replays_nil : Replays store [] final ↔ store = final := by
  constructor
  · intro replays
    cases replays
    rfl
  · rintro rfl
    exact .done store

theorem replays_cons :
    Replays store (intent :: rest) final ↔ intent.LegalIn store ∧ Replays (intent.appliedTo store) rest final := by
  constructor
  · intro replays
    cases replays with
    | next legal replays => exact ⟨legal, replays⟩
  · rintro ⟨legal, replays⟩
    exact .next legal replays

theorem Replays.append_iff (replays : Replays store first middle) :
    Replays store (first ++ second) final ↔ Replays middle second final := by
  induction replays with
  | done => exact Iff.rfl
  | next legal _ ih => rw [List.cons_append, replays_cons, ih, and_iff_right legal]

theorem Replays.of_append (replays : Replays store (first ++ second) final) : ∃ middle, Replays store first middle := by
  induction first generalizing store with
  | nil => exact ⟨store, .done store⟩
  | cons intent rest ih =>
    obtain ⟨legal, others⟩ := replays_cons.mp replays
    obtain ⟨middle, reached⟩ := ih others
    exact ⟨middle, .next legal reached⟩

theorem Replays.indexed (replays : Replays store first final) (indexed : store.Indexed) : final.Indexed := by
  induction replays with
  | done => exact indexed
  | next _ _ ih => exact ih (indexed.appliedTo _)

end Replay

section Stage

variable {store : AuthorizationStore} {actorCredential : CredentialFingerprint} {change : ClassroomPermissionChange}
  {nowUnixMs : UInt64}

theorem AuthorizationStore.accepted_of_principalForCredential {id : PrincipalId}
    (found : store.principalForCredential actorCredential nowUnixMs = some id) :
    ∃ record, store.principal id = some record ∧ record.acceptsCredential actorCredential nowUnixMs = true := by
  unfold AuthorizationStore.principalForCredential at found
  simp only [Option.bind_eq_bind, Option.bind_eq_some_iff, Option.ite_none_right_eq_some, Option.some.injEq] at found
  obtain ⟨_, _, record, stored, accepts, rfl⟩ := found
  exact ⟨record, stored, accepts⟩

/-- What a preview has checked. -/
structure ClassroomPolicyPreview.Checked (preview : ClassroomPolicyPreview) (store : AuthorizationStore)
    (actorCredential : CredentialFingerprint) (change : ClassroomPermissionChange) (nowUnixMs : UInt64) : Prop where
  actor : store.principalForCredential actorCredential nowUnixMs = some preview.actor
  administrator : ∃ record, store.principal preview.actor = some record ∧ record.kind = .administrator
  authorized : store.authorizeCredential actorCredential .managePolicy nowUnixMs = true
  target : ∃ record, store.principal change.target = some record ∧ record.enabled = true ∧
    change.permission.allowedFor record.kind = true ∧
    record.permissions.contains change.permission.underlyingPermission = preview.previouslyGranted
  changes : preview.previouslyGranted ≠ change.grant
  numbered : change.requestId ≠ 0 ∧ change.expectedPolicyGeneration ≠ 0
  same : preview = ⟨preview.actor, change.target, change.permission, change.grant, preview.previouslyGranted,
    change.requestId, change.expectedPolicyGeneration, nowUnixMs⟩

theorem preview_ok {preview : ClassroomPolicyPreview}
    (made : previewClassroomPermissionChange store actorCredential change nowUnixMs = .ok preview) :
    preview.Checked store actorCredential change nowUnixMs := by
  unfold previewClassroomPermissionChange at made
  split at made
  · cases made
  case isFalse numbered =>
    split at made
    · cases made
    case h_2 actor atActor =>
      split at made
      · cases made
      case h_2 actorRecord stored =>
        split at made
        · cases made
        case isFalse administrator =>
          split at made
          · cases made
          case isFalse authorized =>
            split at made
            · cases made
            case h_2 targetRecord atTarget =>
              split at made
              · cases made
              split at made
              · cases made
              case isFalse allowed =>
                dsimp only at made
                split at made
                · cases made
                case isFalse changes =>
                  cases made
                  obtain ⟨storedTarget, enabled⟩ := Option.filter_eq_some_iff.mp atTarget
                  exact ⟨atActor, ⟨actorRecord, stored, not_not.mp administrator⟩, by simpa using authorized,
                    ⟨targetRecord, storedTarget, enabled, by simpa using allowed, rfl⟩, changes, not_or.mp numbered,
                    rfl⟩

/-- What a draft says and does. -/
structure ClassroomPolicyDraft.Staged (draft : ClassroomPolicyDraft) (store : AuthorizationStore)
    (change : ClassroomPermissionChange) (nowUnixMs : UInt64) : Prop where
  legal : draft.audit.LegalIn store
  candidate : draft.candidate = draft.audit.appliedTo store
  changes : draft.audit.previousGrant ≠ draft.audit.newGrant
  generation : draft.audit.expectedPolicyGeneration = change.expectedPolicyGeneration
  checkedAt : draft.audit.checkedAtUnixMs = nowUnixMs

theorem stage_ok (indexed : store.Indexed) {draft : ClassroomPolicyDraft}
    (made : stageClassroomPermissionChange store actorCredential change nowUnixMs = .ok draft) :
    draft.Staged store change nowUnixMs := by
  unfold stageClassroomPermissionChange at made
  split at made
  · cases made
  case h_2 preview previewed =>
    have checked := preview_ok previewed
    obtain ⟨target, stored, enabled, allowed, granted⟩ := checked.target
    rw [checked.same] at made
    dsimp only at made
    rw [stored] at made
    dsimp only at made
    rw [indexed.upsert_setPermission stored] at made
    cases made
    obtain ⟨actor, atActor, accepts⟩ := AuthorizationStore.accepted_of_principalForCredential checked.actor
    obtain ⟨record, atRecord, administrator⟩ := checked.administrator
    obtain rfl : actor = record := Option.some.inj (atActor.symm.trans atRecord)
    have authorized := checked.authorized
    rw [AuthorizationStore.authorizeCredential, checked.actor] at authorized
    dsimp only at authorized
    rw [AuthorizationStore.authorize, show store.principals[preview.actor]? = some actor from atActor, Option.any_some,
      Principal.allows, Bool.and_eq_true] at authorized
    rw [Principal.acceptsCredential, Bool.and_eq_true, Option.any_eq_true] at accepts
    obtain ⟨credential, held, fresh⟩ := accepts.2
    exact ⟨⟨⟨actor, atActor, accepts.1, administrator, authorized.2, actorCredential, credential, held, fresh⟩,
      ⟨target, stored, enabled, allowed, granted⟩⟩, rfl, checked.changes, rfl, rfl⟩

end Stage

end ClassMesh
