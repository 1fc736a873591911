import ClassMesh.Foundation.Saturating
import ClassMesh.Security.ClassroomPolicy
import ClassMesh.Security.CredentialIndex

namespace ClassMesh

open Std Foundation

inductive LiveAuthorizationError
  | poisoned
  | generationExhausted
  | staleGeneration (expected current : UInt64)
deriving DecidableEq

structure PublishedAuthorization where
  generation : UInt64
  authorization : AuthorizationStore

/-- A version and the whole store that was published under it. -/
structure AuthorizationSnapshot where
  generation : UInt64
  authorization : AuthorizationStore

/-- The lock is not modelled: every call is atomic, and none of them poisons it. -/
structure LiveAuthorizationStore where
  published : PublishedAuthorization

namespace LiveAuthorizationStore

def new (initial : AuthorizationStore) : LiveAuthorizationStore := ⟨1, initial⟩

def snapshot (live : LiveAuthorizationStore) : AuthorizationSnapshot :=
  ⟨live.published.generation, live.published.authorization⟩

def replace (published : PublishedAuthorization) (next : AuthorizationStore) :
    PublishedAuthorization × Except LiveAuthorizationError UInt64 :=
  match checkedAdd published.generation 1 with
  | none => (published, .error .generationExhausted)
  | some nextGeneration => (⟨nextGeneration, next⟩, .ok nextGeneration)

def publishIfVersion (live : LiveAuthorizationStore) (expected : UInt64) (next : AuthorizationStore) :
    LiveAuthorizationStore × Except LiveAuthorizationError UInt64 :=
  if live.published.generation ≠ expected then
    (live, .error (.staleGeneration expected live.published.generation))
  else
    let (published, result) := replace live.published next
    (⟨published⟩, result)

/-- A publication either replaces the store under its own version by one and the same version plus one, or is
refused and changes nothing. -/
theorem publishIfVersion_cases {live after : LiveAuthorizationStore} {expected : UInt64} {next : AuthorizationStore}
    {result : Except LiveAuthorizationError UInt64}
    (published : live.publishIfVersion expected next = (after, result)) :
    (∃ version, result = .ok version ∧ live.published.generation = expected ∧
        version.toNat = expected.toNat + 1 ∧ after.published = ⟨version, next⟩) ∨
      (∃ error, result = .error error ∧ after = live) := by
  unfold publishIfVersion at published
  split at published
  · cases published
    exact .inr ⟨_, rfl, rfl⟩
  case isFalse same =>
    have current := not_not.mp same
    unfold replace at published
    cases moved : checkedAdd live.published.generation 1 with
    | none =>
      rw [moved] at published
      cases published
      exact .inr ⟨_, rfl, rfl⟩
    | some version =>
      rw [moved] at published
      cases published
      have successor := checkedAdd_eq_some.mp moved
      rw [current] at successor
      exact .inl ⟨version, rfl, current, successor, rfl⟩

end LiveAuthorizationStore

/-- How far one administrator is with a change. -/
inductive EditPhase
  | idle
  | observed (snapshot : AuthorizationSnapshot)
  | staged (snapshot : AuthorizationSnapshot) (draft : ClassroomPolicyDraft)

/-- The live store and any number of administrators at work on it. -/
structure EditState (Editor : Type) where
  live : LiveAuthorizationStore
  phase : Editor → EditPhase

inductive EditInput (Editor : Type)
  | snapshot (editor : Editor)
  | stage (editor : Editor) (actorCredential : CredentialFingerprint) (change : ClassroomPermissionChange)
      (nowUnixMs : UInt64)
  | publish (editor : Editor)

inductive EditReply
  | observed
  | staged
  | denied (error : ClassroomPolicyStageError)
  | published (audit : ClassroomAuditIntent) (result : Except LiveAuthorizationError UInt64)

abbrev EditCall (Editor : Type) := Call (EditState Editor) (EditInput Editor) EditReply

namespace EditState

variable {Editor : Type} [DecidableEq Editor]

def new (initial : AuthorizationStore) : EditState Editor := ⟨.new initial, fun _ => .idle⟩

def enter (state : EditState Editor) (editor : Editor) (phase : EditPhase) : EditState Editor :=
  { state with phase := Function.update state.phase editor phase }

/-- One atomic call of one administrator: a change is staged on the snapshot, under its version, and published
under that version. A refused change may be staged anew and a draft may be given up. -/
def step (state : EditState Editor) : EditInput Editor → Option (EditState Editor × EditReply)
  | .snapshot editor => some (state.enter editor (.observed state.live.snapshot), .observed)
  | .stage editor actorCredential change nowUnixMs =>
    match state.phase editor with
    | .observed snapshot =>
      match stageClassroomPermissionChange snapshot.authorization actorCredential
          { change with expectedPolicyGeneration := snapshot.generation } nowUnixMs with
      | .error error => some (state, .denied error)
      | .ok draft => some (state.enter editor (.staged snapshot draft), .staged)
    | _ => none
  | .publish editor =>
    match state.phase editor with
    | .staged snapshot draft =>
      let (live, result) := state.live.publishIfVersion snapshot.generation draft.candidate
      some ({ state with live := live }.enter editor .idle, .published draft.audit result)
    | _ => none

end EditState

/-- The intent of a publication that went through. -/
def EditReply.publication : EditReply → Option ClassroomAuditIntent
  | .published audit (.ok _) => some audit
  | _ => none

/-- The intents of the successful publications, in the order of publication. -/
def publications {Editor : Type} (past : List (EditCall Editor)) : List ClassroomAuditIntent :=
  past.filterMap (·.reply.publication)

/-- A record differs from another in the grants of classroom permissions that its role may have. -/
structure Principal.ClassroomChange (before after : Principal) : Prop where
  id : after.id = before.id
  kind : after.kind = before.kind
  enabled : after.enabled = before.enabled
  credentials : after.credentials = before.credentials
  permissions : ∀ permission, after.permissions.contains permission ≠ before.permissions.contains permission →
    (before.kind = .teacher ∨ before.kind = .studentDevice) ∧
      ∃ classroom : ClassroomPermission, classroom.underlyingPermission = permission ∧
        classroom.allowedFor before.kind = true

theorem Principal.ClassroomChange.refl (principal : Principal) : principal.ClassroomChange principal :=
  ⟨rfl, rfl, rfl, rfl, fun _ differ => absurd rfl differ⟩

theorem Principal.ClassroomChange.trans {first second third : Principal} (before : first.ClassroomChange second)
    (after : second.ClassroomChange third) : first.ClassroomChange third where
  id := after.id.trans before.id
  kind := after.kind.trans before.kind
  enabled := after.enabled.trans before.enabled
  credentials := after.credentials.trans before.credentials
  permissions := by
    intro permission differ
    by_cases moved : second.permissions.contains permission = first.permissions.contains permission
    · rw [← moved] at differ
      have allowed := after.permissions permission differ
      rwa [before.kind] at allowed
    · exact before.permissions permission moved

theorem Principal.ClassroomChange.setPermission {principal : Principal} {classroom : ClassroomPermission}
    (allowed : classroom.allowedFor principal.kind = true) (grant : Bool) :
    principal.ClassroomChange (principal.setPermission classroom.underlyingPermission grant) where
  id := rfl
  kind := rfl
  enabled := rfl
  credentials := rfl
  permissions := by
    intro permission differ
    have same : permission = classroom.underlyingPermission := by
      by_contra other
      exact differ (Principal.contains_setPermission_ne other)
    refine ⟨?_, classroom, same.symm, allowed⟩
    revert allowed
    cases classroom <;> cases principal.kind <;> decide

/-- The same principals with the same credentials, and records that differ in classroom permissions only. -/
structure AuthorizationStore.ClassroomChange (before after : AuthorizationStore) : Prop where
  owners : after.credentialOwners = before.credentialOwners
  records : ∀ id, Option.Rel Principal.ClassroomChange (before.principal id) (after.principal id)

theorem AuthorizationStore.ClassroomChange.refl (store : AuthorizationStore) : store.ClassroomChange store where
  owners := rfl
  records := by
    intro id
    cases store.principal id with
    | none => exact .none
    | some record => exact .some (.refl record)

theorem AuthorizationStore.ClassroomChange.trans {first second third : AuthorizationStore}
    (before : first.ClassroomChange second) (after : second.ClassroomChange third) : first.ClassroomChange third where
  owners := after.owners.trans before.owners
  records := by
    intro id
    have earlier := before.records id
    have later := after.records id
    generalize first.principal id = initially, second.principal id = between, third.principal id = last
      at earlier later ⊢
    cases earlier with
    | none => exact later
    | some earlier =>
      cases later with
      | some later => exact .some (earlier.trans later)

variable {store : AuthorizationStore} {published after : PublishedAuthorization}

theorem ClassroomAuditIntent.LegalIn.classroomChange {intent : ClassroomAuditIntent} (legal : intent.LegalIn store) :
    store.ClassroomChange (intent.appliedTo store) := by
  obtain ⟨_, stored, _, allowed, _⟩ := legal.target
  refine ⟨?_, fun id => ?_⟩
  · rw [ClassroomAuditIntent.appliedTo, AuthorizationStore.withPermission, stored]
  · rw [ClassroomAuditIntent.appliedTo, store.principal_withPermission stored]
    split
    · rename_i same
      rw [same, stored]
      exact .some (.setPermission allowed _)
    · exact (AuthorizationStore.ClassroomChange.refl store).records id

theorem Replays.classroomChange {final : AuthorizationStore} {intents : List ClassroomAuditIntent}
    (replays : Replays store intents final) : store.ClassroomChange final := by
  induction replays with
  | done store => exact .refl store
  | next legal _ ih => exact legal.classroomChange.trans ih

/-- A snapshot was published at some time: under the current version it is the current store. -/
structure AuthorizationSnapshot.SeenIn (snapshot : AuthorizationSnapshot) (published : PublishedAuthorization) :
    Prop where
  notNewer : snapshot.generation ≤ published.generation
  current : snapshot.generation = published.generation → snapshot.authorization = published.authorization
  indexed : snapshot.authorization.Indexed

/-- What an administrator holds. -/
inductive EditPhase.Sound (published : PublishedAuthorization) : EditPhase → Prop
  | idle : Sound published .idle
  | observed {snapshot : AuthorizationSnapshot} (seen : snapshot.SeenIn published) :
      Sound published (.observed snapshot)
  | staged {snapshot : AuthorizationSnapshot} {draft : ClassroomPolicyDraft} (seen : snapshot.SeenIn published)
      (legal : draft.audit.LegalIn snapshot.authorization)
      (candidate : draft.candidate = draft.audit.appliedTo snapshot.authorization)
      (generation : draft.audit.expectedPolicyGeneration = snapshot.generation) :
      Sound published (.staged snapshot draft)

theorem AuthorizationSnapshot.SeenIn.later {snapshot : AuthorizationSnapshot} (seen : snapshot.SeenIn published)
    (newer : published.generation < after.generation) : snapshot.SeenIn after := by
  have older := UInt64.lt_of_le_of_lt seen.notNewer newer
  exact ⟨UInt64.le_of_lt older, fun same => absurd same (UInt64.ne_of_lt older), seen.indexed⟩

theorem EditPhase.Sound.later {phase : EditPhase} (sound : phase.Sound published)
    (newer : published.generation < after.generation) : phase.Sound after := by
  cases sound with
  | idle => exact .idle
  | observed seen => exact .observed (seen.later newer)
  | staged seen legal candidate generation => exact .staged (seen.later newer) legal candidate generation

/-- The published store is the initial one with the successful changes applied in order. -/
structure EditState.Serial {Editor : Type} (initial : AuthorizationStore) (past : List (EditCall Editor))
    (state : EditState Editor) : Prop where
  version : state.live.published.generation.toNat = 1 + (publications past).length
  replays : Replays initial (publications past) state.live.published.authorization
  numbered : (publications past).map (·.expectedPolicyGeneration.toNat) =
    List.range' 1 (publications past).length
  phases : ∀ editor, (state.phase editor).Sound state.live.published

section Serial

variable {Editor : Type} {initial : AuthorizationStore} {past : List (EditCall Editor)}
  {state after : EditState Editor} {input : EditInput Editor} {reply : EditReply} {audit : ClassroomAuditIntent}
  {call : EditCall Editor}

theorem publications_append_none (call : EditCall Editor) (nothing : call.reply.publication = none) :
    publications (past ++ [call]) = publications past := by
  simp [publications, List.filterMap_append, nothing]

theorem publications_append_some (call : EditCall Editor) (made : call.reply.publication = some audit) :
    publications (past ++ [call]) = publications past ++ [audit] := by
  simp [publications, List.filterMap_append, made]

theorem EditState.Serial.keep (serial : state.Serial initial past) (nothing : call.reply.publication = none) :
    state.Serial initial (past ++ [call]) := by
  have same : publications (past ++ [call]) = publications past := publications_append_none call nothing
  obtain ⟨version, replays, numbered, phases⟩ := serial
  rw [← same] at version replays numbered
  exact ⟨version, replays, numbered, phases⟩

variable [DecidableEq Editor]

/-- A call that publishes nothing keeps the order, whatever sound thing the administrator then holds. -/
theorem EditState.Serial.enter (serial : state.Serial initial past) (nothing : call.reply.publication = none)
    (editor : Editor) {phase : EditPhase} (sound : phase.Sound state.live.published) :
    (state.enter editor phase).Serial initial (past ++ [call]) := by
  obtain ⟨version, replays, numbered, phases⟩ := serial.keep nothing
  refine ⟨version, replays, numbered, fun other => ?_⟩
  by_cases same : other = editor
  · subst same
    simpa [EditState.enter] using sound
  · simpa [EditState.enter, Function.update_of_ne same] using phases other

theorem EditState.Serial.publish (serial : state.Serial initial past) {snapshot : AuthorizationSnapshot}
    {draft : ClassroomPolicyDraft} {version : UInt64} (editor : Editor)
    (holds : state.phase editor = .staged snapshot draft) (made : call.reply.publication = some draft.audit)
    (current : state.live.published.generation = snapshot.generation)
    (successor : version.toNat = snapshot.generation.toNat + 1) :
    EditState.Serial initial (past ++ [call])
      ({ state with live := ⟨⟨version, draft.candidate⟩⟩ }.enter editor .idle) := by
  have held := serial.phases editor
  rw [holds] at held
  cases held with
  | staged seen legal candidate generation =>
    have store := seen.current current.symm
    rw [store] at legal candidate
    have newer : state.live.published.generation < version := by
      rw [UInt64.lt_iff_toNat_lt, current]
      omega
    have counted : snapshot.generation.toNat = 1 + (publications past).length := by
      rw [← current]
      exact serial.version
    refine ⟨?_, ?_, ?_, fun other => ?_⟩
    · rw [publications_append_some call made, List.length_append, List.length_singleton, ← Nat.add_assoc, ← counted]
      exact successor
    · rw [publications_append_some call made, serial.replays.append_iff, replays_cons, replays_nil]
      exact ⟨legal, candidate.symm⟩
    · rw [publications_append_some call made, List.map_append, List.length_append, List.length_singleton,
        List.range'_concat, serial.numbered, List.map_singleton, generation, counted, Nat.one_mul]
    · by_cases same : other = editor
      · subst same
        simpa [EditState.enter] using EditPhase.Sound.idle
      · have phase : (state.phase other).Sound ⟨version, draft.candidate⟩ := (serial.phases other).later newer
        simpa [EditState.enter, Function.update_of_ne same] using phase

/-- Every step of an editor keeps the edits serial. Only a publication moves the published store, and it goes through
only from the generation that its draft was staged on. -/
theorem EditState.Serial.step (reachable : initial.Indexed) (serial : state.Serial initial past)
    (taken : state.step input = some (after, reply)) :
    after.Serial initial (past ++ [⟨state, input, reply, after⟩]) := by
  cases input with
  | snapshot editor =>
    cases taken
    have indexed := serial.replays.indexed reachable
    exact serial.enter rfl editor (.observed ⟨le_refl _, fun _ => rfl, indexed⟩)
  | stage editor =>
    rw [EditState.step] at taken
    have held := serial.phases editor
    split at taken
    case h_1 snapshot holds =>
      rw [holds] at held
      cases held with
      | observed seen =>
        split at taken
        · cases taken
          exact serial.keep rfl
        case h_2 draft made =>
          cases taken
          have staged := stage_ok seen.indexed made
          exact serial.enter rfl editor (.staged seen staged.legal staged.candidate staged.generation)
    · cases taken
  | publish editor =>
    rw [EditState.step] at taken
    split at taken
    case h_1 snapshot draft holds =>
      generalize outcome : state.live.publishIfVersion snapshot.generation draft.candidate = published at taken
      obtain ⟨live, _⟩ := published
      cases taken
      rcases LiveAuthorizationStore.publishIfVersion_cases outcome with
        ⟨version, rfl, current, successor, replaced⟩ | ⟨error, rfl, rfl⟩
      · obtain ⟨_⟩ := live
        cases replaced
        exact serial.publish editor holds rfl current successor
      · exact serial.enter rfl editor .idle
    · cases taken

theorem EditState.Serial.of_run (reachable : initial.Indexed)
    (run : Run (Partial EditState.step) (EditState.new initial) past state) : state.Serial initial past := by
  induction run with
  | start => exact ⟨rfl, .done initial, rfl, fun _ => .idle⟩
  | next _ taken ih => exact ih.step reachable taken

theorem EditState.step_rejected {error : LiveAuthorizationError}
    (taken : state.step input = some (after, .published audit (.error error))) : after.live = state.live := by
  cases input with
  | snapshot => cases taken
  | stage =>
    rw [EditState.step] at taken
    repeat' split at taken
    all_goals cases taken
  | publish =>
    rw [EditState.step] at taken
    split at taken
    case h_1 snapshot draft holds =>
      generalize outcome : state.live.publishIfVersion snapshot.generation draft.candidate = published at taken
      obtain ⟨_, _⟩ := published
      cases taken
      rcases LiveAuthorizationStore.publishIfVersion_cases outcome with ⟨_, refused, _⟩ | ⟨_, _, rfl⟩
      · cases refused
      · rfl
    · cases taken

end Serial

/-- Whatever the order of the calls of any number of administrators, the live store is the initial one with the
successful changes applied one after another, each legal where it was applied, and a rejected publication leaves
it as it was. -/
theorem edits_serialise {history : List StoreCall} {initial : AuthorizationStore}
    (reachable : Run (Total AuthorizationStore.step) {} history initial) {Editor : Type} [DecidableEq Editor]
    {past : List (EditCall Editor)} {state : EditState Editor}
    (run : Run (Partial EditState.step) (EditState.new initial) past state) :
    state.live.published.generation.toNat = 1 + (publications past).length ∧
      Replays initial (publications past) state.live.published.authorization ∧
      (publications past).map (·.expectedPolicyGeneration.toNat) = List.range' 1 (publications past).length ∧
      initial.ClassroomChange state.live.published.authorization ∧
      ∀ call ∈ past, ∀ audit error, call.reply = .published audit (.error error) →
        call.after.live = call.before.live := by
  have serial := EditState.Serial.of_run (AuthorizationStore.indexed_of_run reachable) run
  refine ⟨serial.version, serial.replays, serial.numbered, serial.replays.classroomChange, ?_⟩
  rintro ⟨_, _, _, _⟩ member audit error rfl
  obtain ⟨_, _, _, _, taken, _⟩ := run.of_mem member
  exact EditState.step_rejected taken

/-- Two administrators start from the same version: the first publication goes through and the second is refused. -/
theorem edits_serialise_race : ∃ (past : List (EditCall Bool)) (state : EditState Bool),
    let initial := runOn AuthorizationStore.step {} sampleBaseline
    Run (Partial EditState.step) (EditState.new initial) past state ∧
      (publications past).length = 1 ∧ past.length = 6 ∧
      state.live.published.generation.toNat = 1 + (publications past).length ∧
      Replays initial (publications past) state.live.published.authorization := by
  have reachable := Run.of_calls AuthorizationStore.step {} sampleBaseline
  let change : ClassroomPermissionChange := ⟨⟨.replicate 2⟩, .viewMonitoring, true, 1, 0⟩
  let other : ClassroomPermissionChange := ⟨⟨.replicate 2⟩, .startPresentation, true, 1, 0⟩
  have made : (tryCalls EditState.step (EditState.new (runOn AuthorizationStore.step {} sampleBaseline))
      [.snapshot false, .snapshot true, .stage true ⟨.replicate 9⟩ change 10, .stage false ⟨.replicate 9⟩ other 10,
        .publish false, .publish true]).map
      (fun result => ((publications result.1).length, result.1.length)) = some (1, 6) := by
    decide +kernel
  obtain ⟨past, state, run, _, lengths⟩ := Run.of_traced made
  obtain ⟨published, calls⟩ := Prod.mk.inj lengths
  obtain ⟨version, replays, _⟩ := edits_serialise reachable run
  exact ⟨past, state, run, published, calls, version, replays⟩

end ClassMesh
