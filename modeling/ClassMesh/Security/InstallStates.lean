import ClassMesh.Security.GroupMembership

namespace ClassMesh

open Std Foundation GroupMediaCoordinator ExtTreeMap

namespace GroupMediaCoordinator

variable {S : Sframe} {c after : GroupMediaCoordinator S} {p : PrincipalId} {state : GroupMediaReceiverInstallState}
  {authorization : AuthorizationStore} {principal : PrincipalId} {input : CoordinatorInput}
  {generated : Option Bytes32} {epoch : GroupMediaEpoch}

/-- Where a receiver's install state comes from: it waits for a key, stood there before the call in the same epoch, or
is what the call itself says about the active epoch. -/
inductive StateOrigin (c after : GroupMediaCoordinator S) (input : CoordinatorInput) (reply : CoordinatorReply)
    (p : PrincipalId) : GroupMediaReceiverInstallState → Prop
  | awaiting : StateOrigin c after input reply p .awaitingKey
  | kept {state : GroupMediaReceiverInstallState} : c.receivers[p]? = some state → after.activeEpoch = c.activeEpoch →
      StateOrigin c after input reply p state
  | issued {authorization : AuthorizationStore}
      (grant : GroupMediaKeyGrant) : input = .issueKey authorization p → reply = .issued (.ok grant) →
      c.activeEpoch = some grant.epoch → after.activeEpoch = c.activeEpoch →
      StateOrigin c after input reply p (.keyIssued grant.epoch)
  | installed {authorization : AuthorizationStore}
      {epoch : GroupMediaEpoch} : input = .markInstalled authorization p epoch → reply = .marked (.ok ()) →
      c.receivers[p]? = some (.keyIssued epoch) → after.activeEpoch = c.activeEpoch →
      StateOrigin c after input reply p (.installed epoch)

theorem awaitKeys_state (stored : c.awaitKeys[p]? = some state) : state = .awaitingKey := by
  rw [awaitKeys, getElem?_map] at stored
  obtain ⟨_, _, same⟩ := Option.map_eq_some_iff.mp stored
  exact same.symm

theorem reconcileAuthorization_state (stored : (c.reconcileAuthorization authorization).receivers[p]? = some state) :
    c.receivers[p]? = some state := by
  simp only [reconcileAuthorization, getElem?_filter'] at stored
  obtain ⟨found, _⟩ := Option.filter_eq_some_iff.mp stored
  exact found

theorem registerReceiver_origin {result : Except GroupMediaCoordinatorError GroupMediaRegistration}
    (run : c.registerReceiver authorization principal = (after, result)) (stored : after.receivers[p]? = some state) :
    StateOrigin c after input (.registered result) p state := by
  unfold registerReceiver at run
  split at run
  · cases run
    exact .kept stored rfl
  split at run
  · cases run
    exact .kept stored rfl
  split at run
  · cases run
    exact .kept stored rfl
  · cases run
    rcases BTreeMap.getElem?_insert_cases stored with ⟨_, rfl⟩ | ⟨_, old⟩
    · exact .awaiting
    · exact .kept old rfl

theorem removeReceiver_origin {result : Bool} (run : c.removeReceiver principal = (after, result))
    (stored : after.receivers[p]? = some state) : StateOrigin c after input (.removed result) p state := by
  cases run
  have left : (c.receivers.erase principal)[p]? = some state := stored
  rw [getElem?_erase] at left
  split at left
  · cases left
  · exact .kept left rfl

theorem beginEpoch_origin {result : Except GroupMediaCoordinatorError GroupMediaEpoch}
    (run : c.beginEpoch generated = (after, result)) (stored : after.receivers[p]? = some state) :
    StateOrigin c after input (.begun result) p state := by
  rcases beginEpoch_outcome run with ⟨rfl, _⟩ | ⟨_, _, _, _, _, waiting⟩
  · exact .kept stored rfl
  · rw [waiting] at stored
    exact awaitKeys_state stored ▸ .awaiting

theorem endEpoch_origin {result : Option GroupMediaEpoch} (run : c.endEpoch = (after, result))
    (stored : after.receivers[p]? = some state) : StateOrigin c after input (.ended result) p state := by
  cases run
  cases live : c.active with
  | none =>
    simp only [live, Option.isSome_none, Bool.false_eq_true, if_false] at stored
    exact .kept stored (by simp [activeEpoch, live])
  | some =>
    simp only [live, Option.isSome_some, if_true] at stored
    exact awaitKeys_state stored ▸ .awaiting

theorem issueKey_origin {result : Except GroupMediaCoordinatorError GroupMediaKeyGrant}
    (run : c.issueKey authorization principal = (after, result)) (stored : after.receivers[p]? = some state) :
    StateOrigin c after (.issueKey authorization principal) (.issued result) p state := by
  rcases issueKey_outcome run with ⟨rfl, _⟩ | ⟨active, live, _, _, rfl, rfl⟩
  · exact .kept (reconcileAuthorization_state stored) rfl
  · rcases BTreeMap.getElem?_insert_cases stored with ⟨rfl, rfl⟩ | ⟨_, old⟩
    · exact .issued ⟨p, active.epoch, active.key⟩ rfl rfl (by simp [activeEpoch, live]) rfl
    · exact .kept (reconcileAuthorization_state old) rfl

theorem markInstalled_origin {result : Except GroupMediaCoordinatorError Unit}
    (run : c.markInstalled authorization principal epoch = (after, result))
    (stored : after.receivers[p]? = some state) :
    StateOrigin c after (.markInstalled authorization principal epoch) (.marked result) p state := by
  rcases markInstalled_outcome run with rfl | ⟨found, rfl, rfl⟩
  · exact .kept (reconcileAuthorization_state stored) rfl
  · rcases BTreeMap.getElem?_insert_cases stored with ⟨rfl, rfl⟩ | ⟨_, old⟩
    · exact .installed rfl rfl (reconcileAuthorization_state found) rfl
    · exact .kept (reconcileAuthorization_state old) rfl

theorem sealBoundFrame_origin {plaintext : List UInt8} {binding : GroupMediaFrameBinding}
    {result : Except GroupMediaCoordinatorError SealedGroupMediaFrame}
    (run : c.sealBoundFrame authorization plaintext binding = (after, result))
    (stored : after.receivers[p]? = some state) : StateOrigin c after input (.sealed result) p state := by
  unfold sealBoundFrame at run
  dsimp only at run
  split at run
  · cases run
    exact .kept (reconcileAuthorization_state stored) rfl
  split at run
  · cases run
    exact .kept (reconcileAuthorization_state stored) rfl
  case h_2 active live =>
    have here : c.active = some active := live
    obtain ⟨rfl, _⟩ := Prod.mk.inj run
    exact .kept (reconcileAuthorization_state stored) (by simp [activeEpoch, here])

theorem step_origin {reply : CoordinatorReply} (taken : Total step c input reply after)
    (stored : after.receivers[p]? = some state) : StateOrigin c after input reply p state := by
  cases input with
  | registerReceiver =>
    cases taken
    exact registerReceiver_origin rfl stored
  | removeReceiver =>
    cases taken
    exact removeReceiver_origin rfl stored
  | beginEpoch =>
    cases taken
    exact beginEpoch_origin rfl stored
  | endEpoch =>
    cases taken
    exact endEpoch_origin rfl stored
  | issueKey =>
    cases taken
    exact issueKey_origin rfl stored
  | markInstalled =>
    cases taken
    exact markInstalled_origin rfl stored
  | sealBoundFrame =>
    cases taken
    exact sealBoundFrame_origin rfl stored

end GroupMediaCoordinator

variable {S : Sframe} {initial final : GroupMediaCoordinator S} {past : List (CoordinatorCall S)}
  {principal : PrincipalId} {epoch : GroupMediaEpoch} {c : GroupMediaCoordinator S}

/-- A successful `mark_installed` of `epoch` for `principal`. -/
def CoordinatorCall.Marks (call : CoordinatorCall S) (principal : PrincipalId) (epoch : GroupMediaEpoch) : Prop :=
  (∃ authorization, call.input = .markInstalled authorization principal epoch) ∧ call.reply = .marked (.ok ())

/-- After `epoch` was begun, its key was issued to `principal`. -/
def IssuedSince (past : List (CoordinatorCall S)) (principal : PrincipalId) (epoch : GroupMediaEpoch) : Prop :=
  ∃ earlier begun middle issue later authorization, past = earlier ++ begun :: (middle ++ issue :: later) ∧
    begun.Begins epoch ∧ issue.Grants authorization principal epoch

/-- And after that `principal` reported it as installed. -/
def InstalledSince (past : List (CoordinatorCall S)) (principal : PrincipalId) (epoch : GroupMediaEpoch) : Prop :=
  ∃ earlier begun middle issue between mark later authorization,
    past = earlier ++ begun :: (middle ++ issue :: (between ++ mark :: later)) ∧
      begun.Begins epoch ∧ issue.Grants authorization principal epoch ∧ mark.Marks principal epoch

theorem IssuedSince.concat (since : IssuedSince past principal epoch) (call : CoordinatorCall S) :
    IssuedSince (past ++ [call]) principal epoch := by
  obtain ⟨earlier, begun, middle, issue, later, authorization, rfl, begins, grants⟩ := since
  exact ⟨earlier, begun, middle, issue, later ++ [call], authorization, by simp, begins, grants⟩

theorem InstalledSince.concat (since : InstalledSince past principal epoch) (call : CoordinatorCall S) :
    InstalledSince (past ++ [call]) principal epoch := by
  obtain ⟨earlier, begun, middle, issue, between, mark, later, authorization, rfl, rest⟩ := since
  exact ⟨earlier, begun, middle, issue, between, mark, later ++ [call], authorization, by simp, rest⟩

/-- Install states speak about the active epoch, and the calls that they report were made in it. -/
structure InstallHistory (past : List (CoordinatorCall S)) (c : GroupMediaCoordinator S) : Prop where
  issued : ∀ (p : PrincipalId) epoch, c.receivers[p]? = some (.keyIssued epoch) →
    c.activeEpoch = some epoch ∧ IssuedSince past p epoch
  installed : ∀ (p : PrincipalId) epoch, c.receivers[p]? = some (.installed epoch) →
    c.activeEpoch = some epoch ∧ InstalledSince past p epoch

theorem InstallHistory.next {after : GroupMediaCoordinator S} {input : CoordinatorInput} {reply : CoordinatorReply}
    (history : InstallHistory past c) (epochs : EpochHistory past c) (taken : Total step c input reply after) :
    InstallHistory (past ++ [⟨c, input, reply, after⟩]) after := by
  refine ⟨fun p epoch stored => ?_, fun p epoch stored => ?_⟩
  · cases step_origin taken stored with
    | kept before same =>
      obtain ⟨live, since⟩ := history.issued p epoch before
      exact ⟨same.trans live, since.concat _⟩
    | issued grant asked granted live same =>
      obtain ⟨begun, member, begins⟩ := epochs.begun _ live
      obtain ⟨earlier, middle, rfl⟩ := List.append_of_mem member
      exact ⟨same.trans live, earlier, begun, middle, ⟨c, input, reply, after⟩, [], _, by simp,
        begins, grant, ⟨asked, granted⟩, rfl⟩
  · cases step_origin taken stored with
    | kept before same =>
      obtain ⟨live, since⟩ := history.installed p epoch before
      exact ⟨same.trans live, since.concat _⟩
    | installed asked marked before same =>
      obtain ⟨live, earlier, begun, middle, issue, later, authorization, rfl, begins, grants⟩ :=
        history.issued p epoch before
      exact ⟨same.trans live, earlier, begun, middle, issue, later, ⟨c, input, reply, after⟩, [], authorization,
        by simp,
        begins, grants, ⟨_, asked⟩, marked⟩

theorem GroupMediaCoordinator.Fresh.receivers_eq (fresh : c.Fresh) : c.receivers = ∅ := by
  rcases fresh with rfl | ⟨_, made⟩
  · rfl
  · unfold withLimit at made
    split at made
    · cases made
    · cases Except.ok.inj made
      rfl

theorem InstallHistory.of_run (fresh : initial.Fresh) (run : Run (Total step) initial past final) :
    InstallHistory past final := by
  induction run with
  | start => exact ⟨by simp [fresh.receivers_eq], by simp [fresh.receivers_eq]⟩
  | next earlier taken ih => exact ih.next (EpochHistory.of_run fresh earlier) taken

/-- Install states speak about the live epoch, epochs only go up, and a begin that fails changes nothing. All three hold
at every call of a run, in whatever order the calls come. -/
theorem install_states_live (fresh : initial.Fresh) (run : Run (Total GroupMediaCoordinator.step) initial past final) :
    InstallHistory past final ∧
    (∀ earlier first middle second later epoch next, past = earlier ++ first :: (middle ++ second :: later) →
      first.Begins epoch → second.Begins next → epoch.value < next.value) ∧
    ∀ call ∈ past, ∀ error, call.reply = .begun (.error error) →
      call.after.receivers = call.before.receivers ∧ call.after.activeEpoch = call.before.activeEpoch ∧
        call.after.rotationRequired = call.before.rotationRequired := by
  refine ⟨InstallHistory.of_run fresh run, ?_, ?_⟩
  · intro earlier first middle second later epoch next cut begins again
    have cutSecond : past = (earlier ++ first :: middle) ++ second :: later := by simp [cut]
    obtain ⟨reached, taken, _⟩ := run.split cutSecond
    have bounded := (EpochHistory.of_run fresh reached).bounded first (by simp) epoch begins
    cases step_effect taken with
    | begun made =>
      cases made.symm.trans again
      rw [UInt32.lt_iff_toNat_lt]
      omega
    | ended other => exact absurd again (other next)
    | kept other => exact absurd again (other next)
  · intro call member error failed
    obtain ⟨_, _, _, _, taken, _⟩ := run.of_mem member
    obtain ⟨c, input, _, after⟩ := call
    dsimp only at failed taken ⊢
    subst failed
    cases input with
    | beginEpoch generated =>
      obtain ⟨left, same⟩ := Prod.mk.inj taken
      have made : c.beginEpoch generated = (after, .error error) := Prod.ext left (CoordinatorReply.begun.inj same)
      rcases beginEpoch_outcome made with ⟨rfl, _⟩ | ⟨_, begun, _⟩
      · exact ⟨rfl, rfl, rfl⟩
      · cases begun
    | _ => cases (Prod.mk.inj taken).2

/-- A student is admitted, a first begin fails for want of a key, and the student receives and installs the key of the
second one. -/
theorem install_states_live_one_receiver :
    let student : PrincipalId := ⟨.replicate 7⟩
    let store : AuthorizationStore := (AuthorizationStore.upsert {}
      ⟨student, .studentDevice, true, {.receivePresentation}, ∅⟩).1
    let epoch : GroupMediaEpoch := ⟨1, by decide⟩
    let inputs : List CoordinatorInput := [.registerReceiver store student, .beginEpoch none,
      .beginEpoch (some (.replicate 9)), .issueKey store student, .markInstalled store student epoch]
    let final := runOn GroupMediaCoordinator.step ({} : GroupMediaCoordinator (ledgerSframe [])) inputs
    final.receivers[student]? = some (.installed epoch) ∧ final.activeEpoch = some epoch ∧
      InstalledSince (calls GroupMediaCoordinator.step ({} : GroupMediaCoordinator (ledgerSframe [])) inputs)
        student epoch := by
  intro student store epoch inputs final
  have stored : final.receivers[student]? = some (.installed epoch) := by decide +kernel
  exact ⟨stored, (install_states_live (.inl rfl) (Run.of_calls _ _ inputs)).1.installed student epoch stored⟩

end ClassMesh
