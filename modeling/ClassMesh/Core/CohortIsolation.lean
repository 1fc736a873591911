import ClassMesh.Core.ReceiverCohort
import ClassMesh.Foundation.Isolation

namespace ClassMesh

open Std Foundation ReceiverCohortPlanner

variable {M : Type}

abbrev CohortCall (M : Type) := Call (ReceiverCohortPlanner M) (CohortInput M) CohortReply

/-- The calls that are addressed to a receiver, and those addressed to all. -/
def addressedTo (receiver : ReceiverId) : CohortInput M → Bool
  | .register other _ | .observe other _ _ | .remove other => other = receiver
  | .expireStale _ => true

/-- What a reply says about a receiver. -/
def toldAbout (receiver : ReceiverId) : CohortReply → CohortReply
  | .expired changes => .expired (changes.filter fun change => change.1 = receiver)
  | reply => reply

/-- The reply is not that of a registration that failed. -/
def CohortReply.unrefused : CohortReply → Bool
  | .registered (.error _) => false
  | _ => true

/-- All of a planner that concerns one receiver. -/
structure ReceiverView (M : Type) where
  kind : StreamKind
  hysteresis : HysteresisConfig
  qualityPolicy : ReceiverQualityPolicy M
  state : Option (ReceiverState M)
  route : Option CohortKey

def viewOf (receiver : ReceiverId) (planner : ReceiverCohortPlanner M) : ReceiverView M :=
  ⟨planner.kind, planner.hysteresis, planner.qualityPolicy, planner.receivers[receiver]?, planner.router[receiver]?⟩

section Steps

variable {planner : ReceiverCohortPlanner M} {receiver other : ReceiverId} {nowUs : UInt64}
  {sample : ReceiverQualitySample M} {transport : MediaTransport} {state : ReceiverState M} {input : CohortInput M}

/-- A registration fails and changes nothing, or adds a receiver that was not there with a new controller. -/
inductive RegisterOutcome (planner : ReceiverCohortPlanner M) (receiver : ReceiverId) (transport : MediaTransport) :
    ReceiverCohortPlanner M → Except ReceiverCohortPlannerError Unit → Prop
  | refused (error : ReceiverCohortPlannerError) : RegisterOutcome planner receiver transport planner (.error error)
  | added (quality : ReceiverQualityController M) : planner.receivers[receiver]? = none →
      ReceiverQualityController.new planner.kind planner.hysteresis planner.qualityPolicy = .ok quality →
      RegisterOutcome planner receiver transport
        { planner with receivers := planner.receivers.insert receiver ⟨transport, quality⟩ } (.ok ())

theorem register_outcome (planner : ReceiverCohortPlanner M) (receiver : ReceiverId) (transport : MediaTransport) :
    RegisterOutcome planner receiver transport (planner.register receiver transport).1
      (planner.register receiver transport).2 := by
  unfold register
  split
  · exact .refused _
  · rename_i absent
    split
    · exact .refused _
    · split
      · exact .refused _
      · rename_i quality made
        refine .added quality ?_ made
        rwa [Bool.not_eq_true, ← Bool.not_eq_true, ExtTreeMap.contains_iff_mem, ← ExtTreeMap.isSome_getElem?_iff_mem,
          Bool.not_eq_true, Option.isSome_eq_false_iff, Option.isNone_iff_eq_none] at absent

theorem observe_known (stored : planner.receivers[receiver]? = some state) :
    planner.observe receiver sample nowUs =
      ({ planner with
          receivers := planner.receivers.insert receiver
            { state with quality := (state.quality.observe sample nowUs).1 }
          router := planner.router.insert receiver (CohortRouter.cohortOf
            (decisionFor state.transport (state.quality.observe sample nowUs).2.decision)) },
        .ok ⟨(state.quality.observe sample nowUs).2, receiver, CohortRouter.cohortOf
          (decisionFor state.transport (state.quality.observe sample nowUs).2.decision)⟩) := by
  simp only [observe, stored]
  rfl

theorem observe_unknown (missing : planner.receivers[receiver]? = none) :
    planner.observe receiver sample nowUs = (planner, .error .unknownReceiver) := by
  simp only [observe, missing]

theorem foldl_update_getElem? (changes : List (ReceiverId × StreamDecision)) (router : CohortRouter)
    (receiver : ReceiverId) :
    (changes.foldl (fun router change => (router.update change.1 change.2).1) router)[receiver]? =
      (changes.filter fun change => change.1 = receiver).foldl
        (fun _ change => some (CohortRouter.cohortOf change.2)) router[receiver]? := by
  induction changes generalizing router with
  | nil => rfl
  | cons change rest ih =>
    rw [List.foldl_cons, ih]
    by_cases same : change.1 = receiver
    · subst same
      rw [List.filter_cons_of_pos (by simp), List.foldl_cons]
      simp [CohortRouter.update]
    · rw [List.filter_cons_of_neg (by simp [same])]
      congr 1
      exact BTreeMap.getElem?_insert_ne (Ne.symm same)

/-- The route of a receiver after an expiry depends on that receiver alone. -/
theorem expireStale_route (planner : ReceiverCohortPlanner M) (nowUs : UInt64) (receiver : ReceiverId) :
    (planner.expireStale nowUs).1.router[receiver]? =
      ((planner.receivers[receiver]?.bind fun state => expired nowUs (receiver, state)).map fun change =>
        CohortRouter.cohortOf change.2).or planner.router[receiver]? := by
  refine (foldl_update_getElem? _ _ _).trans ?_
  rw [expired_changes_filter]
  cases planner.receivers[receiver]?.bind fun state => expired nowUs (receiver, state) with
  | none | some => rfl

theorem expireStale_told (planner : ReceiverCohortPlanner M) (nowUs : UInt64) (receiver : ReceiverId) :
    (planner.expireStale nowUs).2.filter (fun change => change.1 = receiver) =
      (planner.receivers[receiver]?.bind fun state => expired nowUs (receiver, state)).toList.map fun change =>
        (change.1, ⟨change.1, CohortRouter.cohortOf change.2⟩) := by
  rw [expireStale, List.filter_map, ← expired_changes_filter]
  rfl

theorem viewOf_unaddressed (unseen : addressedTo receiver input = false) :
    viewOf receiver (planner.step input).1 = viewOf receiver planner := by
  cases input with
  | register other transport =>
    have different : receiver ≠ other := fun same => of_decide_eq_false unseen same.symm
    have outcome := register_outcome planner other transport
    simp only [step]
    generalize planner.register other transport = result at outcome ⊢
    obtain ⟨_, _⟩ := result
    cases outcome with
    | refused => rfl
    | added => simp only [viewOf, BTreeMap.getElem?_insert_ne different]
  | observe other =>
    have different : receiver ≠ other := fun same => of_decide_eq_false unseen same.symm
    simp only [step]
    cases stored : planner.receivers[other]? with
    | none => rw [observe_unknown stored]
    | some =>
      rw [observe_known stored]
      simp only [viewOf, BTreeMap.getElem?_insert_ne different]
  | expireStale => cases unseen
  | remove other =>
    have different : receiver ≠ other := fun same => of_decide_eq_false unseen same.symm
    simp only [step, remove, viewOf, BTreeMap.getElem?_erase_ne different]

/-- A call does the same to two planners that agree about its receiver. -/
theorem step_addressed {planner' : ReceiverCohortPlanner M} (seen : addressedTo receiver input = true)
    (accepted : (planner.step input).2.unrefused) (accepted' : (planner'.step input).2.unrefused)
    (same : viewOf receiver planner = viewOf receiver planner') :
    viewOf receiver (planner.step input).1 = viewOf receiver (planner'.step input).1 ∧
      toldAbout receiver (planner.step input).2 = toldAbout receiver (planner'.step input).2 := by
  have agree := same
  simp only [viewOf, ReceiverView.mk.injEq] at agree
  obtain ⟨kind, hysteresis, policy, states, routes⟩ := agree
  cases input with
  | register other transport =>
    cases of_decide_eq_true seen
    have outcome := register_outcome planner receiver transport
    have outcome' := register_outcome planner' receiver transport
    simp only [step] at accepted accepted' ⊢
    generalize planner.register receiver transport = result at accepted outcome ⊢
    generalize planner'.register receiver transport = result' at accepted' outcome' ⊢
    obtain ⟨_, _⟩ := result
    obtain ⟨_, _⟩ := result'
    cases outcome with
    | refused => cases accepted
    | added quality _ made =>
      cases outcome' with
      | refused => cases accepted'
      | added quality' _ made' =>
        rw [kind, hysteresis, policy] at made
        cases made.symm.trans made'
        simp only [viewOf, ExtTreeMap.getElem?_insert_self, kind, hysteresis, policy, routes, and_self]
  | observe =>
    cases of_decide_eq_true seen
    simp only [step]
    cases stored : planner.receivers[receiver]? with
    | none =>
      rw [observe_unknown stored, observe_unknown (states.symm.trans stored)]
      exact ⟨same, rfl⟩
    | some =>
      rw [observe_known stored, observe_known (states.symm.trans stored)]
      simp only [viewOf, ExtTreeMap.getElem?_insert_self, kind, hysteresis, policy, and_self]
  | expireStale =>
    refine ⟨?_, ?_⟩
    · simp only [step, viewOf, expireStale_receivers, expireStale_route, states, routes]
      simp only [expireStale, kind, hysteresis, policy]
    · simp only [step, toldAbout, expireStale_told, states]
  | remove =>
    cases of_decide_eq_true seen
    have present : planner.receivers.contains receiver = planner'.receivers.contains receiver := by
      rw [← ExtTreeMap.isSome_getElem?_eq_contains, ← ExtTreeMap.isSome_getElem?_eq_contains, states]
    simp only [step, remove, viewOf, ExtTreeMap.getElem?_erase_self, kind, hysteresis, policy,
      present, and_self]

theorem isolates_receiver (receiver : ReceiverId) :
    Isolates (Total (step (M := M))) (fun call => call.reply.unrefused = true)
      (addressedTo receiver) (viewOf receiver) (toldAbout receiver) where
  unseen call taken _ unseen := by
    have left : (call.before.step call.input).1 = call.after := (Prod.ext_iff.mp taken).1
    rw [← left]
    exact viewOf_unaddressed unseen
  agrees first second taken taken' accepted accepted' sameInput seen sameView := by
    obtain ⟨left, replied⟩ := Prod.ext_iff.mp taken
    obtain ⟨left', replied'⟩ := Prod.ext_iff.mp taken'
    simp only [← sameInput] at left' replied'
    simp only at left replied left' replied'
    rw [← left, ← left', ← replied, ← replied']
    exact step_addressed seen (by rwa [replied]) (by rwa [replied']) sameView

end Steps

section Routes

variable {planner after : ReceiverCohortPlanner M} {input : CohortInput M} {reply : CohortReply}
  {receiver : ReceiverId} {state : ReceiverState M} {past : List (CohortCall M)}
  {initial final : ReceiverCohortPlanner M} {policy : ReceiverQualityPolicy M} {hysteresis : HysteresisConfig}
  {kind : StreamKind}

/-- The cohort of a receiver by its transport and the tier of its controller, if it has one. -/
def ReceiverState.cohort (state : ReceiverState M) : Option CohortKey :=
  state.quality.tier.map fun tier => ⟨.fromTransport state.transport, tier⟩

/-- The routing table follows from the controllers. -/
def ReceiverCohortPlanner.Consistent (planner : ReceiverCohortPlanner M) : Prop :=
  ∀ receiver : ReceiverId, planner.route receiver = planner.receivers[receiver]?.bind ReceiverState.cohort

theorem observe_tier (controller : ReceiverQualityController M) (sample : ReceiverQualitySample M) (nowUs : UInt64) :
    (controller.observe sample nowUs).1.tier = some (controller.observe sample nowUs).2.decision.tier := by
  simp only [ReceiverQualityController.observe, ReceiverQualityController.tier, FocusedProfileController.observeTier]
  split
  · rfl
  · rfl

/-- An expiry reports the tier that it moves a receiver to, or leaves the tier as it was. -/
theorem expireIfStale_tier (controller : ReceiverQualityController M) (nowUs : UInt64) :
    (controller.expireIfStale nowUs).1.tier =
      ((controller.expireIfStale nowUs).2.map (·.tier)).or controller.tier := by
  unfold ReceiverQualityController.expireIfStale
  split
  · rfl
  · split
    · rfl
    · split
      · rfl
      · by_cases down : controller.profileController.currentTier = some .emergency
        · simp [FocusedProfileController.forceEmergencyOnTelemetryLoss, ReceiverQualityController.tier, down]
        · simp [FocusedProfileController.forceEmergencyOnTelemetryLoss, ReceiverQualityController.tier, down]

theorem expireIfStale_tier_isSome (controller : ReceiverQualityController M) (nowUs : UInt64) :
    (controller.expireIfStale nowUs).1.tier.isSome = controller.tier.isSome := by
  unfold ReceiverQualityController.expireIfStale
  split
  · rfl
  · split
    · rfl
    · split
      · rfl
      · rename_i current
        cases known : controller.profileController.currentTier with
        | none => simp [FocusedProfileController.current, known] at current
        | some => simp [ReceiverQualityController.tier, known,
            FocusedProfileController.forceEmergencyOnTelemetryLoss]

theorem expired_eq (nowUs : UInt64) (receiver : ReceiverId) (state : ReceiverState M) :
    ((expired nowUs (receiver, state)).map fun change => CohortRouter.cohortOf change.2).or state.cohort =
      (expiredState nowUs state).cohort := by
  have moved := expireIfStale_tier state.quality nowUs
  unfold ReceiverState.cohort expiredState expired
  simp only [moved]
  cases (state.quality.expireIfStale nowUs).2 with
  | none | some => rfl

theorem new_cohort {quality : ReceiverQualityController M}
    (made : ReceiverQualityController.new kind hysteresis policy = .ok quality) : quality.tier = none := by
  unfold ReceiverQualityController.new at made
  split at made
  · cases made
  · cases made
    rfl

/-- A call that is not addressed to a receiver leaves its state and its route. -/
theorem step_unaddressed (unseen : addressedTo receiver input = false) :
    (planner.step input).1.receivers[receiver]? = planner.receivers[receiver]? ∧
      (planner.step input).1.route receiver = planner.route receiver := by
  have same : viewOf receiver (planner.step input).1 = viewOf receiver planner := viewOf_unaddressed unseen
  exact ⟨congrArg ReceiverView.state same, congrArg ReceiverView.route same⟩

/-- Every call keeps routes and receiver states in agreement. A call for another receiver touches neither, and one for
this receiver writes both. -/
theorem ReceiverCohortPlanner.Consistent.step (holds : Consistent planner)
    (taken : Total step planner input reply after) : Consistent after := by
  obtain ⟨rfl, _⟩ := Prod.ext_iff.mp taken
  intro receiver
  have before := holds receiver
  cases seen : addressedTo receiver input with
  | false =>
    obtain ⟨states, routes⟩ := step_unaddressed seen
    rw [states, routes]
    exact before
  | true =>
    cases input with
    | register other transport =>
      cases of_decide_eq_true seen
      have outcome := register_outcome planner receiver transport
      simp only [step]
      generalize planner.register receiver transport = result at outcome ⊢
      obtain ⟨_, _⟩ := result
      cases outcome with
      | refused => exact before
      | added quality absent made =>
        have unrouted : planner.route receiver = none := by rw [before, absent, Option.bind_none]
        simp only [route, ExtTreeMap.getElem?_insert_self, Option.bind_some, ReceiverState.cohort, new_cohort made]
        exact unrouted
    | observe =>
      cases of_decide_eq_true seen
      simp only [step]
      cases stored : planner.receivers[receiver]? with
      | none =>
        rw [observe_unknown stored]
        exact before
      | some =>
        rw [observe_known stored]
        simp only [route, ExtTreeMap.getElem?_insert_self, Option.bind_some, ReceiverState.cohort, observe_tier,
          Option.map_some]
        rfl
    | expireStale nowUs =>
      have route_eq : (planner.expireStale nowUs).1.route receiver = _ := expireStale_route planner nowUs receiver
      simp only [step, route_eq, expireStale_receivers]
      have known : planner.router[receiver]? = planner.receivers[receiver]?.bind ReceiverState.cohort := before
      rw [known]
      cases planner.receivers[receiver]? with
      | none => rfl
      | some state => exact expired_eq nowUs receiver state
    | remove =>
      cases of_decide_eq_true seen
      simp only [step, remove, route, ExtTreeMap.getElem?_erase_self, Option.bind_none]

theorem consistent_of_new {config : ReceiverCohortPlannerConfig}
    (created : new kind hysteresis policy config = .ok initial) :
    Consistent initial ∧ initial.receivers = ∅ ∧ initial.router = ∅ ∧ initial.kind = kind ∧
      initial.hysteresis = hysteresis ∧ initial.qualityPolicy = policy := by
  unfold new at created
  split at created
  · cases created
  · split at created
    · cases created
    · cases created
      exact ⟨fun receiver => by simp [route], rfl, rfl, rfl, rfl, rfl⟩

theorem consistent_of_run (run : Run (Total step) initial past final) (start : Consistent initial) : Consistent final :=
  run.invariant start fun _ _ _ _ holds taken => holds.step taken

theorem mem_members {cohort : CohortKey} :
    receiver ∈ planner.members cohort ↔ planner.route receiver = some cohort := by
  refine (BTreeMap.mem_filterMap_key planner.router fun entry => entry.2 = cohort).trans ?_
  constructor
  · rintro ⟨_, stored, rfl⟩
    exact stored
  · intro stored
    exact ⟨cohort, stored, rfl⟩

theorem members_nodup (planner : ReceiverCohortPlanner M) (cohort : CohortKey) : (planner.members cohort).Nodup :=
  BTreeMap.nodup_filterMap_key planner.router fun entry => entry.2 = cohort

/-- A call that registers the receiver. -/
def Registration (receiver : ReceiverId) (transport : MediaTransport) (input : CohortInput M) (reply : CohortReply) :
    Prop :=
  input = .register receiver transport ∧ reply = .registered (.ok ())

def Observation (receiver : ReceiverId) (input : CohortInput M) : Prop :=
  ∃ sample nowUs, input = .observe receiver sample nowUs

/-- The receiver was registered over a transport and not removed since; `later` are the calls since then. -/
def RegisteredSince (receiver : ReceiverId) (transport : MediaTransport) (past later : List (CohortCall M)) : Prop :=
  ∃ earlier call, past = earlier ++ call :: later ∧ Registration receiver transport call.input call.reply ∧
    ∀ call ∈ later, call.input ≠ .remove receiver

/-- The receiver has been observed at least once since its registration. -/
def ObservedSinceRegistration (receiver : ReceiverId) (past : List (CohortCall M)) : Prop :=
  ∃ transport later, RegisteredSince receiver transport past later ∧ ∃ call ∈ later, Observation receiver call.input

/-- What a call can do to one receiver. -/
inductive ReceiverOutcome (receiver : ReceiverId) :
    CohortInput M → CohortReply → Option (ReceiverState M) → Option (ReceiverState M) → Prop
  | registered (transport : MediaTransport) (quality : ReceiverQualityController M) : quality.tier = none →
      ReceiverOutcome receiver (.register receiver transport) (.registered (.ok ())) none (some ⟨transport, quality⟩)
  | observed (sample : ReceiverQualitySample M) (nowUs : UInt64) (reply : CohortReply)
      (state state' : ReceiverState M) :
      (∀ transport, ¬ Registration receiver transport (.observe receiver sample nowUs : CohortInput M) reply) →
      state'.transport = state.transport → state'.quality.tier.isSome →
      ReceiverOutcome receiver (.observe receiver sample nowUs) reply (some state) (some state')
  | kept (input : CohortInput M) (reply : CohortReply) (state state' : ReceiverState M) :
      (∀ transport, ¬ Registration receiver transport input reply) → input ≠ .remove receiver →
      ¬ Observation receiver input → state'.transport = state.transport →
      state'.quality.tier.isSome = state.quality.tier.isSome →
      ReceiverOutcome receiver input reply (some state) (some state')
  | absent (input : CohortInput M) (reply : CohortReply) :
      (∀ transport, ¬ Registration receiver transport input reply) →
      ReceiverOutcome receiver input reply none none
  | removed (reply : CohortReply) (found : Option (ReceiverState M)) :
      ReceiverOutcome receiver (.remove receiver) reply found none

theorem ReceiverOutcome.unchanged (found : Option (ReceiverState M))
    (unregistered : ∀ transport, ¬ Registration receiver transport input reply) (unremoved : input ≠ .remove receiver)
    (unobserved : found.isSome → ¬ Observation receiver input) : ReceiverOutcome receiver input reply found found := by
  cases found with
  | none => exact .absent input reply unregistered
  | some state => exact .kept input reply state state unregistered unremoved (unobserved rfl) rfl rfl

theorem ReceiverOutcome.of_unaddressed (unseen : addressedTo receiver input = false)
    (found : Option (ReceiverState M)) : ReceiverOutcome receiver input reply found found := by
  refine .unchanged found ?_ ?_ ?_
  · rintro _ ⟨rfl, _⟩
    simp [addressedTo] at unseen
  · rintro rfl
    simp [addressedTo] at unseen
  · rintro _ ⟨_, _, rfl⟩
    simp [addressedTo] at unseen

theorem register_receiverOutcome (planner : ReceiverCohortPlanner M) (receiver : ReceiverId)
    (transport : MediaTransport) :
    ReceiverOutcome receiver (.register receiver transport) (.registered (planner.register receiver transport).2)
      planner.receivers[receiver]? (planner.register receiver transport).1.receivers[receiver]? := by
  have outcome := register_outcome planner receiver transport
  generalize planner.register receiver transport = result at outcome ⊢
  obtain ⟨_, result⟩ := result
  cases outcome with
  | refused =>
    refine .unchanged _ ?_ (by simp) ?_
    · rintro _ ⟨_, accepted⟩
      cases accepted
    · rintro _ ⟨_, _, other⟩
      cases other
  | added quality absent made =>
    simp only [ExtTreeMap.getElem?_insert_self, absent]
    exact .registered transport quality (new_cohort made)

theorem observe_receiverOutcome (planner : ReceiverCohortPlanner M) (receiver : ReceiverId)
    (sample : ReceiverQualitySample M) (nowUs : UInt64) :
    ReceiverOutcome receiver (.observe receiver sample nowUs) (.observed (planner.observe receiver sample nowUs).2)
      planner.receivers[receiver]? (planner.observe receiver sample nowUs).1.receivers[receiver]? := by
  cases stored : planner.receivers[receiver]? with
  | none =>
    rw [observe_unknown stored, stored]
    exact .absent _ _ fun _ asked => nomatch asked.1
  | some state =>
    rw [observe_known stored, ExtTreeMap.getElem?_insert_self]
    exact .observed sample nowUs _ state _ (fun _ asked => nomatch asked.1) rfl (by simp [observe_tier])

theorem expireStale_receiverOutcome (planner : ReceiverCohortPlanner M) (receiver : ReceiverId) (nowUs : UInt64)
    (reply : CohortReply) :
    ReceiverOutcome receiver (.expireStale nowUs) reply planner.receivers[receiver]?
      (planner.expireStale nowUs).1.receivers[receiver]? := by
  rw [expireStale_receivers]
  cases planner.receivers[receiver]? with
  | none => exact .absent _ _ fun _ asked => nomatch asked.1
  | some state =>
    refine .kept _ _ state _ (fun _ asked => nomatch asked.1) (by simp) ?_ rfl
      (expireIfStale_tier_isSome state.quality nowUs)
    rintro ⟨_, _, asked⟩
    cases asked

/-- Every call does to a receiver one of the things listed: one that is not addressed to it does nothing. -/
theorem receiver_outcome (taken : Total step planner input reply after) :
    ReceiverOutcome receiver input reply planner.receivers[receiver]? after.receivers[receiver]? := by
  obtain ⟨rfl, rfl⟩ := Prod.ext_iff.mp taken
  cases seen : addressedTo receiver input with
  | false =>
    rw [(step_unaddressed seen).1]
    exact .of_unaddressed seen _
  | true =>
    cases input with
    | register other transport =>
      cases of_decide_eq_true seen
      exact register_receiverOutcome planner receiver transport
    | observe other sample nowUs =>
      cases of_decide_eq_true seen
      exact observe_receiverOutcome planner receiver sample nowUs
    | expireStale nowUs => exact expireStale_receiverOutcome planner receiver nowUs _
    | remove =>
      cases of_decide_eq_true seen
      simp only [step, remove, ExtTreeMap.getElem?_erase_self]
      exact .removed _ _

/-- A receiver that is registered stays so, with its transport, until it is removed, and an observation lasts. -/
theorem stays_registered (run : Run (Total step) initial past final)
    (stored : initial.receivers[receiver]? = some state) (unremoved : ∀ call ∈ past, call.input ≠ .remove receiver) :
    ∃ state', final.receivers[receiver]? = some state' ∧ state'.transport = state.transport ∧
      ((∃ call ∈ past, Observation receiver call.input) → state'.quality.tier.isSome) := by
  induction run with
  | start => exact ⟨state, stored, rfl, by simp⟩
  | @next past current input reply after _ taken ih =>
    obtain ⟨_, known, transport, routed⟩ := ih (forall_of_append unremoved)
    have last : input ≠ .remove receiver :=
      unremoved ⟨current, input, reply, after⟩ (List.mem_append_right past List.mem_cons_self)
    have outcome : ReceiverOutcome receiver input reply current.receivers[receiver]? after.receivers[receiver]? :=
      receiver_outcome taken
    rw [known] at outcome
    generalize after.receivers[receiver]? = found at outcome ⊢
    cases outcome with
    | observed sample nowUs _ _ state' _ same some => exact ⟨state', rfl, same.trans transport, fun _ => some⟩
    | kept _ _ _ state' _ _ unobserved same tier =>
      refine ⟨state', rfl, same.trans transport, ?_⟩
      rintro ⟨call, member, seen⟩
      rw [tier]
      rcases List.mem_append.mp member with old | new
      · exact routed ⟨call, old, seen⟩
      · cases List.mem_singleton.mp new
        exact absurd seen unobserved
    | removed => exact absurd rfl last

/-- Where a registered receiver comes from. -/
theorem registered_of_run (run : Run (Total step) initial past final) (start : initial.receivers[receiver]? = none)
    (stored : final.receivers[receiver]? = some state) :
    ∃ later, RegisteredSince receiver state.transport past later ∧
      (state.quality.tier.isSome → ∃ call ∈ later, Observation receiver call.input) := by
  induction run generalizing state with
  | start => cases start.symm.trans stored
  | @next past current input reply after _ taken ih =>
    have outcome : ReceiverOutcome receiver input reply current.receivers[receiver]? after.receivers[receiver]? :=
      receiver_outcome taken
    generalize known : current.receivers[receiver]? = before at outcome
    rw [stored] at outcome
    have extend (old : ReceiverState M) (later : List (CohortCall M)) (same : state.transport = old.transport)
        (unremoved : input ≠ .remove receiver) (since : RegisteredSince receiver old.transport past later) :
        RegisteredSince receiver state.transport (past ++ [⟨current, input, reply, after⟩])
          (later ++ [⟨current, input, reply, after⟩]) := by
      obtain ⟨earlier, call, rfl, registration, kept⟩ := since
      exact ⟨earlier, call, by simp, same ▸ registration, forall_mem_concat kept unremoved⟩
    cases outcome with
    | registered transport quality fresh =>
      refine ⟨[], ⟨past, _, rfl, ⟨rfl, rfl⟩, by simp⟩, ?_⟩
      intro routed
      rw [fresh] at routed
      cases routed
    | observed sample nowUs _ old _ _ same =>
      obtain ⟨later, since, _⟩ := ih known
      exact ⟨_, extend old later same (by simp) since, fun _ =>
        ⟨_, List.mem_concat_self, sample, nowUs, rfl⟩⟩
    | kept _ _ old _ _ unremoved _ same tier =>
      obtain ⟨later, since, seen⟩ := ih known
      refine ⟨_, extend old later same unremoved since, ?_⟩
      intro routed
      obtain ⟨call, member, observation⟩ := seen (by rwa [← tier])
      exact ⟨call, List.mem_append_left _ member, observation⟩

/-- A receiver that was observed since its registration has a tier. -/
theorem tier_of_observed (run : Run (Total step) initial past final)
    (observed : ObservedSinceRegistration receiver past) :
    ∃ state, final.receivers[receiver]? = some state ∧ state.quality.tier.isSome := by
  obtain ⟨transport, _, ⟨_, call, rfl, registration, unremoved⟩, seen⟩ := observed
  obtain ⟨_, taken, rest⟩ := run.split rfl
  have present : ∃ state, call.after.receivers[receiver]? = some state := by
    obtain ⟨before, input, reply, after⟩ := call
    have outcome : ReceiverOutcome receiver input reply before.receivers[receiver]? after.receivers[receiver]? :=
      receiver_outcome taken
    simp only
    generalize after.receivers[receiver]? = left at outcome ⊢
    generalize before.receivers[receiver]? = found at outcome
    cases outcome with
    | registered => exact ⟨_, rfl⟩
    | observed _ _ _ _ state' => exact ⟨state', rfl⟩
    | kept _ _ _ state' => exact ⟨state', rfl⟩
    | absent _ _ unregistered => exact absurd registration (unregistered transport)
    | removed => cases registration.1
  obtain ⟨_, stored⟩ := present
  obtain ⟨state', stored', _, routed⟩ := stays_registered rest stored unremoved
  exact ⟨state', stored', routed seen⟩

end Routes

/-- The routing table of a planner after some calls: who is routed, where to, and which lists name a receiver. -/
structure RoutingTable (past : List (CohortCall M)) (planner : ReceiverCohortPlanner M) : Prop where
  routed : ∀ receiver, (planner.route receiver).isSome ↔
    receiver ∈ planner.receivers ∧ ObservedSinceRegistration receiver past
  cohort : ∀ receiver cohort, planner.route receiver = some cohort → ∃ state tier later,
    planner.receivers[receiver]? = some state ∧ RegisteredSince receiver state.transport past later ∧
      state.quality.tier = some tier ∧ cohort = ⟨.fromTransport state.transport, tier⟩
  listed : ∀ receiver cohort, receiver ∈ planner.members cohort ↔ planner.route receiver = some cohort
  once : ∀ cohort, (planner.members cohort).Nodup

/-- The routing table after any run. A receiver is routed from its first observation since it was registered, and is
listed in its own cohort and in no other. -/
theorem routingTable_of_run {initial final : ReceiverCohortPlanner M} {past : List (CohortCall M)}
    (run : Run (Total step) initial past final) (start : Consistent initial) (empty : initial.receivers = ∅) :
    RoutingTable past final := by
  have consistent := consistent_of_run run start
  have unknown (receiver : ReceiverId) : initial.receivers[receiver]? = none := by simp [empty]
  refine ⟨?_, ?_, fun _ _ => mem_members, members_nodup final⟩
  · intro receiver
    rw [consistent receiver]
    constructor
    · intro routed
      cases stored : final.receivers[receiver]? with
      | none =>
        rw [stored] at routed
        cases routed
      | some state =>
        rw [stored, Option.bind_some, ReceiverState.cohort, Option.isSome_map] at routed
        obtain ⟨later, since, seen⟩ := registered_of_run run (unknown receiver) stored
        exact ⟨BTreeMap.mem_of_getElem? stored, state.transport, later, since, seen routed⟩
    · rintro ⟨_, observed⟩
      obtain ⟨_, stored, routed⟩ := tier_of_observed run observed
      rw [stored, Option.bind_some, ReceiverState.cohort, Option.isSome_map]
      exact routed
  · intro receiver cohort routed
    rw [consistent receiver] at routed
    obtain ⟨state, stored, made⟩ := Option.bind_eq_some_iff.mp routed
    obtain ⟨tier, current, rfl⟩ := Option.map_eq_some_iff.mp made
    obtain ⟨later, since, _⟩ := registered_of_run run (unknown receiver) stored
    exact ⟨state, tier, later, stored, since, current, rfl⟩

/-- What a receiver is told and where it is routed, after each call that concerns it. -/
def receiverTrace (receiver : ReceiverId) (past : List (CohortCall M)) : List (CohortReply × Option CohortKey) :=
  (visible (addressedTo receiver) past).map fun call => (toldAbout receiver call.reply, call.after.route receiver)

/-- Two runs that agree on the calls that concern a receiver treat it alike, whatever happens to the others; and in
every state the routes are those of the observed receivers' own controllers. -/
theorem receivers_isolated {kind : StreamKind} {hysteresis : HysteresisConfig} {policy : ReceiverQualityPolicy M}
    {config : ReceiverCohortPlannerConfig} {initial : ReceiverCohortPlanner M}
    (created : ReceiverCohortPlanner.new kind hysteresis policy config = .ok initial) :
    (∀ (receiver : ReceiverId) (past past' : List (CohortCall M)) (final final' : ReceiverCohortPlanner M),
      Run (Total ReceiverCohortPlanner.step) initial past final →
      Run (Total ReceiverCohortPlanner.step) initial past' final' →
      (∀ call ∈ past, call.reply.unrefused) → (∀ call ∈ past', call.reply.unrefused) →
      (visible (addressedTo receiver) past).map (·.input) = (visible (addressedTo receiver) past').map (·.input) →
      receiverTrace receiver past = receiverTrace receiver past') ∧
    ∀ (past : List (CohortCall M)) (final : ReceiverCohortPlanner M),
      Run (Total ReceiverCohortPlanner.step) initial past final → RoutingTable past final := by
  obtain ⟨consistent, empty, _⟩ := consistent_of_new created
  refine ⟨?_, fun past final run => routingTable_of_run run consistent empty⟩
  intro receiver past past' final final' run run' accepted accepted' same
  obtain ⟨_, learned⟩ := (isolates_receiver receiver).learns_eq run run' accepted accepted' rfl same
  have routes := congrArg (List.map fun entry => (entry.2.1, entry.2.2.route)) learned
  simp only [learns, List.map_map] at routes
  exact routes

def calmPolicy : ReceiverQualityPolicy Unit :=
  { maxSampleAgeUs := 100, orderedThresholds := true, invalidReadings := fun _ => none,
    candidateTier := fun _ => .high }

def calmPlanner : ReceiverCohortPlanner Unit :=
  { kind := .teacherPresentation, hysteresis := {}, qualityPolicy := calmPolicy, config := {} }

/-- The second receiver sends a sample from the future, which puts it into the lowest tier. -/
theorem receivers_isolated_two_receivers :
    receiverTrace 1 (calls ReceiverCohortPlanner.step calmPlanner
        [.register 1 .udpUnicast, .observe 1 ⟨1, 1, 5, ()⟩ 10, .expireStale 20]) =
      receiverTrace 1 (calls ReceiverCohortPlanner.step calmPlanner
        [.register 2 .udpMulticast, .register 1 .udpUnicast, .observe 2 ⟨1, 1, 50, ()⟩ 10, .observe 1 ⟨1, 1, 5, ()⟩ 10,
          .remove 2, .expireStale 20]) :=
  (receivers_isolated (show ReceiverCohortPlanner.new .teacherPresentation {} calmPolicy {} =
    .ok calmPlanner from rfl)).1
    1 _ _ _ _ (Run.of_calls _ _ _) (Run.of_calls _ _ _) (by decide +kernel) (by decide +kernel) (by rfl)

end ClassMesh
