import ClassMesh.Core.Adaptation
import ClassMesh.Foundation.Run
import ClassMesh.Foundation.Saturating
import ClassMesh.Foundation.Streak

namespace ClassMesh

open Foundation

inductive MediaTopology
  | direct
  | relay
deriving DecidableEq

structure MediaPath where
  transport : MediaTransport
  topology : MediaTopology
deriving DecidableEq

inductive PhysicalGateStatus
  | pending
  | qualified
  | rejected
deriving DecidableEq

inductive PhysicalPathGate
  | phase4UdpUnicast
  | phase4QuicDatagram
  | phase7WiredMulticast
  | webRtc
  | phase8RelayTopology
deriving DecidableEq

structure TransportTopologyEvidence where
  udpUnicast : PhysicalGateStatus := .pending
  quicDatagram : PhysicalGateStatus := .pending
  wiredMulticast : PhysicalGateStatus := .pending
  webRtc : PhysicalGateStatus := .pending
  relayTopology : PhysicalGateStatus := .pending

structure TransportTopologyHysteresis where
  switchSamples : UInt8 := 3
  fallbackSamples : UInt8 := 1

inductive TransportTopologyConfigError
  | invalidSwitchSamples
  | invalidFallbackSamples

inductive MediaPathCandidateStatus
  | current
  | pendingHysteresis
  | applied
  | blocked (gate : PhysicalPathGate) (evidence : PhysicalGateStatus)

structure MediaPathObservation where
  active : MediaPath
  changed : Bool
  status : MediaPathCandidateStatus
  pendingSamples : Nat

structure TransportTopologyController where
  active : MediaPath
  hysteresis : TransportTopologyHysteresis
  pending : Pending MediaPath := {}

def mediaPathBlockingGate (candidate : MediaPath) (evidence : TransportTopologyEvidence) :
    Option (PhysicalPathGate × PhysicalGateStatus) :=
  let transportGate := match candidate.transport with
    | .udpMulticast => some (PhysicalPathGate.phase7WiredMulticast, evidence.wiredMulticast)
    | .udpUnicast => some (.phase4UdpUnicast, evidence.udpUnicast)
    | .quicDatagram => some (.phase4QuicDatagram, evidence.quicDatagram)
    | .webRtc => some (.webRtc, evidence.webRtc)
    | .reliableFallback => none
  let relayGate :=
    if candidate.topology = .relay ∧ evidence.relayTopology ≠ .qualified then
      some (PhysicalPathGate.phase8RelayTopology, evidence.relayTopology)
    else none
  match transportGate with
  | some (gate, status) => if status ≠ .qualified then some (gate, status) else relayGate
  | none => relayGate

namespace TransportTopologyController

def new (initial : MediaPath) (hysteresis : TransportTopologyHysteresis) :
    Except TransportTopologyConfigError TransportTopologyController :=
  if hysteresis.switchSamples = 0 then .error .invalidSwitchSamples
  else if hysteresis.fallbackSamples = 0 then .error .invalidFallbackSamples
  else .ok { active := initial, hysteresis := hysteresis }

variable (controller : TransportTopologyController)

def clearPending : TransportTopologyController := { controller with pending := {} }

def observation (changed : Bool) (status : MediaPathCandidateStatus) : MediaPathObservation :=
  ⟨controller.active, changed, status, controller.pending.samples⟩

/-- One more sample for a candidate that is not active. -/
def count (candidate : MediaPath) : TransportTopologyController :=
  { controller with pending := controller.pending.count candidate }

end TransportTopologyController

def TransportTopologyHysteresis.required (hysteresis : TransportTopologyHysteresis) (candidate : MediaPath) : UInt8 :=
  if candidate.transport = .reliableFallback then hysteresis.fallbackSamples else hysteresis.switchSamples

/-- What one observation is made of. -/
structure PathSample where
  candidate : MediaPath
  evidence : TransportTopologyEvidence

def TransportTopologyController.observe (controller : TransportTopologyController) (sample : PathSample) :
    TransportTopologyController × MediaPathObservation :=
  if sample.candidate = controller.active then
    (controller.clearPending, controller.clearPending.observation false .current)
  else
    match mediaPathBlockingGate sample.candidate sample.evidence with
    | some (gate, status) =>
      (controller.clearPending, controller.clearPending.observation false (.blocked gate status))
    | none =>
      let counted := controller.count sample.candidate
      if (counted.hysteresis.required sample.candidate).toNat ≤ counted.pending.samples then
        let switched := { counted with active := sample.candidate }.clearPending
        (switched, switched.observation true .applied)
      else (counted, counted.observation false .pendingHysteresis)

/-- The gates a path needs: the one of its transport, if it has one, and that of the relay for a relayed path. -/
def MediaPath.gates (path : MediaPath) : List PhysicalPathGate :=
  (match path.transport with
    | .udpMulticast => [.phase7WiredMulticast]
    | .udpUnicast => [.phase4UdpUnicast]
    | .quicDatagram => [.phase4QuicDatagram]
    | .webRtc => [.webRtc]
    | .reliableFallback => []) ++
  (match path.topology with
    | .direct => []
    | .relay => [.phase8RelayTopology])

def TransportTopologyEvidence.status (evidence : TransportTopologyEvidence) : PhysicalPathGate → PhysicalGateStatus
  | .phase4UdpUnicast => evidence.udpUnicast
  | .phase4QuicDatagram => evidence.quicDatagram
  | .phase7WiredMulticast => evidence.wiredMulticast
  | .webRtc => evidence.webRtc
  | .phase8RelayTopology => evidence.relayTopology

/-- The sample is for a path every gate of which is qualified. -/
def PathSample.Qualifies (sample : PathSample) (path : MediaPath) : Prop :=
  sample.candidate = path ∧ ∀ gate ∈ path.gates, sample.evidence.status gate = .qualified

instance (sample : PathSample) (path : MediaPath) : Decidable (sample.Qualifies path) :=
  inferInstanceAs (Decidable (_ ∧ _))

theorem mediaPathBlockingGate_eq_none_iff (path : MediaPath) (evidence : TransportTopologyEvidence) :
    mediaPathBlockingGate path evidence = none ↔ ∀ gate ∈ path.gates, evidence.status gate = .qualified := by
  obtain ⟨transport, topology⟩ := path
  cases topology with
  | direct => cases transport <;> simp [mediaPathBlockingGate, MediaPath.gates, TransportTopologyEvidence.status]
  | relay =>
    by_cases relayed : evidence.relayTopology = .qualified
    · cases transport <;> simp [mediaPathBlockingGate, MediaPath.gates, TransportTopologyEvidence.status, relayed]
    · cases transport <;> simp [mediaPathBlockingGate, MediaPath.gates, TransportTopologyEvidence.status, relayed] <;>
        split <;> exact Option.some_ne_none _

abbrev TopologyCall := Call TransportTopologyController PathSample MediaPathObservation

def TopologyCall.Changes (call : TopologyCall) : Prop := call.after.active ≠ call.before.active

open TopologyCall

instance (call : TopologyCall) : Decidable (Changes call) := inferInstanceAs (Decidable (_ ≠ _))

/-- A sample for a path that did not change the active path. -/
def votes (path : MediaPath) (call : TopologyCall) : Bool := call.input.Qualifies path ∧ ¬Changes call

namespace TransportTopologyController

variable {controller : TransportTopologyController} {sample : PathSample}

/-- What an observation can do. -/
inductive Observed (controller : TransportTopologyController) (sample : PathSample) :
    TransportTopologyController → Prop
  | current (same : sample.candidate = controller.active) : Observed controller sample controller.clearPending
  | blocked (other : sample.candidate ≠ controller.active) (unqualified : ¬sample.Qualifies sample.candidate) :
      Observed controller sample controller.clearPending
  | applied (other : sample.candidate ≠ controller.active) (qualified : sample.Qualifies sample.candidate)
      (enough : (controller.hysteresis.required sample.candidate).toNat ≤
        (controller.count sample.candidate).pending.samples) :
      Observed controller sample ⟨sample.candidate, controller.hysteresis, {}⟩
  | waiting {after} (other : sample.candidate ≠ controller.active) (qualified : sample.Qualifies sample.candidate)
      (few : (controller.count sample.candidate).pending.samples <
        (controller.hysteresis.required sample.candidate).toNat)
      (left : after = controller.count sample.candidate) : Observed controller sample after

theorem observe_observed (controller : TransportTopologyController) (sample : PathSample) :
    Observed controller sample (controller.observe sample).1 := by
  unfold observe
  split
  · next same => exact .current same
  · next other =>
    split
    · next gate status blocks =>
      refine .blocked other fun qualified => ?_
      rw [(mediaPathBlockingGate_eq_none_iff _ _).mpr qualified.2] at blocks
      cases blocks
    · next free =>
      have qualified : sample.Qualifies sample.candidate :=
        ⟨rfl, (mediaPathBlockingGate_eq_none_iff _ _).mp free⟩
      simp only
      split
      · next enough => exact .applied other qualified enough
      · next few => exact .waiting other qualified (Nat.not_le.mp few) rfl

end TransportTopologyController

/-- The pending candidate and its samples are the streak at the end of the history. -/
structure TopologyHistory (hysteresis : TransportTopologyHysteresis) (past : List TopologyCall)
    (controller : TransportTopologyController) : Prop where
  hysteresis_eq : controller.hysteresis = hysteresis
  counted : ∀ path, path ≠ controller.active →
    trailing (votes path) past = controller.pending.counted path

namespace TopologyHistory

variable {hysteresis : TransportTopologyHysteresis} {past : List TopologyCall}
  {controller after : TransportTopologyController} {sample : PathSample} {reply : MediaPathObservation}

open TransportTopologyController

/-- With the present sample, the counter holds the length of the streak as far as eight bits go. -/
theorem count_samples (history : TopologyHistory hysteresis past controller)
    (other : sample.candidate ≠ controller.active) :
    (controller.count sample.candidate).pending.samples =
      min (trailing (votes sample.candidate) past + 1) 255 := by
  rw [history.counted _ other]
  exact controller.pending.count_samples _

/-- An observation that is a vote for no path leaves none pending. -/
theorem reset (history : TopologyHistory hysteresis past controller)
    (keeps : after.hysteresis = controller.hysteresis) (empty : after.pending = {})
    (none : ∀ path, path ≠ after.active → votes path ⟨controller, sample, reply, after⟩ = false) :
    TopologyHistory hysteresis (past ++ [⟨controller, sample, reply, after⟩]) after := by
  refine ⟨keeps.trans history.hysteresis_eq, fun path other => ?_⟩
  rw [trailing_concat, none path other, empty]
  rfl

theorem step (history : TopologyHistory hysteresis past controller)
    (taken : Total observe controller sample reply after) :
    TopologyHistory hysteresis (past ++ [⟨controller, sample, reply, after⟩]) after := by
  have observed := controller.observe_observed sample
  rw [(Prod.ext_iff.mp taken).1] at observed
  cases observed with
  | current same =>
    refine history.reset rfl rfl fun path other => decide_eq_false fun vote => other ?_
    rw [← vote.1.1, same]
  | blocked _ unqualified =>
    refine history.reset rfl rfl fun path _ => decide_eq_false fun vote => unqualified ?_
    rw [vote.1.1]
    exact vote.1
  | applied other => exact history.reset rfl rfl fun path _ => decide_eq_false fun vote => vote.2 other
  | waiting other qualified few left =>
    subst left
    have bound := (controller.hysteresis.required sample.candidate).toNat_lt
    refine ⟨history.hysteresis_eq, fun path different => ?_⟩
    rw [trailing_concat]
    by_cases same : sample.candidate = path
    · subst same
      have vote : votes sample.candidate ⟨controller, sample, reply, controller.count sample.candidate⟩ = true :=
        decide_eq_true ⟨qualified, fun changed => changed rfl⟩
      have counted := history.count_samples other
      rw [if_pos vote, count, Pending.counted_count_self, ← history.counted _ other]
      omega
    · have not_vote : votes path ⟨controller, sample, reply, controller.count sample.candidate⟩ = false :=
        decide_eq_false fun vote => same vote.1.1
      rw [not_vote, count, Pending.counted_count_ne _ (Ne.symm same)]
      rfl

theorem of_run {initial : MediaPath} {begun : TransportTopologyController}
    (created : new initial hysteresis = .ok begun) (run : Run (Total observe) begun past controller) :
    TopologyHistory hysteresis past controller := by
  induction run with
  | start =>
    unfold new at created
    split at created
    · cases created
    split at created
    · cases created
    cases created
    exact ⟨rfl, fun _ _ => rfl⟩
  | next _ taken ih => exact ih.step taken

end TopologyHistory

/-- The last observations before this one, and this one too, were for the path under evidence that qualifies it, as many
as it takes. None of the earlier ones changed the active path. -/
def QualifiedStreak (hysteresis : TransportTopologyHysteresis) (earlier : List TopologyCall) (call : TopologyCall)
    (path : MediaPath) : Prop :=
  call.input.Qualifies path ∧ ∃ front streak, earlier = front ++ streak ∧
    streak.length + 1 = (hysteresis.required path).toNat ∧
    ∀ previous ∈ streak, previous.input.Qualifies path ∧ ¬Changes previous

variable {hysteresis : TransportTopologyHysteresis} {begun : TransportTopologyController}

theorem qualifiedStreak_iff {earlier : List TopologyCall} {call : TopologyCall} {path : MediaPath}
    (positive : 0 < (hysteresis.required path).toNat) :
    QualifiedStreak hysteresis earlier call path ↔
      call.input.Qualifies path ∧ (hysteresis.required path).toNat ≤ trailing (votes path) earlier + 1 := by
  have enough : (hysteresis.required path).toNat ≤ trailing (votes path) earlier + 1 ↔
      (hysteresis.required path).toNat - 1 ≤ trailing (votes path) earlier := by omega
  rw [QualifiedStreak, enough, le_trailing_iff]
  refine and_congr_right fun _ => exists_congr fun front => exists_congr fun streak => and_congr_right fun _ => ?_
  refine and_congr ?_ ?_
  · omega
  · simp only [votes, decide_eq_true_eq]

theorem required_pos {initial : MediaPath} (created : TransportTopologyController.new initial hysteresis = .ok begun)
    (path : MediaPath) : 0 < (hysteresis.required path).toNat ∧ begun.active = initial := by
  unfold TransportTopologyController.new at created
  split at created
  · cases created
  next switch =>
  split at created
  · cases created
  next fallback =>
  cases created
  refine ⟨Nat.pos_of_ne_zero fun zero => ?_, rfl⟩
  unfold TransportTopologyHysteresis.required at zero
  split at zero
  · exact fallback (UInt8.toNat_inj.mp zero)
  · exact switch (UInt8.toNat_inj.mp zero)

/-- Where the active path comes from. -/
def ActivePathOrigin (initial : MediaPath) (past : List TopologyCall) (path : MediaPath) : Prop :=
  (path = initial ∧ ∀ call ∈ past, ¬Changes call) ∨
    ∃ earlier call later, past = earlier ++ call :: later ∧ Changes call ∧ call.input.Qualifies path ∧
      ∀ subsequent ∈ later, ¬Changes subsequent

theorem activePathOrigin_of_run {final : TransportTopologyController} {past : List TopologyCall}
    (run : Run (Total TransportTopologyController.observe) begun past final) :
    ActivePathOrigin begun.active past final.active := by
  induction run with
  | start => exact .inl ⟨rfl, by simp⟩
  | @next past current sample reply after _ taken ih =>
    have observed := current.observe_observed sample
    rw [(Prod.ext_iff.mp taken).1] at observed
    have kept (same : after.active = current.active) :
        ActivePathOrigin begun.active (past ++ [⟨current, sample, reply, after⟩]) after.active := by
      have unchanged : ¬Changes ⟨current, sample, reply, after⟩ := fun changed => changed same
      rw [same]
      rcases ih with ⟨origin, quiet⟩ | ⟨earlier, call, later, rfl, changed, qualified, quiet⟩
      · exact .inl ⟨origin, forall_mem_concat quiet unchanged⟩
      · exact .inr ⟨earlier, call, later ++ [⟨current, sample, reply, after⟩], by simp, changed, qualified,
          forall_mem_concat quiet unchanged⟩
    cases observed with
    | current | blocked => exact kept rfl
    | waiting _ _ _ left =>
      subst left
      exact kept rfl
    | applied other qualified => exact .inr ⟨past, _, [], rfl, other, qualified, by simp⟩

/-- The active path changes exactly at the end of an unbroken qualified streak, whatever the candidates and the
evidence. At every moment it is the initial path or the one that the last change was qualified for. -/
theorem path_changes_after_qualified_streak {initial : MediaPath} {hysteresis : TransportTopologyHysteresis}
    {begun final : TransportTopologyController} {past : List TopologyCall}
    (created : TransportTopologyController.new initial hysteresis = .ok begun)
    (run : Run (Total TransportTopologyController.observe) begun past final) :
    (∀ earlier call later, past = earlier ++ call :: later → ∀ path,
      (Changes call ∧ call.after.active = path) ↔
        (path ≠ call.before.active ∧ QualifiedStreak hysteresis earlier call path)) ∧
    ActivePathOrigin initial past final.active := by
  refine ⟨?_, ?_⟩
  · intro earlier call later cut path
    obtain ⟨reached, taken, _⟩ := run.split cut
    have history := TopologyHistory.of_run created reached
    obtain ⟨positive, _⟩ := required_pos created path
    have bound := (hysteresis.required path).toNat_lt
    obtain ⟨controller, sample, _⟩ := call
    have observed := controller.observe_observed sample
    rw [(Prod.ext_iff.mp taken).1] at observed
    rw [qualifiedStreak_iff positive]
    cases observed with
    | current same =>
      refine iff_of_false (fun changed => changed.1 rfl) fun streak => streak.1 ?_
      rw [← streak.2.1.1, same]
    | blocked other unqualified =>
      refine iff_of_false (fun changed => changed.1 rfl) fun streak => unqualified ?_
      rw [streak.2.1.1]
      exact streak.2.1
    | applied other qualified enough =>
      rw [history.count_samples other, history.hysteresis_eq] at enough
      constructor
      · rintro ⟨_, same⟩
        have same : sample.candidate = path := same
        subst same
        exact ⟨other, qualified, by omega⟩
      · rintro ⟨_, streak, _⟩
        exact ⟨other, streak.1⟩
    | waiting other qualified few left =>
      subst left
      rw [history.count_samples other, history.hysteresis_eq] at few
      refine iff_of_false (fun changed => changed.1 rfl) ?_
      rintro ⟨_, ⟨same, _⟩, _⟩
      have same : sample.candidate = path := same
      subst same
      omega
  · have begins := (required_pos created initial).2
    rw [← begins]
    exact activePathOrigin_of_run run

def relayedPath : MediaPath := ⟨.reliableFallback, .relay⟩

def relayedSample : PathSample := ⟨relayedPath, { relayTopology := .qualified }⟩

def relayedHistory : List TopologyCall :=
  calls TransportTopologyController.observe ⟨⟨.udpUnicast, .direct⟩, ⟨3, 2⟩, none, 0⟩ [relayedSample, relayedSample]

theorem path_changes_after_two_samples :
    QualifiedStreak ⟨3, 2⟩ (relayedHistory.take 1)
        ⟨⟨⟨.udpUnicast, .direct⟩, ⟨3, 2⟩, some relayedPath, 1⟩, relayedSample, ⟨relayedPath, true, .applied, 0⟩,
          ⟨relayedPath, ⟨3, 2⟩, none, 0⟩⟩ relayedPath ∧
      ActivePathOrigin ⟨.udpUnicast, .direct⟩ relayedHistory relayedPath := by
  have created : TransportTopologyController.new ⟨.udpUnicast, .direct⟩ ⟨3, 2⟩ =
      .ok ⟨⟨.udpUnicast, .direct⟩, ⟨3, 2⟩, none, 0⟩ := rfl
  have main := path_changes_after_qualified_streak created
    (Run.of_calls TransportTopologyController.observe _ [relayedSample, relayedSample])
  exact ⟨((main.1 (relayedHistory.take 1) _ [] rfl relayedPath).mp ⟨by decide, rfl⟩).2, main.2⟩

end ClassMesh
