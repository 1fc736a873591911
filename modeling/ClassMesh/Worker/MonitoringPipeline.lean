import ClassMesh.Video.MonitoringScheduler
import ClassMesh.Worker.CaptureCadence

namespace ClassMesh

open Foundation

def defaultMonitoringHeartbeatUs : UInt64 := 2000000

structure MonitoringChangeHint where
  regionMetadataBytes : UInt32

def MonitoringChangeHint.hasRegionChange (hint : MonitoringChangeHint) : Bool := 0 < hint.regionMetadataBytes

inductive MonitoringEmissionReason
  | initial
  | regionChange
  | heartbeat
deriving DecidableEq

structure MonitoringEmissionDecision where
  emit : Bool
  reason : Option MonitoringEmissionReason

structure MonitoringEmissionPolicy where
  heartbeatIntervalUs : UInt64 := defaultMonitoringHeartbeatUs
  lastEmittedUs : Option UInt64 := none

def MonitoringEmissionPolicy.reason (policy : MonitoringEmissionPolicy) (nowUs : UInt64)
    (change : MonitoringChangeHint) : Option MonitoringEmissionReason :=
  match policy.lastEmittedUs with
  | none => some .initial
  | some last =>
    if change.hasRegionChange then some .regionChange
    -- `saturating_sub`
    else if policy.heartbeatIntervalUs.toNat ≤ nowUs.toNat - last.toNat then some .heartbeat
    else none

def MonitoringEmissionPolicy.observe (policy : MonitoringEmissionPolicy) (nowUs : UInt64)
    (change : MonitoringChangeHint) : MonitoringEmissionPolicy × MonitoringEmissionDecision :=
  let reason := policy.reason nowUs change
  (if reason.isSome then { policy with lastEmittedUs := some nowUs } else policy, ⟨reason.isSome, reason⟩)

/-- What the encoder, the surface pool and the converter do while one frame is processed. -/
structure GpuBehaviour where
  pollsReady : Bool
  surfaceFree : Bool
  converts : Bool
  encodes : Bool
deriving DecidableEq

def GpuBehaviour.working : GpuBehaviour := ⟨true, true, true, true⟩

structure CapturedFrame where
  captureTimestampUs : UInt64
  regionMetadataBytes : UInt32
  gpu : GpuBehaviour

def CapturedFrame.changed (frame : CapturedFrame) : Bool :=
  (MonitoringChangeHint.mk frame.regionMetadataBytes).hasRegionChange

/-- What became of a frame. -/
inductive FrameOutcome
  | suppressed
  | rateDropped
  | poolDropped
  | failed
  | submitted
deriving DecidableEq

/-- The counters of the presentation that count frames that come in. -/
structure PresentationStats where
  capturedFrames : UInt64 := 0
  submittedFrames : UInt64 := 0
  rateDroppedFrames : UInt64 := 0
  poolDroppedFrames : UInt64 := 0

/-- The part of the presentation pipeline that decides whether a captured frame goes to the encoder. -/
structure PresentationIntake where
  stats : PresentationStats := {}
  captureCadence : CaptureCadence := {}
  frameIntervalUs : UInt64

def PresentationIntake.processFrame (pipeline : PresentationIntake) (frame : CapturedFrame) :
    PresentationIntake × FrameOutcome :=
  let captured := { pipeline.stats with capturedFrames := saturatingAdd pipeline.stats.capturedFrames 1 }
  if !frame.gpu.pollsReady then ({ pipeline with stats := captured }, .failed)
  else
    match pipeline.captureCadence.shouldSubmit frame.captureTimestampUs pipeline.frameIntervalUs with
    | (cadence, false) =>
      (⟨{ captured with rateDroppedFrames := saturatingAdd captured.rateDroppedFrames 1 }, cadence,
        pipeline.frameIntervalUs⟩, .rateDropped)
    | (cadence, true) =>
      if !frame.gpu.surfaceFree then
        (⟨{ captured with poolDroppedFrames := saturatingAdd captured.poolDroppedFrames 1 }, cadence,
          pipeline.frameIntervalUs⟩, .poolDropped)
      else if !frame.gpu.converts || !frame.gpu.encodes then
        (⟨captured, cadence, pipeline.frameIntervalUs⟩, .failed)
      else
        (⟨{ captured with submittedFrames := saturatingAdd captured.submittedFrames 1 }, cadence,
          pipeline.frameIntervalUs⟩, .submitted)

structure MonitoringPipeline where
  inner : PresentationIntake
  emission : MonitoringEmissionPolicy := {}
  suppressedUnchangedFrames : UInt64 := 0
  regionChangeFrames : UInt64 := 0
  heartbeatFrames : UInt64 := 0

namespace MonitoringPipeline

def fromFirstFrame (profile : MonitoringProfile) : MonitoringPipeline :=
  { inner := { frameIntervalUs := 1000000 / UInt64.ofNat (max profile.fps.toNat 1) } }

/-- The frames counted by the reason they are passed on for. -/
def countReason (pipeline : MonitoringPipeline) : Option MonitoringEmissionReason → MonitoringPipeline
  | some .regionChange => { pipeline with regionChangeFrames := saturatingAdd pipeline.regionChangeFrames 1 }
  | some .heartbeat => { pipeline with heartbeatFrames := saturatingAdd pipeline.heartbeatFrames 1 }
  | some .initial | none => pipeline

def processFrame (pipeline : MonitoringPipeline) (frame : CapturedFrame) : MonitoringPipeline × FrameOutcome :=
  let (emission, decision) := pipeline.emission.observe frame.captureTimestampUs ⟨frame.regionMetadataBytes⟩
  let observed := { pipeline with emission }
  if !decision.emit then
    ({ observed with suppressedUnchangedFrames := saturatingAdd observed.suppressedUnchangedFrames 1 }, .suppressed)
  else
    let counted := observed.countReason decision.reason
    let (inner, outcome) := counted.inner.processFrame frame
    ({ counted with inner }, outcome)

end MonitoringPipeline

abbrev MonitoringCall := Call MonitoringPipeline CapturedFrame FrameOutcome

theorem PresentationIntake.processFrame_working {pipeline : PresentationIntake} {frame : CapturedFrame}
    (working : frame.gpu = .working) :
    (pipeline.processFrame frame).1.captureCadence =
        (pipeline.captureCadence.shouldSubmit frame.captureTimestampUs pipeline.frameIntervalUs).1 ∧
      (pipeline.processFrame frame).1.frameIntervalUs = pipeline.frameIntervalUs ∧
      (pipeline.processFrame frame).2 =
        if (pipeline.captureCadence.shouldSubmit frame.captureTimestampUs pipeline.frameIntervalUs).2 then .submitted
        else .rateDropped := by
  simp only [processFrame, working, GpuBehaviour.working]
  cases pipeline.captureCadence.shouldSubmit frame.captureTimestampUs pipeline.frameIntervalUs with
  | mk cadence due =>
    cases due with
    | true | false => exact ⟨rfl, rfl, rfl⟩

namespace MonitoringPipeline

variable {pipeline : MonitoringPipeline} {frame : CapturedFrame}

/-- What becomes of a frame while the GPU works: it is suppressed, or the frame-rate filter decides. -/
inductive Processed (pipeline : MonitoringPipeline) (frame : CapturedFrame) : MonitoringPipeline → FrameOutcome → Prop
  | suppressed {after} (last : UInt64) (emitted : pipeline.emission.lastEmittedUs = some last)
      (unchanged : frame.changed = false)
      (recent : frame.captureTimestampUs.toNat - last.toNat < pipeline.emission.heartbeatIntervalUs.toNat)
      (sameEmission : after.emission = pipeline.emission) (sameInner : after.inner = pipeline.inner) :
      Processed pipeline frame after .suppressed
  | passed {after outcome} (due : ∀ last, pipeline.emission.lastEmittedUs = some last → frame.changed = true ∨
        pipeline.emission.heartbeatIntervalUs.toNat ≤ frame.captureTimestampUs.toNat - last.toNat)
      (emitted : after.emission = { pipeline.emission with lastEmittedUs := some frame.captureTimestampUs })
      (cadence : after.inner.captureCadence =
        (pipeline.inner.captureCadence.shouldSubmit frame.captureTimestampUs pipeline.inner.frameIntervalUs).1)
      (interval : after.inner.frameIntervalUs = pipeline.inner.frameIntervalUs)
      (decided : outcome =
        if (pipeline.inner.captureCadence.shouldSubmit frame.captureTimestampUs pipeline.inner.frameIntervalUs).2
          then .submitted else .rateDropped) : Processed pipeline frame after outcome

theorem countReason_inner (reason : Option MonitoringEmissionReason) :
    (pipeline.countReason reason).inner = pipeline.inner ∧
      (pipeline.countReason reason).emission = pipeline.emission := by
  cases reason with
  | none => exact ⟨rfl, rfl⟩
  | some reason => cases reason <;> exact ⟨rfl, rfl⟩

theorem reason_eq_none_iff {policy : MonitoringEmissionPolicy} :
    policy.reason frame.captureTimestampUs ⟨frame.regionMetadataBytes⟩ = none ↔
      ∃ last, policy.lastEmittedUs = some last ∧ frame.changed = false ∧
        frame.captureTimestampUs.toNat - last.toNat < policy.heartbeatIntervalUs.toNat := by
  unfold MonitoringEmissionPolicy.reason CapturedFrame.changed
  cases policy.lastEmittedUs with
  | none => simp
  | some => cases (MonitoringChangeHint.mk frame.regionMetadataBytes).hasRegionChange <;> simp

theorem processFrame_processed (working : frame.gpu = .working) :
    Processed pipeline frame (pipeline.processFrame frame).1 (pipeline.processFrame frame).2 := by
  cases reason : pipeline.emission.reason frame.captureTimestampUs ⟨frame.regionMetadataBytes⟩ with
  | none =>
    obtain ⟨last, emitted, unchanged, recent⟩ := reason_eq_none_iff.mp reason
    simp only [processFrame, MonitoringEmissionPolicy.observe, reason]
    exact .suppressed last emitted unchanged recent rfl rfl
  | some =>
    have due : ∀ last, pipeline.emission.lastEmittedUs = some last → frame.changed = true ∨
        pipeline.emission.heartbeatIntervalUs.toNat ≤ frame.captureTimestampUs.toNat - last.toNat := by
      intro last emitted
      by_contra neither
      rw [not_or, Bool.not_eq_true, Nat.not_le] at neither
      rw [reason_eq_none_iff.mpr ⟨last, emitted, neither⟩] at reason
      cases reason
    obtain ⟨cadence, interval, outcome⟩ := pipeline.inner.processFrame_working working
    simp only [processFrame, MonitoringEmissionPolicy.observe, reason, Option.isSome_some, if_true, Bool.not_true,
      Bool.false_eq_true, if_false, countReason_inner, outcome]
    exact .passed due rfl cadence interval rfl

end MonitoringPipeline

/-- What the two filters remember: both the time of the last frame that was not suppressed. -/
structure MonitoringHistory (past : List MonitoringCall) (pipeline : MonitoringPipeline) : Prop where
  heartbeat : pipeline.emission.heartbeatIntervalUs = defaultMonitoringHeartbeatUs
  nonzero : pipeline.inner.frameIntervalUs ≠ 0
  short : pipeline.inner.frameIntervalUs.toNat ≤ 1000000
  emitted : (pipeline.emission.lastEmittedUs = none ∧ pipeline.inner.captureCadence.nextDueUs = none) ∨
    ∃ last, pipeline.emission.lastEmittedUs = some last ∧
      CadencePaced pipeline.inner.frameIntervalUs last pipeline.inner.captureCadence ∧
      ∃ call ∈ past, call.input.captureTimestampUs = last
  latest : ∀ call ∈ past.getLast?, call.reply ≠ .suppressed →
    pipeline.emission.lastEmittedUs = some call.input.captureTimestampUs

section History

variable {past : List MonitoringCall} {pipeline after : MonitoringPipeline} {frame : CapturedFrame}
  {outcome : FrameOutcome}

theorem monitoringHistory_start (profile : MonitoringProfile) :
    MonitoringHistory [] (MonitoringPipeline.fromFirstFrame profile) := by
  have range := profile.fpsRange
  have lower : 2 ≤ profile.fps.toNat := UInt8.le_iff_toNat_le.mp range.1
  have upper : profile.fps.toNat ≤ 5 := UInt8.le_iff_toNat_le.mp range.2
  have frames : (UInt64.ofNat (max profile.fps.toNat 1)).toNat = profile.fps.toNat := by
    rw [UInt64.toNat_ofNat', Nat.mod_eq_of_lt (by omega)]
    exact Nat.max_eq_left (Nat.le_trans (by decide) lower)
  have interval : (MonitoringPipeline.fromFirstFrame profile).inner.frameIntervalUs.toNat =
      1000000 / profile.fps.toNat := by
    simp only [MonitoringPipeline.fromFirstFrame, UInt64.toNat_div, frames]
    rfl
  refine ⟨rfl, ?_, ?_, .inl ⟨rfl, rfl⟩, by simp⟩
  · intro zero
    rw [zero] at interval
    have positive : 0 < 1000000 / profile.fps.toNat := Nat.div_pos (by omega) (by omega)
    exact absurd interval.symm (Nat.ne_of_gt positive)
  · rw [interval]
    exact Nat.div_le_self _ _

/-- A frame that is no change but is passed on as a heartbeat comes long after the next due time, so that only changes
are dropped for the frame rate. -/
theorem MonitoringHistory.step (history : MonitoringHistory past pipeline)
    (taken : pipeline.processFrame frame = (after, outcome)) (working : frame.gpu = .working)
    (ordered : ∀ call ∈ past, call.input.captureTimestampUs ≤ frame.captureTimestampUs) :
    MonitoringHistory (past ++ [⟨pipeline, frame, outcome, after⟩]) after ∧
      (outcome = .rateDropped → frame.changed = true) := by
  have processed := pipeline.processFrame_processed working
  rw [taken] at processed
  cases processed with
  | suppressed last emitted unchanged recent sameEmission sameInner =>
    simp only at sameEmission sameInner
    refine ⟨⟨?_, ?_, ?_, .inr ?_, ?_⟩, by simp⟩
    · rw [sameEmission, history.heartbeat]
    · rw [sameInner]
      exact history.nonzero
    · rw [sameInner]
      exact history.short
    · rcases history.emitted with ⟨never, _⟩ | ⟨before, known, paced, call, member, same⟩
      · rw [never] at emitted
        cases emitted
      · rw [sameEmission, sameInner]
        exact ⟨before, known, paced, call, List.mem_append_left _ member, same⟩
    · intro call final passed
      rw [List.getLast?_concat] at final
      cases final
      exact absurd rfl passed
  | passed due emitted cadence interval decided =>
    simp only at emitted cadence interval decided
    have keeps (paced : CadencePaced pipeline.inner.frameIntervalUs frame.captureTimestampUs
        (pipeline.inner.captureCadence.shouldSubmit frame.captureTimestampUs pipeline.inner.frameIntervalUs).1) :
        MonitoringHistory (past ++ [⟨pipeline, frame, outcome, after⟩]) after := by
      refine ⟨?_, ?_, ?_, .inr ⟨frame.captureTimestampUs, ?_, ?_,
        ⟨_, List.mem_concat_self, rfl⟩⟩, ?_⟩
      · rw [emitted, history.heartbeat]
      · rw [interval]
        exact history.nonzero
      · rw [interval]
        exact history.short
      · rw [emitted]
      · rw [interval, cadence]
        exact paced
      · intro call final _
        rw [List.getLast?_concat] at final
        cases final
        rw [emitted]
    rcases history.emitted with ⟨_, unarmed⟩ | ⟨last, known, paced, call, member, same⟩
    · obtain ⟨rearmed, submitted⟩ := paced_of_unarmed history.nonzero unarmed
      refine ⟨keeps rearmed, fun dropped => ?_⟩
      rw [decided, submitted] at dropped
      cases dropped
    · have since : last ≤ frame.captureTimestampUs := same ▸ ordered call member
      obtain ⟨rearmed, late⟩ := paced.frame history.nonzero since
      refine ⟨keeps rearmed, fun dropped => ?_⟩
      rcases due last known with changed | long
      · exact changed
      · have short := history.short
        rw [history.heartbeat] at long
        have value : defaultMonitoringHeartbeatUs.toNat = 2000000 := rfl
        have elapsed := UInt64.le_iff_toNat_le.mp since
        rw [decided, late (by omega)] at dropped
        cases dropped

end History

/-- The frames come in the order they were captured, and the GPU works for each. -/
structure SmoothFrames (past : List MonitoringCall) : Prop where
  working : ∀ call ∈ past, call.input.gpu = .working
  ordered : past.Pairwise fun former latter => former.input.captureTimestampUs ≤ latter.input.captureTimestampUs

/-- A frame is suppressed only if no frame after the last submitted one reported a change. -/
def SuppressedOnlyUnchanged (past : List MonitoringCall) : Prop :=
  ∀ earlier call later, past = earlier ++ call :: later → call.reply = .suppressed →
    ∀ front between, earlier = front ++ between → (∀ other ∈ between, other.reply ≠ .submitted) →
      ∀ other ∈ between ++ [call], other.input.changed = false

/-- After a change that was dropped for the frame rate, the first frame that the frame rate allows is submitted. -/
def DroppedChangeSubmitted (past : List MonitoringCall) : Prop :=
  ∀ earlier dropped between next later, past = earlier ++ dropped :: (between ++ next :: later) →
    dropped.reply = .rateDropped → dropped.input.changed = true → (∀ other ∈ between, other.reply ≠ .submitted) →
      (next.before.inner.captureCadence.shouldSubmit next.input.captureTimestampUs
        next.before.inner.frameIntervalUs).2 = true → next.reply = .submitted

/-- Whether the frame-rate filter, as the call found it, lets the frame through. -/
def MonitoringCall.rateAllows (call : MonitoringCall) : Bool :=
  (call.before.inner.captureCadence.shouldSubmit call.input.captureTimestampUs call.before.inner.frameIntervalUs).2

/-- No change for which the frame rate has no room is followed at once by an unchanged frame within the heartbeat. -/
def NoLullAfterDroppedChange (past : List MonitoringCall) : Prop :=
  ∀ earlier dropped next later, past = earlier ++ dropped :: next :: later →
    MonitoringCall.rateAllows dropped = false → dropped.input.changed = true → next.input.changed = false →
      defaultMonitoringHeartbeatUs.toNat ≤ next.input.captureTimestampUs.toNat - dropped.input.captureTimestampUs.toNat

section Runs

variable {profile : MonitoringProfile} {past second first earlier later : List MonitoringCall} {call : MonitoringCall}
  {final : MonitoringPipeline}
  (run : Run (Total MonitoringPipeline.processFrame) (.fromFirstFrame profile) past final) (smooth : SmoothFrames past)

theorem SmoothFrames.of_append (smooth : SmoothFrames (first ++ second)) : SmoothFrames first :=
  ⟨forall_of_append smooth.working, (List.pairwise_append.mp smooth.ordered).1⟩

theorem NoLullAfterDroppedChange.of_append (condition : NoLullAfterDroppedChange (first ++ second)) :
    NoLullAfterDroppedChange first := by
  intro earlier dropped next later cut
  refine condition earlier dropped next (later ++ second) ?_
  rw [cut, List.append_assoc, List.cons_append, List.cons_append]

include run smooth

theorem monitoringHistory_of_run :
    MonitoringHistory past final ∧ ∀ call ∈ past, call.reply = .rateDropped → call.input.changed = true := by
  induction run with
  | start => exact ⟨monitoringHistory_start profile, by simp⟩
  | @next past current frame outcome after _ taken ih =>
    obtain ⟨history, changes⟩ := ih smooth.of_append
    have ordered := (List.pairwise_append.mp smooth.ordered).2.2
    have working := smooth.working ⟨current, frame, outcome, after⟩ (by simp)
    obtain ⟨next, change⟩ := history.step taken working fun call member => ordered call member _ List.mem_cons_self
    exact ⟨next, forall_mem_concat changes change⟩

theorem processed_of_cut (cut : past = earlier ++ call :: later) :
    MonitoringHistory earlier call.before ∧
      MonitoringPipeline.Processed call.before call.input call.after call.reply := by
  obtain ⟨reached, taken, _⟩ := run.split cut
  have processed := call.before.processFrame_processed (smooth.working call (by rw [cut]; simp))
  rw [taken] at processed
  rw [cut] at smooth
  exact ⟨(monitoringHistory_of_run reached smooth.of_append).1, processed⟩

theorem processed_of_mem (member : call ∈ past) :
    MonitoringPipeline.Processed call.before call.input call.after call.reply := by
  obtain ⟨_, _, cut⟩ := List.append_of_mem member
  exact (processed_of_cut run smooth cut).2

/-- The frame after one that was dropped is suppressed exactly in a lull. -/
theorem next_of_dropped {dropped next : MonitoringCall} (cut : past = earlier ++ dropped :: next :: later)
    (drops : dropped.reply = .rateDropped) :
    (next.reply = .suppressed → next.input.changed = false ∧ next.input.captureTimestampUs.toNat -
      dropped.input.captureTimestampUs.toNat < defaultMonitoringHeartbeatUs.toNat) ∧
    (next.reply ≠ .suppressed → next.input.changed = true ∨ defaultMonitoringHeartbeatUs.toNat ≤
      next.input.captureTimestampUs.toNat - dropped.input.captureTimestampUs.toNat) := by
  have cut' : past = (earlier ++ [dropped]) ++ next :: later := by rw [cut]; simp
  obtain ⟨history, processed⟩ := processed_of_cut run smooth cut'
  have emitted := history.latest dropped (by simp) (by simp [drops])
  generalize next.reply = reply at processed ⊢
  cases processed with
  | suppressed last known unchanged recent =>
    cases emitted.symm.trans known
    rw [history.heartbeat] at recent
    exact ⟨fun _ => ⟨unchanged, recent⟩, fun passed => absurd rfl passed⟩
  | passed due _ _ _ decided =>
    have notSuppressed : reply ≠ .suppressed := by
      rw [decided]
      split
      · simp
      · simp
    have passes := due _ emitted
    rw [history.heartbeat] at passes
    exact ⟨fun suppressed => absurd suppressed notSuppressed, fun _ => passes⟩

theorem unchanged_of_suppressed (member : call ∈ past) (suppressed : call.reply = .suppressed) :
    call.input.changed = false := by
  have processed := processed_of_mem run smooth member
  generalize call.reply = reply at processed suppressed
  cases processed with
  | suppressed _ _ unchanged => exact unchanged
  | passed _ _ _ _ decided =>
    rw [decided] at suppressed
    split at suppressed
    · cases suppressed
    · cases suppressed

/-- A change is dropped exactly if the frame rate has no room for it. -/
theorem rateDropped_iff (member : call ∈ past) (changed : call.input.changed = true) :
    call.reply = .rateDropped ↔ MonitoringCall.rateAllows call = false := by
  have processed := processed_of_mem run smooth member
  generalize call.reply = reply at processed ⊢
  cases processed with
  | suppressed _ _ unchanged =>
    rw [changed] at unchanged
    cases unchanged
  | passed _ _ _ _ decided =>
    have decision : reply = if MonitoringCall.rateAllows call then .submitted else .rateDropped := decided
    rw [decision]
    cases MonitoringCall.rateAllows call <;> decide

theorem reply_cases (member : call ∈ past) :
    call.reply = .suppressed ∨ call.reply = .rateDropped ∨ call.reply = .submitted := by
  have processed := processed_of_mem run smooth member
  generalize call.reply = reply at processed ⊢
  cases processed with
  | suppressed => exact .inl rfl
  | passed _ _ _ _ decided =>
    rw [decided]
    split
    · exact .inr (.inr rfl)
    · exact .inr (.inl rfl)

/-- Without a lull, a frame that comes at once after a dropped one is not suppressed. -/
theorem NoLullAfterDroppedChange.not_suppressed (condition : NoLullAfterDroppedChange past)
    {dropped next : MonitoringCall} (cut : past = earlier ++ dropped :: next :: later)
    (drops : dropped.reply = .rateDropped) : next.reply ≠ .suppressed := by
  intro suppressed
  have member : dropped ∈ past := by simp [cut]
  have changed := (monitoringHistory_of_run run smooth).2 dropped member drops
  have full := (rateDropped_iff run smooth member changed).mp drops
  obtain ⟨unchanged, recent⟩ := (next_of_dropped run smooth cut drops).1 suppressed
  exact Nat.not_lt.mpr (condition earlier dropped next later cut full changed unchanged) recent

/-- Without a lull, since the last submission every frame was suppressed, unless the last one was dropped. -/
theorem quiet_or_dropped (condition : NoLullAfterDroppedChange past) :
    (∀ front between, past = front ++ between → (∀ other ∈ between, other.reply ≠ .submitted) →
      ∀ other ∈ between, other.reply = .suppressed) ∨
        ∃ front last, past = front ++ [last] ∧ last.reply = .rateDropped := by
  induction run with
  | start => exact .inl fun front between cut => by simp [(List.append_eq_nil_iff.mp cut.symm).2]
  | @next past current frame outcome after previous taken ih =>
    have whole := previous.next taken
    rcases reply_cases whole smooth List.mem_concat_self with suppressed | dropped | submitted
    · rcases ih smooth.of_append condition.of_append with quiet | ⟨front, last, rfl, dropped⟩
      · refine .inl fun front between cut unsubmitted other member => ?_
        rcases List.eq_nil_or_concat between with rfl | ⟨rest, _, rfl⟩
        · simp at member
        · rw [List.concat_eq_append] at cut unsubmitted member
          rw [← List.append_assoc] at cut
          obtain ⟨same, sameLast⟩ := List.append_inj' cut rfl
          rcases List.mem_append.mp member with old | new
          · exact quiet front rest same (forall_of_append unsubmitted)
              other old
          · rw [List.mem_singleton.mp new, ← List.singleton_inj.mp sameLast]
            exact suppressed
      · have cut : front ++ [last] ++ [⟨current, frame, outcome, after⟩] =
            front ++ last :: ⟨current, frame, outcome, after⟩ :: [] := by simp
        exact absurd suppressed (condition.not_suppressed whole smooth cut dropped)
    · exact .inr ⟨past, _, rfl, dropped⟩
    · refine .inl fun front between cut unsubmitted other member => ?_
      rcases List.eq_nil_or_concat between with rfl | ⟨_, final, rfl⟩
      · simp at member
      · rw [List.concat_eq_append] at cut unsubmitted
        rw [← List.append_assoc] at cut
        obtain ⟨_, sameLast⟩ := List.append_inj' cut rfl
        refine absurd submitted ?_
        rw [List.singleton_inj.mp sameLast]
        exact unsubmitted final List.mem_concat_self

theorem suppressedOnlyUnchanged_of_noLull (condition : NoLullAfterDroppedChange past) :
    SuppressedOnlyUnchanged past := by
  intro earlier call later cut suppressed front between sameEarlier unsubmitted other member
  obtain ⟨reached, _, _⟩ := run.split cut
  have prefixSmooth : SmoothFrames earlier := by
    rw [cut] at smooth
    exact smooth.of_append
  have prefixCondition : NoLullAfterDroppedChange earlier := by
    rw [cut] at condition
    exact condition.of_append
  rcases List.mem_append.mp member with old | new
  · rcases quiet_or_dropped reached prefixSmooth prefixCondition with quiet | ⟨front', last, rfl, dropped⟩
    · refine unchanged_of_suppressed reached prefixSmooth ?_ (quiet front between sameEarlier unsubmitted other old)
      rw [sameEarlier]
      exact List.mem_append_right _ old
    · have pair : past = front' ++ last :: call :: later := by rw [cut]; simp
      exact absurd suppressed (condition.not_suppressed run smooth pair dropped)
  · rw [List.mem_singleton.mp new]
    exact unchanged_of_suppressed run smooth (by rw [cut]; simp) suppressed

theorem droppedChangeSubmitted_of_suppressed (only : SuppressedOnlyUnchanged past) : DroppedChangeSubmitted past := by
  intro earlier dropped between next later cut drops changed unsubmitted due
  have cut' : past = (earlier ++ dropped :: between) ++ next :: later := by rw [cut]; simp
  have processed := (processed_of_cut run smooth cut').2
  generalize replied : next.reply = reply at processed
  cases processed with
  | suppressed =>
    have none : ∀ other ∈ dropped :: between, other.reply ≠ .submitted := by
      intro other member
      rcases List.mem_cons.mp member with rfl | old
      · simp [drops]
      · exact unsubmitted other old
    have unchanged := only _ next later cut' replied earlier (dropped :: between) rfl none dropped (by simp)
    rw [changed] at unchanged
    cases unchanged
  | passed _ _ _ _ decided =>
    rw [decided, due]
    rfl

end Runs

/-- Exactly when a suppressed frame stands for an unchanged screen, and a dropped change reaches the encoder with the
next frame the frame rate allows: no change dropped for the frame rate is followed at once by an unchanged frame within
the heartbeat. -/
theorem suppressed_only_unchanged_iff {profile : MonitoringProfile} {past : List MonitoringCall}
    {final : MonitoringPipeline}
    (run : Run (Total MonitoringPipeline.processFrame) (.fromFirstFrame profile) past final)
    (smooth : SmoothFrames past) :
    SuppressedOnlyUnchanged past ∧ DroppedChangeSubmitted past ↔ NoLullAfterDroppedChange past := by
  constructor
  · rintro ⟨only, _⟩ earlier dropped next later cut full changed unchanged
    have drops := (rateDropped_iff run smooth (by rw [cut]; simp) changed).mpr full
    by_cases suppressed : next.reply = .suppressed
    · have cut' : past = (earlier ++ [dropped]) ++ next :: later := by rw [cut]; simp
      have still := only _ next later cut' suppressed earlier [dropped] rfl (by simp [drops]) dropped (by simp)
      rw [changed] at still
      cases still
    · rcases (next_of_dropped run smooth cut drops).2 suppressed with change | long
      · rw [unchanged] at change
        cases change
      · exact long
  · intro condition
    have only := suppressedOnlyUnchanged_of_noLull run smooth condition
    exact ⟨only, droppedChangeSubmitted_of_suppressed run smooth only⟩

def threePerSecond : MonitoringProfile := ⟨320, 180, 3, by decide⟩

def monitoredFrames (frames : List (UInt64 × UInt32)) : List MonitoringCall :=
  calls MonitoringPipeline.processFrame (.fromFirstFrame threePerSecond)
    (frames.map fun frame => ⟨frame.1, frame.2, .working⟩)

/-- The screen goes on changing until a frame is submitted. -/
def ongoingChange : List MonitoringCall := monitoredFrames [(0, 0), (100000, 64), (400000, 64)]

theorem suppressed_only_unchanged_while_changing :
    ongoingChange.map (·.reply) = [.submitted, .rateDropped, .submitted] ∧ SuppressedOnlyUnchanged ongoingChange := by
  have smooth : SmoothFrames ongoingChange := ⟨by simp [ongoingChange, monitoredFrames, calls], by
    simp [ongoingChange, monitoredFrames, calls]⟩
  refine ⟨rfl, ((suppressed_only_unchanged_iff (Run.of_calls _ _ _) smooth).mpr ?_).1⟩
  intro earlier dropped next later cut full _ unchanged
  rcases cons_eq_append_cons cut with ⟨_, rfl, _⟩ | ⟨_, rfl, second⟩
  · cases full
  rcases cons_eq_append_cons second with ⟨_, _, rest⟩ | ⟨_, rfl, third⟩
  · obtain ⟨rfl, _⟩ := List.cons_eq_cons.mp rest
    cases unchanged
  rcases cons_eq_append_cons third with ⟨_, _, rest⟩ | ⟨front'', rfl, fourth⟩
  · cases rest
  · cases front'' <;> cases fourth

/-- The change at 100 ms is dropped for the frame rate, and the frame at 400 ms, which the frame rate allows, is
suppressed as unchanged. -/
def lostChange : List MonitoringCall := monitoredFrames [(0, 0), (100000, 64), (400000, 0)]

theorem dropped_change_suppressed :
    lostChange.map (·.reply) = [.submitted, .rateDropped, .suppressed] ∧
      ¬SuppressedOnlyUnchanged lostChange ∧ ¬DroppedChangeSubmitted lostChange := by
  refine ⟨rfl, fun only => ?_, fun next => ?_⟩
  · have unsubmitted : ∀ other ∈ (lostChange.take 2).drop 1, other.reply ≠ .submitted := by decide
    have unchanged := only (lostChange.take 2) _ [] rfl rfl (lostChange.take 1) _ rfl unsubmitted _ List.mem_cons_self
    cases unchanged
  · have submitted := next (lostChange.take 1) _ [] _ [] rfl rfl rfl (by simp) rfl
    cases submitted

end ClassMesh
