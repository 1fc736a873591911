import ClassMesh.Core.ReceiverQuality
import ClassMesh.Foundation.OrderedMap

namespace ClassMesh

open Std

variable {M : Type}

abbrev ReceiverId := UInt64

inductive CohortKind
  | wiredMulticast
  | directUnicast
  | webRtc
  | reliableFallback
deriving DecidableEq

def CohortKind.fromTransport : MediaTransport → CohortKind
  | .udpMulticast => .wiredMulticast
  | .udpUnicast | .quicDatagram => .directUnicast
  | .webRtc => .webRtc
  | .reliableFallback => .reliableFallback

structure CohortKey where
  kind : CohortKind
  tier : QualityTier
deriving DecidableEq

structure ReceiverRoute where
  receiver : ReceiverId
  cohort : CohortKey
deriving DecidableEq

abbrev CohortRouter := BTreeMap ReceiverId CohortKey

namespace CohortRouter

def cohortOf (decision : StreamDecision) : CohortKey := ⟨.fromTransport decision.transport, decision.tier⟩

def update (router : CohortRouter) (receiver : ReceiverId) (decision : StreamDecision) : CohortRouter × ReceiverRoute :=
  (router.insert receiver (cohortOf decision), ⟨receiver, cohortOf decision⟩)

def members (router : CohortRouter) (cohort : CohortKey) : List ReceiverId :=
  router.toList.filterMap fun entry => if entry.2 = cohort then some entry.1 else none

end CohortRouter

inductive ReceiverCohortPlannerError
  | invalidMaxReceivers
  | invalidQualityPolicy (error : ReceiverQualityPolicyError)
  | duplicateReceiver
  | receiverLimitReached
  | unknownReceiver
deriving DecidableEq

structure ReceiverCohortObservation where
  quality : ReceiverQualityObservation
  route : ReceiverRoute
deriving DecidableEq

structure ReceiverState (M : Type) where
  transport : MediaTransport
  quality : ReceiverQualityController M

structure ReceiverCohortPlannerConfig where
  maxReceivers : Nat := 64
deriving DecidableEq

structure ReceiverCohortPlanner (M : Type) where
  kind : StreamKind
  hysteresis : HysteresisConfig
  qualityPolicy : ReceiverQualityPolicy M
  config : ReceiverCohortPlannerConfig
  receivers : BTreeMap ReceiverId (ReceiverState M) := ∅
  router : CohortRouter := ∅

namespace ReceiverCohortPlanner

variable (planner : ReceiverCohortPlanner M)

def new (kind : StreamKind) (hysteresis : HysteresisConfig) (qualityPolicy : ReceiverQualityPolicy M)
    (config : ReceiverCohortPlannerConfig) : Except ReceiverCohortPlannerError (ReceiverCohortPlanner M) :=
  if config.maxReceivers = 0 then .error .invalidMaxReceivers
  else
    match qualityPolicy.validate with
    | .error error => .error (.invalidQualityPolicy error)
    | .ok () => .ok { kind := kind, hysteresis := hysteresis, qualityPolicy := qualityPolicy, config := config }

def register (receiver : ReceiverId) (transport : MediaTransport) :
    ReceiverCohortPlanner M × Except ReceiverCohortPlannerError Unit :=
  if planner.receivers.contains receiver then (planner, .error .duplicateReceiver)
  else if planner.config.maxReceivers ≤ planner.receivers.size then (planner, .error .receiverLimitReached)
  else
    match ReceiverQualityController.new planner.kind planner.hysteresis planner.qualityPolicy with
    | .error error => (planner, .error (.invalidQualityPolicy error))
    | .ok quality => ({ planner with receivers := planner.receivers.insert receiver ⟨transport, quality⟩ }, .ok ())

/-- The decision for a receiver over the transport it registered with. -/
def decisionFor (transport : MediaTransport) (decision : FocusedProfileDecision) : StreamDecision :=
  ⟨transport, decision.profile, decision.tier⟩

def observe (receiver : ReceiverId) (sample : ReceiverQualitySample M) (nowUs : UInt64) :
    ReceiverCohortPlanner M × Except ReceiverCohortPlannerError ReceiverCohortObservation :=
  match planner.receivers[receiver]? with
  | none => (planner, .error .unknownReceiver)
  | some state =>
    let (controller, quality) := state.quality.observe sample nowUs
    let (router, route) := planner.router.update receiver (decisionFor state.transport quality.decision)
    ({ planner with
        receivers := planner.receivers.insert receiver { state with quality := controller }
        router := router }, .ok ⟨quality, route⟩)

/-- The decision of a receiver whose telemetry is overdue, if its tier changes. -/
def expired (nowUs : UInt64) (entry : ReceiverId × ReceiverState M) : Option (ReceiverId × StreamDecision) :=
  (entry.2.quality.expireIfStale nowUs).2.map fun decision => (entry.1, decisionFor entry.2.transport decision)

def expireStale (nowUs : UInt64) : ReceiverCohortPlanner M × List (ReceiverId × ReceiverRoute) :=
  let changes := planner.receivers.toList.filterMap (expired nowUs)
  ({ planner with
      receivers := planner.receivers.map fun _ state =>
        { state with quality := (state.quality.expireIfStale nowUs).1 }
      router := changes.foldl (fun router change => (router.update change.1 change.2).1) planner.router },
    changes.map fun change => (change.1, ⟨change.1, CohortRouter.cohortOf change.2⟩))

def remove (receiver : ReceiverId) : ReceiverCohortPlanner M × Bool :=
  ({ planner with receivers := planner.receivers.erase receiver, router := planner.router.erase receiver },
    planner.receivers.contains receiver)

def route (receiver : ReceiverId) : Option CohortKey := planner.router[receiver]?

def members (cohort : CohortKey) : List ReceiverId := planner.router.members cohort

end ReceiverCohortPlanner

inductive CohortInput (M : Type)
  | register (receiver : ReceiverId) (transport : MediaTransport)
  | observe (receiver : ReceiverId) (sample : ReceiverQualitySample M) (nowUs : UInt64)
  | expireStale (nowUs : UInt64)
  | remove (receiver : ReceiverId)

inductive CohortReply
  | registered (result : Except ReceiverCohortPlannerError Unit)
  | observed (result : Except ReceiverCohortPlannerError ReceiverCohortObservation)
  | expired (changes : List (ReceiverId × ReceiverRoute))
  | removed (present : Bool)

namespace ReceiverCohortPlanner

variable {planner : ReceiverCohortPlanner M} {receiver : ReceiverId} {nowUs : UInt64}

def step (planner : ReceiverCohortPlanner M) : CohortInput M → ReceiverCohortPlanner M × CohortReply
  | .register receiver transport =>
    ((planner.register receiver transport).1, .registered (planner.register receiver transport).2)
  | .observe receiver sample nowUs =>
    ((planner.observe receiver sample nowUs).1, .observed (planner.observe receiver sample nowUs).2)
  | .expireStale nowUs => ((planner.expireStale nowUs).1, .expired (planner.expireStale nowUs).2)
  | .remove receiver => ((planner.remove receiver).1, .removed (planner.remove receiver).2)

/-- What an expiry makes of one receiver. -/
def expiredState (nowUs : UInt64) (state : ReceiverState M) : ReceiverState M :=
  { state with quality := (state.quality.expireIfStale nowUs).1 }

theorem expireStale_receivers (planner : ReceiverCohortPlanner M) (nowUs : UInt64) (receiver : ReceiverId) :
    (planner.expireStale nowUs).1.receivers[receiver]? = planner.receivers[receiver]?.map (expiredState nowUs) := by
  simp only [expireStale, ExtTreeMap.getElem?_map]
  rfl

/-- The changes that an expiry reports for one receiver depend on that receiver alone. -/
theorem expired_changes_filter (planner : ReceiverCohortPlanner M) (nowUs : UInt64) (receiver : ReceiverId) :
    (planner.receivers.toList.filterMap (expired nowUs)).filter (fun change => change.1 = receiver) =
      (planner.receivers[receiver]?.bind fun state => expired nowUs (receiver, state)).toList := by
  have sameKey : ∀ entry : ReceiverId × ReceiverState M,
      (expired nowUs entry).filter (fun change => decide (change.1 = receiver)) =
        if entry.1 = receiver then expired nowUs entry else none := by
    intro entry
    unfold expired
    cases (entry.2.quality.expireIfStale nowUs).2 with
    | none => simp
    | some =>
      by_cases same : entry.1 = receiver <;> simp [same]
  rw [List.filter_filterMap]
  simp only [sameKey]
  have own := BTreeMap.filter_toList_key planner.receivers receiver
  have keyed : planner.receivers.toList.filterMap
      (fun entry => if entry.1 = receiver then expired nowUs entry else none) =
      (planner.receivers.toList.filter fun entry => entry.1 = receiver).filterMap (expired nowUs) := by
    rw [List.filterMap_filter]
    simp
  rw [keyed, own]
  cases planner.receivers[receiver]? with
  | none => rfl
  | some state => cases found : expired nowUs (receiver, state) <;> simp [found]

end ReceiverCohortPlanner

end ClassMesh
