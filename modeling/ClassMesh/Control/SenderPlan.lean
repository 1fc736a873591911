import ClassMesh.Control.KeyDelivery

namespace ClassMesh

open Std Foundation

structure PresentationKeyframeRequest where
  presentationId : UInt64
  streamId : UInt32
  afterFrameId : UInt64
deriving DecidableEq

inductive TeacherPresentationSenderPlanError
  | invalidReceiverLimit
  | invalidRuntimeSlot
  | receiverLimitReached
  | runtimeSlotExhausted
  | planChanged
deriving DecidableEq

@[ext]
structure TeacherPresentationOutlierBinding where
  slotId : UInt64
  target : PresentationUnicastSenderTarget
  valid : slotId ≠ 0

instance : DecidableEq TeacherPresentationOutlierBinding := fun _ _ =>
  decidable_of_iff _ TeacherPresentationOutlierBinding.ext_iff.symm

def TeacherPresentationOutlierBinding.new (slotId : UInt64) (target : PresentationUnicastSenderTarget) :
    Except TeacherPresentationSenderPlanError TeacherPresentationOutlierBinding :=
  if zero : slotId = 0 then .error .invalidRuntimeSlot else .ok ⟨slotId, target, zero⟩

inductive TeacherPresentationSenderAction
  | attachUnicast (binding : TeacherPresentationOutlierBinding)
  | detachUnicast (binding : TeacherPresentationOutlierBinding)
  | requestKeyframe (request : PresentationKeyframeRequest)
deriving DecidableEq

structure PreparedTeacherPresentationUnicastTarget where
  revision : UInt64
  target : PresentationUnicastSenderTarget
  actions : List TeacherPresentationSenderAction
deriving DecidableEq

structure TeacherPresentationSenderPlan where
  targets : BTreeMap PrincipalId TeacherPresentationOutlierBinding := ∅
  maxReceivers : Nat := maxGroupMediaReceivers
  nextSlotId : UInt64 := 1
  revision : UInt64 := 0

namespace TeacherPresentationSenderPlan

variable (plan : TeacherPresentationSenderPlan)

def withLimit (maxReceivers : Nat) : Except TeacherPresentationSenderPlanError TeacherPresentationSenderPlan :=
  if maxReceivers = 0 ∨ maxGroupMediaReceivers < maxReceivers then .error .invalidReceiverLimit
  else .ok { maxReceivers }

def prepareUnicastTarget (target : PresentationUnicastSenderTarget) :
    Except TeacherPresentationSenderPlanError PreparedTeacherPresentationUnicastTarget := do
  let actions ← match plan.targets[target.receiver]? with
    | some previous =>
      if previous.target = target then pure []
      else do
        let replacement ← TeacherPresentationOutlierBinding.new previous.slotId target
        pure [.detachUnicast previous, .attachUnicast replacement]
    | none => do
      if plan.maxReceivers ≤ plan.targets.size then throw .receiverLimitReached
      match checkedAdd plan.nextSlotId 1 with
      | none => throw .runtimeSlotExhausted
      | some _ =>
        let binding ← TeacherPresentationOutlierBinding.new plan.nextSlotId target
        pure [.attachUnicast binding]
  pure ⟨plan.revision, target, actions⟩

def applyUnicastTargetCommitted (target : PresentationUnicastSenderTarget) :
    Except TeacherPresentationSenderPlanError TeacherPresentationSenderPlan :=
  match plan.targets[target.receiver]? with
  | some previous =>
    if previous.target = target then pure plan
    else do
      let replacement ← TeacherPresentationOutlierBinding.new previous.slotId target
      pure { plan with
        targets := plan.targets.insert target.receiver replacement
        revision := plan.revision + 1 }
  | none => do
    if plan.maxReceivers ≤ plan.targets.size then throw .receiverLimitReached
    match checkedAdd plan.nextSlotId 1 with
    | none => throw .runtimeSlotExhausted
    | some nextSlotId =>
      let binding ← TeacherPresentationOutlierBinding.new plan.nextSlotId target
      pure { plan with
        nextSlotId := nextSlotId
        targets := plan.targets.insert target.receiver binding
        revision := plan.revision + 1 }

def commitUnicastTarget (prepared : PreparedTeacherPresentationUnicastTarget) :
    TeacherPresentationSenderPlan × Except TeacherPresentationSenderPlanError Unit :=
  if plan.revision ≠ prepared.revision then (plan, .error .planChanged)
  else
    match plan.applyUnicastTargetCommitted prepared.target with
    | .error error => (plan, .error error)
    | .ok after => (after, .ok ())

def applyUnicastTarget (target : PresentationUnicastSenderTarget) :
    TeacherPresentationSenderPlan × Except TeacherPresentationSenderPlanError (List TeacherPresentationSenderAction) :=
  match plan.prepareUnicastTarget target with
  | .error error => (plan, .error error)
  | .ok prepared =>
    match plan.commitUnicastTarget prepared with
    | (after, .error error) => (after, .error error)
    | (after, .ok ()) => (after, .ok prepared.actions)

def removeReceiver (receiver : PrincipalId) : TeacherPresentationSenderPlan × Option TeacherPresentationSenderAction :=
  match plan.targets[receiver]? with
  | none => (plan, none)
  | some removed =>
    ({ plan with targets := plan.targets.erase receiver, revision := plan.revision + 1 }, some (.detachUnicast removed))

end TeacherPresentationSenderPlan

inductive SenderPlanInput
  | applyUnicastTarget (target : PresentationUnicastSenderTarget)
  | prepareUnicastTarget (target : PresentationUnicastSenderTarget)
  | commitUnicastTarget (prepared : PreparedTeacherPresentationUnicastTarget)
  | removeReceiver (receiver : PrincipalId)
deriving DecidableEq

inductive SenderPlanReply
  | applied (result : Except TeacherPresentationSenderPlanError (List TeacherPresentationSenderAction))
  | prepared (result : Except TeacherPresentationSenderPlanError PreparedTeacherPresentationUnicastTarget)
  | committed (result : Except TeacherPresentationSenderPlanError Unit)
  | removed (action : Option TeacherPresentationSenderAction)
deriving DecidableEq

def TeacherPresentationSenderPlan.step (plan : TeacherPresentationSenderPlan) :
    SenderPlanInput → TeacherPresentationSenderPlan × SenderPlanReply
  | .applyUnicastTarget target =>
    let (after, result) := plan.applyUnicastTarget target
    (after, .applied result)
  | .prepareUnicastTarget target => (plan, .prepared (plan.prepareUnicastTarget target))
  | .commitUnicastTarget prepared =>
    let (after, result) := plan.commitUnicastTarget prepared
    (after, .committed result)
  | .removeReceiver receiver =>
    let (after, action) := plan.removeReceiver receiver
    (after, .removed action)

abbrev SenderPlanCall := Call TeacherPresentationSenderPlan SenderPlanInput SenderPlanReply

/-- What a target does to a plan, and the actions that tell of it. -/
inductive TargetChange (plan : TeacherPresentationSenderPlan) (target : PresentationUnicastSenderTarget) :
    List TeacherPresentationSenderAction → TeacherPresentationSenderPlan → Prop
  | same : TargetChange plan target [] plan
  | replaced {previous : TeacherPresentationOutlierBinding} (stored : plan.targets[target.receiver]? = some previous) :
      TargetChange plan target [.detachUnicast previous, .attachUnicast ⟨previous.slotId, target, previous.valid⟩]
        { plan with
          targets := plan.targets.insert target.receiver ⟨previous.slotId, target, previous.valid⟩
          revision := plan.revision + 1 }
  | added {nextSlotId : UInt64} (absent : plan.targets[target.receiver]? = none)
      (room : plan.targets.size < plan.maxReceivers) (next : nextSlotId.toNat = plan.nextSlotId.toNat + 1)
      (valid : plan.nextSlotId ≠ 0) :
      TargetChange plan target [.attachUnicast ⟨plan.nextSlotId, target, valid⟩]
        { plan with
          nextSlotId := nextSlotId
          targets := plan.targets.insert target.receiver ⟨plan.nextSlotId, target, valid⟩
          revision := plan.revision + 1 }

section Inversion

variable {target : PresentationUnicastSenderTarget}

theorem new_eq_ok {slotId : UInt64} (valid : slotId ≠ 0) :
    TeacherPresentationOutlierBinding.new slotId target = .ok ⟨slotId, target, valid⟩ := dif_neg valid

/-- What is prepared is what a commit to the same plan does. -/
theorem target_outcome (plan : TeacherPresentationSenderPlan) (target : PresentationUnicastSenderTarget) :
    (∃ error, plan.prepareUnicastTarget target = .error error ∧
        plan.applyUnicastTargetCommitted target = .error error) ∨
      ∃ actions after, plan.prepareUnicastTarget target = .ok ⟨plan.revision, target, actions⟩ ∧
        plan.applyUnicastTargetCommitted target = .ok after ∧ TargetChange plan target actions after := by
  unfold TeacherPresentationSenderPlan.prepareUnicastTarget TeacherPresentationSenderPlan.applyUnicastTargetCommitted
  cases stored : plan.targets[target.receiver]? with
  | some previous =>
    by_cases same : previous.target = target
    · simp only [if_pos same]
      exact .inr ⟨_, _, rfl, rfl, .same⟩
    · simp only [if_neg same, new_eq_ok previous.valid]
      exact .inr ⟨_, _, rfl, rfl, .replaced stored⟩
  | none =>
    by_cases full : plan.maxReceivers ≤ plan.targets.size
    · simp only [if_pos full]
      exact .inl ⟨_, rfl, rfl⟩
    · simp only [if_neg full]
      cases next : checkedAdd plan.nextSlotId 1 with
      | none => exact .inl ⟨_, rfl, rfl⟩
      | some =>
        by_cases zero : plan.nextSlotId = 0
        · simp only [TeacherPresentationOutlierBinding.new, dif_pos zero]
          exact .inl ⟨_, rfl, rfl⟩
        · simp only [new_eq_ok zero]
          exact .inr ⟨_, _, rfl, rfl, .added stored (Nat.not_le.mp full) (checkedAdd_eq_some.mp next) zero⟩

end Inversion

end ClassMesh
