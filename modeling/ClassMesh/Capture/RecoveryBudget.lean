import ClassMesh.Capture.RecoveringCapture

namespace ClassMesh

open Foundation

variable {B ω F : Type} [CaptureBackend B ω F]

/-- A call on a capture over any kind of backend. `created` is what the factory does if it is asked. -/
inductive RecoveryCall (B ω : Type)
  | start (created : Except CaptureFailure B)
  | resume (created : Except CaptureFailure B)
  | poll (answer : ω) (created : Except CaptureFailure B)

def RecoveringCapture.step (capture : RecoveringCapture B) : RecoveryCall B ω →
    RecoveringCapture B × Option (CaptureStep F)
  | .start created => ((capture.start created).1, none)
  | .resume created => ((capture.resume created).1, none)
  | .poll answer created => ((capture.poll answer created).1, some (capture.poll answer created).2)

/-- One poll, with the answers of the backend and of the factory. -/
structure PollAnswers (B ω : Type) where
  acquired : ω
  created : Except CaptureFailure B

def RecoveringCapture.pollWith (capture : RecoveringCapture B) (answers : PollAnswers B ω) :
    RecoveringCapture B × CaptureStep F :=
  capture.poll answers.acquired answers.created

abbrev PollCall (B ω F : Type) := Call (RecoveringCapture B) (PollAnswers B ω) (CaptureStep F)

def PollCall.asks (call : PollCall B ω F) : Bool := call.before.asksFactory call.input.acquired

/-- The answers that end a stretch of recovery. -/
def CaptureStep.settles : CaptureStep F → Bool
  | .frame _ _ | .noFrame | .suspended _ => true
  | .retryAfter _ _ | .failed _ => false

/-- The largest number of attempts of one recovery. -/
def RecoveryPolicy.budget (policy : RecoveryPolicy) : Nat := max 1 policy.maxAttempts.toNat

variable {policy : RecoveryPolicy}

theorem RecoveryPolicy.backoffMs_mono {former latter : UInt8} (below : former.toNat ≤ latter.toNat) :
    policy.backoffMs former ≤ policy.backoffMs latter := by
  unfold backoffMs
  have exponent : min (former.toNat - 1) 16 ≤ min (latter.toNat - 1) 16 := by omega
  have power : policy.baseBackoffMs * 2 ^ min (former.toNat - 1) 16 ≤
      policy.baseBackoffMs * 2 ^ min (latter.toNat - 1) 16 :=
    Nat.mul_le_mul_left _ (Nat.pow_le_pow_right (by omega) exponent)
  omega

/-- A state in which polls go on with a recovery or a suspension. -/
def RecoveryState.Unfinished : RecoveryState → Prop
  | .recovering _ _ | .suspended => True
  | .idle | .starting | .healthy | .failed _ => False

/-- What holds of a capture between any two calls: a capture with a backend is healthy, one that recovers or is
suspended knows why, and a recovery keeps to its budget. -/
structure RecoverySound (policy : RecoveryPolicy) (capture : RecoveringCapture B) : Prop where
  policy_eq : capture.recovery.policy = policy
  healthy : ∀ backend, capture.backend = some backend → capture.recovery.state = .healthy
  pending : capture.recovery.state.Unfinished → capture.pendingFailure ≠ none
  attempts : ∀ attempt reason, capture.recovery.state = .recovering attempt reason → attempt.toNat ≤ policy.budget

theorem RecoverySound.of_finished {capture : RecoveringCapture B} (policy_eq : capture.recovery.policy = policy)
    (finished : ¬capture.recovery.state.Unfinished)
    (healthy : ∀ backend, capture.backend = some backend → capture.recovery.state = .healthy) :
    RecoverySound policy capture := by
  refine ⟨policy_eq, healthy, fun unfinished => absurd unfinished finished, fun attempt reason recovering => ?_⟩
  rw [recovering] at finished
  exact absurd trivial finished

namespace RecoveringCapture

variable {policy : RecoveryPolicy} {capture : RecoveringCapture B} {answer : ω} {created : Except CaptureFailure B}

/-- The capture after an attempt to recover, by what the factory does. -/
inductive Recreated (policy : RecoveryPolicy) (error : CaptureFailure) (attempt : UInt8) (reason : RecoveryReason) :
    Except CaptureFailure B → RecoveringCapture B → CaptureStep F → Prop
  | succeeded (backend : B) : Recreated policy error attempt reason (.ok backend)
      ⟨some backend, ⟨.healthy, policy⟩, none⟩ (.retryAfter 0 error)
  | failed (failure : CaptureFailure) : Recreated policy error attempt reason (.error failure)
      ⟨none, ⟨.recovering attempt reason, policy⟩, some error⟩ (.retryAfter (policy.backoffMs attempt) error)

/-- What a poll can do. -/
inductive Polled (policy : RecoveryPolicy) (capture : RecoveringCapture B) (answer : ω)
    (created : Except CaptureFailure B) : RecoveringCapture B → CaptureStep F → Prop
  | settled {after reply} (settles : reply.settles = true) (asks : capture.asksFactory answer = false)
      (sound : RecoverySound policy after) : Polled policy capture answer created after reply
  | fell {after reply} (error : CaptureFailure) (reason : RecoveryReason) (backend : B)
      (had : capture.backend = some backend) (fails : capture.acquireFailure answer = some error)
      (recoverable : error.isRecoverable = true) (recreated : Recreated policy error 1 reason created after reply) :
      Polled policy capture answer created after reply
  | retried {after reply} (error : CaptureFailure) (attempt : UInt8) (reason : RecoveryReason)
      (none : capture.backend = none) (pending : capture.pendingFailure = some error)
      (recovering : capture.recovery.state = .recovering attempt reason)
      (more : attempt.toNat < policy.maxAttempts.toNat)
      (recreated : Recreated policy error (attempt + 1) reason created after reply) :
      Polled policy capture answer created after reply
  | gaveUp {after} (error : CaptureFailure) (asks : capture.asksFactory answer = false) (gone : after.backend = none)
      (finished : ¬after.recovery.state.Unfinished) (sound : RecoverySound policy after) :
      Polled policy capture answer created after (.failed error)

theorem attempt_succ {attempt : UInt8} {limit : UInt8} (more : attempt.toNat < limit.toNat) :
    (attempt + 1).toNat = attempt.toNat + 1 := by
  have bound := limit.toNat_lt
  have one : (1 : UInt8).toNat = 1 := rfl
  rw [UInt8.toNat_add, one]
  exact Nat.mod_eq_of_lt (by omega)

theorem tryRecreate_recreated (error : CaptureFailure) (attempt : UInt8) (reason : RecoveryReason) :
    Recreated policy error attempt reason created
      (tryRecreate (F := F) ⟨none, ⟨.recovering attempt reason, policy⟩, some error⟩ created error
        (policy.backoffMs attempt)).1
      (tryRecreate (F := F) ⟨none, ⟨.recovering attempt reason, policy⟩, some error⟩ created error
        (policy.backoffMs attempt)).2 := by
  cases created with
  | ok backend => exact .succeeded backend
  | error failure => exact .failed failure

theorem retryPendingRecovery_polled (sound : RecoverySound policy capture) (none : capture.backend = none) :
    Polled policy capture answer created (capture.retryPendingRecovery (F := F) created).1
      (capture.retryPendingRecovery (F := F) created).2 := by
  obtain ⟨_, ⟨state, policy⟩, pendingFailure⟩ := capture
  cases none
  cases sound.policy_eq
  cases pendingFailure with
  | none =>
    refine .gaveUp .fatal rfl rfl (fun unfinished => sound.pending unfinished rfl) sound
  | some error =>
    cases state with
    | suspended => exact .settled rfl rfl sound
    | idle | starting | healthy | failed => exact .gaveUp error rfl rfl id sound
    | recovering attempt reason =>
      by_cases spent : policy.maxAttempts ≤ attempt
      · have outcome : retryPendingRecovery (F := F) ⟨none, ⟨.recovering attempt reason, policy⟩, some error⟩ created =
            (⟨none, ⟨.failed reason, policy⟩, some error⟩, .failed error) := by
          simp only [retryPendingRecovery, RecoveryController.retryFailed, if_pos spent]
        rw [outcome]
        refine .gaveUp error ?_ rfl id (.of_finished rfl id (by simp))
        simp [asksFactory, UInt8.not_lt.mpr spent]
      · have more := UInt8.lt_iff_toNat_lt.mp (UInt8.not_le.mp spent)
        have notLast : attempt ≠ 255 := by
          rintro rfl
          have bound := policy.maxAttempts.toNat_lt
          have value : (255 : UInt8).toNat = 255 := rfl
          omega
        have outcome : retryPendingRecovery (F := F) ⟨none, ⟨.recovering attempt reason, policy⟩, some error⟩ created =
            tryRecreate ⟨none, ⟨.recovering (attempt + 1) reason, policy⟩, some error⟩ created error
              (policy.backoffMs (attempt + 1)) := by
          simp only [retryPendingRecovery, RecoveryController.retryFailed, if_neg spent, if_neg notLast]
          rfl
        rw [outcome]
        exact .retried error attempt reason rfl rfl rfl more (tryRecreate_recreated error _ reason)

/-- What one poll does to a sound capture. Every branch of `poll` ends in one of the cases of `Polled`, so that no later
proof has to unfold it. -/
theorem poll_polled (sound : RecoverySound policy capture) :
    Polled policy capture answer created (capture.poll answer created).1 (capture.poll answer created).2 := by
  cases had : capture.backend with
  | none =>
    have retries : capture.poll answer created = capture.retryPendingRecovery created := by
      simp only [poll, had]
    rw [retries]
    exact retryPendingRecovery_polled sound had
  | some backend =>
    obtain ⟨_, ⟨state, policy⟩, pendingFailure⟩ := capture
    cases had
    cases sound.policy_eq
    have healthy : state = .healthy := sound.healthy backend rfl
    subst healthy
    cases acquired : CaptureBackend.acquire backend answer with
    | mk next result =>
      cases result with
      | ok frame =>
        have outcome : poll ⟨some backend, ⟨.healthy, policy⟩, pendingFailure⟩ answer created =
            (⟨some next, ⟨.healthy, policy⟩, none⟩, .frame frame.1 frame.2) := by
          simp only [poll, acquired]
          rfl
        rw [outcome]
        refine .settled rfl ?_ (.of_finished rfl id fun _ _ => rfl)
        simp [asksFactory, acquireFailure, acquired]
      | error error =>
        have failure : (⟨some backend, ⟨.healthy, policy⟩, pendingFailure⟩ : RecoveringCapture B).acquireFailure
            answer = some error := by
          simp only [acquireFailure, acquired]
        by_cases late : error = .timeout
        · have outcome : poll ⟨some backend, ⟨.healthy, policy⟩, pendingFailure⟩ answer created =
              (⟨some next, ⟨.healthy, policy⟩, pendingFailure⟩, .noFrame) := by
            simp only [poll, acquired, if_pos late]
          rw [outcome]
          refine .settled rfl ?_ (.of_finished rfl id fun _ _ => rfl)
          simp [asksFactory, failure, late, CaptureFailure.isRecoverable]
        · by_cases suspends : error.isSuspension = true
          · have outcome : poll ⟨some backend, ⟨.healthy, policy⟩, pendingFailure⟩ answer created =
                (⟨none, ⟨.suspended, policy⟩, some error⟩, .suspended error) := by
              simp only [poll, acquired, if_neg late, if_pos suspends]
              rfl
            rw [outcome]
            refine .settled rfl ?_ ⟨rfl, by simp, by simp, by simp⟩
            simp only [asksFactory, failure, Option.any_some]
            cases error <;> first | rfl | cases suspends
          · by_cases recoverable : error.isRecoverable = true
            · have outcome : poll ⟨some backend, ⟨.healthy, policy⟩, pendingFailure⟩ answer created =
                  tryRecreate ⟨none, ⟨.recovering 1 (error.recoveryReason.getD .accessLost), policy⟩, some error⟩
                    created error (policy.backoffMs 1) := by
                simp only [poll, acquired, if_neg late, if_neg suspends, if_pos recoverable]
                rfl
              rw [outcome]
              exact .fell error _ backend rfl failure recoverable (tryRecreate_recreated error 1 _)
            · have outcome : poll ⟨some backend, ⟨.healthy, policy⟩, pendingFailure⟩ answer created =
                  (⟨none, ⟨.healthy, policy⟩, some error⟩, .failed error) := by
                simp only [poll, acquired, if_neg late, if_neg suspends, if_neg recoverable]
              rw [outcome]
              refine .gaveUp error ?_ rfl id (.of_finished rfl id (by simp))
              simp [asksFactory, failure, recoverable]

variable {after : RecoveringCapture B} {reply : CaptureStep F}

theorem Recreated.sound {error : CaptureFailure} {attempt : UInt8} {reason : RecoveryReason}
    (within : attempt.toNat ≤ policy.budget) (recreated : Recreated policy error attempt reason created after reply) :
    RecoverySound policy after := by
  cases recreated with
  | succeeded => exact .of_finished rfl id fun _ _ => rfl
  | failed =>
    refine ⟨rfl, by simp, by simp, fun other why recovering => ?_⟩
    cases recovering
    exact within

theorem Polled.sound (polled : Polled policy capture answer created after reply) : RecoverySound policy after := by
  cases polled with
  | settled _ _ sound => exact sound
  | gaveUp _ _ _ _ sound => exact sound
  | fell error reason backend _ _ _ recreated => exact recreated.sound (Nat.le_max_left _ _)
  | retried error attempt reason _ _ _ more recreated =>
    refine recreated.sound ?_
    rw [attempt_succ more]
    exact Nat.le_trans more (Nat.le_max_right _ _)

theorem start_sound (known : capture.recovery.policy = policy) : RecoverySound policy (capture.start created).1 := by
  cases created with
  | ok => exact .of_finished known id fun _ _ => rfl
  | error => exact .of_finished known id (by simp [start])

theorem sound_of_run {past : List (Call (RecoveringCapture B) (RecoveryCall B ω) (Option (CaptureStep F)))}
    (run : Run (Total step) (new policy) past capture) : RecoverySound policy capture := by
  induction run with
  | start => exact .of_finished rfl id (by simp [new])
  | @next past current input reply after _ taken ih =>
    have left : (current.step input).1 = after := (Prod.ext_iff.mp taken).1
    rw [← left]
    cases input with
    | start | resume => exact start_sound ih.policy_eq
    | poll => exact (poll_polled ih).sound

end RecoveringCapture

/-- How far the polls of a run have come, given how often they asked the factory and whether it made a backend. -/
inductive RecoveryPhase (policy : RecoveryPolicy) (asked : Nat) (renewed : Bool) (capture : RecoveringCapture B) : Prop
  | live (backend : B) (had : capture.backend = some backend) (count : asked ≤ if renewed then policy.budget else 0)
  | retrying (attempt : UInt8) (reason : RecoveryReason) (none : capture.backend = none)
      (recovering : capture.recovery.state = .recovering attempt reason) (fresh : renewed = false)
      (count : asked ≤ attempt.toNat)
  | suspended (none : capture.backend = none) (suspends : capture.recovery.state = .suspended) (fresh : asked = 0)
  | dead (none : capture.backend = none) (finished : ¬capture.recovery.state.Unfinished)
      (count : asked ≤ policy.budget)

namespace RecoveryPhase

open RecoveringCapture

variable {policy : RecoveryPolicy} {asked : Nat} {renewed : Bool} {capture after : RecoveringCapture B} {answer : ω}
  {created : Except CaptureFailure B} {reply : CaptureStep F}

theorem start (capture : RecoveringCapture B) : RecoveryPhase policy 0 false capture := by
  cases had : capture.backend with
  | some backend => exact .live backend had (Nat.zero_le _)
  | none =>
    cases state : capture.recovery.state with
    | recovering attempt reason => exact .retrying attempt reason had state rfl (Nat.zero_le _)
    | suspended => exact .suspended had state rfl
    | idle | starting | healthy | failed => exact .dead had (by rw [state]; exact id) (Nat.zero_le _)

theorem count_le (sound : RecoverySound policy capture) (phase : RecoveryPhase policy asked renewed capture) :
    asked ≤ policy.budget := by
  cases phase with
  | live backend had count =>
    split at count
    · exact count
    · omega
  | retrying attempt reason none recovering fresh count =>
    exact Nat.le_trans count (sound.attempts attempt reason recovering)
  | suspended => omega
  | dead none finished count => exact count

/-- An attempt moves a run on: a backend that is made renews it, and the delay after a failure is that of an attempt at
least as late. -/
theorem recreated {error : CaptureFailure} {attempt : UInt8} {reason : RecoveryReason} (below : asked < attempt.toNat)
    (within : attempt.toNat ≤ policy.budget) (made : Recreated policy error attempt reason created after reply) :
    (∃ delay, reply = .retryAfter delay error ∧
      (∀ failure, created = .error failure → policy.backoffMs (UInt8.ofNat (asked + 1)) ≤ delay)) ∧
    RecoveryPhase policy (asked + 1) created.toBool after := by
  cases made with
  | succeeded backend =>
    have counted : asked + 1 ≤ policy.budget := by omega
    exact ⟨⟨0, rfl, fun failure failed => by cases failed⟩, .live backend rfl counted⟩
  | failed =>
    refine ⟨⟨_, rfl, fun _ _ => RecoveryPolicy.backoffMs_mono ?_⟩, .retrying attempt reason rfl rfl rfl below⟩
    rw [UInt8.toNat_ofNat']
    exact Nat.le_trans (Nat.mod_le _ _) below

/-- A poll that does not settle the run asks the factory, before any backend was made, or ends the run for good. -/
theorem step (sound : RecoverySound policy capture) (phase : RecoveryPhase policy asked renewed capture)
    (polled : Polled policy capture answer created after reply) (unsettled : reply.settles = false)
    (holds : renewed = true → ∀ error, capture.acquireFailure answer = some error → error.isRecoverable = false) :
    (capture.asksFactory answer = true ∧ renewed = false ∧
      (∃ delay error, reply = .retryAfter delay error ∧
        (∀ failure, created = .error failure → policy.backoffMs (UInt8.ofNat (asked + 1)) ≤ delay)) ∧
      RecoveryPhase policy (asked + 1) created.toBool after) ∨
    (capture.asksFactory answer = false ∧ (∃ error, reply = .failed error) ∧ after.backend = none ∧
      ¬after.recovery.state.Unfinished) := by
  cases polled with
  | settled settles =>
    rw [settles] at unsettled
    cases unsettled
  | gaveUp error asks gone finished => exact .inr ⟨asks, ⟨error, rfl⟩, gone, finished⟩
  | fell error reason backend had fails recoverable made =>
    have fresh : renewed = false := by
      by_contra renews
      rw [Bool.not_eq_false] at renews
      rw [holds renews error fails] at recoverable
      cases recoverable
    have none : asked = 0 := by
      cases phase with
      | live _ _ count =>
        rw [fresh] at count
        exact Nat.le_zero.mp count
      | retrying _ _ none =>
        rw [none] at had
        cases had
      | suspended _ _ zero => exact zero
      | dead none =>
        rw [none] at had
        cases had
    have asks : capture.asksFactory answer = true := by
      simp [asksFactory, had, fails, recoverable]
    subst none
    obtain ⟨⟨delay, same, late⟩, next⟩ := recreated (by decide : 0 < (1 : UInt8).toNat) (Nat.le_max_left _ _) made
    exact .inl ⟨asks, fresh, ⟨delay, error, same, late⟩, next⟩
  | retried error attempt reason none pending recovering more made =>
    have asks : capture.asksFactory answer = true := by
      simp only [asksFactory, none, pending, recovering, sound.policy_eq, decide_eq_true_eq]
      exact UInt8.lt_iff_toNat_lt.mpr more
    have counted : asked ≤ attempt.toNat ∧ renewed = false := by
      cases phase with
      | live _ had =>
        rw [none] at had
        cases had
      | retrying other why _ known fresh count =>
        cases recovering.symm.trans known
        exact ⟨count, fresh⟩
      | suspended _ suspends =>
        rw [recovering] at suspends
        cases suspends
      | dead _ finished =>
        rw [recovering] at finished
        exact absurd trivial finished
    have later := attempt_succ more
    have within : (attempt + 1).toNat ≤ policy.budget := by
      rw [later]
      exact Nat.le_trans more (Nat.le_max_right _ _)
    obtain ⟨⟨delay, same, late⟩, next⟩ := recreated (by omega : asked < (attempt + 1).toNat) within made
    exact .inl ⟨asks, counted.2, ⟨delay, error, same, late⟩, next⟩

end RecoveryPhase

section Runs

open RecoveringCapture

variable {policy : RecoveryPolicy} {capture final : RecoveringCapture B} {polls : List (PollCall B ω F)}

/-- The factory was asked and failed. -/
def PollCall.fails (call : PollCall B ω F) : Bool := call.asks && !call.input.created.toBool

/-- The factory was asked and made a backend. -/
def PollCall.renews (call : PollCall B ω F) : Bool := call.asks && call.input.created.toBool

def factoryRequests (polls : List (PollCall B ω F)) : Nat := (polls.filter PollCall.asks).length

/-- No backend that was made in the run fails in a way that starts a recovery. -/
def NoRelapse (polls : List (PollCall B ω F)) : Prop :=
  ∀ earlier call later, polls = earlier ++ call :: later → (∃ previous ∈ earlier, previous.renews = true) →
    ∀ error, call.before.acquireFailure call.input.acquired = some error → error.isRecoverable = false

theorem NoRelapse.of_append {first second : List (PollCall B ω F)} (holds : NoRelapse (first ++ second)) :
    NoRelapse first := by
  intro earlier call later cut
  refine holds earlier call (later ++ second) ?_
  rw [cut, List.append_assoc, List.cons_append]

theorem factoryRequests_concat (polls : List (PollCall B ω F)) (call : PollCall B ω F) :
    factoryRequests (polls ++ [call]) = factoryRequests polls + if call.asks then 1 else 0 := by
  rw [factoryRequests, factoryRequests, List.filter_append, List.length_append]
  by_cases asks : call.asks = true
  · rw [List.filter_cons_of_pos asks, if_pos asks, List.filter_nil, List.length_singleton]
  · rw [List.filter_cons_of_neg asks, if_neg asks, List.filter_nil, List.length_nil]

/-- Polls without a relapse keep to the budget: the phase says how often the factory was asked so far. The induction is
on the run, with soundness carried along. -/
theorem phase_of_run (sound : RecoverySound policy capture) (run : Run (Total pollWith) capture polls final)
    (unsettled : ∀ call ∈ polls, call.reply.settles = false) (holds : NoRelapse polls) :
    RecoverySound policy final ∧ RecoveryPhase policy (factoryRequests polls) (polls.any PollCall.renews) final := by
  induction run with
  | start => exact ⟨sound, .start capture⟩
  | @next past current input reply after _ taken ih =>
    obtain ⟨soundNow, phase⟩ := ih (forall_of_append unsettled) holds.of_append
    have polled : Polled policy current input.acquired input.created (current.pollWith input).1
        (current.pollWith input).2 := poll_polled soundNow
    rw [taken] at polled
    have last := unsettled ⟨current, input, reply, after⟩ (by simp)
    have relapses : past.any PollCall.renews = true → ∀ error, current.acquireFailure input.acquired = some error →
        error.isRecoverable = false := by
      intro renewed
      exact holds past ⟨current, input, reply, after⟩ [] rfl (List.any_eq_true.mp renewed)
    refine ⟨polled.sound, ?_⟩
    rw [factoryRequests_concat, List.any_append]
    rcases phase.step soundNow polled last relapses with ⟨asks, fresh, _, next⟩ | ⟨silent, _, gone, finished⟩
    · have asked : PollCall.asks ⟨current, input, reply, after⟩ = true := asks
      have renews : ([⟨current, input, reply, after⟩] : List (PollCall B ω F)).any PollCall.renews =
          input.created.toBool := by
        simp [PollCall.renews, asked]
      rw [if_pos asked, fresh, renews, Bool.false_or]
      exact next
    · have unasked : PollCall.asks ⟨current, input, reply, after⟩ = false := silent
      refine .dead gone finished ?_
      rw [unasked]
      exact phase.count_le soundNow

/-- What a poll of the run does, by what the run did before. -/
theorem poll_of_cut (sound : RecoverySound policy capture) (run : Run (Total pollWith) capture polls final)
    (unsettled : ∀ call ∈ polls, call.reply.settles = false) (holds : NoRelapse polls)
    {earlier later : List (PollCall B ω F)} {call : PollCall B ω F} (cut : polls = earlier ++ call :: later) :
    (call.asks = true ∧ earlier.any PollCall.renews = false ∧ ∃ delay error, call.reply = .retryAfter delay error ∧
      ∀ failure, call.input.created = .error failure →
        policy.backoffMs (UInt8.ofNat (factoryRequests earlier + 1)) ≤ delay) ∨
    (call.asks = false ∧ (∃ error, call.reply = .failed error) ∧ call.after.backend = none ∧
      ¬call.after.recovery.state.Unfinished) := by
  obtain ⟨before, taken, _⟩ := run.split cut
  have relapses := holds earlier call later cut
  rw [cut] at unsettled holds
  obtain ⟨soundNow, phase⟩ := phase_of_run sound before (fun other member => unsettled other (by simp [member]))
    holds.of_append
  have polled : Polled policy call.before call.input.acquired call.input.created (call.before.pollWith call.input).1
      (call.before.pollWith call.input).2 := poll_polled soundNow
  rw [taken] at polled
  rcases phase.step soundNow polled (unsettled call (by simp))
    fun renewed => relapses (List.any_eq_true.mp renewed) with
    ⟨asks, fresh, answered, _⟩ | ended
  · exact .inl ⟨asks, fresh, answered⟩
  · exact .inr ended

/-- A capture that has given up answers every poll with a failure and leaves the factory alone. -/
theorem failed_of_dead (run : Run (Total pollWith) capture polls final) (none : capture.backend = none)
    (finished : ¬capture.recovery.state.Unfinished) :
    final = capture ∧ ∀ call ∈ polls, call.asks = false ∧ ∃ error, call.reply = .failed error := by
  induction run with
  | start => exact ⟨rfl, by simp⟩
  | @next past current input reply after _ taken ih =>
    obtain ⟨rfl, failed⟩ := ih
    have dead : current.asksFactory input.acquired = false ∧
        ∃ error, current.pollWith input = (current, .failed error) := by
      obtain ⟨_, ⟨state, _⟩, pendingFailure⟩ := current
      cases none
      cases pendingFailure with
      | none => exact ⟨rfl, .fatal, rfl⟩
      | some error =>
        cases state with
        | recovering | suspended => exact absurd trivial finished
        | idle | starting | healthy | failed => exact ⟨rfl, error, rfl⟩
    obtain ⟨unasked, error, same⟩ := dead
    rw [taken] at same
    cases same
    exact ⟨rfl, forall_mem_concat failed ⟨unasked, error, rfl⟩⟩

/-- Before a backend was made in the run, every request of it failed. -/
theorem fails_eq_asks (fresh : polls.any PollCall.renews = false) :
    (polls.filter PollCall.fails).length = factoryRequests polls := by
  rw [factoryRequests, List.filter_congr]
  intro call member
  have kept : call.renews ≠ true := List.any_eq_false.mp fresh call member
  unfold PollCall.renews at kept
  unfold PollCall.fails
  cases asks : call.asks with
  | false => rfl
  | true =>
    rw [asks, Bool.true_and] at kept
    rw [Bool.eq_false_of_not_eq_true kept]
    rfl

end Runs

/-- Recovery keeps to its budget in every run of polls in which no backend made in the run falls into recovery again.
The run may begin in any state that a capture can get into. -/
theorem capture_recovery_within_budget {policy : RecoveryPolicy}
    {past : List (Call (RecoveringCapture B) (RecoveryCall B ω) (Option (CaptureStep F)))}
    {capture final : RecoveringCapture B} {polls : List (PollCall B ω F)}
    (reached : Run (Total RecoveringCapture.step) (.new policy) past capture)
    (run : Run (Total RecoveringCapture.pollWith) capture polls final)
    (unsettled : ∀ call ∈ polls, call.reply.settles = false) (holds : NoRelapse polls) :
    factoryRequests polls ≤ max 1 policy.maxAttempts.toNat ∧
    (∀ earlier call later error, polls = earlier ++ call :: later → call.reply = .failed error →
      ∀ other ∈ later, other.asks = false ∧ ∃ failure, other.reply = .failed failure) ∧
    (∀ earlier call later, polls = earlier ++ call :: later → call.fails = true →
      ∃ delay error, call.reply = .retryAfter delay error ∧
        policy.backoffMs (UInt8.ofNat ((earlier.filter PollCall.fails).length + 1)) ≤ delay) := by
  have sound := RecoveringCapture.sound_of_run reached
  refine ⟨?_, ?_, ?_⟩
  · obtain ⟨soundFinal, phase⟩ := phase_of_run sound run unsettled holds
    exact phase.count_le soundFinal
  · intro earlier call later error cut failed
    obtain ⟨_, _, rest⟩ := run.split cut
    rcases poll_of_cut sound run unsettled holds cut with ⟨_, _, _, _, retries, _⟩ | ⟨_, _, gone, finished⟩
    · rw [failed] at retries
      cases retries
    · exact (failed_of_dead rest gone finished).2
  · intro earlier call later cut fails
    obtain ⟨asks, unmade⟩ := Bool.and_eq_true_iff.mp fails
    rcases poll_of_cut sound run unsettled holds cut with ⟨_, fresh, delay, reason, retries, late⟩ | ⟨unasked, _⟩
    · refine ⟨delay, reason, retries, ?_⟩
      rw [fails_eq_asks fresh]
      cases created : call.input.created with
      | ok =>
        rw [created] at unmade
        cases unmade
      | error failure => exact late failure created
    · rw [asks] at unasked
      cases unasked

/-- A started capture whose device fails, and does not come back in two attempts. -/
def droppedDevice :
    RecoveringCapture (DxgiCaptureBackend Unit) := ⟨some ⟨⟨640, 480⟩, 1⟩, ⟨.healthy, ⟨2, 100, 5000⟩⟩, none⟩

def droppedPolls : List (PollCall (DxgiCaptureBackend Unit) (Except CaptureFailure (AcquiredFrame Unit)) Unit) :=
  calls RecoveringCapture.pollWith droppedDevice
    [⟨.error .deviceRemoved, .error .fatal⟩, ⟨.error .timeout, .error .fatal⟩, ⟨.error .timeout, .error .fatal⟩]

/-- A removed device that never comes back is asked for twice, and then the capture gives up. -/
theorem capture_recovery_within_two_attempts :
    droppedPolls.map (·.reply) = [.retryAfter 100 .deviceRemoved, .retryAfter 200 .deviceRemoved,
        .failed .deviceRemoved] ∧
      factoryRequests droppedPolls ≤ 2 := by
  have started : Run (Total RecoveringCapture.step) (.new ⟨2, 100, 5000⟩)
      (calls (RecoveringCapture.step (F := Unit) (ω := Except CaptureFailure (AcquiredFrame Unit)))
        (.new ⟨2, 100, 5000⟩)
        [.start (.ok ⟨⟨640, 480⟩, 1⟩)]) droppedDevice := Run.of_calls _ _ _
  have unmade : ∀ call ∈ droppedPolls, call.renews = false := by decide
  have unsettled : ∀ call ∈ droppedPolls, call.reply.settles = false := by decide
  have holds : NoRelapse droppedPolls := by
    rintro earlier call later cut ⟨previous, member, renews⟩
    rw [unmade previous (by rw [cut]; simp [member])] at renews
    cases renews
  exact ⟨rfl, (capture_recovery_within_budget started (Run.of_calls _ _ _) unsettled holds).1⟩

/-- Polls of a backend that can be made at any time but always loses its access. -/
def relapsingPolls (polls : Nat) :
    List (PollCall (DxgiCaptureBackend Unit) (Except CaptureFailure (AcquiredFrame Unit)) Unit) :=
  calls RecoveringCapture.pollWith droppedDevice
    (List.replicate polls ⟨.error .accessLost, .ok ⟨⟨640, 480⟩, 1⟩⟩)

/-- The factory is asked on every one of them, without a delay, however many there are. -/
theorem relapsingPolls_spin (polls : Nat) :
    (relapsingPolls polls).map (·.reply) = List.replicate polls (.retryAfter 0 .accessLost) ∧
      factoryRequests (relapsingPolls polls) = polls := by
  have again : RecoveringCapture.pollWith (F := Unit) droppedDevice ⟨.error .accessLost, .ok ⟨⟨640, 480⟩, 1⟩⟩ =
      (droppedDevice, .retryAfter 0 .accessLost) := rfl
  rw [relapsingPolls, calls_replicate again]
  refine ⟨List.map_replicate, ?_⟩
  rw [factoryRequests, List.filter_replicate_of_pos rfl, List.length_replicate]

/-- A hundred polls ask the factory a hundred times, without a delay, where the policy allows two attempts. -/
theorem recovery_spins_beyond_two_attempts :
    (relapsingPolls 100).map (·.reply) = List.replicate 100 (.retryAfter 0 .accessLost) ∧
      ¬factoryRequests (relapsingPolls 100) ≤ max 1 droppedDevice.recovery.policy.maxAttempts.toNat := by
  obtain ⟨replies, requests⟩ := relapsingPolls_spin 100
  refine ⟨replies, ?_⟩
  rw [requests]
  decide

end ClassMesh
