import ClassMesh.Foundation.Saturating
import ClassMesh.WindowsRuntime.SessionSupervisor

namespace ClassMesh

open Foundation

structure WorkerProcess where
  session : SessionId
  processId : UInt32
  launchedAtUs : UInt64
deriving DecidableEq

structure WorkerRestartPolicy where
  baseBackoffUs : UInt64 := 250000
  maxBackoffUs : UInt64 := 10000000
  resetAfterHealthyUs : UInt64 := 60000000
  maxConsecutiveFailures : UInt8 := 8
deriving DecidableEq

inductive WorkerRestartDecision
  | relaunchAfter (session : SessionId) (delayUs : UInt64)
  | giveUp (session : SessionId)
  | ignore
deriving DecidableEq

structure WorkerWatchdog where
  policy : WorkerRestartPolicy
  process : Option WorkerProcess := none
  consecutiveFailures : UInt8 := 0
  failureSession : Option SessionId := none
deriving DecidableEq

namespace WorkerWatchdog

variable (watchdog : WorkerWatchdog)

def launched (process : WorkerProcess) : WorkerWatchdog :=
  if watchdog.failureSession ≠ some process.session then
    { watchdog with consecutiveFailures := 0, failureSession := none, process := some process }
  else { watchdog with process := some process }

def stoppedIntentionally (session : SessionId) : WorkerWatchdog :=
  let process := if watchdog.process.any (·.session = session) then none else watchdog.process
  if watchdog.failureSession = some session then
    { watchdog with process := process, failureSession := none, consecutiveFailures := 0 }
  else { watchdog with process := process }

def nextFailureDecision (session : SessionId) : WorkerWatchdog × WorkerRestartDecision :=
  let earlier := if watchdog.failureSession ≠ some session then 0 else watchdog.consecutiveFailures
  let failures := saturatingSucc earlier
  let counted := { watchdog with failureSession := some session, consecutiveFailures := failures }
  if watchdog.policy.maxConsecutiveFailures < failures then (counted, .giveUp session)
  else
    let exponent := min (failures.toNat - 1) 16
    let delayUs := min (saturatingMul watchdog.policy.baseBackoffUs (UInt64.ofNat (2 ^ exponent)))
      watchdog.policy.maxBackoffUs
    (counted, .relaunchAfter session delayUs)

def launchFailed (session : SessionId) : WorkerWatchdog × WorkerRestartDecision :=
  if watchdog.process.isSome then (watchdog, .ignore) else watchdog.nextFailureDecision session

/-- `now_us.saturating_sub(process.launched_at_us) >= self.policy.reset_after_healthy_us`. -/
def wasHealthy (policy : WorkerRestartPolicy) (process : WorkerProcess) (nowUs : UInt64) : Bool :=
  policy.resetAfterHealthyUs.toNat ≤ nowUs.toNat - process.launchedAtUs.toNat

def exitedUnexpectedly (nowUs : UInt64) (session : SessionId) (processId : UInt32) :
    WorkerWatchdog × WorkerRestartDecision :=
  match watchdog.process with
  | none => (watchdog, .ignore)
  | some process =>
    if process.session ≠ session ∨ process.processId ≠ processId then (watchdog, .ignore)
    else
      let failures := if wasHealthy watchdog.policy process nowUs then 0 else watchdog.consecutiveFailures
      nextFailureDecision { watchdog with process := none, consecutiveFailures := failures } session

end WorkerWatchdog

inductive WatchdogInput
  | launched (process : WorkerProcess)
  | stoppedIntentionally (session : SessionId)
  | launchFailed (session : SessionId)
  | exitedUnexpectedly (nowUs : UInt64) (session : SessionId) (processId : UInt32)
deriving DecidableEq

def WorkerWatchdog.step (watchdog : WorkerWatchdog) : WatchdogInput → WorkerWatchdog × Option WorkerRestartDecision
  | .launched process => (watchdog.launched process, none)
  | .stoppedIntentionally session => (watchdog.stoppedIntentionally session, none)
  | .launchFailed session =>
    let (after, decision) := watchdog.launchFailed session
    (after, some decision)
  | .exitedUnexpectedly nowUs session processId =>
    let (after, decision) := watchdog.exitedUnexpectedly nowUs session processId
    (after, some decision)

abbrev WatchdogCall := Call WorkerWatchdog WatchdogInput (Option WorkerRestartDecision)

/-- The process that an exit report names, if it is the current one. -/
def WorkerWatchdog.exiting (watchdog : WorkerWatchdog) (session : SessionId) (processId : UInt32) :
    Option WorkerProcess :=
  watchdog.process.filter fun process => process.session = session ∧ process.processId = processId

/-- The decisions on the failures of the session that still count. An intentional stop of the session, and a failure or
a launch of another one, end the streak; the exit after a healthy run is the first failure of the next. -/
def continueStreak (session : SessionId) (streak : List WorkerRestartDecision) (call : WatchdogCall) :
    List WorkerRestartDecision :=
  match call.input, call.reply with
  | .launched process, _ => if process.session = session then streak else []
  | .stoppedIntentionally other, _ => if other = session then [] else streak
  | .launchFailed other, some decision =>
    if decision = .ignore then streak else if other = session then streak ++ [decision] else []
  | .exitedUnexpectedly nowUs other processId, some decision =>
    match call.before.exiting other processId with
    | none => streak
    | some process =>
      if other = session then
        (if WorkerWatchdog.wasHealthy call.before.policy process nowUs then [] else streak) ++ [decision]
      else []
  | _, none => streak

def failureStreak (session : SessionId) (past : List WatchdogCall) : List WorkerRestartDecision :=
  past.foldl (continueStreak session) []

theorem failureStreak_concat (session : SessionId) (past : List WatchdogCall) (call : WatchdogCall) :
    failureStreak session (past ++ [call]) = continueStreak session (failureStreak session past) call := by
  rw [failureStreak, List.foldl_append]
  rfl

section Budget

variable (policy : WorkerRestartPolicy) (session : SessionId)

/-- The delay before the relaunch that follows the k-th failure. -/
def WorkerRestartPolicy.backoff (k : Nat) : UInt64 :=
  UInt64.ofNat (min policy.maxBackoffUs.toNat (policy.baseBackoffUs.toNat * 2 ^ min (k - 1) 16))

/-- The decision that the k-th failure of a streak is worth. -/
def budgeted (k : Nat) : WorkerRestartDecision :=
  if k ≤ policy.maxConsecutiveFailures.toNat then .relaunchAfter session (policy.backoff k) else .giveUp session

theorem backoff_toNat (k : Nat) : (policy.backoff k).toNat =
    min policy.maxBackoffUs.toNat (policy.baseBackoffUs.toNat * 2 ^ min (k - 1) 16) := by
  have below := policy.maxBackoffUs.toNat_lt
  rw [WorkerRestartPolicy.backoff, UInt64.toNat_ofNat', Nat.mod_eq_of_lt (by omega)]

theorem backoff_mono {j k : Nat} (before : j ≤ k) : policy.backoff j ≤ policy.backoff k := by
  rw [UInt64.le_iff_toNat_le, backoff_toNat, backoff_toNat]
  have exponents : min (j - 1) 16 ≤ min (k - 1) 16 := by omega
  have powers : 2 ^ min (j - 1) 16 ≤ 2 ^ min (k - 1) 16 := Nat.pow_le_pow_right (by omega) exponents
  have products := Nat.mul_le_mul_left policy.baseBackoffUs.toNat powers
  omega

theorem delay_eq_backoff (failures : Nat) :
    min (saturatingMul policy.baseBackoffUs (UInt64.ofNat (2 ^ min (failures - 1) 16))) policy.maxBackoffUs =
      policy.backoff failures := by
  have below := policy.maxBackoffUs.toNat_lt
  have size : UInt64.size = 2 ^ 64 := rfl
  have power : (UInt64.ofNat (2 ^ min (failures - 1) 16)).toNat = 2 ^ min (failures - 1) 16 := by
    rw [UInt64.toNat_ofNat', Nat.mod_eq_of_lt]
    exact Nat.pow_lt_pow_right (by omega) (by omega)
  refine UInt64.toNat_inj.mp ?_
  rw [backoff_toNat, UInt64.toNat_min, saturatingMul_toNat, power]
  omega

end Budget

variable {policy : WorkerRestartPolicy} {session : SessionId} {watchdog : WorkerWatchdog} {processId : UInt32}
  {process : WorkerProcess} {streak : List WorkerRestartDecision}

/-- The failures that count before the next one of the session. -/
def WorkerWatchdog.earlierFailures (watchdog : WorkerWatchdog) (session : SessionId) : UInt8 :=
  if watchdog.failureSession = some session then watchdog.consecutiveFailures else 0

open WorkerWatchdog

theorem nextFailureDecision_eq (watchdog : WorkerWatchdog) (session : SessionId) :
    watchdog.nextFailureDecision session =
      ({ watchdog with
          failureSession := some session
          consecutiveFailures := saturatingSucc (watchdog.earlierFailures session) },
        budgeted watchdog.policy session (saturatingSucc (watchdog.earlierFailures session)).toNat) := by
  unfold nextFailureDecision earlierFailures budgeted
  simp only [ne_eq, ite_not, delay_eq_backoff]
  generalize saturatingSucc (if watchdog.failureSession = some session then watchdog.consecutiveFailures else 0) =
    failures
  by_cases exceeded : watchdog.policy.maxConsecutiveFailures < failures
  · rw [if_pos exceeded, if_neg (Nat.not_le.mpr (UInt8.lt_iff_toNat_lt.mp exceeded))]
  · rw [if_neg exceeded, if_pos (Nat.not_lt.mp fun less => exceeded (UInt8.lt_iff_toNat_lt.mpr less))]

theorem budgeted_ne_ignore (policy : WorkerRestartPolicy) (session : SessionId) (k : Nat) :
    budgeted policy session k ≠ .ignore := by
  unfold budgeted
  split <;> nofun

theorem exiting_eq_some :
    watchdog.exiting session processId = some process ↔
      watchdog.process = some process ∧ process.session = session ∧ process.processId = processId := by
  simp [exiting, Option.filter_eq_some_iff]

/-- An exit of another process than the current one is ignored. -/
theorem exitedUnexpectedly_other (nowUs : UInt64) (other : watchdog.exiting session processId = none) :
    watchdog.exitedUnexpectedly nowUs session processId = (watchdog, .ignore) := by
  unfold exitedUnexpectedly
  split
  · rfl
  · rename_i process running
    refine if_pos ?_
    by_contra exact
    rw [not_or, not_not, not_not] at exact
    rw [exiting_eq_some.mpr ⟨running, exact⟩] at other
    cases other

theorem exitedUnexpectedly_current (nowUs : UInt64) (current : watchdog.exiting session processId = some process) :
    watchdog.exitedUnexpectedly nowUs session processId = nextFailureDecision { watchdog with
      process := none
      consecutiveFailures :=
        if wasHealthy watchdog.policy process nowUs then 0 else watchdog.consecutiveFailures } session := by
  obtain ⟨running, owner, identity⟩ := exiting_eq_some.mp current
  unfold exitedUnexpectedly
  simp only [running]
  exact if_neg (by simp [owner, identity])

/-- What the code answers to the failures of a streak: its counter stays at 255. -/
def Answered (policy : WorkerRestartPolicy) (session : SessionId) (streak : List WorkerRestartDecision) : Prop :=
  streak = (List.range streak.length).map fun k => budgeted policy session (min (k + 1) 255)

theorem Answered.concat (answered : Answered policy session streak) :
    Answered policy session (streak ++ [budgeted policy session (min (streak.length + 1) 255)]) := by
  unfold Answered at answered ⊢
  rw [List.length_append, List.length_singleton, List.range_succ, List.map_append, ← answered]
  rfl

/-- The counter and the session it belongs to, read off the streaks of the history. -/
structure CountsFailures (policy : WorkerRestartPolicy) (past : List WatchdogCall)
    (watchdog : WorkerWatchdog) : Prop where
  policy_eq : watchdog.policy = policy
  counted : ∀ session, (watchdog.earlierFailures session).toNat = min (failureStreak session past).length 255
  idle : ∀ session, watchdog.failureSession ≠ some session → failureStreak session past = []
  answered : ∀ session, Answered policy session (failureStreak session past)

section Steps

variable {past : List WatchdogCall} {call : WatchdogCall} {after : WorkerWatchdog}

/-- The call changes no streak and neither the counter nor its session. -/
theorem CountsFailures.kept (counts : CountsFailures policy past watchdog)
    (policy_eq : after.policy = watchdog.policy) (failures : after.consecutiveFailures = watchdog.consecutiveFailures)
    (owner : after.failureSession = watchdog.failureSession)
    (same : ∀ session, failureStreak session (past ++ [call]) = failureStreak session past) :
    CountsFailures policy (past ++ [call]) after := by
  have earlier (session : SessionId) : after.earlierFailures session = watchdog.earlierFailures session := by
    rw [earlierFailures, earlierFailures, failures, owner]
  refine ⟨policy_eq.trans counts.policy_eq, fun session => ?_, fun session unowned => ?_, fun session => ?_⟩
  · rw [earlier, same]
    exact counts.counted session
  · rw [same]
    exact counts.idle session (owner ▸ unowned)
  · rw [same]
    exact counts.answered session

/-- The call ends every streak, and the counter belongs to no session any more. -/
theorem CountsFailures.cleared (counts : CountsFailures policy past watchdog)
    (policy_eq : after.policy = watchdog.policy) (owner : after.failureSession = none)
    (ended : ∀ session, failureStreak session (past ++ [call]) = []) :
    CountsFailures policy (past ++ [call]) after := by
  refine ⟨policy_eq.trans counts.policy_eq, fun session => ?_, fun session _ => ended session, fun session => ?_⟩
  · rw [ended, earlierFailures, owner]
    rfl
  · rw [ended]
    rfl

/-- The call is a failure of the session: it goes on with the streak it finds, and ends those of all others. -/
theorem CountsFailures.failed (policy_eq : watchdog.policy = policy) (found : Answered policy session streak)
    (counted : (watchdog.earlierFailures session).toNat = min streak.length 255)
    (continued : failureStreak session (past ++ [call]) = streak ++ [(watchdog.nextFailureDecision session).2])
    (ended : ∀ other, other ≠ session → failureStreak other (past ++ [call]) = []) :
    CountsFailures policy (past ++ [call]) (watchdog.nextFailureDecision session).1 := by
  have failures : (saturatingSucc (watchdog.earlierFailures session)).toNat = min (streak.length + 1) 255 := by
    rw [saturatingSucc_toNat]
    omega
  rw [nextFailureDecision_eq] at continued ⊢
  rw [failures, policy_eq] at continued
  refine ⟨policy_eq, fun other => ?_, fun other unowned => ?_, fun other => ?_⟩
  · by_cases own : other = session
    · subst own
      rw [continued, earlierFailures, if_pos rfl, failures, List.length_append, List.length_singleton]
    · rw [ended other own, earlierFailures, if_neg fun same => own (Option.some.inj same).symm]
      rfl
  · exact ended other fun same => unowned (congrArg some same.symm)
  · by_cases own : other = session
    · subst own
      rw [continued]
      exact found.concat
    · rw [ended other own]
      rfl

section

variable (counts : CountsFailures policy past watchdog)

include counts

theorem CountsFailures.idle_other {owner : SessionId} (owned : watchdog.failureSession = some owner)
    (other : owner ≠ session) : failureStreak session past = [] :=
  counts.idle session fun same => other (Option.some.inj (owned.symm.trans same))

/-- A launch leaves the streak of its session as it is and ends those of all others. -/
theorem CountsFailures.launched (process : WorkerProcess) :
    CountsFailures policy (past ++ [⟨watchdog, .launched process, none, watchdog.launched process⟩])
      (watchdog.launched process) := by
  by_cases owned : watchdog.failureSession = some process.session
  · rw [WorkerWatchdog.launched, if_neg (not_not.mpr owned)]
    refine counts.kept rfl rfl rfl fun session => ?_
    rw [failureStreak_concat]
    by_cases own : process.session = session
    · exact if_pos own
    · rw [counts.idle_other owned own]
      exact if_neg own
  · rw [WorkerWatchdog.launched, if_pos owned]
    refine counts.cleared rfl rfl fun session => ?_
    rw [failureStreak_concat]
    by_cases own : process.session = session
    · rw [counts.idle session (own ▸ owned)]
      exact if_pos own
    · exact if_neg own

/-- An intentional stop ends the streak of its session and leaves those of all others. -/
theorem CountsFailures.stopped (stopped : SessionId) : CountsFailures policy
      (past ++ [⟨watchdog, .stoppedIntentionally stopped, none, watchdog.stoppedIntentionally stopped⟩])
      (watchdog.stoppedIntentionally stopped) := by
  by_cases owned : watchdog.failureSession = some stopped
  · simp only [stoppedIntentionally, if_pos owned]
    refine counts.cleared rfl rfl fun session => ?_
    rw [failureStreak_concat]
    by_cases own : stopped = session
    · exact if_pos own
    · rw [counts.idle_other owned own]
      exact if_neg own
  · simp only [stoppedIntentionally, if_neg owned]
    refine counts.kept rfl rfl rfl fun session => ?_
    rw [failureStreak_concat]
    by_cases own : stopped = session
    · rw [counts.idle session (own ▸ owned)]
      exact if_pos own
    · exact if_neg own

/-- A failed launch counts as a failure of its session, unless a process is running. -/
theorem CountsFailures.launchFailed (failed : SessionId) :
    CountsFailures policy (past ++ [⟨watchdog, .launchFailed failed, some (watchdog.launchFailed failed).2,
      (watchdog.launchFailed failed).1⟩]) (watchdog.launchFailed failed).1 := by
  cases running : watchdog.process with
  | some =>
    rw [WorkerWatchdog.launchFailed, if_pos (by rw [running]; rfl)]
    exact counts.kept rfl rfl rfl fun session => by
      rw [failureStreak_concat]
      simp only [continueStreak, if_true]
  | none =>
    have relevant : (watchdog.nextFailureDecision failed).2 ≠ .ignore := by
      rw [nextFailureDecision_eq]
      exact budgeted_ne_ignore _ _ _
    rw [WorkerWatchdog.launchFailed, if_neg (by simp [running])]
    refine .failed counts.policy_eq (counts.answered failed) (counts.counted failed) ?_ fun other different => ?_
    · rw [failureStreak_concat]
      exact (if_neg relevant).trans (if_pos rfl)
    · rw [failureStreak_concat]
      exact (if_neg relevant).trans (if_neg different.symm)

/-- The exit of the current process is a failure of its session, the first of a streak if the process was healthy. -/
theorem CountsFailures.exited (nowUs : UInt64) (exited : SessionId) (processId : UInt32) :
    CountsFailures policy (past ++ [⟨watchdog, .exitedUnexpectedly nowUs exited processId,
        some (watchdog.exitedUnexpectedly nowUs exited processId).2,
        (watchdog.exitedUnexpectedly nowUs exited processId).1⟩])
      (watchdog.exitedUnexpectedly nowUs exited processId).1 := by
  cases running : watchdog.exiting exited processId with
  | none =>
    rw [exitedUnexpectedly_other nowUs running]
    exact counts.kept rfl rfl rfl fun session => by
      rw [failureStreak_concat]
      simp only [continueStreak, running]
  | some process =>
    have continued (session : SessionId) (decision : WorkerRestartDecision) (after : WorkerWatchdog) :
        failureStreak session
            (past ++ [⟨watchdog, .exitedUnexpectedly nowUs exited processId, some decision, after⟩]) =
          if exited = session then
            (if wasHealthy watchdog.policy process nowUs then [] else failureStreak session past) ++ [decision]
          else [] := by
      rw [failureStreak_concat]
      simp only [continueStreak, running]
    rw [exitedUnexpectedly_current nowUs running]
    refine .failed counts.policy_eq ?_ ?_ ((continued exited _ _).trans (if_pos rfl)) fun other different =>
      (continued other _ _).trans (if_neg different.symm)
    · split
      · rfl
      · exact counts.answered exited
    · split
      · unfold earlierFailures
        split <;> rfl
      · exact counts.counted exited

theorem CountsFailures.step {input : WatchdogInput} {reply : Option WorkerRestartDecision}
    (taken : Total step watchdog input reply after) :
    CountsFailures policy (past ++ [⟨watchdog, input, reply, after⟩]) after := by
  obtain ⟨rfl, rfl⟩ := Prod.ext_iff.mp taken
  cases input with
  | launched process => exact counts.launched process
  | stoppedIntentionally stopped => exact counts.stopped stopped
  | launchFailed failed => exact counts.launchFailed failed
  | exitedUnexpectedly nowUs exited processId => exact counts.exited nowUs exited processId

end

theorem CountsFailures.of_run (run : Run (Total WorkerWatchdog.step) { policy } past watchdog) :
    CountsFailures policy past watchdog := by
  induction run with
  | start =>
    refine ⟨rfl, fun session => ?_, fun _ _ => rfl, fun _ => rfl⟩
    rfl
  | next _ taken ih => exact ih.step taken

end Steps

def WorkerRestartDecision.delay? : WorkerRestartDecision → Option UInt64
  | relaunchAfter _ delayUs => some delayUs
  | giveUp _ | ignore => none

/-- A streak is answered by the closed form, so its delays never decrease and no more relaunches are granted than the
policy allows. -/
structure KeepsBudget (policy : WorkerRestartPolicy) (session : SessionId) (streak : List WorkerRestartDecision) :
    Prop where
  closed : streak = (List.range streak.length).map fun k => budgeted policy session (k + 1)
  delays : (streak.filterMap (·.delay?)).Pairwise (· ≤ ·)
  granted : (streak.filterMap (·.delay?)).length ≤ policy.maxConsecutiveFailures.toNat

theorem budgeted_delay? (k : Nat) : (budgeted policy session (k + 1)).delay? =
    if k < policy.maxConsecutiveFailures.toNat then some (policy.backoff (k + 1)) else none := by
  unfold budgeted
  split
  · exact (if_pos (by omega)).symm
  · exact (if_neg (by omega)).symm

theorem delays_of_closed (policy : WorkerRestartPolicy) (session : SessionId) (n : Nat) :
    ((List.range n).map fun k => budgeted policy session (k + 1)).filterMap (·.delay?) =
      (List.range (min n policy.maxConsecutiveFailures.toNat)).map fun k => policy.backoff (k + 1) := by
  induction n with
  | zero => rw [Nat.zero_min]; rfl
  | succ n ih =>
    rw [List.range_succ, List.map_append, List.filterMap_append, ih, List.map_singleton, List.filterMap_cons,
      List.filterMap_nil, budgeted_delay?]
    by_cases within : n < policy.maxConsecutiveFailures.toNat
    · rw [if_pos within, Nat.min_eq_left within.le, Nat.min_eq_left within, List.range_succ, List.map_append]
      rfl
    · rw [if_neg within, Nat.min_eq_right (by omega), Nat.min_eq_right (by omega), List.append_nil]

theorem KeepsBudget.of_closed
    (closed : streak = (List.range streak.length).map fun k => budgeted policy session (k + 1)) :
    KeepsBudget policy session streak := by
  have delays := delays_of_closed policy session streak.length
  rw [← closed] at delays
  refine ⟨closed, ?_, ?_⟩
  · rw [delays, List.pairwise_map]
    exact List.pairwise_lt_range.imp fun before => backoff_mono policy (by omega)
  · rw [delays, List.length_map, List.length_range]
    exact Nat.min_le_right _ _

/-- The counter of the code is as good as an unbounded one unless the policy allows 255 failures. -/
theorem Answered.keepsBudget_iff (answered : Answered policy session streak) :
    KeepsBudget policy session streak ↔ policy.maxConsecutiveFailures ≠ 255 ∨ streak.length ≤ 255 := by
  have limit := policy.maxConsecutiveFailures.toNat_lt
  constructor
  · intro budget
    by_contra exceeded
    rw [not_or, not_not, Nat.not_le] at exceeded
    obtain ⟨most, longer⟩ := exceeded
    have same := answered.symm.trans budget.closed
    have last := List.map_inj_left.mp same 255 (List.mem_range.mpr longer)
    unfold budgeted at last
    rw [most] at last
    cases last
  · intro allowed
    refine .of_closed (answered.trans (List.map_congr_left fun k member => ?_))
    have position := List.mem_range.mp member
    by_cases small : k + 1 ≤ 255
    · rw [Nat.min_eq_left small]
    · rcases allowed with most | short
      · have below : policy.maxConsecutiveFailures.toNat ≠ 255 := fun same => most (UInt8.toNat_inj.mp same)
        rw [budgeted, budgeted, if_neg (by omega), if_neg (by omega)]
      · omega

/-- An exit report that names another process than the current one. -/
def NamesOtherProcess (call : WatchdogCall) : Prop :=
  ∃ nowUs session processId, call.input = .exitedUnexpectedly nowUs session processId ∧
    call.before.exiting session processId = none

/-- At any time of the run the streak of every session has been answered within the budget, and the reports that name
another process than the current one have changed nothing. -/
structure RestartBudget (policy : WorkerRestartPolicy) (past : List WatchdogCall) : Prop where
  streaks : ∀ earlier later, past = earlier ++ later →
    ∀ session, KeepsBudget policy session (failureStreak session earlier)
  others : ∀ call ∈ past, NamesOtherProcess call → call.after = call.before ∧ call.reply = some .ignore

/-- The budget is kept exactly when the policy does not allow 255 consecutive failures, or no streak is longer. -/
theorem restart_budget_iff {past : List WatchdogCall} (run : Run (Total WorkerWatchdog.step) { policy } past watchdog) :
    RestartBudget policy past ↔ policy.maxConsecutiveFailures ≠ 255 ∨
      ∀ earlier later, past = earlier ++ later → ∀ session, (failureStreak session earlier).length ≤ 255 := by
  have answered {earlier later : List WatchdogCall} (cut : past = earlier ++ later) (session : SessionId) :
      Answered policy session (failureStreak session earlier) := by
    obtain ⟨_, reached, _⟩ := (cut ▸ run).parts
    exact (CountsFailures.of_run reached).answered session
  constructor
  · intro budget
    by_cases most : policy.maxConsecutiveFailures = 255
    · refine .inr fun earlier later cut session => ?_
      rcases (answered cut session).keepsBudget_iff.mp (budget.streaks earlier later cut session) with other | short
      · exact absurd most other
      · exact short
    · exact .inl most
  · intro allowed
    refine ⟨fun earlier later cut session => (answered cut session).keepsBudget_iff.mpr ?_, ?_⟩
    · exact allowed.imp id fun short => short earlier later cut session
    · rintro call member ⟨nowUs, _, _, reported, other⟩
      obtain ⟨_, _, _, _, taken, _⟩ := run.of_mem member
      have made : call.before.step call.input = (call.after, call.reply) := taken
      rw [reported, WorkerWatchdog.step, exitedUnexpectedly_other nowUs other] at made
      exact ⟨(Prod.ext_iff.mp made).1.symm, (Prod.ext_iff.mp made).2.symm⟩

/-- Three failed launches in a row stay within the default policy. -/
theorem restart_budget_three_failures :
    RestartBudget {} (calls WorkerWatchdog.step { policy := {} } (List.replicate 3 (.launchFailed ⟨1⟩))) :=
  (restart_budget_iff (Run.of_calls WorkerWatchdog.step { policy := {} } _)).mpr (.inl (by decide))

/-- With a limit of 255 the 256th failure in a row is granted a relaunch like those before it. -/
theorem failure_beyond_limit_relaunched :
    let policy : WorkerRestartPolicy := { maxConsecutiveFailures := 255 }
    let past := calls WorkerWatchdog.step { policy } (List.replicate 256 (.launchFailed ⟨1⟩))
    (failureStreak ⟨1⟩ past).length = 256 ∧ (past.map (·.reply)).getLast? =
      some (some (.relaunchAfter ⟨1⟩ 10000000)) := by
  decide +kernel

end ClassMesh
