import ClassMesh.Foundation.Run

namespace ClassMesh

open Foundation

structure SessionId where
  value : UInt32
deriving DecidableEq

inductive SessionEvent
  | logon (session : SessionId)
  | logoff (session : SessionId)
  | lock (session : SessionId)
  | unlock (session : SessionId)
  | consoleConnect (session : SessionId)
  | consoleDisconnect (session : SessionId)
  | remoteConnect (session : SessionId)
  | remoteDisconnect (session : SessionId)
deriving DecidableEq

inductive WorkerState
  | stopped
  | starting (session : SessionId)
  | running (session : SessionId)
  | suspended (session : SessionId)
  | stopping (session : SessionId)
deriving DecidableEq

inductive SupervisorAction
  | none
  | launchWorker (session : SessionId)
  | stopWorker (session : SessionId)
  | suspendMedia (session : SessionId)
  | resumeMedia (session : SessionId)
  | replaceWorker (oldSession newSession : SessionId)
deriving DecidableEq

structure SessionSupervisor where
  worker : WorkerState := .stopped
  activeSession : Option SessionId := none
deriving DecidableEq

/-- The session that a worker belongs to. -/
def WorkerState.session? : WorkerState → Option SessionId
  | stopped => none
  | starting current => some current
  | running current => some current
  | suspended current => some current
  | stopping current => some current

namespace SessionSupervisor

variable (supervisor : SessionSupervisor)

def activate (session : SessionId) : SessionSupervisor × SupervisorAction :=
  match supervisor.worker.session? with
  | none => (⟨.starting session, some session⟩, .launchWorker session)
  | some current =>
    if current = session then (⟨supervisor.worker, some session⟩, .none)
    else (⟨.starting session, some session⟩, .replaceWorker current session)

def logoff (session : SessionId) : SessionSupervisor × SupervisorAction :=
  let activeSession := if supervisor.activeSession = some session then none else supervisor.activeSession
  if supervisor.worker = .starting session ∨ supervisor.worker = .running session ∨
      supervisor.worker = .suspended session then
    (⟨.stopping session, activeSession⟩, .stopWorker session)
  else (⟨supervisor.worker, activeSession⟩, .none)

/-- What a lock does, and a disconnect likewise. -/
def suspend (session : SessionId) : SessionSupervisor × SupervisorAction :=
  if supervisor.worker = .running session then
    ({ supervisor with worker := .suspended session }, .suspendMedia session)
  else (supervisor, .none)

def lock : SessionSupervisor → SessionId → SessionSupervisor × SupervisorAction := suspend

def disconnect : SessionSupervisor → SessionId → SessionSupervisor × SupervisorAction := suspend

def unlock (session : SessionId) : SessionSupervisor × SupervisorAction :=
  if supervisor.worker = .suspended session then
    ({ supervisor with worker := .running session }, .resumeMedia session)
  else supervisor.activate session

def onEvent : SessionEvent → SessionSupervisor × SupervisorAction
  | .logon session | .consoleConnect session | .remoteConnect session => supervisor.activate session
  | .logoff session => supervisor.logoff session
  | .lock session => supervisor.lock session
  | .unlock session => supervisor.unlock session
  | .consoleDisconnect session | .remoteDisconnect session => supervisor.disconnect session

def markWorkerRunning (session : SessionId) : SessionSupervisor :=
  if supervisor.worker = .starting session then { supervisor with worker := .running session } else supervisor

def markWorkerStopped (session : SessionId) : SessionSupervisor :=
  if supervisor.worker.session? = some session then { supervisor with worker := .stopped } else supervisor

def workerCrashed (session : SessionId) : SessionSupervisor × SupervisorAction :=
  if supervisor.activeSession = some session then
    ({ supervisor with worker := .starting session }, .launchWorker session)
  else ({ supervisor with worker := .stopped }, .none)

end SessionSupervisor

inductive SupervisorInput
  | onEvent (event : SessionEvent)
  | markWorkerRunning (session : SessionId)
  | markWorkerStopped (session : SessionId)
  | workerCrashed (session : SessionId)
deriving DecidableEq

def SessionSupervisor.step (supervisor : SessionSupervisor) : SupervisorInput → SessionSupervisor × SupervisorAction
  | .onEvent event => supervisor.onEvent event
  | .markWorkerRunning session => (supervisor.markWorkerRunning session, .none)
  | .markWorkerStopped session => (supervisor.markWorkerStopped session, .none)
  | .workerCrashed session => supervisor.workerCrashed session

abbrev SupervisorCall := Call SessionSupervisor SupervisorInput SupervisorAction

/-- The session whose presence an event tells about. A logoff ends the session instead. -/
def SessionEvent.presence? : SessionEvent → Option SessionId
  | .logon session | .unlock session | .consoleConnect session | .remoteConnect session => some session
  | .lock session | .consoleDisconnect session | .remoteDisconnect session => some session
  | .logoff _ => none

/-- A lock or a disconnect. -/
def SessionEvent.isAbsence : SessionEvent → Bool
  | .lock _ | .consoleDisconnect _ | .remoteDisconnect _ => true
  | _ => false

def presenceEvent (session : SessionId) (input : SupervisorInput) : Option SessionEvent :=
  match input with
  | .onEvent event => if event.presence? = some session then some event else none
  | _ => none

/-- The last event that tells about the presence of the session. -/
def lastPresence (session : SessionId) (past : List SupervisorCall) : Option SessionEvent :=
  (past.filterMap fun call => presenceEvent session call.input).getLast?

/-- The session is locked or disconnected. -/
def SupervisorCall.Away (session : SessionId) (past : List SupervisorCall) : Prop :=
  ∃ event, lastPresence session past = some event ∧ event.isAbsence = true

open SupervisorCall

section Steps

variable {session : SessionId} {past : List SupervisorCall} {supervisor after : SessionSupervisor}
  {input : SupervisorInput} {action : SupervisorAction} {other : SessionId}

theorem lastPresence_concat (call : SupervisorCall) :
    lastPresence session (past ++ [call]) = (presenceEvent session call.input).or (lastPresence session past) := by
  unfold lastPresence
  cases told : presenceEvent session call.input with
  | none | some => simp [List.filterMap_append, told]

theorem away_of_silent {call : SupervisorCall} (silent : presenceEvent session call.input = none) :
    Away session (past ++ [call]) ↔ Away session past := by
  rw [Away, Away, lastPresence_concat, silent, Option.none_or]

open SessionSupervisor

/-- No activation makes a worker run. -/
theorem activate_running (ran : (supervisor.activate other).1.worker = .running session) :
    supervisor.worker = .running session := by
  unfold activate at ran
  split at ran
  · cases ran
  · split at ran
    · exact ran
    · cases ran

theorem suspend_running (ran : (supervisor.suspend other).1.worker = .running session) :
    supervisor.worker = .running session ∧ other ≠ session := by
  unfold suspend at ran
  split at ran
  · cases ran
  · rename_i different
    refine ⟨ran, ?_⟩
    rintro rfl
    exact different ran

theorem logoff_running (ran : (supervisor.logoff other).1.worker = .running session) :
    supervisor.worker = .running session := by
  unfold logoff at ran
  simp only at ran
  split at ran
  · cases ran
  · exact ran

/-- How a worker comes to run: it ran before and the session was not left, or it reports that it runs, or its session
is unlocked. -/
theorem step_running (taken : Total step supervisor input action after) (ran : after.worker = .running session) :
    (supervisor.worker = .running session ∧
        ∀ event, presenceEvent session input = some event → event.isAbsence = false) ∨
      (input = .markWorkerRunning session ∧ supervisor.worker = .starting session) ∨
      input = .onEvent (.unlock session) := by
  have made : (supervisor.step input).1.worker = .running session := by
    rw [show supervisor.step input = (after, action) from taken]
    exact ran
  cases input with
  | onEvent event =>
    have silent {other : SessionId} (different : other ≠ session) (absence : event.presence? = some other) :
        ∀ told, presenceEvent session (.onEvent event) = some told → told.isAbsence = false := by
      intro told found
      rw [presenceEvent, absence, if_neg (fun same => different (Option.some_inj.mp same))] at found
      cases found
    have harmless (kind : event.isAbsence = false) :
        ∀ told, presenceEvent session (.onEvent event) = some told → told.isAbsence = false := by
      intro told found
      unfold presenceEvent at found
      simp only at found
      split at found
      · cases found
        exact kind
      · cases found
    cases event with
    | logon | consoleConnect | remoteConnect => exact .inl ⟨activate_running made, harmless rfl⟩
    | logoff => exact .inl ⟨logoff_running made, harmless rfl⟩
    | lock | consoleDisconnect | remoteDisconnect =>
      obtain ⟨before, different⟩ := suspend_running made
      exact .inl ⟨before, silent different rfl⟩
    | unlock other =>
      have unlocked : (supervisor.unlock other).1.worker = .running session := made
      unfold unlock at unlocked
      split at unlocked
      · cases unlocked
        exact .inr (.inr rfl)
      · exact .inl ⟨activate_running unlocked, harmless rfl⟩
  | markWorkerRunning other =>
    have marked : (supervisor.markWorkerRunning other).worker = .running session := made
    unfold markWorkerRunning at marked
    split at marked
    · rename_i starting
      cases marked
      exact .inr (.inl ⟨rfl, starting⟩)
    · exact .inl ⟨marked, nofun⟩
  | markWorkerStopped other =>
    have marked : (supervisor.markWorkerStopped other).worker = .running session := made
    unfold markWorkerStopped at marked
    split at marked
    · cases marked
    · exact .inl ⟨marked, nofun⟩
  | workerCrashed other =>
    have crashed : (supervisor.workerCrashed other).1.worker = .running session := made
    unfold workerCrashed at crashed
    split at crashed <;> cases crashed

/-- No worker runs in the session while it is locked or disconnected. -/
def NotAwayWhileRunning (past : List SupervisorCall) (supervisor : SessionSupervisor) : Prop :=
  ∀ session, supervisor.worker = .running session → ¬Away session past

/-- A worker reports that it runs, and its session is locked or disconnected at that time. -/
def ReportsWhileAway (past : List SupervisorCall) (call : SupervisorCall) : Prop :=
  ∃ session, call.input = .markWorkerRunning session ∧ call.before.worker = .starting session ∧ Away session past

theorem NotAwayWhileRunning.next (present : NotAwayWhileRunning past supervisor)
    (taken : Total step supervisor input action after)
    (timely : ¬ReportsWhileAway past ⟨supervisor, input, action, after⟩) :
    NotAwayWhileRunning (past ++ [⟨supervisor, input, action, after⟩]) after := by
  intro session ran
  rcases step_running taken ran with ⟨before, harmless⟩ | ⟨rfl, starting⟩ | rfl
  · rintro ⟨event, last, absence⟩
    rw [lastPresence_concat] at last
    cases told : presenceEvent session input with
    | none =>
      rw [told, Option.none_or] at last
      exact present session before ⟨event, last, absence⟩
    | some found =>
      rw [told, Option.some_or, Option.some_inj] at last
      rw [← last, harmless found told] at absence
      cases absence
  · rw [away_of_silent rfl]
    exact fun away => timely ⟨session, rfl, starting, away⟩
  · rintro ⟨_, last, absence⟩
    have told : presenceEvent session (.onEvent (.unlock session)) = some (.unlock session) := if_pos rfl
    rw [lastPresence_concat, told, Option.some_or, Option.some_inj] at last
    cases last
    cases absence

theorem notAwayWhileRunning_of_run (run : Run (Total step) {} past supervisor)
    (timely : ∀ earlier call later, past = earlier ++ call :: later → ¬ReportsWhileAway earlier call) :
    NotAwayWhileRunning past supervisor := by
  induction run with
  | start => exact fun session ran => by cases ran
  | @next past current input action after _ taken ih =>
    refine (ih fun earlier call later cut => ?_).next taken (timely past _ [] rfl)
    exact timely earlier call (later ++ [_]) (by rw [cut, List.append_assoc, List.cons_append])

end Steps

/-- In a run, no worker ever runs in a locked or disconnected session exactly if no worker that is being started reports
that it runs while its session is locked or disconnected. -/
theorem media_in_present_session_iff {past : List SupervisorCall} {final : SessionSupervisor}
    (run : Run (Total SessionSupervisor.step) {} past final) :
    (∀ earlier call later, past = earlier ++ call :: later → NotAwayWhileRunning (earlier ++ [call]) call.after) ↔
      ∀ earlier call later, past = earlier ++ call :: later → ¬ReportsWhileAway earlier call := by
  refine ⟨fun present earlier call later cut => ?_, fun timely earlier call later cut => ?_⟩
  · rintro ⟨session, marks, starting, away⟩
    obtain ⟨-, taken, -⟩ := run.split cut
    have ran : call.after.worker = .running session := by
      rw [marks] at taken
      have marked : (call.before.markWorkerRunning session, SupervisorAction.none) = (call.after, call.reply) := taken
      rw [← (Prod.mk.inj marked).1, SessionSupervisor.markWorkerRunning, if_pos starting]
    have silent : presenceEvent session call.input = none := by rw [marks]; rfl
    exact present earlier call later cut session ran ((away_of_silent silent).mpr away)
  · obtain ⟨reached, taken, -⟩ := run.split cut
    have before := notAwayWhileRunning_of_run reached fun first other rest cut' => ?_
    · exact before.next taken (timely earlier call later cut)
    · exact timely first other (rest ++ call :: later) (by rw [cut, cut', List.append_assoc, List.cons_append])

def lockedAndUnlocked : List SupervisorInput :=
  [.onEvent (.logon ⟨1⟩), .onEvent (.lock ⟨1⟩), .onEvent (.unlock ⟨1⟩), .markWorkerRunning ⟨1⟩]

/-- A session is locked while its worker is being started, and unlocked before the worker reports. -/
theorem media_in_present_session_iff_unlocked :
    (runOn SessionSupervisor.step {} lockedAndUnlocked).worker = .running ⟨1⟩ ∧
      ¬Away ⟨1⟩ (calls SessionSupervisor.step {} lockedAndUnlocked) := by
  have present := (media_in_present_session_iff (Run.of_calls SessionSupervisor.step {} lockedAndUnlocked)).mpr ?_
  · refine ⟨rfl, ?_⟩
    exact present ((calls SessionSupervisor.step {} lockedAndUnlocked).take 3) _ [] rfl ⟨1⟩ rfl
  · rintro earlier call later cut₁ ⟨_, marks, _, _, last, absence⟩
    rcases cons_eq_append_cons cut₁ with ⟨-, rfl, -⟩ | ⟨_, rfl, cut₂⟩
    · cases marks
    rcases cons_eq_append_cons cut₂ with ⟨-, rfl, -⟩ | ⟨_, rfl, cut₃⟩
    · cases marks
    rcases cons_eq_append_cons cut₃ with ⟨-, rfl, -⟩ | ⟨_, rfl, cut₄⟩
    · cases marks
    rcases cons_eq_append_cons cut₄ with ⟨rfl, rfl, -⟩ | ⟨front₄, rfl, cut₅⟩
    · cases marks
      cases last
      cases absence
    · cases front₄ <;> cases cut₅

/-- A session is locked while its worker is being started. The worker then runs in the locked session. -/
theorem locked_session_is_started :
    ∃ past final, Run (Total SessionSupervisor.step) {} past final ∧ final.worker = .running ⟨1⟩ ∧
      lastPresence ⟨1⟩ past = some (.lock ⟨1⟩) :=
  ⟨_, _, Run.of_calls SessionSupervisor.step {} [.onEvent (.logon ⟨1⟩), .onEvent (.lock ⟨1⟩), .markWorkerRunning ⟨1⟩],
    rfl, rfl⟩

end ClassMesh
