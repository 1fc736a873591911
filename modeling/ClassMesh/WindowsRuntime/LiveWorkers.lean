import ClassMesh.WindowsRuntime.SessionSupervisor

namespace ClassMesh

open Foundation SessionSupervisor

/-- How an action changes the live workers, listed by their sessions. -/
def applyAction (live : List SessionId) : SupervisorAction → List SessionId
  | .launchWorker session => live ++ [session]
  | .stopWorker session => live.erase session
  | .replaceWorker oldSession newSession => live.erase oldSession ++ [newSession]
  | _ => live

/-- A report of a crash or a stop ends a live worker of its session, if there is one; the action follows. -/
def trackLive (live : List SessionId) (call : SupervisorCall) : List SessionId :=
  match call.input with
  | .workerCrashed session | .markWorkerStopped session => applyAction (live.erase session) call.reply
  | _ => applyAction live call.reply

def liveWorkers (past : List SupervisorCall) : List SessionId := past.foldl trackLive []

theorem liveWorkers_concat (past : List SupervisorCall) (call : SupervisorCall) :
    liveWorkers (past ++ [call]) = trackLive (liveWorkers past) call := by
  rw [liveWorkers, List.foldl_append]
  rfl

/-- The session of the worker that a state takes for alive. -/
def WorkerState.live? : WorkerState → Option SessionId
  | stopped | stopping _ => none
  | starting session | running session | suspended session => some session

/-- The state of the supervisor is that of its live workers. -/
structure Tracks (live : List SessionId) (supervisor : SessionSupervisor) : Prop where
  live_eq : live = supervisor.worker.live?.toList
  active : ∀ session, supervisor.worker.live? = some session → supervisor.activeSession = some session

/-- A crash is reported for the session that the worker state names, or it comes when nothing is left to stop and the
session is not active. -/
def Orderly (call : SupervisorCall) : Prop :=
  ∀ session, call.input = .workerCrashed session → call.before.worker.session? = some session ∨
    call.before.worker = .stopped ∧ call.before.activeSession ≠ some session

section Steps

variable {supervisor : SessionSupervisor} {live : List SessionId} {session : SessionId} {input : SupervisorInput}

section

variable (tracks : Tracks live supervisor)

include tracks

theorem tracks_activate (session : SessionId) :
    Tracks (applyAction live (supervisor.activate session).2) (supervisor.activate session).1 := by
  obtain ⟨worker, _⟩ := supervisor
  obtain ⟨rfl, _⟩ := tracks
  unfold activate
  cases worker with
  | stopped => exact ⟨rfl, fun _ same => same⟩
  | starting current | running current | suspended current =>
    by_cases same : current = session
    · subst same
      simp only [WorkerState.session?, if_true]
      exact ⟨rfl, fun _ same => same⟩
    · simp only [WorkerState.session?, if_neg same]
      exact ⟨by simp [applyAction, WorkerState.live?], fun _ same => same⟩
  | stopping current =>
    by_cases same : current = session
    · subst same
      simp only [WorkerState.session?, if_true]
      exact ⟨rfl, nofun⟩
    · simp only [WorkerState.session?, if_neg same]
      exact ⟨rfl, fun _ same => same⟩

theorem tracks_suspend (session : SessionId) :
    Tracks (applyAction live (supervisor.suspend session).2) (supervisor.suspend session).1 := by
  unfold suspend
  split
  · rename_i running
    obtain ⟨rfl, active_eq⟩ := tracks
    rw [running] at active_eq ⊢
    exact ⟨rfl, active_eq⟩
  · exact tracks

theorem tracks_unlock (session : SessionId) :
    Tracks (applyAction live (supervisor.unlock session).2) (supervisor.unlock session).1 := by
  unfold unlock
  split
  · rename_i suspended
    obtain ⟨rfl, active_eq⟩ := tracks
    rw [suspended] at active_eq ⊢
    exact ⟨rfl, active_eq⟩
  · exact tracks_activate tracks session

theorem tracks_logoff (session : SessionId) :
    Tracks (applyAction live (supervisor.logoff session).2) (supervisor.logoff session).1 := by
  obtain ⟨worker, _⟩ := supervisor
  obtain ⟨rfl, active_eq⟩ := tracks
  unfold logoff
  by_cases own : worker = .starting session ∨ worker = .running session ∨ worker = .suspended session
  · simp only [if_pos own]
    rcases own with rfl | rfl | rfl
    all_goals exact ⟨by simp [applyAction, WorkerState.live?], nofun⟩
  · simp only [if_neg own]
    refine ⟨rfl, fun other alive => ?_⟩
    have set := active_eq other alive
    have different : other ≠ session := by
      rintro rfl
      cases worker with
      | stopped | stopping => cases alive
      | starting | running | suspended =>
        cases alive
        exact own (by simp)
    simp only at set ⊢
    rw [set, if_neg]
    exact fun same => different (Option.some.inj same)

theorem tracks_markRunning (session : SessionId) : Tracks live (supervisor.markWorkerRunning session) := by
  unfold markWorkerRunning
  split
  · rename_i starting
    obtain ⟨rfl, active_eq⟩ := tracks
    rw [starting] at active_eq ⊢
    exact ⟨rfl, active_eq⟩
  · exact tracks

theorem tracks_markStopped (session : SessionId) :
    Tracks (live.erase session) (supervisor.markWorkerStopped session) := by
  obtain ⟨worker, _⟩ := supervisor
  obtain ⟨rfl, active_eq⟩ := tracks
  unfold markWorkerStopped
  split
  · rename_i named
    refine ⟨?_, nofun⟩
    cases worker with
    | stopped | stopping => rfl
    | starting | running | suspended =>
      cases named
      simp [WorkerState.live?]
  · rename_i other
    refine ⟨?_, active_eq⟩
    cases worker with
    | stopped | stopping => rfl
    | starting current | running current | suspended current =>
      have different : current ≠ session := fun same => other (by rw [same]; rfl)
      exact List.erase_of_not_mem (by simpa [WorkerState.live?] using different.symm)

theorem tracks_crashed
    (orderly : supervisor.worker.session? = some session ∨
      supervisor.worker = .stopped ∧ supervisor.activeSession ≠ some session) :
    Tracks (applyAction (live.erase session) (supervisor.workerCrashed session).2)
      (supervisor.workerCrashed session).1 := by
  obtain ⟨worker, _⟩ := supervisor
  obtain ⟨rfl, _⟩ := tracks
  have gone : worker.live?.toList.erase session = [] := by
    cases worker with
    | stopped | stopping => rfl
    | starting | running | suspended =>
      rcases orderly with named | ⟨none, _⟩
      · cases named
        simp [WorkerState.live?]
      · cases none
  unfold workerCrashed
  simp only [gone]
  split
  · rename_i set
    refine ⟨rfl, fun other alive => ?_⟩
    cases alive
    exact set
  · exact ⟨rfl, nofun⟩

theorem Tracks.step {reply : SupervisorAction} {after : SessionSupervisor}
    (taken : Total step supervisor input reply after) (orderly : Orderly ⟨supervisor, input, reply, after⟩) :
    Tracks (trackLive live ⟨supervisor, input, reply, after⟩) after := by
  obtain ⟨rfl, rfl⟩ := Prod.ext_iff.mp taken
  cases input with
  | onEvent event =>
    cases event with
    | logon session | consoleConnect session | remoteConnect session => exact tracks_activate tracks session
    | logoff session => exact tracks_logoff tracks session
    | lock session | consoleDisconnect session | remoteDisconnect session => exact tracks_suspend tracks session
    | unlock session => exact tracks_unlock tracks session
  | markWorkerRunning session => exact tracks_markRunning tracks session
  | markWorkerStopped session => exact tracks_markStopped tracks session
  | workerCrashed session => exact tracks_crashed tracks (orderly session rfl)

end

theorem Tracks.of_run {past : List SupervisorCall} {final : SessionSupervisor}
    (run : Run (Total SessionSupervisor.step) {} past final) (orderly : ∀ call ∈ past, Orderly call) :
    Tracks (liveWorkers past) final := by
  induction run with
  | start => exact ⟨rfl, nofun⟩
  | @next past current input reply after _ taken ih =>
    rw [liveWorkers_concat]
    exact (ih (forall_of_append orderly)).step taken
      (orderly _ List.mem_concat_self)

end Steps

/-- At most one worker is alive, and the state says which: the one of the active session. -/
structure Supervised (live : List SessionId) (supervisor : SessionSupervisor) : Prop where
  atMostOne : live.length ≤ 1
  exactly : ∀ session, (supervisor.worker = .starting session ∨ supervisor.worker = .running session ∨
    supervisor.worker = .suspended session) ↔ session ∈ live ∧ supervisor.activeSession = some session

theorem Tracks.supervised {live : List SessionId} {supervisor : SessionSupervisor} (tracks : Tracks live supervisor) :
    Supervised live supervisor := by
  obtain ⟨worker, _⟩ := supervisor
  obtain ⟨rfl, active_eq⟩ := tracks
  constructor
  · cases worker <;> simp [WorkerState.live?]
  · intro session
    cases worker with
    | stopped | stopping => simp [WorkerState.live?]
    | starting current | running current | suspended current =>
      have set := active_eq current rfl
      simp only at set
      simp [WorkerState.live?, set, eq_comm]

/-- A report about a worker of the session. -/
def ReportsOn (session : SessionId) (input : SupervisorInput) : Prop :=
  input = .workerCrashed session ∨ input = .markWorkerStopped session ∨ input = .markWorkerRunning session

/-- A report for another session than the one named in the worker state changes nothing. -/
def IgnoresOthers (call : SupervisorCall) : Prop :=
  ∀ session, ReportsOn session call.input → call.before.worker.session? ≠ some session →
    call.after = call.before ∧ call.reply = .none

theorem ignores_unnamed_crash_iff (supervisor : SessionSupervisor) (session : SessionId)
    (unnamed : supervisor.worker.session? ≠ some session) :
    supervisor.workerCrashed session = (supervisor, .none) ↔
      supervisor.worker = .stopped ∧ supervisor.activeSession ≠ some session := by
  obtain ⟨_, active⟩ := supervisor
  unfold workerCrashed
  by_cases set : active = some session
  · simp [set]
  · simp [set, eq_comm]

theorem ignoresOthers_iff_orderly {call : SupervisorCall}
    (taken : Total step call.before call.input call.reply call.after) : IgnoresOthers call ↔ Orderly call := by
  obtain ⟨supervisor, input, reply, after⟩ := call
  have made : supervisor.step input = (after, reply) := taken
  obtain ⟨rfl, rfl⟩ := Prod.ext_iff.mp made
  constructor
  · rintro ignores session rfl
    by_cases named : supervisor.worker.session? = some session
    · exact .inl named
    · obtain ⟨unchanged, silent⟩ := ignores session (.inl rfl) named
      exact .inr ((ignores_unnamed_crash_iff supervisor session named).mp (Prod.ext unchanged silent))
  · rintro orderly session (rfl | rfl | rfl) unnamed
    · rcases orderly session rfl with named | idle
      · exact absurd named unnamed
      · exact Prod.ext_iff.mp ((ignores_unnamed_crash_iff supervisor session unnamed).mpr idle)
    · exact ⟨if_neg unnamed, rfl⟩
    · refine ⟨if_neg fun starting => unnamed ?_, rfl⟩
      rw [starting]
      rfl

/-- What holds along a run of the supervisor: after every call its state is that of the one live worker, and a report
for another session than the one named in the worker state has changed nothing. -/
def SupervisesOneWorker (past : List SupervisorCall) : Prop :=
  ∀ earlier call later, past = earlier ++ call :: later →
    Supervised (liveWorkers (earlier ++ [call])) call.after ∧ IgnoresOthers call

/-- Every crash and every stop is reported for a session that a worker was launched for. -/
def reportsFollowLaunches (launched : List SessionId) : List SupervisorCall → Bool
  | [] => true
  | call :: rest =>
    let known :=
      match call.input with
      | .workerCrashed session | .markWorkerStopped session => launched.contains session
      | _ => true
    let more :=
      match call.reply with
      | .launchWorker session | .replaceWorker _ session => session :: launched
      | _ => launched
    known && reportsFollowLaunches more rest

/-- One worker is supervised along a run exactly when every crash is reported for the session named in the worker state,
or while the worker is stopped and for a session that is not active. -/
theorem supervises_one_worker_iff {past : List SupervisorCall} {final : SessionSupervisor}
    (run : Run (Total SessionSupervisor.step) {} past final) :
    SupervisesOneWorker past ↔ ∀ call ∈ past, Orderly call := by
  constructor
  · intro supervises call member
    obtain ⟨earlier, later, cut⟩ := List.append_of_mem member
    exact (ignoresOthers_iff_orderly (run.split cut).2.1).mp (supervises earlier call later cut).2
  · intro orderly earlier call later cut
    obtain ⟨reached, taken, _⟩ := run.split cut
    have before : ∀ made ∈ earlier ++ [call], Orderly made := by
      intro made member
      refine orderly made ?_
      rw [cut, List.append_cons]
      exact List.mem_append_left _ member
    have tracks := Tracks.of_run (reached.next taken) before
    exact ⟨tracks.supervised, (ignoresOthers_iff_orderly taken).mpr (before call (by simp))⟩

/-- A worker is replaced on the logon of another user, and then its own exit is reported as a crash. -/
def lateCrash : List SupervisorInput :=
  [.onEvent (.logon ⟨1⟩), .markWorkerRunning ⟨1⟩, .onEvent (.logon ⟨2⟩), .markWorkerRunning ⟨2⟩, .workerCrashed ⟨1⟩]

/-- The crashed worker of the active session is launched again as long as nothing else is reported. -/
theorem supervises_one_worker_relaunched :
    SupervisesOneWorker (calls SessionSupervisor.step {}
      [.onEvent (.logon ⟨1⟩), .markWorkerRunning ⟨1⟩, .workerCrashed ⟨1⟩]) := by
  refine (supervises_one_worker_iff (Run.of_calls step {} _)).mpr ?_
  intro call member session crashed
  simp only [calls, List.mem_cons, List.not_mem_nil, or_false] at member
  rcases member with rfl | rfl | rfl
  · cases crashed
  · cases crashed
  · cases crashed
    exact .inl (by decide)

/-- The late report stops the state of the worker that runs, and the next unlock of the session launches a second
one beside it. -/
theorem late_crash_launches_second_worker :
    reportsFollowLaunches [] (calls SessionSupervisor.step {} (lateCrash ++ [.onEvent (.unlock ⟨2⟩)])) = true ∧
      liveWorkers (calls SessionSupervisor.step {} lateCrash) = [⟨2⟩] ∧
      runOn SessionSupervisor.step {} lateCrash = { worker := .stopped, activeSession := some ⟨2⟩ } ∧
      liveWorkers (calls SessionSupervisor.step {} (lateCrash ++ [.onEvent (.unlock ⟨2⟩)])) = [⟨2⟩, ⟨2⟩] := by
  decide

end ClassMesh
