import ClassMesh.Foundation.Run
import ClassMesh.Security.PersistedState

namespace ClassMesh

open Foundation PersistedState

/-- The three files of a `DurableAuthorizationState`: the state file and its `.tmp` and `.bak` siblings. -/
structure StateDir where
  path : Option (List UInt8) := none
  temporary : Option (List UInt8) := none
  backup : Option (List UInt8) := none
deriving DecidableEq

namespace StateDir

variable (dir : StateDir)

def removeTemporary : StateDir := { dir with temporary := none }

def createTemporary : StateDir := { dir with temporary := some [] }

def writeTemporary (bytes : List UInt8) (dir : StateDir) : StateDir := { dir with temporary := some bytes }

def removeBackup : StateDir := { dir with backup := none }

/-- `if path.exists() { rename(path, backup) }` -/
def setAside : StateDir :=
  match dir.path with
  | some content => { dir with path := none, backup := some content }
  | none => dir

/-- `rename(temporary, path)` -/
def promote : StateDir := { dir with path := dir.temporary, temporary := none }

/-- What follows a failed `promote`. -/
def restoreBackup : StateDir :=
  match dir.path, dir.backup with
  | none, some content => { dir with path := some content, backup := none }
  | _, _ => dir

/-- The filesystem steps of `save` in order; the fourth is `sync_all`, after which the temporary file is durable. -/
def saveSteps (bytes : List UInt8) : List (StateDir → StateDir) :=
  [removeTemporary, createTemporary, writeTemporary bytes, id, removeBackup, setAside, promote, removeBackup]

def runSteps (steps : List (StateDir → StateDir)) (dir : StateDir) : StateDir :=
  steps.foldl (fun current step => step current) dir

/-- After a crash, a temporary file that was open and not yet synced holds anything. -/
def tear (done : Nat) (torn : List UInt8) (dir : StateDir) : StateDir :=
  if done = 2 ∨ done = 3 then { dir with temporary := some torn } else dir

end StateDir

/-- How a call to `save` ends: on its own, with the final rename failing, or with a crash after a number of steps. -/
inductive SaveFate
  | completes
  | renameFails
  | cut (done : Nat) (torn : List UInt8)
deriving DecidableEq

inductive SaveReply
  | returned (result : Except PersistenceError Unit)
  | crashed
deriving DecidableEq

structure SaveInput where
  store : AuthorizationStore
  fate : SaveFate
deriving DecidableEq

namespace DurableAuthorizationState

open StateDir

section Codec

variable (encode : PersistedState → Option (List UInt8)) (parse : List UInt8 → Option PersistedState)

/-- `encode` is `serde_json::to_vec_pretty`. A crash between the failed rename and the restore leaves what `cut 6`
leaves. -/
def save (dir : StateDir) (input : SaveInput) : StateDir × SaveReply :=
  match encode (.fromStore input.store) with
  | none => (dir, .returned (.error .json))
  | some bytes =>
    if maxStateBytes < bytes.length then (dir, .returned (.error (.stateTooLarge bytes.length maxStateBytes)))
    else
      match input.fate with
      | .completes => (runSteps (saveSteps bytes) dir, .returned (.ok ()))
      | .renameFails => (restoreBackup (runSteps ((saveSteps bytes).take 6) dir), .returned (.error .io))
      | .cut done torn => (tear done torn (runSteps ((saveSteps bytes).take done) dir), .crashed)

/-- `parse` is `serde_json::from_slice`. -/
def loadFromFile (bytes : List UInt8) : Except PersistenceError AuthorizationStore :=
  if maxStateBytes < bytes.length then .error (.stateTooLarge bytes.length maxStateBytes)
  else
    match parse bytes with
    | none => .error .json
    | some state => state.intoStore

def load (dir : StateDir) : Except PersistenceError (Option AuthorizationStore) :=
  match dir.path, dir.backup with
  | some bytes, _ => (loadFromFile parse bytes).map some
  | none, some bytes => (loadFromFile parse bytes).map some
  | none, none => .ok none

/-- The bytes are the text of the store, within the limits of both ends, and they parse back. -/
structure TextOf (store : AuthorizationStore) (bytes : List UInt8) : Prop where
  encodes : encode (.fromStore store) = some bytes
  fits : bytes.length ≤ maxStateBytes
  parses : parse bytes = some (.fromStore store)
  loads : (PersistedState.fromStore store).intoStore = .ok store

def Persistable (store : AuthorizationStore) : Prop := ∃ bytes, TextOf encode parse store bytes

end Codec

end DurableAuthorizationState

abbrev SaveCall := Call StateDir SaveInput SaveReply

namespace SaveCall

def Completed (call : SaveCall) : Prop := call.reply = .returned (.ok ())

/-- The save found the state only in the backup, and was stopped after it had deleted the backup and
before it had put the new file in place. -/
def LosesBackup (call : SaveCall) : Prop :=
  call.before.path = none ∧ call.before.backup ≠ none ∧
    (call.input.fate = .renameFails ∨ ∃ torn, call.input.fate = .cut 5 torn ∨ call.input.fate = .cut 6 torn)

end SaveCall

open SaveCall DurableAuthorizationState

/-- The stores that `load` may return: that of the last completed save, or of a save made since. -/
def Candidate (past : List SaveCall) (store : AuthorizationStore) : Prop :=
  ∃ earlier call later, past = earlier ++ call :: later ∧ call.input.store = store ∧
    ∀ other ∈ later, ¬other.Completed

/-- What a reader finds is there, and is not out of date. -/
structure Survives (parse : List UInt8 → Option PersistedState) (past : List SaveCall) (dir : StateDir) : Prop where
  present : load parse dir ≠ .ok none
  recent : ∀ store, load parse dir = .ok (some store) → Candidate past store

/-- The content that a reader gets to see. -/
def StateDir.visible (dir : StateDir) : Option (List UInt8) := dir.path.or dir.backup

variable {encode : PersistedState → Option (List UInt8)} {parse : List UInt8 → Option PersistedState}
  {store : AuthorizationStore} {bytes : List UInt8} {dir : StateDir} {past : List SaveCall}

theorem load_of_visible (text : TextOf encode parse store bytes) (held : dir.visible = some bytes) :
    load parse dir = .ok (some store) := by
  have loaded : loadFromFile parse bytes = .ok store := by
    simp only [loadFromFile, if_neg (Nat.not_lt.mpr text.fits), text.parses, text.loads]
  obtain ⟨path, _, backup⟩ := dir
  cases path with
  | some =>
    cases Option.some.inj held
    simp [load, loaded, Except.map]
  | none =>
    cases backup with
    | some =>
      cases Option.some.inj held
      simp [load, loaded, Except.map]
    | none => simp [StateDir.visible] at held

theorem load_of_visible_none (gone : dir.visible = none) : load parse dir = .ok none := by
  obtain ⟨noPath, noBackup⟩ := Option.or_eq_none_iff.mp gone
  simp [load, noPath, noBackup]

section Effect

open StateDir

/-- A save stopped after some of its steps shows the old content or the new one, except between the
deletion of the backup and the final rename, where it shows only what the state file held. -/
theorem visible_cut (bytes torn : List UInt8) (done : Nat) (dir : StateDir) :
    (tear done torn (runSteps ((saveSteps bytes).take done) dir)).visible =
      if done < 5 then dir.visible else if done < 7 then dir.path else some bytes := by
  obtain ⟨path, _⟩ := dir
  match done with
  | 0 | 1 | 2 | 3 | 4 => rfl
  | 5 =>
    simp [tear, runSteps, saveSteps, StateDir.visible, removeTemporary, createTemporary, writeTemporary, removeBackup]
  | 6 | 7 =>
    cases path <;> simp [tear, runSteps, saveSteps, StateDir.visible, removeTemporary, createTemporary, writeTemporary,
      removeBackup, setAside, promote]
  | n + 8 =>
    rw [List.take_of_length_le (by simp [saveSteps]), if_neg (by omega), if_neg (by omega)]
    cases path <;> simp [tear, runSteps, saveSteps, StateDir.visible, removeTemporary, createTemporary, writeTemporary,
      removeBackup, setAside, promote]

theorem visible_renameFails (bytes : List UInt8) (dir : StateDir) :
    (restoreBackup (runSteps ((saveSteps bytes).take 6) dir)).visible = dir.path := by
  obtain ⟨path, _⟩ := dir
  cases path <;> rfl

theorem visible_completes (bytes : List UInt8) (dir : StateDir) :
    (runSteps (saveSteps bytes) dir).visible = some bytes := by
  obtain ⟨path, _⟩ := dir
  cases path <;> rfl

variable (call : SaveCall) (taken : Total (save encode) call.before call.input call.reply call.after)
  (text : TextOf encode parse call.input.store bytes)

include taken text

theorem save_cases :
    (call.input.fate = .completes ∧ call.Completed ∧ call.after.visible = some bytes) ∨
    (call.input.fate = .renameFails ∧ ¬call.Completed ∧ call.after.visible = call.before.path) ∨
    ∃ done torn, call.input.fate = .cut done torn ∧ ¬call.Completed ∧
      call.after.visible = if done < 5 then call.before.visible else if done < 7 then call.before.path
        else some bytes := by
  obtain ⟨_, ⟨_, fate⟩, _⟩ := call
  simp only [Foundation.Total, save, text.encodes, if_neg (Nat.not_lt.mpr text.fits)] at taken
  cases fate with
  | completes =>
    cases taken
    exact .inl ⟨rfl, rfl, visible_completes _ _⟩
  | renameFails =>
    cases taken
    exact .inr (.inl ⟨rfl, by simp [Completed], visible_renameFails _ _⟩)
  | cut done torn =>
    cases taken
    exact .inr (.inr ⟨done, torn, rfl, by simp [Completed], visible_cut _ _ _ _⟩)

theorem visible_of_completed (completed : call.Completed) : call.after.visible = some bytes := by
  rcases save_cases call taken text with ⟨_, _, shown⟩ | ⟨_, unfinished, _⟩ | ⟨_, _, _, unfinished, _⟩
  · exact shown
  · exact absurd completed unfinished
  · exact absurd completed unfinished

theorem visible_of_losesBackup (loses : call.LosesBackup) : call.after.visible = none := by
  obtain ⟨noPath, _, stopped⟩ := loses
  rcases save_cases call taken text with ⟨fate, _⟩ | ⟨_, _, shown⟩ | ⟨done, _, fate, _, shown⟩
  · simp [fate] at stopped
  · rw [shown, noPath]
  · have between : done = 5 ∨ done = 6 := by
      rcases stopped with other | ⟨_, five | six⟩
      · simp [fate] at other
      · exact .inl (SaveFate.cut.inj (fate.symm.trans five)).1
      · exact .inr (SaveFate.cut.inj (fate.symm.trans six)).1
    rw [shown, if_neg (by omega), if_pos (by omega), noPath]

/-- Any other interrupted save shows what it found or what it was writing. -/
theorem visible_of_not_losesBackup (unfinished : ¬call.Completed) (lucky : ¬call.LosesBackup)
    (held : call.before.visible ≠ none) :
    call.after.visible = call.before.visible ∨ call.after.visible = some bytes := by
  have viaPath (stopped : call.input.fate = .renameFails ∨
      ∃ torn, call.input.fate = .cut 5 torn ∨ call.input.fate = .cut 6 torn) :
      call.before.path = call.before.visible := by
    cases atPath : call.before.path with
    | some => simp [StateDir.visible, atPath]
    | none =>
      have noBackup : call.before.backup ≠ none := by simpa [StateDir.visible, atPath] using held
      exact absurd ⟨atPath, noBackup, stopped⟩ lucky
  rcases save_cases call taken text with ⟨_, completed, _⟩ | ⟨fate, _, shown⟩ | ⟨done, torn, fate, _, shown⟩
  · exact absurd completed unfinished
  · exact .inl (shown.trans (viaPath (.inl fate)))
  · rw [shown]
    split
    · exact .inl rfl
    · split
      · have between : done = 5 ∨ done = 6 := by omega
        refine .inl (viaPath (.inr ⟨torn, ?_⟩))
        rcases between with rfl | rfl
        · exact .inl fate
        · exact .inr fate
      · exact .inr rfl

end Effect

theorem Candidate.last (call : SaveCall) : Candidate (past ++ [call]) call.input.store :=
  ⟨past, call, [], rfl, rfl, by simp⟩

theorem Candidate.next (candidate : Candidate past store) {call : SaveCall} (unfinished : ¬call.Completed) :
    Candidate (past ++ [call]) store := by
  obtain ⟨earlier, saved, later, rfl, same, none⟩ := candidate
  exact ⟨earlier, saved, later ++ [call], by simp, same, forall_mem_concat none unfinished⟩

/-- No save that follows a completed one loses the backup. -/
def KeepsBackup (past : List SaveCall) : Prop :=
  ∀ earlier call later, past = earlier ++ call :: later → (∃ done ∈ earlier, done.Completed) → ¬call.LosesBackup

theorem KeepsBackup.of_append {earlier later : List SaveCall} (keeps : KeepsBackup (earlier ++ later)) :
    KeepsBackup earlier := by
  intro before call after cut completed
  exact keeps before call (after ++ later) (by simp [cut]) completed

/-- From the first completed save on, the content in sight is that of a candidate. -/
theorem visible_candidate (run : Run (Total (save encode)) {} past dir)
    (persistable : ∀ call ∈ past, Persistable encode parse call.input.store) (keeps : KeepsBackup past)
    (completed : ∃ done ∈ past, done.Completed) :
    ∃ store bytes, Candidate past store ∧ TextOf encode parse store bytes ∧ dir.visible = some bytes := by
  induction run with
  | start => simp at completed
  | @next past current input reply after previous taken ih =>
    obtain ⟨bytes, now⟩ := persistable ⟨current, input, reply, after⟩ (by simp)
    by_cases finished : Completed ⟨current, input, reply, after⟩
    · exact ⟨input.store, bytes, .last ⟨current, input, reply, after⟩, now,
        visible_of_completed ⟨current, input, reply, after⟩ taken now finished⟩
    · have before : ∃ done ∈ past, Completed done := by
        obtain ⟨done, member, complete⟩ := completed
        rcases List.mem_append.mp member with old | new
        · exact ⟨done, old, complete⟩
        · exact absurd (List.mem_singleton.mp new ▸ complete) finished
      obtain ⟨store, old, candidate, sound, held⟩ :=
        ih (forall_of_append persistable) keeps.of_append before
      rcases visible_of_not_losesBackup ⟨current, input, reply, after⟩ taken now finished
        (keeps past _ [] rfl before) (by simp [held]) with same | new
      · exact ⟨store, old, candidate.next finished, sound, same.trans held⟩
      · exact ⟨input.store, bytes, .last ⟨current, input, reply, after⟩, now, new⟩

/-- Once a save has completed, every state that the directory passes through survives. -/
def AlwaysSurvives (parse : List UInt8 → Option PersistedState) (past : List SaveCall) : Prop :=
  ∀ earlier call later, past = earlier ++ call :: later → (∃ done ∈ earlier ++ [call], done.Completed) →
    Survives parse (earlier ++ [call]) call.after

/-- The authorization state survives every pattern of interrupted saves but one: after a completed save, a save that
loses the backup. A run is any list of saves, each of them cut off after any number of its filesystem steps or carried
to its end. -/
theorem always_survives_iff {past : List SaveCall} {dir : StateDir} (run : Run (Total (save encode)) {} past dir)
    (persistable : ∀ call ∈ past, Persistable encode parse call.input.store) :
    AlwaysSurvives parse past ↔ KeepsBackup past := by
  constructor
  · intro survives earlier call later cut completed loses
    obtain ⟨done, member, complete⟩ := completed
    have taken := (run.split cut).2.1
    obtain ⟨_, text⟩ := persistable call (by simp [cut])
    have gone := visible_of_losesBackup call taken text loses
    exact (survives earlier call later cut ⟨done, List.mem_append_left _ member, complete⟩).present
      (load_of_visible_none gone)
  · intro keeps earlier call later cut completed
    obtain ⟨reached, taken, _⟩ := run.split cut
    have upTo : past = (earlier ++ [call]) ++ later := by simp [cut]
    obtain ⟨_, _, candidate, text, held⟩ := visible_candidate (reached.next taken)
      (fun other member => persistable other (upTo ▸ List.mem_append_left _ member))
      (KeepsBackup.of_append (upTo ▸ keeps)) completed
    have loaded := load_of_visible text held
    refine ⟨by simp [loaded], fun other same => ?_⟩
    rw [loaded] at same
    cases same
    exact candidate

def oneTeacher : AuthorizationStore :=
  (AuthorizationStore.upsert {} ⟨⟨.replicate 7⟩, .teacher, true, {.viewMonitoring}, ∅⟩).1

/-- A parser that knows the texts of two stores. -/
def parseKnown (bytes : List UInt8) : Option PersistedState :=
  [PersistedState.fromStore oneTeacher, .fromStore {}].find? (·.prettyJson = some bytes)

theorem persistable_known : ∀ store ∈ [oneTeacher, {}], Persistable prettyJson parseKnown store := by
  simp only [List.forall_mem_cons]
  exact ⟨⟨_, rfl, by decide +kernel, by decide +kernel, by decide +kernel⟩,
    ⟨_, rfl, by decide +kernel, by decide +kernel, by decide +kernel⟩, by simp⟩

/-- One completed save, a crash between the two renames, and a second crash just after the deletion of
the backup: nothing is left to load. -/
theorem interrupted_saves_lose_state :
    let inputs : List SaveInput := [⟨oneTeacher, .completes⟩, ⟨{}, .cut 6 []⟩, ⟨{}, .cut 5 []⟩]
    (calls (save prettyJson) {} inputs).map (·.reply) = [.returned (.ok ()), .crashed, .crashed] ∧
      (∀ input ∈ inputs, Persistable prettyJson parseKnown input.store) ∧
      load parseKnown (runOn (save prettyJson) {} inputs) = .ok none := by
  refine ⟨by decide +kernel, fun input member => persistable_known _ ?_, by decide +kernel⟩
  simp only [List.mem_cons, List.not_mem_nil, or_false] at member
  rcases member with rfl | rfl | rfl <;> simp

/-- The first crash alone is survived: the backup is read, and it holds the first of the two stores. -/
theorem always_survives_iff_one_crash :
    let inputs : List SaveInput := [⟨oneTeacher, .completes⟩, ⟨{}, .cut 6 []⟩]
    let past := calls (save prettyJson) {} inputs
    KeepsBackup past ∧ AlwaysSurvives parseKnown past ∧
      load parseKnown (runOn (save prettyJson) {} inputs) = .ok (some oneTeacher) := by
  intro inputs past
  have found : ∀ call ∈ past, call.before.path = none → call.before.backup = none := by decide +kernel
  have stores : ∀ call ∈ past, call.input.store ∈ [oneTeacher, {}] := by decide +kernel
  have keeps : KeepsBackup past := fun _ call _ cut _ loses => loses.2.1 (found call (by simp [cut]) loses.1)
  have persistable : ∀ call ∈ past, Persistable prettyJson parseKnown call.input.store :=
    fun call member => persistable_known _ (stores call member)
  exact ⟨keeps, (always_survives_iff (Run.of_calls _ _ _) persistable).mpr keeps, by decide +kernel⟩

end ClassMesh
