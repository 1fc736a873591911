import ClassMesh.Network.ProtectedMediaReceive
import ClassMesh.Security.IdealSframe

namespace ClassMesh

open Foundation

structure PresentationKeyInstallBinding where
  controlSessionId : UInt64
  requestId : UInt64
  presentationId : UInt64
  streamId : UInt32
  epoch : UInt32
deriving DecidableEq

structure SensitivePresentationKeyInstall where
  binding : PresentationKeyInstallBinding
  keyMaterial : Bytes32
deriving DecidableEq

structure ServicePresentationKeyClear where
  controlSessionId : UInt64
  requestId : UInt64
  presentationId : UInt64
  streamId : UInt32
  epoch : UInt32
deriving DecidableEq

inductive WorkerGroupMediaKeyError
  | bindingChangeRequiresClear
  | staleEpoch (current received : UInt32)
  | noInstalledKey
  | streamMismatch (expected received : UInt32)
  | security (error : GroupMediaError)
deriving DecidableEq

/-- `GroupMediaKeyMaterial::import_received_wire`, without the wiping of the caller's buffer. -/
def importReceivedWire (bytes : List UInt8) : Except GroupMediaError Bytes32 :=
  if length : bytes.length = 32 then .ok ⟨bytes, length⟩ else .error .invalidKeyMaterialLength

structure WorkerGroupMediaAuthenticationStats where
  openedFrames : UInt64 := 0
  rejectedFrames : UInt64 := 0
deriving DecidableEq

variable {S : Sframe}

structure InstalledWorkerGroupMediaKey (S : Sframe) where
  binding : PresentationKeyInstallBinding
  receiver : GroupMediaReceiver S

structure WorkerGroupMediaKeyState (S : Sframe) where
  installed : Option (InstalledWorkerGroupMediaKey S) := none
  authenticationStats : WorkerGroupMediaAuthenticationStats := {}
  decoderResyncPending : Bool := false

namespace WorkerGroupMediaKeyState

variable (state : WorkerGroupMediaKeyState S)

def binding : Option PresentationKeyInstallBinding :=
  state.installed.map (·.binding)

/-- The checks of `install` against the binding in place. -/
def installRefusal (binding : PresentationKeyInstallBinding) : Option WorkerGroupMediaKeyError :=
  match state.binding with
  | none => none
  | some current =>
    if ¬(binding.controlSessionId = current.controlSessionId ∧ binding.presentationId = current.presentationId ∧
        binding.streamId = current.streamId) then some .bindingChangeRequiresClear
    else if binding.epoch ≤ current.epoch then some (.staleEpoch current.epoch binding.epoch)
    else none

/-- The receiver that `install` derives. -/
def deriveReceiver (install : SensitivePresentationKeyInstall) : Except GroupMediaError (GroupMediaReceiver S) :=
  match GroupMediaEpoch.new install.binding.epoch with
  | .error error => .error error
  | .ok epoch =>
    match importReceivedWire install.keyMaterial.bytes with
    | .error error => .error error
    | .ok keyMaterial => GroupMediaReceiver.withDefaultReplayTolerance epoch keyMaterial

def install (install : SensitivePresentationKeyInstall) :
    WorkerGroupMediaKeyState S × Except WorkerGroupMediaKeyError PresentationKeyInstallBinding :=
  match state.installRefusal install.binding with
  | some error => (state, .error error)
  | none =>
    match deriveReceiver install with
    | .error error => (state, .error (.security error))
    | .ok receiver =>
      ({ installed := some ⟨install.binding, receiver⟩
         authenticationStats := {}
         decoderResyncPending := state.decoderResyncPending || state.installed.isSome }, .ok install.binding)

def openFrameChecked (frame : ReceivedGroupMediaCiphertext) :
    WorkerGroupMediaKeyState S × Except WorkerGroupMediaKeyError (List UInt8) :=
  match state.installed with
  | none => (state, .error .noInstalledKey)
  | some installed =>
    if frame.streamId ≠ installed.binding.streamId then
      (state, .error (.streamMismatch installed.binding.streamId frame.streamId))
    else
      match GroupMediaEpoch.new installed.binding.epoch with
      | .error error => (state, .error (.security error))
      | .ok epoch =>
        match GroupMediaFrameBinding.new installed.binding.presentationId installed.binding.streamId epoch
            frame.frameId frame.timestampUs frame.keyframe with
        | .error error => (state, .error (.security error))
        | .ok binding =>
          let (receiver, result) := installed.receiver.openBoundFrame frame.ciphertext binding
          ({ state with installed := some { installed with receiver := receiver } }, result.mapError .security)

def openFrame (frame : ReceivedGroupMediaCiphertext) :
    WorkerGroupMediaKeyState S × Except WorkerGroupMediaKeyError (List UInt8) :=
  let (state, result) := state.openFrameChecked frame
  if state.installed.isSome then
    match result with
    | .ok data =>
      ({ state with authenticationStats :=
          { state.authenticationStats with
            openedFrames := saturatingAdd state.authenticationStats.openedFrames 1 } }, .ok data)
    | .error error =>
      ({ state with authenticationStats :=
          { state.authenticationStats with
            rejectedFrames := saturatingAdd state.authenticationStats.rejectedFrames 1 } }, .error error)
  else (state, result)

def openAccessUnit (frame : ReceivedGroupMediaCiphertext) :
    WorkerGroupMediaKeyState S × Except WorkerGroupMediaKeyError AssembledFrame :=
  let (state, result) := state.openFrame frame
  (state, result.map fun data => ⟨frame.streamId, frame.frameId, frame.timestampUs, frame.keyframe, data⟩)

def clearIfMatches (clear : ServicePresentationKeyClear) : WorkerGroupMediaKeyState S × Bool :=
  match state.binding with
  | none => (state, false)
  | some current =>
    if current.controlSessionId ≠ clear.controlSessionId ∨ current.requestId ≠ clear.requestId ∨
        current.presentationId ≠ clear.presentationId ∨ current.streamId ≠ clear.streamId ∨
        current.epoch ≠ clear.epoch then (state, false)
    else ({ installed := none, authenticationStats := {}, decoderResyncPending := false }, true)

def takeDecoderResync : WorkerGroupMediaKeyState S × Bool :=
  ({ state with decoderResyncPending := false }, state.decoderResyncPending)

end WorkerGroupMediaKeyState

/-- The binding that a received frame is opened with: the installed one, and what the frame claims. -/
structure ReceivedGroupMediaCiphertext.BoundAs (frame : ReceivedGroupMediaCiphertext)
    (installed : PresentationKeyInstallBinding) (binding : GroupMediaFrameBinding) : Prop where
  installedStream : frame.streamId = installed.streamId
  presentationId : binding.presentationId = installed.presentationId
  streamId : binding.streamId = frame.streamId
  epoch : binding.epoch.value = installed.epoch
  frameId : binding.frameId = frame.frameId
  timestampUs : binding.timestampUs = frame.timestampUs
  keyframe : binding.keyframe = frame.keyframe

theorem ReceivedGroupMediaCiphertext.boundAs_new {frame : ReceivedGroupMediaCiphertext}
    {installed : PresentationKeyInstallBinding} {epoch : GroupMediaEpoch} {binding : GroupMediaFrameBinding}
    (sameStream : frame.streamId = installed.streamId) (atEpoch : GroupMediaEpoch.new installed.epoch = .ok epoch)
    (atBinding : GroupMediaFrameBinding.new installed.presentationId installed.streamId epoch frame.frameId
      frame.timestampUs frame.keyframe = .ok binding) : frame.BoundAs installed binding := by
  obtain ⟨presentation, stream, sameEpoch, frameId, timestamp, keyframe⟩ := GroupMediaFrameBinding.new_ok atBinding
  have value := GroupMediaEpoch.new_eq_ok.mp atEpoch
  exact ⟨sameStream, presentation, stream.trans sameStream.symm, by rw [sameEpoch, value], frameId, timestamp,
    keyframe⟩

namespace GroupMediaReceiver

variable {receiver after : GroupMediaReceiver S} {data plaintext : List UInt8} {binding : GroupMediaFrameBinding}
  {result : Except GroupMediaError (List UInt8)}

/-- Opening a frame changes the replay state alone, and only by decrypting. -/
theorem openBoundFrame_effect (opened : receiver.openBoundFrame data binding = (after, result)) :
    (after = receiver ∧ ∃ error, result = .error error) ∨
      ∃ replay decrypted, S.validatedDecrypt receiver.replay receiver.key data binding.associatedData =
          (replay, decrypted) ∧ after = { receiver with replay := replay } ∧
        ∀ plaintext, result = .ok plaintext → decrypted = .ok plaintext := by
  unfold openBoundFrame at opened
  split at opened
  · cases opened
    exact .inl ⟨rfl, _, rfl⟩
  · unfold openFrame at opened
    split at opened
    · cases opened
      exact .inl ⟨rfl, _, rfl⟩
    · cases opened
      exact .inl ⟨rfl, _, rfl⟩
    · obtain ⟨⟨replay, decrypted⟩, ran⟩ : ∃ ran, S.validatedDecrypt receiver.replay receiver.key data
          binding.associatedData = ran := ⟨_, rfl⟩
      rw [ran] at opened
      refine .inr ⟨replay, decrypted, ran, ?_⟩
      cases decrypted with
      | error =>
        cases opened
        exact ⟨rfl, by simp⟩
      | ok text =>
        cases opened
        refine ⟨rfl, fun plaintext returned => ?_⟩
        cases checked : validatePlaintextLen text.length with
        | error => simp [checked, Except.map] at returned
        | ok => simpa [checked, Except.map] using returned

end GroupMediaReceiver

namespace WorkerGroupMediaKeyState

/-- Everything that `open_access_unit` can do, up to the two counters. -/
inductive OpenOutcome (state : WorkerGroupMediaKeyState S) (frame : ReceivedGroupMediaCiphertext) :
    WorkerGroupMediaKeyState S → Except WorkerGroupMediaKeyError AssembledFrame → Prop
  | refused {stats error} : OpenOutcome state frame { state with authenticationStats := stats } (.error error)
  | decrypted {key : InstalledWorkerGroupMediaKey S} {binding replay decrypted stats reply} :
      state.installed = some key → frame.BoundAs key.binding binding →
      S.validatedDecrypt key.receiver.replay key.receiver.key frame.ciphertext binding.associatedData =
        (replay, decrypted) →
      (∀ unit, reply = .ok unit → ∃ plaintext, decrypted = .ok plaintext ∧
        unit = ⟨frame.streamId, frame.frameId, frame.timestampUs, frame.keyframe, plaintext⟩) →
      OpenOutcome state frame
        { state with
          installed := some { key with receiver := { key.receiver with replay := replay } }
          authenticationStats := stats } reply

theorem openFrame_eq (state : WorkerGroupMediaKeyState S) (frame : ReceivedGroupMediaCiphertext) :
    ∃ stats, state.openFrame frame =
      ({ (state.openFrameChecked frame).1 with authenticationStats := stats }, (state.openFrameChecked frame).2) := by
  obtain ⟨⟨checked, result⟩, ran⟩ : ∃ ran, state.openFrameChecked frame = ran := ⟨_, rfl⟩
  unfold openFrame
  rw [ran]
  dsimp only
  split
  · cases result with
    | ok | error => exact ⟨_, rfl⟩
  · exact ⟨checked.authenticationStats, rfl⟩

theorem openAccessUnit_outcome (state : WorkerGroupMediaKeyState S) (frame : ReceivedGroupMediaCiphertext) :
    OpenOutcome state frame (state.openAccessUnit frame).1 (state.openAccessUnit frame).2 := by
  obtain ⟨_, counted⟩ := state.openFrame_eq frame
  unfold openAccessUnit
  rw [counted]
  dsimp only
  unfold openFrameChecked
  split
  · exact .refused
  case h_2 key atKey =>
    split
    · exact .refused
    case isFalse sameStream =>
      split
      · exact .refused
      case h_2 epoch atEpoch =>
        split
        · exact .refused
        case h_2 binding atBinding =>
          have bound := ReceivedGroupMediaCiphertext.boundAs_new (not_not.mp sameStream) atEpoch atBinding
          obtain ⟨⟨receiver, result⟩, opened⟩ : ∃ opened, key.receiver.openBoundFrame frame.ciphertext binding =
            opened := ⟨_, rfl⟩
          rw [opened]
          dsimp only
          rcases GroupMediaReceiver.openBoundFrame_effect opened with
            ⟨rfl, error, rfl⟩ | ⟨replay, decrypted, ran, rfl, agrees⟩
          · rw [← atKey]
            exact .refused
          · refine .decrypted atKey bound ran fun unit returned => ?_
            cases result with
            | error => cases returned
            | ok plaintext => exact ⟨plaintext, agrees plaintext rfl, (Except.ok.inj returned).symm⟩

end WorkerGroupMediaKeyState

/-- The rotation that `install` insists on: one presentation, and an epoch that moves on. -/
structure PresentationKeyInstallBinding.Follows (later earlier : PresentationKeyInstallBinding) : Prop where
  session : later.controlSessionId = earlier.controlSessionId
  presentation : later.presentationId = earlier.presentationId
  stream : later.streamId = earlier.streamId
  epoch : earlier.epoch < later.epoch

theorem PresentationKeyInstallBinding.Follows.trans {a b c : PresentationKeyInstallBinding} (later : c.Follows b)
    (earlier : b.Follows a) : c.Follows a where
  session := later.session.trans earlier.session
  presentation := later.presentation.trans earlier.presentation
  stream := later.stream.trans earlier.stream
  epoch := UInt32.lt_trans earlier.epoch later.epoch

/-- A derived key belongs to the install it came from. -/
structure InstalledWorkerGroupMediaKey.HeldFor (install : SensitivePresentationKeyInstall)
    (key : InstalledWorkerGroupMediaKey S) : Prop where
  binding : key.binding = install.binding
  epoch : key.receiver.epoch.value = install.binding.epoch
  derived : S.deriveDecryptionKey key.receiver.epoch.sframeKeyId install.keyMaterial = .ok key.receiver.key

/-- The frame was sealed under the key of the install, for its presentation, stream and epoch. -/
structure Sealing.SealedFor (sealing : Sealing S) (install : SensitivePresentationKeyInstall) : Prop where
  material : sealing.material = install.keyMaterial
  presentationId : sealing.frame.binding.presentationId = install.binding.presentationId
  streamId : sealing.frame.binding.streamId = install.binding.streamId
  epoch : sealing.frame.binding.epoch.value = install.binding.epoch

theorem Sealing.SealedFor.of_boundAs {install : SensitivePresentationKeyInstall}
    {key : InstalledWorkerGroupMediaKey S} {sealing : Sealing S} {received : ReceivedGroupMediaCiphertext}
    (heldFor : key.HeldFor install) (material : sealing.material = install.keyMaterial)
    (bound : received.BoundAs key.binding sealing.frame.binding) : sealing.SealedFor install where
  material := material
  presentationId := by rw [bound.presentationId, heldFor.binding]
  streamId := by rw [bound.streamId, bound.installedStream, heldFor.binding]
  epoch := by rw [bound.epoch, heldFor.binding]

namespace WorkerGroupMediaKeyState

theorem installRefusal_eq_none {state : WorkerGroupMediaKeyState S} {binding : PresentationKeyInstallBinding} :
    state.installRefusal binding = none ↔ ∀ current, state.binding = some current → binding.Follows current := by
  unfold installRefusal
  cases state.binding with
  | none => simp
  | some current =>
    dsimp only
    constructor
    · intro allowed other same
      cases same
      split at allowed
      · cases allowed
      case isFalse samePresentation =>
        obtain ⟨session, presentation, stream⟩ := not_not.mp samePresentation
        split at allowed
        · cases allowed
        case isFalse newer => exact ⟨session, presentation, stream, UInt32.not_le.mp newer⟩
    · intro follows
      obtain ⟨session, presentation, stream, newer⟩ := follows current rfl
      rw [if_neg (not_not.mpr ⟨session, presentation, stream⟩), if_neg (UInt32.not_le.mpr newer)]

theorem deriveReceiver_ok {install : SensitivePresentationKeyInstall} {receiver : GroupMediaReceiver S}
    (derived : deriveReceiver install = .ok receiver) :
    InstalledWorkerGroupMediaKey.HeldFor install ⟨install.binding, receiver⟩ ∧
      S.replayStart receiver.epoch.sframeKeyId defaultGroupMediaReplayToleranceFrames = some receiver.replay := by
  unfold deriveReceiver at derived
  split at derived
  · cases derived
  case h_2 epoch atEpoch =>
    split at derived
    · cases derived
    case h_2 keyMaterial imported =>
      have sameMaterial : install.keyMaterial = keyMaterial := by
        unfold importReceivedWire at imported
        rw [dif_pos install.keyMaterial.length_eq] at imported
        exact Except.ok.inj imported
      unfold GroupMediaReceiver.withDefaultReplayTolerance GroupMediaReceiver.new at derived
      split at derived
      · cases derived
      split at derived
      · cases derived
      case h_2 replay started =>
        split at derived
        · cases derived
        case h_2 key atKey =>
          cases derived
          exact ⟨⟨rfl, GroupMediaEpoch.new_eq_ok.mp atEpoch, sameMaterial ▸ atKey⟩, started⟩

/-- An install fails and changes nothing, or follows the binding in place and derives its own receiver. -/
theorem install_outcome (state : WorkerGroupMediaKeyState S) (requested : SensitivePresentationKeyInstall) :
    (∃ error, state.install requested = (state, .error error)) ∨
      ∃ receiver, (∀ current, state.binding = some current → requested.binding.Follows current) ∧
        deriveReceiver requested = .ok receiver ∧
        state.install requested =
          ({ installed := some ⟨requested.binding, receiver⟩
             decoderResyncPending := state.decoderResyncPending || state.installed.isSome },
           .ok requested.binding) := by
  unfold install
  cases allowed : state.installRefusal requested.binding with
  | some => exact .inl ⟨_, rfl⟩
  | none =>
    cases derived : deriveReceiver (S := S) requested with
    | error => exact .inl ⟨_, rfl⟩
    | ok receiver => exact .inr ⟨receiver, installRefusal_eq_none.mp allowed, rfl, rfl⟩

theorem clearIfMatches_outcome (state : WorkerGroupMediaKeyState S) (clear : ServicePresentationKeyClear) :
    state.clearIfMatches clear = (state, false) ∨ state.clearIfMatches clear = ({}, true) := by
  unfold clearIfMatches
  split
  · exact .inl rfl
  · split
    · exact .inl rfl
    · exact .inr rfl

end WorkerGroupMediaKeyState

end ClassMesh
