import ClassMesh.Foundation.Bytes
import ClassMesh.Foundation.OrderedMap

namespace ClassMesh

open Foundation

def defaultGroupMediaReplayToleranceFrames : Nat := 64
def maxGroupMediaReplayToleranceFrames : Nat := 512
def maxGroupMediaAadBytes : Nat := 256
def maxGroupMediaFrameBytes : Nat := 8 * 1024 * 1024
def maxGroupMediaSealedBytes : Nat := maxGroupMediaFrameBytes + 64

inductive ReplayAttackProtectionError
  | keyIdMismatch
  | duplicatedFrame
  | counterTooOld
deriving DecidableEq, Repr

/-- Failures of the `sframe` crate; the code only looks for a replay reason inside them. -/
inductive SframeError
  | replay (reason : ReplayAttackProtectionError)
  | other
deriving DecidableEq, Repr

/-- What the code calls in the `sframe` crate, which is not part of the repository. `encrypt` is
`MediaFrame::try_with_meta_data` followed by `encrypt`, giving header and ciphertext together;
`validatedDecrypt` is `EncryptedFrameView::try_with_meta_data` followed by `validated_decrypt`. -/
structure Sframe where
  EncryptionKey : Type
  DecryptionKey : Type
  Counter : Type
  Replay : Type
  deriveEncryptionKey : UInt64 → Bytes32 → Except SframeError EncryptionKey
  deriveDecryptionKey : UInt64 → Bytes32 → Except SframeError DecryptionKey
  counterStart : Counter
  encrypt : Counter → EncryptionKey → List UInt8 → List UInt8 → Counter × Except SframeError (List UInt8)
  replayStart : UInt64 → Nat → Option Replay
  validatedDecrypt : Replay → DecryptionKey → List UInt8 → List UInt8 → Replay × Except SframeError (List UInt8)

inductive GroupMediaReplayError
  | unexpectedEpoch
  | duplicate
  | tooOld
deriving DecidableEq, Repr

inductive GroupMediaError
  | invalidEpoch
  | invalidPresentationId
  | invalidStreamId
  | bindingEpochMismatch
  | invalidReplayTolerance
  | invalidKeyMaterialLength
  | keyGenerationFailed
  | missingAssociatedData
  | aadTooLarge
  | frameTooLarge
  | sealedFrameTooLarge
  | replay (reason : GroupMediaReplayError)
  | crypto (error : SframeError)
deriving DecidableEq, Repr

def GroupMediaError.fromSframe : SframeError → GroupMediaError
  | .replay .keyIdMismatch => .replay .unexpectedEpoch
  | .replay .duplicatedFrame => .replay .duplicate
  | .replay .counterTooOld => .replay .tooOld
  | error => .crypto error

structure GroupMediaEpoch where
  value : UInt32
  nonzero : value ≠ 0
deriving DecidableEq

namespace GroupMediaEpoch

def new (value : UInt32) : Except GroupMediaError GroupMediaEpoch :=
  if h : value ≠ 0 then .ok ⟨value, h⟩ else .error .invalidEpoch

def sframeKeyId (epoch : GroupMediaEpoch) : UInt64 := epoch.value.toUInt64

theorem ext_value {a b : GroupMediaEpoch} (same : a.value = b.value) : a = b := by
  cases a
  cases b
  simpa using same

theorem new_eq_ok {value : UInt32} {epoch : GroupMediaEpoch} : new value = .ok epoch ↔ epoch.value = value := by
  unfold new
  split
  · constructor
    · intro made
      cases Except.ok.inj made
      rfl
    · intro same
      exact congrArg Except.ok (ext_value same.symm)
  · rename_i zero
    constructor
    · intro made
      cases made
    · intro same
      exact absurd (same ▸ epoch.nonzero) zero

end GroupMediaEpoch

/-- The metadata sealed with one frame. Both ids are non-zero in every binding that exists. -/
structure GroupMediaFrameBinding where
  presentationId : UInt64
  streamId : UInt32
  epoch : GroupMediaEpoch
  frameId : UInt64
  timestampUs : UInt64
  keyframe : Bool
  presentation_nonzero : presentationId ≠ 0
  stream_nonzero : streamId ≠ 0
deriving DecidableEq

namespace GroupMediaFrameBinding

def new (presentationId : UInt64) (streamId : UInt32) (epoch : GroupMediaEpoch) (frameId timestampUs : UInt64)
    (keyframe : Bool) : Except GroupMediaError GroupMediaFrameBinding :=
  if presentation : presentationId = 0 then .error .invalidPresentationId
  else if stream : streamId = 0 then .error .invalidStreamId
  else .ok ⟨presentationId, streamId, epoch, frameId, timestampUs, keyframe, presentation, stream⟩

theorem new_ok {presentationId frameId timestampUs : UInt64} {streamId : UInt32} {epoch : GroupMediaEpoch}
    {keyframe : Bool} {binding : GroupMediaFrameBinding}
    (made : new presentationId streamId epoch frameId timestampUs keyframe = .ok binding) :
    binding.presentationId = presentationId ∧ binding.streamId = streamId ∧ binding.epoch = epoch ∧
      binding.frameId = frameId ∧ binding.timestampUs = timestampUs ∧ binding.keyframe = keyframe := by
  unfold new at made
  split at made
  · cases made
  split at made
  · cases made
  cases Except.ok.inj made
  exact ⟨rfl, rfl, rfl, rfl, rfl, rfl⟩

theorem new_self (binding : GroupMediaFrameBinding) :
    new binding.presentationId binding.streamId binding.epoch binding.frameId binding.timestampUs binding.keyframe =
      .ok binding := by
  unfold new
  rw [dif_neg binding.presentation_nonzero, dif_neg binding.stream_nonzero]

/-- The 40 authenticated bytes: magic, the fields big-endian, the keyframe byte, three zero bytes. -/
def associatedData (binding : GroupMediaFrameBinding) : List UInt8 :=
  [0x43, 0x4D, 0x47, 0x31] ++ (u64ToBe binding.presentationId ++ (u32ToBe binding.streamId ++
    (u32ToBe binding.epoch.value ++ (u64ToBe binding.frameId ++ (u64ToBe binding.timestampUs ++
      [if binding.keyframe then 1 else 0, 0, 0, 0])))))

theorem associatedData_length (binding : GroupMediaFrameBinding) : binding.associatedData.length = 40 := by
  simp [associatedData]

/-- The fixed-width layout loses no field. -/
theorem associatedData_injective : Function.Injective associatedData := by
  intro a b same
  obtain ⟨_, same⟩ := List.append_inj same rfl
  obtain ⟨presentation, same⟩ := List.append_inj same (by simp)
  obtain ⟨stream, same⟩ := List.append_inj same (by simp)
  obtain ⟨epoch, same⟩ := List.append_inj same (by simp)
  obtain ⟨frame, same⟩ := List.append_inj same (by simp)
  obtain ⟨timestamp, last⟩ := List.append_inj same (by simp)
  have keyframe : a.keyframe = b.keyframe := by
    cases ha : a.keyframe <;> cases hb : b.keyframe <;> simp [ha, hb] at last ⊢
  cases a
  cases b
  simp only [mk.injEq]
  exact ⟨u64ToBe_injective presentation, u32ToBe_injective stream,
    GroupMediaEpoch.ext_value (u32ToBe_injective epoch), u64ToBe_injective frame,
    u64ToBe_injective timestamp, keyframe⟩

end GroupMediaFrameBinding

structure SealedGroupMediaFrame where
  binding : GroupMediaFrameBinding
  data : List UInt8
deriving DecidableEq

def validatePlaintextLen (len : Nat) : Except GroupMediaError Unit :=
  if maxGroupMediaFrameBytes < len then .error .frameTooLarge else .ok ()

def validateAadLen (len : Nat) : Except GroupMediaError Unit :=
  if len = 0 then .error .missingAssociatedData
  else if maxGroupMediaAadBytes < len then .error .aadTooLarge
  else .ok ()

def validateSealedLen (len : Nat) : Except GroupMediaError Unit :=
  if maxGroupMediaSealedBytes < len then .error .sealedFrameTooLarge else .ok ()

variable {S : Sframe}

structure GroupMediaSender (S : Sframe) where
  epoch : GroupMediaEpoch
  key : S.EncryptionKey
  counter : S.Counter

namespace GroupMediaSender

def new (epoch : GroupMediaEpoch) (keyMaterial : Bytes32) : Except GroupMediaError (GroupMediaSender S) :=
  match S.deriveEncryptionKey epoch.sframeKeyId keyMaterial with
  | .error error => .error (.fromSframe error)
  | .ok key => .ok ⟨epoch, key, S.counterStart⟩

/-- The counter moves on whether or not the frame gets through. -/
def sealFrame (sender : GroupMediaSender S) (plaintext associatedData : List UInt8) :
    GroupMediaSender S × Except GroupMediaError (List UInt8) :=
  match validatePlaintextLen plaintext.length, validateAadLen associatedData.length with
  | .error error, _ => (sender, .error error)
  | .ok (), .error error => (sender, .error error)
  | .ok (), .ok () =>
    let (counter, encrypted) := S.encrypt sender.counter sender.key plaintext associatedData
    match encrypted with
    | .error error => ({ sender with counter := counter }, .error (.fromSframe error))
    | .ok data => ({ sender with counter := counter }, (validateSealedLen data.length).map fun _ => data)

def sealBoundFrame (sender : GroupMediaSender S) (plaintext : List UInt8) (binding : GroupMediaFrameBinding) :
    GroupMediaSender S × Except GroupMediaError SealedGroupMediaFrame :=
  if binding.epoch ≠ sender.epoch then (sender, .error .bindingEpochMismatch)
  else
    let (sender', sealed) := sender.sealFrame plaintext binding.associatedData
    (sender', sealed.map fun data => ⟨binding, data⟩)

end GroupMediaSender

structure GroupMediaReceiver (S : Sframe) where
  epoch : GroupMediaEpoch
  key : S.DecryptionKey
  replay : S.Replay

namespace GroupMediaReceiver

def new (epoch : GroupMediaEpoch) (keyMaterial : Bytes32) (replayToleranceFrames : Nat) :
    Except GroupMediaError (GroupMediaReceiver S) :=
  if ¬(1 ≤ replayToleranceFrames ∧ replayToleranceFrames ≤ maxGroupMediaReplayToleranceFrames) then
    .error .invalidReplayTolerance
  else
    match S.replayStart epoch.sframeKeyId replayToleranceFrames with
    | none => .error .invalidReplayTolerance
    | some replay =>
      match S.deriveDecryptionKey epoch.sframeKeyId keyMaterial with
      | .error error => .error (.fromSframe error)
      | .ok key => .ok ⟨epoch, key, replay⟩

def withDefaultReplayTolerance (epoch : GroupMediaEpoch) (keyMaterial : Bytes32) :
    Except GroupMediaError (GroupMediaReceiver S) :=
  new epoch keyMaterial defaultGroupMediaReplayToleranceFrames

def openFrame (receiver : GroupMediaReceiver S) (sealed associatedData : List UInt8) :
    GroupMediaReceiver S × Except GroupMediaError (List UInt8) :=
  match validateSealedLen sealed.length, validateAadLen associatedData.length with
  | .error error, _ => (receiver, .error error)
  | .ok (), .error error => (receiver, .error error)
  | .ok (), .ok () =>
    let (replay, decrypted) := S.validatedDecrypt receiver.replay receiver.key sealed associatedData
    match decrypted with
    | .error error => ({ receiver with replay := replay }, .error (.fromSframe error))
    | .ok plaintext =>
      ({ receiver with replay := replay }, (validatePlaintextLen plaintext.length).map fun _ => plaintext)

def openBoundFrame (receiver : GroupMediaReceiver S) (sealed : List UInt8) (binding : GroupMediaFrameBinding) :
    GroupMediaReceiver S × Except GroupMediaError (List UInt8) :=
  if binding.epoch ≠ receiver.epoch then (receiver, .error .bindingEpochMismatch)
  else receiver.openFrame sealed binding.associatedData

end GroupMediaReceiver

/-- One frame as it left the cipher. -/
structure LedgerEntry where
  key : UInt64 × Bytes32
  counter : UInt64
  associatedData : List UInt8
  data : List UInt8
  plaintext : List UInt8
deriving DecidableEq

/-- What the stand-in below remembers: the newest counter it has let through, and the others no further
behind it than the tolerance. -/
structure ReplayWindow where
  tolerance : Nat
  newest : Nat := 0
  seen : List UInt64 := []
deriving DecidableEq

namespace ReplayWindow

def tooOld (window : ReplayWindow) (counter : UInt64) : Bool := counter.toNat + window.tolerance < window.newest

def record (window : ReplayWindow) (counter : UInt64) : ReplayWindow :=
  let moved := { window with newest := max window.newest counter.toNat }
  { moved with seen := (counter :: window.seen).filter (!moved.tooOld ·) }

end ReplayWindow

/-- An executable stand-in for the cipher, to run the model on concrete frames: the counter followed by
the plaintext, opened only when the very bytes are in the ledger under that key and metadata, only once,
and not when the counter has fallen behind the window. -/
def ledgerSframe (ledger : List LedgerEntry) : Sframe where
  EncryptionKey := UInt64 × Bytes32
  DecryptionKey := UInt64 × Bytes32
  Counter := UInt64
  Replay := ReplayWindow
  deriveEncryptionKey keyId material := .ok (keyId, material)
  deriveDecryptionKey keyId material := .ok (keyId, material)
  counterStart := 0
  encrypt counter _ plaintext _ := (counter + 1, .ok (u64ToBe counter ++ plaintext))
  replayStart _ tolerance := some { tolerance := tolerance }
  validatedDecrypt window key data associatedData :=
    match ledger.find? (fun entry => entry.key = key ∧ entry.data = data ∧ entry.associatedData = associatedData) with
    | none => (window, .error .other)
    | some entry =>
      if window.tooOld entry.counter then (window, .error (.replay .counterTooOld))
      else if entry.counter ∈ window.seen then (window, .error (.replay .duplicatedFrame))
      else (window.record entry.counter, .ok entry.plaintext)

def sampleEpoch : GroupMediaEpoch := ⟨3, by decide⟩

end ClassMesh
