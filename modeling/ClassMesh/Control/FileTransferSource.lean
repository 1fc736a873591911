import ClassMesh.Control.FileTransferReceiver

namespace ClassMesh

open Foundation

inductive SourceError
  | invalidBinding
  | invalidSourceId
  | invalidPayload (error : FileTransferError)
  | busy
  | noActiveSource
  | wrongTransferOrSession
  | invalidOffset
  | sourceFailure
  | emptyRead
  | readTooLarge
  | readPastDeclaredSize
deriving DecidableEq

structure FileSourceId where
  value : Vector UInt8 16
  nonzero : ¬value.all (· = 0)
deriving DecidableEq

structure FileTransferSourceMetadata where
  filename : String
  totalSize : UInt64
  sha256 : Vector UInt8 32
deriving DecidableEq

inductive FileTransferSourceFrame
  | chunk (chunk : FileTransferChunk)
  | finish (finish : FileTransferFinish)
deriving DecidableEq

/-- The outbox behind a source session, as a state of any type and what the three methods do to it. -/
structure FileTransferOutboxSource (τ ε : Type*) where
  metadata : τ → FileSourceId → τ × Except ε FileTransferSourceMetadata
  readAt : τ → FileSourceId → UInt64 → Nat → τ × Except ε (List UInt8)
  close : τ → FileSourceId → τ

structure ActiveSource where
  peer : FileTransferPeer
  transferId : List UInt8
  sourceId : FileSourceId
  metadata : FileTransferSourceMetadata
deriving DecidableEq

structure FileTransferSourceSession (τ : Type*) where
  source : τ
  active : Option ActiveSource := none

def offerFromActive (active : ActiveSource) : FileTransferOffer :=
  ⟨active.transferId, active.metadata.filename, active.metadata.totalSize, active.metadata.sha256.toList, appInbox⟩

/-- The binding of the peer and the identifier of the transfer are checked first in every method. -/
def checkBinding (peer : FileTransferPeer) (transferId : List UInt8) : Except SourceError Unit := do
  if peer.controlSessionId = 0 then throw .invalidBinding
  (validateTransferId transferId).mapError .invalidPayload

namespace FileTransferSourceSession

variable {τ ε : Type*} (outbox : FileTransferOutboxSource τ ε) (session : FileTransferSourceSession τ)

def boundActive (peer : FileTransferPeer) (transferId : List UInt8) : Except SourceError ActiveSource := do
  checkBinding peer transferId
  match session.active with
  | none => throw .noActiveSource
  | some active =>
    if active.peer ≠ peer ∨ active.transferId ≠ transferId then throw .wrongTransferOrSession else pure active

def offer (peer : FileTransferPeer) (transferId : List UInt8) (sourceId : FileSourceId) :
    FileTransferSourceSession τ × Except SourceError FileTransferOffer :=
  match checkBinding peer transferId with
  | .error error => (session, .error error)
  | .ok () =>
    match session.active with
    | some active =>
      if active.peer ≠ peer ∨ active.transferId ≠ transferId ∨ active.sourceId ≠ sourceId then (session, .error .busy)
      else (session, .ok (offerFromActive active))
    | none =>
      match outbox.metadata session.source sourceId with
      | (source, .error _) => (⟨outbox.close source sourceId, none⟩, .error .sourceFailure)
      | (source, .ok metadata) =>
        let candidate := offerFromActive ⟨peer, transferId, sourceId, metadata⟩
        match validateOffer candidate with
        | .error error => (⟨outbox.close source sourceId, none⟩, .error (.invalidPayload error))
        | .ok () => (⟨source, some ⟨peer, transferId, sourceId, metadata⟩⟩, .ok candidate)

def chunk (peer : FileTransferPeer) (transferId : List UInt8) (offset : UInt64) :
    FileTransferSourceSession τ × Except SourceError FileTransferChunk :=
  match session.boundActive peer transferId with
  | .error error => (session, .error error)
  | .ok active =>
    if active.metadata.totalSize ≤ offset then (session, .error .invalidOffset)
    else
      let maxBytes := min (active.metadata.totalSize.toNat - offset.toNat) maxFileChunkBytes
      match outbox.readAt session.source active.sourceId offset maxBytes with
      | (source, .error _) => ({ session with source := source }, .error .sourceFailure)
      | (source, .ok content) =>
        let result : Except SourceError FileTransferChunk := do
          if content.isEmpty then throw .emptyRead
          if maxBytes < content.length ∨ maxFileChunkBytes < content.length then throw .readTooLarge
          match checkedAdd offset content.length with
          | none => throw .readPastDeclaredSize
          | some finish =>
            if active.metadata.totalSize < finish then throw .readPastDeclaredSize
            let chunk : FileTransferChunk := ⟨active.transferId, offset, content⟩
            (validateChunk chunk).mapError .invalidPayload
            pure chunk
        ({ session with source := source }, result)

def finish (peer : FileTransferPeer) (transferId : List UInt8) : Except SourceError FileTransferFinish := do
  let active ← session.boundActive peer transferId
  let finish : FileTransferFinish := ⟨active.transferId⟩
  (validateFinish finish).mapError .invalidPayload
  pure finish

def next (peer : FileTransferPeer) (transferId : List UInt8) (nextOffset : UInt64) :
    FileTransferSourceSession τ × Except SourceError FileTransferSourceFrame :=
  match session.boundActive peer transferId with
  | .error error => (session, .error error)
  | .ok active =>
    if active.metadata.totalSize < nextOffset then (session, .error .invalidOffset)
    else if nextOffset = active.metadata.totalSize then
      (session, (session.finish peer transferId).map .finish)
    else
      let (after, result) := session.chunk outbox peer transferId nextOffset
      (after, result.map .chunk)

end FileTransferSourceSession

theorem checkBinding_ok {peer : FileTransferPeer} {transferId : List UInt8} :
    checkBinding peer transferId = .ok () ↔ peer.controlSessionId ≠ 0 ∧ validateTransferId transferId = .ok () := by
  unfold checkBinding
  by_cases unbound : peer.controlSessionId = 0
  · simp [unbound, throw, throwThe, MonadExceptOf.throw, bind, Except.bind]
  · cases validated : validateTransferId transferId <;>
      simp [unbound, Except.mapError]

section Offered

variable {τ ε : Type*} {outbox : FileTransferOutboxSource τ ε} {session after : FileTransferSourceSession τ}
  {peer : FileTransferPeer} {transferId : List UInt8} {sourceId : FileSourceId} {offer : FileTransferOffer}
  {active : ActiveSource}

/-- The session is bound to a transfer that it offered to this peer. -/
structure Serves (session : FileTransferSourceSession τ) (peer : FileTransferPeer) (active : ActiveSource) : Prop where
  current : session.active = some active
  owner : active.peer = peer
  bound : peer.controlSessionId ≠ 0
  valid : validateTransferId active.transferId = .ok ()

theorem Serves.boundActive (serves : Serves session peer active) :
    session.boundActive peer active.transferId = .ok active := by
  unfold FileTransferSourceSession.boundActive
  rw [checkBinding_ok.mpr ⟨serves.bound, serves.valid⟩, serves.current]
  simp [bind, Except.bind, serves.owner, pure, Except.pure]

theorem Serves.finish (serves : Serves session peer active) :
    session.finish peer active.transferId = .ok ⟨active.transferId⟩ := by
  unfold FileTransferSourceSession.finish validateFinish
  rw [serves.boundActive]
  simp only [bind, Except.bind, serves.valid]
  rfl

/-- An offer that an idle session makes is valid, and binds the session to it. -/
theorem offer_serves (idle : session.active = none)
    (offered : session.offer outbox peer transferId sourceId = (after, .ok offer)) :
    ∃ metadata, Serves after peer ⟨peer, transferId, sourceId, metadata⟩ ∧
      offer = offerFromActive ⟨peer, transferId, sourceId, metadata⟩ ∧ validateOffer offer = .ok () := by
  unfold FileTransferSourceSession.offer at offered
  rw [idle] at offered
  split at offered
  · cases offered
  · rename_i checked
    obtain ⟨bound, valid⟩ := checkBinding_ok.mp checked
    dsimp only at offered
    split at offered
    · cases offered
    · rename_i source metadata _
      split at offered
      · cases offered
      · rename_i passed
        cases offered
        exact ⟨metadata, ⟨rfl, rfl, bound, valid⟩, rfl, passed⟩

theorem validateOffer_size (valid : validateOffer offer = .ok ()) : offer.totalSize ≤ maxFileTransferBytes := by
  unfold validateOffer at valid
  by_contra large
  have exceeded : offer.totalSize = 0 ∨ maxFileTransferBytes < offer.totalSize := .inr (UInt64.not_le.mp large)
  cases named : validateTransferId offer.transferId with
  | error => simp [named, bind, Except.bind] at valid
  | ok =>
    cases written : validateFilename offer.filename with
    | error => simp [named, written, bind, Except.bind] at valid
    | ok => simp [named, written, exceeded, bind, Except.bind, throw, throwThe, MonadExceptOf.throw] at valid

/-- The validator of chunks passes a piece of a file of permitted size. -/
theorem validateChunk_ok {chunk : FileTransferChunk} {finish : UInt64}
    (valid : validateTransferId chunk.transferId = .ok ()) (nonempty : chunk.content ≠ [])
    (small : chunk.content.length ≤ maxFileChunkBytes)
    (ends : checkedAdd chunk.offset chunk.content.length = some finish) (permitted : finish ≤ maxFileTransferBytes) :
    validateChunk chunk = .ok () := by
  unfold validateChunk
  simp only [valid, bind, Except.bind, List.isEmpty_iff, if_neg nonempty, if_neg (Nat.not_lt.mpr small), ends,
    if_neg (UInt64.not_lt.mpr permitted)]
  rfl

/-- A read of at least one byte and no more than asked for becomes a chunk. -/
theorem Serves.chunk {source : τ} {content : List UInt8} {offset finish : UInt64}
    (serves : Serves session peer active) (before : offset.toNat < active.metadata.totalSize.toNat)
    (permitted : active.metadata.totalSize ≤ maxFileTransferBytes)
    (read : outbox.readAt session.source active.sourceId offset
      (min (active.metadata.totalSize.toNat - offset.toNat) maxFileChunkBytes) = (source, .ok content))
    (nonempty : content ≠ [])
    (small : content.length ≤ min (active.metadata.totalSize.toNat - offset.toNat) maxFileChunkBytes)
    (ends : finish.toNat = offset.toNat + content.length) :
    validateChunk ⟨active.transferId, offset, content⟩ = .ok () ∧ finish ≤ active.metadata.totalSize ∧
      session.next outbox peer active.transferId offset =
        ({ session with source := source }, .ok (.chunk ⟨active.transferId, offset, content⟩)) := by
  have added := checkedAdd_eq_some.mpr ends
  have within : finish ≤ active.metadata.totalSize := by
    rw [UInt64.le_iff_toNat_le]
    omega
  have valid : validateChunk ⟨active.transferId, offset, content⟩ = .ok () := by
    refine validateChunk_ok serves.valid nonempty (small.trans (Nat.min_le_right _ _)) added ?_
    rw [UInt64.le_iff_toNat_le] at permitted within ⊢
    omega
  have early : ¬active.metadata.totalSize < offset := by
    rw [UInt64.lt_iff_toNat_lt]
    omega
  have inside : ¬active.metadata.totalSize ≤ offset := by
    rw [UInt64.le_iff_toNat_le]
    omega
  have unfinished : offset ≠ active.metadata.totalSize := by
    rintro rfl
    omega
  have large : ¬(min (active.metadata.totalSize.toNat - offset.toNat) maxFileChunkBytes < content.length ∨
      maxFileChunkBytes < content.length) := by
    omega
  refine ⟨valid, within, ?_⟩
  simp only [FileTransferSourceSession.next, serves.boundActive, if_neg early, if_neg unfinished,
    FileTransferSourceSession.chunk, if_neg inside, read, List.isEmpty_iff, if_neg nonempty, if_neg large, added,
    if_neg (UInt64.not_lt.mpr within), valid]
  rfl

theorem Serves.next_finish (serves : Serves session peer active) :
    session.next outbox peer active.transferId active.metadata.totalSize =
      (session, .ok (.finish ⟨active.transferId⟩)) := by
  simp only [FileTransferSourceSession.next, serves.boundActive, UInt64.lt_irrefl, if_false, if_true, serves.finish]
  rfl

end Offered

end ClassMesh
