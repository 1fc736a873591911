import ClassMesh.Foundation.Run
import ClassMesh.Protocol.FileTransfer
import ClassMesh.Security.Principal

namespace ClassMesh

open Foundation

/-- A hash that is fed piece by piece. What is known of it is that the pieces may be cut anywhere. -/
structure IncrementalDigest where
  State : Type
  new : State
  update : State → List UInt8 → State
  finalize : State → List UInt8
  digest : List UInt8 → List UInt8
  finalize_foldl : ∀ contents : List (List UInt8), finalize (contents.foldl update new) = digest contents.flatten

/-- The identity of the sender, which the guard of its authenticated control session has established. -/
structure FileTransferPeer where
  principal : PrincipalId
  controlSessionId : UInt64
deriving DecidableEq

inductive FileTransferReceiveError
  | invalidBinding
  | invalidPayload (error : FileTransferError)
  | busy
  | noActiveTransfer
  | wrongTransferOrSession
  | recentlyFinalized
  | nonSequentialChunk
  | pastDeclaredSize
  | incomplete
  | hashMismatch
  | sinkFailure
deriving DecidableEq

inductive FileTransferState
  | unspecified
  | accepted
  | progress
  | completed
  | rejected
  | cancelled
  | failed
deriving DecidableEq

def FileTransferState.toWire : FileTransferState → Int32
  | unspecified => 0
  | accepted => 1
  | progress => 2
  | completed => 3
  | rejected => 4
  | cancelled => 5
  | failed => 6

structure FileTransferStatus where
  transferId : List UInt8
  state : Int32
  nextOffset : UInt64
  diagnostic : String
deriving DecidableEq

/-- The inbox behind a receiver, as a state of any type and what the four methods do to it. -/
structure FileTransferInboxSink (σ ε : Type*) where
  begin : σ → List UInt8 → String → UInt64 → σ × Except ε Unit
  append : σ → List UInt8 → UInt64 → List UInt8 → σ × Except ε Unit
  complete : σ → List UInt8 → σ × Except ε Unit
  abort : σ → List UInt8 → σ

structure ActiveTransfer (H : IncrementalDigest) where
  peer : FileTransferPeer
  offer : FileTransferOffer
  nextOffset : UInt64
  sha256 : H.State

structure FileTransferReceiver (σ : Type*) (H : IncrementalDigest) where
  sink : σ
  active : Option (ActiveTransfer H)
  recentTerminalIds : List (List UInt8)

def validatePeer (peer : FileTransferPeer) : Except FileTransferReceiveError Unit :=
  if peer.controlSessionId = 0 then .error .invalidBinding else .ok ()

/-- A copy into an array of sixteen bytes, of an identifier that a validator has just found to have as many. -/
def validatedId (value : List UInt8) : List UInt8 := value

def status (id : List UInt8) (state : FileTransferState) (nextOffset : UInt64) : FileTransferStatus :=
  ⟨id, state.toWire, nextOffset, ""⟩

/-- Every method begins with the binding of its peer and the validator of its message. -/
def checkRequest (peer : FileTransferPeer) (validated : Except FileTransferError Unit) :
    Except FileTransferReceiveError Unit := do
  validatePeer peer
  validated.mapError .invalidPayload

def recentTerminalTransferIds : Nat := 16

inductive ReceiverInput
  | offer (peer : FileTransferPeer) (offer : FileTransferOffer)
  | chunk (peer : FileTransferPeer) (chunk : FileTransferChunk)
  | finish (peer : FileTransferPeer) (finish : FileTransferFinish)
  | cancel (peer : FileTransferPeer) (cancel : FileTransferCancel)
deriving DecidableEq

namespace FileTransferReceiver

variable {σ ε : Type*} {H : IncrementalDigest}

/-- The receiver that a method leaves, and what it returns. -/
abbrev Answer (σ : Type*) (H : IncrementalDigest) :=
  FileTransferReceiver σ H × Except FileTransferReceiveError FileTransferStatus

/-- The error is raised before the sink or the hash is asked. -/
def Early (error : FileTransferReceiveError) : Prop := error ≠ .sinkFailure ∧ error ≠ .hashMismatch

section Methods

variable (inbox : FileTransferInboxSink σ ε) (receiver : FileTransferReceiver σ H)

def new (sink : σ) : FileTransferReceiver σ H := ⟨sink, none, []⟩

def boundActive (peer : FileTransferPeer) (transferId : List UInt8) :
    Except FileTransferReceiveError (ActiveTransfer H) :=
  match receiver.active with
  | none => .error .noActiveTransfer
  | some active =>
    if active.peer ≠ peer ∨ active.offer.transferId ≠ transferId then .error .wrongTransferOrSession
    else .ok active

/-- The transfer that a chunk, a finish or a cancel is about, if the message passes all checks on the way to it. -/
def requestedActive (peer : FileTransferPeer) (validated : Except FileTransferError Unit) (transferId : List UInt8) :
    Except FileTransferReceiveError (ActiveTransfer H) := do
  checkRequest peer validated
  receiver.boundActive peer transferId

def rememberTerminal (recent : List (List UInt8)) (id : List UInt8) : List (List UInt8) :=
  (if recent.length = recentTerminalTransferIds then recent.drop 1 else recent) ++ [id]

/-- The end of a transfer, with the sink as its last method left it. -/
def finalized (sink : σ) (id : List UInt8) : FileTransferReceiver σ H :=
  ⟨sink, none, rememberTerminal receiver.recentTerminalIds id⟩

def offer (peer : FileTransferPeer) (offer : FileTransferOffer) : Answer σ H :=
  match checkRequest peer (validateOffer offer) with
  | .error error => (receiver, .error error)
  | .ok () =>
    match receiver.active with
    | some active =>
      if active.offer.transferId ≠ offer.transferId ∨ active.peer ≠ peer then
        (receiver, .error .wrongTransferOrSession)
      else if active.offer ≠ offer then (receiver, .error .busy)
      else (receiver, .ok (status active.offer.transferId .progress active.nextOffset))
    | none =>
      let id := validatedId offer.transferId
      if id ∈ receiver.recentTerminalIds then (receiver, .error .recentlyFinalized)
      else
        match inbox.begin receiver.sink id offer.filename offer.totalSize with
        | (sink, .error _) => ({ receiver with sink := inbox.abort sink id }, .error .sinkFailure)
        | (sink, .ok ()) =>
          ({ receiver with sink := sink, active := some ⟨peer, offer, 0, H.new⟩ },
            .ok (status offer.transferId .accepted 0))

def chunk (peer : FileTransferPeer) (chunk : FileTransferChunk) : Answer σ H :=
  match receiver.requestedActive peer (validateChunk chunk) chunk.transferId with
  | .error error => (receiver, .error error)
  | .ok active =>
    if chunk.offset ≠ active.nextOffset then (receiver, .error .nonSequentialChunk)
    else
      let finish := chunk.offset + UInt64.ofNat chunk.content.length
      if active.offer.totalSize < finish then (receiver, .error .pastDeclaredSize)
      else
        let id := validatedId chunk.transferId
        match inbox.append receiver.sink id chunk.offset chunk.content with
        | (sink, .error _) => (receiver.finalized (inbox.abort sink id) id, .error .sinkFailure)
        | (sink, .ok ()) =>
          ({ receiver with
              sink := sink
              active := some { active with nextOffset := finish, sha256 := H.update active.sha256 chunk.content } },
            .ok (status chunk.transferId .progress finish))

def finish (peer : FileTransferPeer) (finish : FileTransferFinish) : Answer σ H :=
  match receiver.requestedActive peer (validateFinish finish) finish.transferId with
  | .error error => (receiver, .error error)
  | .ok active =>
    if active.nextOffset ≠ active.offer.totalSize then (receiver, .error .incomplete)
    else
      let id := validatedId finish.transferId
      if H.finalize active.sha256 ≠ active.offer.sha256 then
        (receiver.finalized (inbox.abort receiver.sink id) id, .error .hashMismatch)
      else
        match inbox.complete receiver.sink id with
        | (sink, .error _) => ({ receiver with sink := inbox.abort sink id, active := none }, .error .sinkFailure)
        | (sink, .ok ()) =>
          (receiver.finalized sink id, .ok (status finish.transferId .completed active.nextOffset))

def cancel (peer : FileTransferPeer) (cancel : FileTransferCancel) : Answer σ H :=
  match receiver.requestedActive peer (validateCancel cancel) cancel.transferId with
  | .error error => (receiver, .error error)
  | .ok active =>
    let id := validatedId cancel.transferId
    (receiver.finalized (inbox.abort receiver.sink id) id, .ok (status cancel.transferId .cancelled active.nextOffset))

/-- What is left of a receiver that goes out of scope. -/
def drop : σ :=
  match receiver.active with
  | none => receiver.sink
  | some active => inbox.abort receiver.sink (validatedId active.offer.transferId)

def step : ReceiverInput → Answer σ H
  | .offer peer offer => receiver.offer inbox peer offer
  | .chunk peer chunk => receiver.chunk inbox peer chunk
  | .finish peer finish => receiver.finish inbox peer finish
  | .cancel peer cancel => receiver.cancel inbox peer cancel

end Methods

section Outcomes

variable {inbox : FileTransferInboxSink σ ε} {receiver : FileTransferReceiver σ H} {active : ActiveTransfer H}
  {peer : FileTransferPeer} {transferId : List UInt8} {validated : Except FileTransferError Unit}
  {error : FileTransferReceiveError}

/-- All that a call can do to a receiver and its sink. -/
inductive Outcome (inbox : FileTransferInboxSink σ ε) (receiver : FileTransferReceiver σ H) :
    ReceiverInput → Answer σ H → Prop
  | rejected {input : ReceiverInput} {error : FileTransferReceiveError} (early : Early error) :
      Outcome inbox receiver input (receiver, .error error)
  | repeated {active : ActiveTransfer H} (current : receiver.active = some active) :
      Outcome inbox receiver (.offer active.peer active.offer)
        (receiver, .ok (status active.offer.transferId .progress active.nextOffset))
  | refused {peer : FileTransferPeer} {offer : FileTransferOffer} {sink : σ} {error : ε}
      (valid : validateOffer offer = .ok ()) (idle : receiver.active = none)
      (begun : inbox.begin receiver.sink offer.transferId offer.filename offer.totalSize = (sink, .error error)) :
      Outcome inbox receiver (.offer peer offer)
        ({ receiver with sink := inbox.abort sink offer.transferId }, .error .sinkFailure)
  | accepted {peer : FileTransferPeer} {offer : FileTransferOffer} {sink : σ}
      (valid : validateOffer offer = .ok ()) (idle : receiver.active = none)
      (fresh : offer.transferId ∉ receiver.recentTerminalIds)
      (begun : inbox.begin receiver.sink offer.transferId offer.filename offer.totalSize = (sink, .ok ())) :
      Outcome inbox receiver (.offer peer offer)
        ({ receiver with sink := sink, active := some ⟨peer, offer, 0, H.new⟩ },
          .ok (status offer.transferId .accepted 0))
  | appendFailed {active : ActiveTransfer H} {chunk : FileTransferChunk} {sink : σ} {error : ε}
      (current : receiver.active = some active) (same : chunk.transferId = active.offer.transferId)
      (next : chunk.offset = active.nextOffset)
      (appended : inbox.append receiver.sink active.offer.transferId chunk.offset chunk.content =
        (sink, .error error)) :
      Outcome inbox receiver (.chunk active.peer chunk)
        (receiver.finalized (inbox.abort sink active.offer.transferId) active.offer.transferId, .error .sinkFailure)
  | appended {active : ActiveTransfer H} {chunk : FileTransferChunk} {sink : σ} {finish : UInt64}
      (current : receiver.active = some active) (same : chunk.transferId = active.offer.transferId)
      (next : chunk.offset = active.nextOffset)
      (length : finish.toNat = active.nextOffset.toNat + chunk.content.length)
      (fits : finish ≤ active.offer.totalSize)
      (appended : inbox.append receiver.sink active.offer.transferId chunk.offset chunk.content = (sink, .ok ())) :
      Outcome inbox receiver (.chunk active.peer chunk)
        ({ receiver with
            sink := sink
            active := some { active with nextOffset := finish, sha256 := H.update active.sha256 chunk.content } },
          .ok (status active.offer.transferId .progress finish))
  | mismatched {active : ActiveTransfer H} {finish : FileTransferFinish}
      (current : receiver.active = some active) (same : finish.transferId = active.offer.transferId)
      (different : H.finalize active.sha256 ≠ active.offer.sha256) :
      Outcome inbox receiver (.finish active.peer finish)
        (receiver.finalized (inbox.abort receiver.sink active.offer.transferId) active.offer.transferId,
          .error .hashMismatch)
  | uncommitted {active : ActiveTransfer H} {finish : FileTransferFinish} {sink : σ} {error : ε}
      (current : receiver.active = some active) (same : finish.transferId = active.offer.transferId)
      (whole : active.nextOffset = active.offer.totalSize)
      (sameHash : H.finalize active.sha256 = active.offer.sha256)
      (completed : inbox.complete receiver.sink active.offer.transferId = (sink, .error error)) :
      Outcome inbox receiver (.finish active.peer finish)
        ({ receiver with sink := inbox.abort sink active.offer.transferId, active := none }, .error .sinkFailure)
  | completed {active : ActiveTransfer H} {finish : FileTransferFinish} {sink : σ}
      (current : receiver.active = some active) (same : finish.transferId = active.offer.transferId)
      (whole : active.nextOffset = active.offer.totalSize)
      (sameHash : H.finalize active.sha256 = active.offer.sha256)
      (completed : inbox.complete receiver.sink active.offer.transferId = (sink, .ok ())) :
      Outcome inbox receiver (.finish active.peer finish)
        (receiver.finalized sink active.offer.transferId,
          .ok (status active.offer.transferId .completed active.nextOffset))
  | cancelled {active : ActiveTransfer H} {cancel : FileTransferCancel}
      (current : receiver.active = some active) (same : cancel.transferId = active.offer.transferId) :
      Outcome inbox receiver (.cancel active.peer cancel)
        (receiver.finalized (inbox.abort receiver.sink active.offer.transferId) active.offer.transferId,
          .ok (status active.offer.transferId .cancelled active.nextOffset))

theorem checkRequest_ok (passed : checkRequest peer validated = .ok ()) : validated = .ok () := by
  unfold checkRequest validatePeer at passed
  split at passed
  · cases passed
  · cases validated with
    | error => cases passed
    | ok => rfl

theorem checkRequest_error (failed : checkRequest peer validated = .error error) :
    error ≠ .sinkFailure ∧ error ≠ .hashMismatch := by
  unfold checkRequest validatePeer at failed
  split at failed
  · cases failed
    exact ⟨by decide, by decide⟩
  · cases validated with
    | error =>
      cases failed
      exact ⟨by simp, by simp⟩
    | ok => cases failed

theorem boundActive_ok (bound : receiver.boundActive peer transferId = .ok active) :
    receiver.active = some active ∧ active.peer = peer ∧ transferId = active.offer.transferId := by
  unfold boundActive at bound
  split at bound
  · cases bound
  · rename_i current found
    split at bound
    · cases bound
    · rename_i same
      cases bound
      obtain ⟨samePeer, sameId⟩ := not_or.mp same
      exact ⟨found, not_not.mp samePeer, (not_not.mp sameId).symm⟩

theorem boundActive_error (failed : receiver.boundActive peer transferId = .error error) : Early error := by
  unfold boundActive at failed
  split at failed
  · cases failed
    exact ⟨by decide, by decide⟩
  · split at failed
    · cases failed
      exact ⟨by decide, by decide⟩
    · cases failed

theorem requestedActive_ok (found : receiver.requestedActive peer validated transferId = .ok active) :
    validated = .ok () ∧ receiver.active = some active ∧ active.peer = peer ∧
      transferId = active.offer.transferId := by
  unfold requestedActive at found
  cases checked : checkRequest peer validated with
  | error =>
    rw [checked] at found
    cases found
  | ok =>
    rw [checked] at found
    exact ⟨checkRequest_ok checked, boundActive_ok found⟩

theorem requestedActive_error (failed : receiver.requestedActive peer validated transferId = .error error) :
    Early error := by
  unfold requestedActive at failed
  cases checked : checkRequest peer validated with
  | error =>
    rw [checked] at failed
    cases failed
    exact checkRequest_error checked
  | ok =>
    rw [checked] at failed
    exact boundActive_error failed

theorem offer_outcome (receiver : FileTransferReceiver σ H) (peer : FileTransferPeer) (offer : FileTransferOffer) :
    Outcome inbox receiver (.offer peer offer) (receiver.offer inbox peer offer) := by
  unfold FileTransferReceiver.offer
  split
  · rename_i error failed
    exact .rejected (checkRequest_error failed)
  · rename_i passed
    have valid := checkRequest_ok passed
    split
    · rename_i active current
      split
      · exact .rejected ⟨by decide, by decide⟩
      · rename_i same
        obtain ⟨-, samePeer⟩ := not_or.mp same
        split
        · exact .rejected ⟨by decide, by decide⟩
        · rename_i sameOffer
          cases not_not.mp samePeer
          cases not_not.mp sameOffer
          exact .repeated current
    · rename_i idle
      by_cases recent : validatedId offer.transferId ∈ receiver.recentTerminalIds
      · simp only [if_pos recent]
        exact .rejected ⟨by decide, by decide⟩
      · simp only [if_neg recent]
        simp only [validatedId]
        cases begun : inbox.begin receiver.sink offer.transferId offer.filename offer.totalSize with
        | mk sink result =>
          cases result with
          | error => exact .refused valid idle begun
          | ok => exact .accepted valid idle recent begun

/-- The validator of chunks has excluded that the end of the chunk overflows. -/
theorem validateChunk_end {chunk : FileTransferChunk} (valid : validateChunk chunk = .ok ()) :
    (chunk.offset + UInt64.ofNat chunk.content.length).toNat = chunk.offset.toNat + chunk.content.length := by
  unfold validateChunk at valid
  cases checkedId : validateTransferId chunk.transferId with
  | error =>
    rw [checkedId] at valid
    cases valid
  | ok =>
    rw [checkedId] at valid
    simp only [bind, Except.bind] at valid
    split at valid
    · cases valid
    · split at valid
      · cases valid
      · split at valid
        · cases valid
        · rename_i finish added
          have sum := checkedAdd_eq_some.mp added
          have below := finish.toNat_lt
          rw [UInt64.toNat_add, UInt64.toNat_ofNat']
          omega

theorem chunk_outcome (receiver : FileTransferReceiver σ H) (peer : FileTransferPeer) (chunk : FileTransferChunk) :
    Outcome inbox receiver (.chunk peer chunk) (receiver.chunk inbox peer chunk) := by
  unfold FileTransferReceiver.chunk
  split
  · rename_i error failed
    exact .rejected (requestedActive_error failed)
  · rename_i active found
    obtain ⟨valid, current, rfl, same⟩ := requestedActive_ok found
    split
    · exact .rejected ⟨by decide, by decide⟩
    · rename_i sequential
      have next := not_not.mp sequential
      by_cases past : active.offer.totalSize < chunk.offset + UInt64.ofNat chunk.content.length
      · simp only [if_pos past]
        exact .rejected ⟨by decide, by decide⟩
      · simp only [validatedId, if_neg past, same]
        cases appended : inbox.append receiver.sink active.offer.transferId chunk.offset chunk.content with
        | mk sink result =>
          cases result with
          | error => exact .appendFailed current same next appended
          | ok =>
            exact .appended current same next (next ▸ validateChunk_end valid) (UInt64.not_lt.mp past) appended

theorem finish_outcome (receiver : FileTransferReceiver σ H) (peer : FileTransferPeer) (finish : FileTransferFinish) :
    Outcome inbox receiver (.finish peer finish) (receiver.finish inbox peer finish) := by
  unfold FileTransferReceiver.finish
  split
  · rename_i error failed
    exact .rejected (requestedActive_error failed)
  · rename_i active found
    obtain ⟨-, current, rfl, same⟩ := requestedActive_ok found
    split
    · exact .rejected ⟨by decide, by decide⟩
    · rename_i partly
      have whole := not_not.mp partly
      by_cases different : H.finalize active.sha256 ≠ active.offer.sha256
      · simp only [validatedId, if_pos different, same]
        exact .mismatched current same different
      · simp only [validatedId, if_neg different, same]
        cases completed : inbox.complete receiver.sink active.offer.transferId with
        | mk sink result =>
          cases result with
          | error => exact .uncommitted current same whole (not_not.mp different) completed
          | ok => exact .completed current same whole (not_not.mp different) completed

theorem cancel_outcome (receiver : FileTransferReceiver σ H) (peer : FileTransferPeer) (cancel : FileTransferCancel) :
    Outcome inbox receiver (.cancel peer cancel) (receiver.cancel inbox peer cancel) := by
  unfold FileTransferReceiver.cancel
  split
  · rename_i error failed
    exact .rejected (requestedActive_error failed)
  · rename_i active found
    obtain ⟨-, current, rfl, same⟩ := requestedActive_ok found
    simp only [validatedId, same]
    exact .cancelled current same

theorem step_receives (inbox : FileTransferInboxSink σ ε) (receiver : FileTransferReceiver σ H)
    (input : ReceiverInput) : Outcome inbox receiver input (receiver.step inbox input) := by
  cases input with
  | offer peer offer => exact offer_outcome receiver peer offer
  | chunk peer chunk => exact chunk_outcome receiver peer chunk
  | finish peer finish => exact finish_outcome receiver peer finish
  | cancel peer cancel => exact cancel_outcome receiver peer cancel

end Outcomes

end FileTransferReceiver

end ClassMesh
