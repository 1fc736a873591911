import ClassMesh.Control.TransferMemory
import ClassMesh.Control.FileTransferSource

namespace ClassMesh

open Foundation FileTransferReceiver FileTransferChunk

variable {τ σ δ ε : Type*} {H : IncrementalDigest}

/-- A source and a receiver, with the offset that the receiver has last reported. -/
structure PullState (τ σ : Type*) (H : IncrementalDigest) where
  source : FileTransferSourceSession τ
  receiver : FileTransferReceiver σ H
  nextOffset : UInt64

inductive PullReply
  | noFrame (error : SourceError)
  | refused (frame : FileTransferSourceFrame) (error : FileTransferReceiveError)
  | accepted (frame : FileTransferSourceFrame) (status : FileTransferStatus)
deriving DecidableEq

/-- The receiver expects another frame. -/
def PullReply.goesOn : PullReply → Bool
  | accepted _ status => status.state ≠ FileTransferState.completed.toWire
  | noFrame _ | refused _ _ => false

section Loop

variable (outbox : FileTransferOutboxSource τ δ) (inbox : FileTransferInboxSink σ ε)
  (peer sender : FileTransferPeer) (transferId : List UInt8)

def feed (receiver : FileTransferReceiver σ H) :
    FileTransferSourceFrame → FileTransferReceiver σ H × Except FileTransferReceiveError FileTransferStatus
  | .chunk chunk => receiver.chunk inbox sender chunk
  | .finish finish => receiver.finish inbox sender finish

def pullStep (state : PullState τ σ H) : PullState τ σ H × PullReply :=
  match state.source.next outbox peer transferId state.nextOffset with
  | (source, .error error) => ({ state with source := source }, .noFrame error)
  | (source, .ok frame) =>
    match feed inbox sender state.receiver frame with
    | (receiver, .error error) => ({ state with source := source, receiver := receiver }, .refused frame error)
    | (receiver, .ok status) => (⟨source, receiver, status.nextOffset⟩, .accepted frame status)

/-- The pull loop, for so many frames at most. -/
def pull : Nat → PullState τ σ H → PullState τ σ H × List PullReply
  | 0, state => (state, [])
  | fuel + 1, state =>
    let (after, reply) := pullStep outbox inbox peer sender transferId state
    if reply.goesOn then
      let (last, replies) := pull fuel after
      (last, reply :: replies)
    else (after, [reply])

end Loop

/-- Every read returns a first part of what the content has at the offset: at least a byte, and no more than asked
for. -/
def ReadsContent (outbox : FileTransferOutboxSource τ δ) (sourceId : FileSourceId) (content : List UInt8) : Prop :=
  ∀ source offset maxBytes, offset.toNat < content.length → 0 < maxBytes → ∃ after piece,
    outbox.readAt source sourceId offset maxBytes = (after, .ok piece) ∧ piece ≠ [] ∧ piece.length ≤ maxBytes ∧
      piece <+: content.drop offset.toNat

structure NeverFails (inbox : FileTransferInboxSink σ ε) : Prop where
  begin : ∀ s id filename size, (inbox.begin s id filename size).2 = .ok ()
  append : ∀ s id offset content, (inbox.append s id offset content).2 = .ok ()
  complete : ∀ s id, (inbox.complete s id).2 = .ok ()

section Receiver

variable {inbox : FileTransferInboxSink σ ε} {receiver : FileTransferReceiver σ H} {active : ActiveTransfer H}
  (current : receiver.active = some active) (bound : active.peer.controlSessionId ≠ 0)

theorem NeverFails.recorded_append (never : NeverFails inbox) (s : σ × List SinkCall) (id : List UInt8)
    (offset : UInt64) (content : List UInt8) :
    ∃ after, inbox.recorded.append s id offset content =
      ((after, s.2 ++ [.append id offset content true]), .ok ()) := by
  refine ⟨(inbox.append s.1 id offset content).1, ?_⟩
  have stored := never.append s.1 id offset content
  simp only [FileTransferInboxSink.recorded, stored]
  rfl

theorem NeverFails.recorded_complete (never : NeverFails inbox) (s : σ × List SinkCall) (id : List UInt8) :
    ∃ after, inbox.recorded.complete s id = ((after, s.2 ++ [.complete id true]), .ok ()) := by
  refine ⟨(inbox.complete s.1 id).1, ?_⟩
  have stored := never.complete s.1 id
  simp only [FileTransferInboxSink.recorded, stored]
  rfl

include current bound

theorem requestedActive_eq {validated : Except FileTransferError Unit} (valid : validated = .ok ()) :
    receiver.requestedActive active.peer validated active.offer.transferId = .ok active := by
  unfold requestedActive checkRequest validatePeer boundActive
  rw [if_neg bound, valid, current]
  simp [bind, Except.bind, Except.mapError]

theorem chunk_accepted {chunk : FileTransferChunk} {sink : σ} {finish : UInt64} (valid : validateChunk chunk = .ok ())
    (same : chunk.transferId = active.offer.transferId) (next : chunk.offset = active.nextOffset)
    (ends : finish.toNat = chunk.offset.toNat + chunk.content.length) (fits : finish ≤ active.offer.totalSize)
    (appended : inbox.append receiver.sink chunk.transferId chunk.offset chunk.content = (sink, .ok ())) :
    receiver.chunk inbox active.peer chunk =
      ({ receiver with
          sink := sink
          active := some { active with nextOffset := finish, sha256 := H.update active.sha256 chunk.content } },
        .ok (status chunk.transferId .progress finish)) := by
  have sum : chunk.offset + UInt64.ofNat chunk.content.length = finish :=
    UInt64.toNat_inj.mp ((validateChunk_end valid).trans ends.symm)
  have requested := requestedActive_eq current bound valid
  rw [← same] at requested
  unfold FileTransferReceiver.chunk
  simp only [requested, if_neg (not_not.mpr next), sum, if_neg (UInt64.not_lt.mpr fits), validatedId, appended]

theorem finish_accepted {sink : σ} (valid : validateTransferId active.offer.transferId = .ok ())
    (whole : active.nextOffset = active.offer.totalSize) (hash : H.finalize active.sha256 = active.offer.sha256)
    (completed : inbox.complete receiver.sink active.offer.transferId = (sink, .ok ())) :
    receiver.finish inbox active.peer ⟨active.offer.transferId⟩ =
      (receiver.finalized sink active.offer.transferId,
        .ok (status active.offer.transferId .completed active.nextOffset)) := by
  unfold FileTransferReceiver.finish validateFinish
  simp only [requestedActive_eq current bound valid, whole, hash, ne_eq, not_true_eq_false, if_false, validatedId,
    completed]

end Receiver

section Delivery

variable {outbox : FileTransferOutboxSource τ δ} {inbox : FileTransferInboxSink σ ε}
  {peer sender : FileTransferPeer} {content : List UInt8} {active : ActiveSource}
  {state : PullState τ (σ × List SinkCall) H}

/-- The two sides agree on the transfer, and the receiver has the content up to its offset. -/
structure Pulling (peer sender : FileTransferPeer) (content : List UInt8) (active : ActiveSource)
    (state : PullState τ (σ × List SinkCall) H) : Prop where
  serves : Serves state.source peer active
  permitted : active.metadata.totalSize ≤ maxFileTransferBytes
  size : active.metadata.totalSize.toNat = content.length
  hash : active.metadata.sha256.toList = H.digest content
  bound : sender.controlSessionId ≠ 0
  within : state.nextOffset.toNat ≤ content.length
  received : ∃ pieces : List (List UInt8), pieces.flatten = content.take state.nextOffset.toNat ∧
    state.receiver.active = some ⟨sender, offerFromActive active, state.nextOffset, pieces.foldl H.update H.new⟩

def chunkReply (chunk : FileTransferChunk) : PullReply :=
  .accepted (.chunk chunk) (status chunk.transferId .progress (chunk.offset + UInt64.ofNat chunk.content.length))

def finishReply (transferId : List UInt8) (totalSize : UInt64) : PullReply :=
  .accepted (.finish ⟨transferId⟩) (status transferId .completed totalSize)

def appendOf (chunk : FileTransferChunk) : SinkCall := .append chunk.transferId chunk.offset chunk.content true

/-- As long as content is missing, the next frame is a chunk that the receiver accepts. -/
theorem Pulling.chunk (pulling : Pulling peer sender content active state)
    (reads : ReadsContent outbox active.sourceId content) (never : NeverFails inbox)
    (missing : state.nextOffset.toNat < content.length) :
    ∃ chunk after, pullStep outbox inbox.recorded peer sender active.transferId state = (after, chunkReply chunk) ∧
      chunk.content ≠ [] ∧ chunk.content <+: content.drop state.nextOffset.toNat ∧
      after.nextOffset.toNat = state.nextOffset.toNat + chunk.content.length ∧
      after.receiver.sink.2 = state.receiver.sink.2 ++ [appendOf chunk] ∧ Pulling peer sender content active after := by
  obtain ⟨pieces, joined, current⟩ := pulling.received
  have size := pulling.size
  have positive : 0 < min (active.metadata.totalSize.toNat - state.nextOffset.toNat) maxFileChunkBytes := by
    unfold maxFileChunkBytes
    omega
  obtain ⟨source, piece, read, nonempty, small, begins⟩ := reads state.source.source state.nextOffset _ missing positive
  have limit := active.metadata.totalSize.toNat_lt
  obtain ⟨finish, ends⟩ : ∃ finish : UInt64, finish.toNat = state.nextOffset.toNat + piece.length := by
    refine ⟨UInt64.ofNat (state.nextOffset.toNat + piece.length), ?_⟩
    rw [UInt64.toNat_ofNat', Nat.mod_eq_of_lt]
    omega
  obtain ⟨valid, fits, framed⟩ := pulling.serves.chunk (by omega) pulling.permitted read nonempty small ends
  obtain ⟨sink, stored⟩ := never.recorded_append state.receiver.sink active.transferId state.nextOffset piece
  have taken : state.receiver.chunk inbox.recorded sender ⟨active.transferId, state.nextOffset, piece⟩ = _ :=
    chunk_accepted current pulling.bound valid rfl rfl ends fits stored
  have sum : state.nextOffset + UInt64.ofNat piece.length = finish :=
    UInt64.toNat_inj.mp ((validateChunk_end valid).trans ends.symm)
  refine ⟨⟨active.transferId, state.nextOffset, piece⟩,
    (pullStep outbox inbox.recorded peer sender active.transferId state).1, ?_, nonempty, begins, ?_⟩
  · simp only [pullStep, framed, feed, taken, chunkReply, sum]
  · simp only [pullStep, framed, feed, taken]
    refine ⟨ends, rfl, ⟨pulling.serves.current, pulling.serves.owner, pulling.serves.bound, pulling.serves.valid⟩,
      pulling.permitted, size, pulling.hash, pulling.bound, ?_, pieces ++ [piece], ?_, ?_⟩
    · rw [UInt64.le_iff_toNat_le] at fits
      exact fits.trans_eq size
    · rw [List.flatten_append, List.flatten_singleton, joined]
      obtain ⟨_, split⟩ := begins
      simp only [status, ends, List.take_add, ← split, List.take_left]
    · simp only [List.foldl_append, List.foldl_cons, List.foldl_nil, status]

/-- Once the receiver has all of the content, the next frame finishes the transfer. -/
theorem Pulling.finish (outbox : FileTransferOutboxSource τ δ) (pulling : Pulling peer sender content active state)
    (never : NeverFails inbox) (whole : state.nextOffset.toNat = content.length) :
    ∃ after, pullStep outbox inbox.recorded peer sender active.transferId state =
        (after, finishReply active.transferId active.metadata.totalSize) ∧
      after.receiver.sink.2 = state.receiver.sink.2 ++ [.complete active.transferId true] ∧
      after.receiver.active = none := by
  obtain ⟨pieces, joined, current⟩ := pulling.received
  have offset : state.nextOffset = active.metadata.totalSize := UInt64.toNat_inj.mp (whole.trans pulling.size.symm)
  have hash : H.finalize (pieces.foldl H.update H.new) = active.metadata.sha256.toList := by
    rw [H.finalize_foldl, joined, whole, List.take_length, pulling.hash]
  obtain ⟨sink, stored⟩ := never.recorded_complete state.receiver.sink active.transferId
  have taken : state.receiver.finish inbox.recorded sender ⟨active.transferId⟩ = _ :=
    finish_accepted current pulling.bound pulling.serves.valid offset hash stored
  have framed : state.source.next outbox peer active.transferId active.metadata.totalSize = _ :=
    pulling.serves.next_finish
  rw [← offset] at framed
  refine ⟨(pullStep outbox inbox.recorded peer sender active.transferId state).1, ?_, ?_⟩
  · simp only [pullStep, framed, feed, taken, finishReply]
    rw [← offset]
    rfl
  · simp only [pullStep, framed, feed, taken, finalized, and_self]

/-- From any offset, the loop goes through the rest of the content. -/
theorem Pulling.deliver (pulling : Pulling peer sender content active state)
    (reads : ReadsContent outbox active.sourceId content) (never : NeverFails inbox) :
    ∃ chunks last,
      chunks.length ≤ content.length - state.nextOffset.toNat ∧
      contents chunks = content.drop state.nextOffset.toNat ∧
      (∀ fuel, content.length - state.nextOffset.toNat < fuel →
        pull outbox inbox.recorded peer sender active.transferId fuel state =
          (last, chunks.map chunkReply ++ [finishReply active.transferId active.metadata.totalSize])) ∧
      last.receiver.sink.2 = state.receiver.sink.2 ++ (chunks.map appendOf ++ [.complete active.transferId true]) ∧
      last.receiver.active = none := by
  -- every chunk brings the offset closer to the end, by a byte at least
  induction remaining : content.length - state.nextOffset.toNat using Nat.strong_induction_on generalizing state with
  | _ n ih =>
    have within := pulling.within
    by_cases whole : state.nextOffset.toNat = content.length
    · obtain ⟨after, taken, logged, idle⟩ := pulling.finish outbox never whole
      refine ⟨[], after, Nat.zero_le _, ?_, fun fuel enough => ?_, logged, idle⟩
      · rw [whole, List.drop_length]
        rfl
      · cases fuel with
        | zero => omega
        | succ =>
          rw [pull, taken]
          rfl
    · obtain ⟨chunk, _, taken, nonempty, begins, moved, logged, still⟩ := pulling.chunk reads never (by omega)
      have longer := List.length_pos_of_ne_nil nonempty
      have bound := still.within
      obtain ⟨chunks, last, _, joined, more, loggedAll, idle⟩ := ih _ (by omega) still rfl
      refine ⟨chunk :: chunks, last, ?_, ?_, fun fuel enough => ?_, ?_, idle⟩
      · rw [List.length_cons]
        omega
      · obtain ⟨_, split⟩ := begins
        rw [contents, List.flatMap_cons, ← contents, joined, moved, ← List.drop_drop, ← split, List.drop_left]
      · cases fuel with
        | zero => omega
        | succ fuel =>
          rw [pull, taken]
          simp only [more fuel (by omega)]
          rfl
      · rw [loggedAll, logged, List.map_cons, List.append_assoc]
        rfl

/-- An idle receiver whose sink works accepts a valid offer that it does not remember. -/
theorem offer_accepted {receiver : FileTransferReceiver (σ × List SinkCall) H} {offer : FileTransferOffer}
    (never : NeverFails inbox) (idle : receiver.active = none) (fresh : offer.transferId ∉ receiver.recentTerminalIds)
    (bound : sender.controlSessionId ≠ 0) (valid : validateOffer offer = .ok ()) :
    ∃ accepting, receiver.offer inbox.recorded sender offer = (accepting, .ok (status offer.transferId .accepted 0)) ∧
      accepting.active = some ⟨sender, offer, 0, H.new⟩ := by
  have stored := never.begin receiver.sink.1 offer.transferId offer.filename offer.totalSize
  have checked : checkRequest sender (validateOffer offer) = .ok () := by
    unfold checkRequest validatePeer
    rw [if_neg bound, valid]
    rfl
  refine ⟨(receiver.offer inbox.recorded sender offer).1, ?_⟩
  unfold FileTransferReceiver.offer
  simp only [checked, idle, validatedId, if_neg fresh, FileTransferInboxSink.recorded, stored, and_self]

/-- The pull loop delivers the file: a receiver whose sink never fails accepts the offer, and then every frame. After
no more chunks than the file has bytes comes the finish, and the sink has been given the content and nothing else. -/
theorem pull_delivers_file {session offering : FileTransferSourceSession τ} {transferId : List UInt8}
    {sourceId : FileSourceId} {offer : FileTransferOffer} {receiver : FileTransferReceiver (σ × List SinkCall) H}
    (unused : session.active = none) (offered : session.offer outbox peer transferId sourceId = (offering, .ok offer))
    (size : offer.totalSize.toNat = content.length) (hash : offer.sha256 = H.digest content)
    (reads : ReadsContent outbox sourceId content) (never : NeverFails inbox) (idle : receiver.active = none)
    (fresh : transferId ∉ receiver.recentTerminalIds) (bound : sender.controlSessionId ≠ 0) :
    ∃ accepting chunks last,
      receiver.offer inbox.recorded sender offer = (accepting, .ok (status transferId .accepted 0)) ∧
      (∀ fuel, content.length < fuel → pull outbox inbox.recorded peer sender transferId fuel ⟨offering, accepting, 0⟩ =
        (last, chunks.map chunkReply ++ [finishReply transferId offer.totalSize])) ∧
      chunks.length ≤ content.length ∧ contents chunks = content ∧
      last.receiver.sink.2 = accepting.sink.2 ++ (chunks.map appendOf ++ [.complete transferId true]) ∧
      last.receiver.active = none := by
  obtain ⟨metadata, serves, rfl, valid⟩ := offer_serves unused offered
  obtain ⟨accepting, accepted, current⟩ := offer_accepted never idle fresh bound valid
  have pulling : Pulling peer sender content ⟨peer, transferId, sourceId, metadata⟩ ⟨offering, accepting, 0⟩ :=
    ⟨serves, validateOffer_size valid, size, hash, bound, Nat.zero_le _, [], rfl, current⟩
  obtain ⟨chunks, last, few, joined, pulled, logged, settled⟩ := pulling.deliver reads never
  exact ⟨accepting, chunks, last, accepted, pulled, few, joined, logged, settled⟩

/-- An outbox with one file, which is read two bytes at a time. -/
def twoBytesAtATime (content : List UInt8) : FileTransferOutboxSource Unit Unit where
  metadata s _ := (s, .ok ⟨"lesson.pdf", UInt64.ofNat content.length, ⟨(leadingBytes.digest content).toArray, by
    simp [leadingBytes]⟩⟩)
  readAt s _ offset maxBytes := (s, .ok ((content.drop offset.toNat).take (min maxBytes 2)))
  close s _ := s

theorem twoBytesAtATime_reads (content : List UInt8) (sourceId : FileSourceId) :
    ReadsContent (twoBytesAtATime content) sourceId content := by
  intro source offset maxBytes before positive
  refine ⟨source, _, rfl, ?_, ?_, List.take_prefix _ _⟩
  · intro empty
    have length := congrArg List.length empty
    rw [List.length_take, List.length_drop, List.length_nil] at length
    omega
  · rw [List.length_take]
    omega

def sampleFile : List UInt8 := [1, 2, 3]

def sampleSource : FileSourceId := ⟨.replicate 16 7, by decide +kernel⟩

/-- A file of three bytes, for a receiver that has received nothing yet. -/
theorem pull_delivers_three_bytes :
    let start : FileTransferReceiver (Unit × List SinkCall) leadingBytes := .new ((), [])
    ∃ offering accepting chunks last,
      FileTransferSourceSession.offer (twoBytesAtATime sampleFile) ⟨(), none⟩ sampleSender (sampleOffer 1).transferId
          sampleSource = (offering, .ok (sampleOffer 1)) ∧
        start.offer acceptsAll.recorded sampleSender (sampleOffer 1) =
          (accepting, .ok (status (sampleOffer 1).transferId .accepted 0)) ∧
        pull (twoBytesAtATime sampleFile) acceptsAll.recorded sampleSender sampleSender (sampleOffer 1).transferId 4
            ⟨offering, accepting, 0⟩ =
          (last, chunks.map chunkReply ++ [finishReply (sampleOffer 1).transferId 3]) ∧
        contents chunks = sampleFile := by
  intro start
  have offered : FileTransferSourceSession.offer (twoBytesAtATime sampleFile) ⟨(), none⟩ sampleSender
      (sampleOffer 1).transferId sampleSource = (_, .ok (sampleOffer 1)) := Prod.ext rfl (by decide +kernel)
  have never : NeverFails acceptsAll := ⟨fun _ _ _ _ => rfl, fun _ _ _ _ => rfl, fun _ _ => rfl⟩
  have idle : start.active = none := rfl
  have fresh : (sampleOffer 1).transferId ∉ start.recentTerminalIds := List.not_mem_nil
  have bound : sampleSender.controlSessionId ≠ 0 := by decide
  obtain ⟨accepting, chunks, last, accepted, pulled, _, joined, _⟩ :=
    pull_delivers_file rfl offered (by decide) (by decide) (twoBytesAtATime_reads sampleFile sampleSource)
      never idle fresh
      bound
  exact ⟨_, accepting, chunks, last, offered, accepted, pulled 4 (by decide), joined⟩

end Delivery

end ClassMesh
