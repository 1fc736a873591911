import ClassMesh.Control.FileTransferReceiver

namespace ClassMesh

open Foundation FileTransferReceiver FileTransferChunk

inductive SinkCall
  | begin (id : List UInt8) (filename : String) (size : UInt64) (succeeded : Bool)
  | append (id : List UInt8) (offset : UInt64) (content : List UInt8) (succeeded : Bool)
  | complete (id : List UInt8) (succeeded : Bool)
  | abort (id : List UInt8)
deriving DecidableEq

def SinkCall.isBegin : SinkCall → Bool
  | .begin .. => true
  | _ => false

/-- What ends a transfer: a completion that succeeds, or an abort. -/
def SinkCall.isEnding : SinkCall → Bool
  | .complete _ succeeded => succeeded
  | .abort _ => true
  | _ => false

variable {σ ε : Type*} {H : IncrementalDigest} {chunks : List FileTransferChunk} {active : ActiveTransfer H}
  {inbox : FileTransferInboxSink σ ε}

/-- The same sink, with a record of the calls it has received and of their success. -/
def FileTransferInboxSink.recorded (inbox : FileTransferInboxSink σ ε) :
    FileTransferInboxSink (σ × List SinkCall) ε where
  begin s id filename size :=
    let (next, result) := inbox.begin s.1 id filename size
    ((next, s.2 ++ [.begin id filename size result.isOk]), result)
  append s id offset content :=
    let (next, result) := inbox.append s.1 id offset content
    ((next, s.2 ++ [.append id offset content result.isOk]), result)
  complete s id :=
    let (next, result) := inbox.complete s.1 id
    ((next, s.2 ++ [.complete id result.isOk]), result)
  abort s id := (inbox.abort s.1 id, s.2 ++ [.abort id])

abbrev ReceiverCall (σ : Type*) (H : IncrementalDigest) :=
  Call (FileTransferReceiver (σ × List SinkCall) H) ReceiverInput (Except FileTransferReceiveError FileTransferStatus)

/-- The calls on the sink that a call on the receiver makes. -/
def sinkCalls (call : ReceiverCall σ H) : List SinkCall := call.after.sink.2.drop call.before.sink.2.length

/-- A call on the sink with the call on the receiver that makes it, or none if the receiver is being dropped. -/
abbrev AttributedCall := Option ReceiverInput × SinkCall

def attributed (past : List (ReceiverCall σ H)) : List AttributedCall :=
  past.flatMap fun call => (sinkCalls call).map (some call.input, ·)

/-- Everything that the sink of a receiver is called for, from the creation of the receiver to its drop. -/
def sinkLog (inbox : FileTransferInboxSink σ ε) (past : List (ReceiverCall σ H))
    (receiver : FileTransferReceiver (σ × List SinkCall) H) : List AttributedCall :=
  attributed past ++ ((receiver.drop inbox.recorded).2.drop receiver.sink.2.length).map (none, ·)

/-- The endings in a log up to the next `begin`. -/
def AttributedCall.endings (log : List AttributedCall) : List SinkCall :=
  ((log.map (·.2)).takeWhile (!·.isBegin)).filter SinkCall.isEnding

open AttributedCall

def FileTransferChunk.contents (chunks : List FileTransferChunk) : List UInt8 := chunks.flatMap (·.content)

/-- Each chunk starts where the chunks before it end, the first one at zero. -/
def Contiguous (chunks : List FileTransferChunk) : Prop :=
  ∀ front chunk rest, chunks = front ++ chunk :: rest → chunk.offset.toNat = (contents front).length

def begunBy (peer : FileTransferPeer) (offer : FileTransferOffer) (succeeded : Bool) : AttributedCall :=
  (some (.offer peer offer), .begin offer.transferId offer.filename offer.totalSize succeeded)

def appendedBy (peer : FileTransferPeer) (id : List UInt8) (chunk : FileTransferChunk) : AttributedCall :=
  (some (.chunk peer chunk), .append id chunk.offset chunk.content true)

/-- The chunks are all of the offered content, and have the offered hash. -/
structure Verified (H : IncrementalDigest) (offer : FileTransferOffer) (chunks : List FileTransferChunk) : Prop where
  contiguous : Contiguous chunks
  whole : (contents chunks).length = offer.totalSize.toNat
  hash : H.digest (contents chunks) = offer.sha256

/-- The receiver's account of the chunks it has accepted. -/
structure Received (active : ActiveTransfer H) (chunks : List FileTransferChunk) : Prop where
  contiguous : Contiguous chunks
  length : (contents chunks).length = active.nextOffset.toNat
  hashed : active.sha256 = (chunks.map (·.content)).foldl H.update H.new

theorem Received.start (peer : FileTransferPeer) (offer : FileTransferOffer) :
    Received (⟨peer, offer, 0, H.new⟩ : ActiveTransfer H) [] :=
  ⟨by simp [Contiguous], rfl, rfl⟩

theorem Received.verified (received : Received active chunks) (whole : active.nextOffset = active.offer.totalSize)
    (sameHash : H.finalize active.sha256 = active.offer.sha256) : Verified H active.offer chunks := by
  refine ⟨received.contiguous, received.length.trans (congrArg UInt64.toNat whole), ?_⟩
  rw [received.hashed, H.finalize_foldl] at sameHash
  rw [contents, List.flatMap_def]
  exact sameHash

theorem Received.appended {chunk : FileTransferChunk} {finish : UInt64} (received : Received active chunks)
    (next : chunk.offset = active.nextOffset) (length : finish.toNat = active.nextOffset.toNat + chunk.content.length) :
    Received { active with nextOffset := finish, sha256 := H.update active.sha256 chunk.content }
      (chunks ++ [chunk]) := by
  refine ⟨?_, ?_, ?_⟩
  · intro front last rest cut
    rcases snoc_eq_append_cons cut with ⟨rfl, rfl, -⟩ | ⟨_, -, cut'⟩
    · rw [next, received.length]
    · exact received.contiguous _ _ _ cut'
  · have earlier := received.length
    simp only [contents, List.flatMap_append, List.flatMap_cons, List.flatMap_nil, List.append_nil,
      List.length_append] at earlier ⊢
    omega
  · simp only [received.hashed, List.map_append, List.map_cons, List.map_nil, List.foldl_append, List.foldl_cons,
      List.foldl_nil]

/-- The last calls on the sink that a transfer causes. -/
inductive Ended (H : IncrementalDigest) (peer : FileTransferPeer) (offer : FileTransferOffer)
    (chunks : List FileTransferChunk) : List AttributedCall → Prop
  | aborted (cause : Option ReceiverInput) : Ended H peer offer chunks [(cause, .abort offer.transferId)]
  | appendFailed (chunk : FileTransferChunk) : Ended H peer offer chunks
      [(some (.chunk peer chunk), .append offer.transferId chunk.offset chunk.content false),
        (some (.chunk peer chunk), .abort offer.transferId)]
  | uncommitted (finish : FileTransferFinish) : Verified H offer chunks → Ended H peer offer chunks
      [(some (.finish peer finish), .complete offer.transferId false),
        (some (.finish peer finish), .abort offer.transferId)]
  | completed (finish : FileTransferFinish) : Verified H offer chunks → Ended H peer offer chunks
      [(some (.finish peer finish), .complete offer.transferId true)]

/-- The log of a sink that has had whole transfers only, one after the other. -/
inductive Settled (H : IncrementalDigest) : List AttributedCall → Prop
  | nothing : Settled H []
  | refused {log peer offer} : Settled H log →
      Settled H (log ++ [begunBy peer offer false, (some (.offer peer offer), .abort offer.transferId)])
  | transferred {log peer offer chunks ending} : Settled H log → Ended H peer offer chunks ending →
      Settled H (log ++ begunBy peer offer true :: (chunks.map (appendedBy peer offer.transferId) ++ ending))

/-- The log of a sink at any time: after whole transfers, one may be under way. -/
inductive Logged : List AttributedCall → Option (ActiveTransfer H) → Prop
  | idle {log} : Settled H log → Logged log none
  | receiving {log active chunks} : Settled H log → Received active chunks →
      Logged (log ++ begunBy active.peer active.offer true ::
        chunks.map (appendedBy active.peer active.offer.transferId)) (some active)

section Steps

variable {inbox : FileTransferInboxSink σ ε} {log : List AttributedCall} {active : ActiveTransfer H}
  {after s : σ × List SinkCall} {result : Except ε Unit} {id : List UInt8}
  {receiver : FileTransferReceiver (σ × List SinkCall) H} {past : List (ReceiverCall σ H)}

theorem Logged.settled (logged : Logged (H := H) log none) : Settled H log := by
  cases logged with
  | idle settled => exact settled

theorem Logged.ended (logged : Logged log (some active)) {ending : List AttributedCall}
    (ends : ∀ chunks, Received active chunks → Ended H active.peer active.offer chunks ending) :
    Settled H (log ++ ending) := by
  cases logged with
  | receiving settled received =>
    simpa only [List.append_assoc, List.cons_append] using settled.transferred (ends _ received)

theorem Logged.appended (logged : Logged log (some active)) {chunk : FileTransferChunk} {finish : UInt64}
    (next : chunk.offset = active.nextOffset) (length : finish.toNat = active.nextOffset.toNat + chunk.content.length) :
    Logged (log ++ [appendedBy active.peer active.offer.transferId chunk])
      (some { active with nextOffset := finish, sha256 := H.update active.sha256 chunk.content }) := by
  cases logged with
  | receiving settled received =>
    have longer := Logged.receiving settled (received.appended next length)
    simpa only [List.map_append, List.map_cons, List.map_nil, List.append_assoc, List.cons_append] using longer

theorem recorded_begin {filename : String} {size : UInt64}
    (begun : inbox.recorded.begin s id filename size = (after, result)) :
    after.2 = s.2 ++ [.begin id filename size result.isOk] := by
  cases begun
  rfl

theorem recorded_append {content : List UInt8} {offset : UInt64}
    (appended : inbox.recorded.append s id offset content = (after, result)) :
    after.2 = s.2 ++ [.append id offset content result.isOk] := by
  cases appended
  rfl

theorem recorded_complete (completed : inbox.recorded.complete s id = (after, result)) :
    after.2 = s.2 ++ [.complete id result.isOk] := by
  cases completed
  rfl

theorem recorded_abort (s : σ × List SinkCall) (id : List UInt8) :
    (inbox.recorded.abort s id).2 = s.2 ++ [.abort id] := rfl

/-- One call on the receiver extends the log of its sink by what the outcome of the call says. -/
theorem Logged.step {after : FileTransferReceiver (σ × List SinkCall) H} {input : ReceiverInput}
    {reply : Except FileTransferReceiveError FileTransferStatus} (logged : Logged log receiver.active)
    (taken : Total (step inbox.recorded) receiver input reply after) :
    ∃ made, after.sink.2 = receiver.sink.2 ++ made ∧ Logged (log ++ made.map (some input, ·)) after.active := by
  have outcome := step_receives inbox.recorded receiver input
  rw [taken] at outcome
  cases outcome with
  | rejected | repeated => exact ⟨[], by simp, by simpa using logged⟩
  | refused _ idle begun =>
    rw [idle] at logged
    refine ⟨_, by rw [recorded_abort, recorded_begin begun, List.append_assoc], ?_⟩
    rw [idle]
    exact .idle logged.settled.refused
  | accepted _ idle _ begun =>
    rw [idle] at logged
    refine ⟨_, recorded_begin begun, ?_⟩
    exact .receiving logged.settled (.start _ _)
  | @appendFailed _ chunk _ _ current _ _ appended =>
    rw [current] at logged
    refine ⟨_, by rw [finalized, recorded_abort, recorded_append appended, List.append_assoc], ?_⟩
    exact .idle (logged.ended fun _ _ => .appendFailed chunk)
  | appended current _ next length _ appended =>
    rw [current] at logged
    exact ⟨_, recorded_append appended, logged.appended next length⟩
  | mismatched current =>
    rw [current] at logged
    exact ⟨_, recorded_abort _ _, .idle (logged.ended fun _ _ => .aborted _)⟩
  | @uncommitted _ finish _ _ current _ whole sameHash completed =>
    rw [current] at logged
    refine ⟨_, by rw [recorded_abort, recorded_complete completed, List.append_assoc], ?_⟩
    exact .idle (logged.ended fun _ received => .uncommitted finish (received.verified whole sameHash))
  | @completed _ finish _ current _ whole sameHash completed =>
    rw [current] at logged
    refine ⟨_, recorded_complete completed, ?_⟩
    exact .idle (logged.ended fun _ received => .completed finish (received.verified whole sameHash))
  | cancelled current =>
    rw [current] at logged
    exact ⟨_, recorded_abort _ _, .idle (logged.ended fun _ _ => .aborted _)⟩

theorem Logged.of_run {initial : σ}
    (run : Run (Total (FileTransferReceiver.step inbox.recorded)) (.new (initial, [])) past receiver) :
    Logged (attributed past) receiver.active := by
  induction run with
  | start => exact .idle .nothing
  | @next past current input reply after _ taken ih =>
    obtain ⟨_, grown, logged⟩ := ih.step taken
    simpa only [attributed, List.flatMap_append, List.flatMap_cons, List.flatMap_nil, List.append_nil, sinkCalls,
      grown, List.drop_left] using logged

/-- The drop of a receiver settles the transfer that is under way. -/
theorem Settled.of_run {initial : σ}
    (run : Run (Total (FileTransferReceiver.step inbox.recorded)) (.new (initial, [])) past receiver) :
    Settled H (sinkLog inbox past receiver) := by
  have logged := Logged.of_run run
  unfold sinkLog FileTransferReceiver.drop
  cases current : receiver.active with
  | none =>
    rw [current] at logged
    simpa using logged.settled
  | some =>
    rw [current] at logged
    simp only [validatedId, recorded_abort, List.drop_left]
    exact logged.ended fun _ _ => .aborted none

end Steps

section Endings

variable {log rest : List AttributedCall} {chunks : List FileTransferChunk} {ending : List AttributedCall}
  {offer : FileTransferOffer} {peer : FileTransferPeer} {cause : Option ReceiverInput} {succeeded : Bool}
  {id : List UInt8}

theorem endings_cons (call : AttributedCall) (rest : List AttributedCall) :
    endings (call :: rest) =
      if call.2.isBegin then [] else (if call.2.isEnding then [call.2] else []) ++ endings rest := by
  cases begins : call.2.isBegin <;> cases ends : call.2.isEnding <;> simp [endings, begins, ends]

/-- What follows the next `begin` does not count. -/
theorem endings_append_begin {opening : AttributedCall} (begins : opening.2.isBegin) :
    endings (log ++ opening :: rest) = endings log := by
  induction log with
  | nil => rw [List.nil_append, endings_cons, if_pos begins]; rfl
  | cons call log ih => rw [List.cons_append, endings_cons, endings_cons, ih]

theorem endings_appended (peer : FileTransferPeer) (id : List UInt8) (chunks : List FileTransferChunk) :
    endings (chunks.map (appendedBy peer id) ++ rest) = endings rest := by
  induction chunks with
  | nil => rfl
  | cons chunk chunks ih => simpa [endings_cons, appendedBy, SinkCall.isBegin, SinkCall.isEnding] using ih

theorem Ended.endings (ended : Ended H peer offer chunks ending) :
    endings ending = [.complete offer.transferId true] ∨ endings ending = [.abort offer.transferId] := by
  cases ended with
  | completed => exact .inl rfl
  | aborted | appendFailed | uncommitted => exact .inr rfl

/-- A `complete` is the first of the calls that end a transfer. -/
theorem Ended.verified {front later : List AttributedCall} (ended : Ended H peer offer chunks ending)
    (cut : ending = front ++ (cause, .complete id succeeded) :: later) :
    front = [] ∧ offer.transferId = id ∧ Verified H offer chunks ∧ ∃ finish, cause = some (.finish peer finish) := by
  cases ended with
  | aborted =>
    rcases cons_eq_append_cons cut with ⟨-, impossible, -⟩ | ⟨_, -, rest⟩
    · cases impossible
    · simp at rest
  | appendFailed =>
    rcases cons_eq_append_cons cut with ⟨-, impossible, -⟩ | ⟨after, -, rest⟩
    · cases impossible
    · cases after <;> simp at rest
  | uncommitted finish verified =>
    rcases cons_eq_append_cons cut with ⟨first, same, -⟩ | ⟨after, -, rest⟩
    · cases same
      exact ⟨first, rfl, verified, finish, rfl⟩
    · cases after <;> simp at rest
  | completed finish verified =>
    rcases cons_eq_append_cons cut with ⟨first, same, -⟩ | ⟨_, -, rest⟩
    · cases same
      exact ⟨first, rfl, verified, finish, rfl⟩
    · simp at rest

/-- A transfer begins once. -/
theorem Ended.not_isBegin (ended : Ended H peer offer chunks ending) {call : AttributedCall}
    (member : call ∈ chunks.map (appendedBy peer offer.transferId) ++ ending) : call.2.isBegin = false := by
  rcases List.mem_append.mp member with appended | final
  · obtain ⟨_, -, rfl⟩ := List.mem_map.mp appended
    rfl
  · cases ended <;> simp only [List.mem_cons, List.not_mem_nil, or_false] at final
    · rw [final]; rfl
    · rcases final with rfl | rfl <;> rfl
    · rcases final with rfl | rfl <;> rfl
    · rw [final]; rfl

/-- Of a successful `begin` one ending follows before the next `begin`, and of a failed one an abort. -/
theorem Settled.endings (settled : Settled H log) {before : List AttributedCall} {filename : String} {size : UInt64}
    (cut : log = before ++ (cause, .begin id filename size succeeded) :: rest) :
    (succeeded = true ∧ endings rest = [.complete id true]) ∨ endings rest = [.abort id] := by
  induction settled generalizing rest with
  | nothing => simp at cut
  | @refused log peer offer _ ih =>
    rcases append_eq_append_cons cut with ⟨_, inside, rfl⟩ | ⟨front, -, last⟩
    · rw [endings_append_begin rfl]
      exact ih inside
    · rcases cons_eq_append_cons last with ⟨-, same, rfl⟩ | ⟨front, -, last⟩
      · cases same
        exact .inr rfl
      · cases front <;> simp at last
  | @transferred log peer offer chunks ending _ ended ih =>
    rcases append_eq_append_cons cut with ⟨_, inside, rfl⟩ | ⟨front, -, last⟩
    · rw [endings_append_begin rfl]
      exact ih inside
    · rcases cons_eq_append_cons last with ⟨-, same, rfl⟩ | ⟨_, -, last⟩
      · cases same
        rw [endings_appended]
        rcases ended.endings with completed | aborted
        · exact .inl ⟨rfl, completed⟩
        · exact .inr aborted
      · have member : (cause, SinkCall.begin id filename size succeeded) ∈
            chunks.map (appendedBy peer offer.transferId) ++ ending := by simp [last]
        cases ended.not_isBegin member

/-- Every `complete` is called at the end of a verified transfer. -/
theorem Settled.verified (settled : Settled H log) {earlier : List AttributedCall}
    (cut : log = earlier ++ (cause, .complete id succeeded) :: rest) :
    ∃ before peer offer chunks finish,
      cause = some (.finish peer finish) ∧ offer.transferId = id ∧ Verified H offer chunks ∧
        earlier = before ++ begunBy peer offer true :: chunks.map (appendedBy peer id) := by
  induction settled generalizing rest with
  | nothing => simp at cut
  | @refused log peer offer _ ih =>
    rcases append_eq_append_cons cut with ⟨_, inside, -⟩ | ⟨front, -, last⟩
    · exact ih inside
    · rcases cons_eq_append_cons last with ⟨-, impossible, -⟩ | ⟨front, -, last⟩
      · cases impossible
      · cases front <;> simp at last
  | @transferred log peer offer chunks ending _ ended ih =>
    rcases append_eq_append_cons cut with ⟨shorter, inside, -⟩ | ⟨_, rfl, last⟩
    · exact ih inside
    · rcases cons_eq_append_cons last with ⟨-, impossible, -⟩ | ⟨_, rfl, afterBegin⟩
      · cases impossible
      · rcases append_eq_append_cons afterBegin with ⟨_, inside, -⟩ | ⟨_, rfl, afterChunks⟩
        · have member : (cause, SinkCall.complete id succeeded) ∈ chunks.map (appendedBy peer offer.transferId) := by
            simp [inside]
          obtain ⟨_, -, impossible⟩ := List.mem_map.mp member
          cases impossible
        · obtain ⟨rfl, rfl, verified, finish, rfl⟩ := ended.verified afterChunks
          exact ⟨log, peer, offer, chunks, finish, rfl, rfl, verified, by rw [List.append_nil]⟩

end Endings

/-- A call that is rejected for another reason than a failure of the sink or of the hash changes nothing. -/
theorem rejected_unchanged {receiver after : FileTransferReceiver σ H} {input : ReceiverInput}
    {error : FileTransferReceiveError} (taken : Total (step inbox) receiver input (.error error) after)
    (noSinkFailure : error ≠ .sinkFailure) (noMismatch : error ≠ .hashMismatch) : after = receiver := by
  have outcome := step_receives inbox receiver input
  rw [taken] at outcome
  cases outcome with
  | rejected => rfl
  | refused | appendFailed | uncommitted => exact absurd rfl noSinkFailure
  | mismatched => exact absurd rfl noMismatch

/-- Whatever the sink does and whoever calls the receiver, up to its drop: whenever `complete` is called, the last
`begin` was that of an offer for this identifier, and the peer that made it has since appended, at contiguous offsets
from zero, content of the offered size and hash, and nothing else was done; a new `begin` comes only after the ending
of the last one; each `begin` is followed by one ending of its own, before the next `begin`, and only a successful one
by a successful completion; and a call that is rejected without a failure of the sink or a wrong hash changes nothing
and calls nothing. -/
theorem only_verified_content_committed {initial : σ} {past : List (ReceiverCall σ H)}
    {receiver : FileTransferReceiver (σ × List SinkCall) H}
    (run : Run (Total (FileTransferReceiver.step inbox.recorded)) (.new (initial, [])) past receiver) :
    (∀ earlier cause id succeeded later,
      sinkLog inbox past receiver = earlier ++ (cause, .complete id succeeded) :: later →
        ∃ before peer offer chunks finish,
          cause = some (.finish peer finish) ∧ offer.transferId = id ∧
            earlier = before ++ begunBy peer offer true :: chunks.map (appendedBy peer id) ∧
            Contiguous chunks ∧ (contents chunks).length = offer.totalSize.toNat ∧
            H.digest (contents chunks) = offer.sha256) ∧
      (∀ before cause id filename size during cause' id' filename' size' succeeded later,
        sinkLog inbox past receiver = before ++ (cause, .begin id filename size true) ::
            (during ++ (cause', .begin id' filename' size' succeeded) :: later) →
          endings during = [.complete id true] ∨ endings during = [.abort id]) ∧
      (∀ before cause id filename size succeeded rest,
        sinkLog inbox past receiver = before ++ (cause, .begin id filename size succeeded) :: rest →
          (succeeded = true ∧ endings rest = [.complete id true]) ∨ endings rest = [.abort id]) ∧
      ∀ call ∈ past, ∀ error, call.reply = .error error → error ≠ .sinkFailure → error ≠ .hashMismatch →
        call.after = call.before ∧ sinkCalls call = [] := by
  have settled := Settled.of_run run
  refine ⟨?_, ?_, ?_, ?_⟩
  · intro earlier cause id succeeded later cut
    obtain ⟨before, peer, offer, chunks, finish, finished, same, verified, since⟩ := settled.verified cut
    exact ⟨before, peer, offer, chunks, finish, finished, same, since, verified.contiguous, verified.whole,
      verified.hash⟩
  · intro before cause id filename size during cause' id' filename' size' succeeded later cut
    have ended := settled.endings cut
    rw [endings_append_begin rfl] at ended
    exact ended.imp_left And.right
  · intro before cause id filename size succeeded rest cut
    exact settled.endings cut
  · intro call member error rejected noSinkFailure noMismatch
    obtain ⟨_, _, _, _, taken, _⟩ := run.of_mem member
    rw [rejected] at taken
    have same := rejected_unchanged taken noSinkFailure noMismatch
    exact ⟨same, by rw [sinkCalls, same, List.drop_length]⟩

/-- A hash for examples: the first bytes of the content. -/
def leadingBytes : IncrementalDigest where
  State := List UInt8
  new := []
  update state content := state ++ content
  finalize state := (state ++ List.replicate 32 0).take 32
  digest content := (content ++ List.replicate 32 0).take 32
  finalize_foldl contents := by
    have joined (state : List UInt8) : contents.foldl (· ++ ·) state = state ++ contents.flatten := by
      induction contents generalizing state with
      | nil => simp
      | cons content contents ih => rw [List.foldl_cons, ih, List.flatten_cons, List.append_assoc]
    rw [joined, List.nil_append]

/-- An inbox whose third `append` fails, and which does nothing else. -/
def thirdAppendFails : FileTransferInboxSink Nat Unit where
  begin s _ _ _ := (s, .ok ())
  append s _ _ _ := (s + 1, if s = 2 then .error () else .ok ())
  complete s _ := (s, .ok ())
  abort s _ := s

def sampleSender : FileTransferPeer := ⟨⟨.replicate 7⟩, 31⟩

def sampleOffer (first : UInt8) : FileTransferOffer :=
  ⟨first :: List.replicate 15 9, "lesson.pdf", 3, leadingBytes.digest [1, 2, 3], appInbox⟩

def sampleTransfers : List ReceiverInput :=
  [.offer sampleSender (sampleOffer 1),
    .chunk sampleSender ⟨(sampleOffer 1).transferId, 0, [1, 2]⟩,
    .chunk ⟨⟨.replicate 7⟩, 32⟩ ⟨(sampleOffer 1).transferId, 2, [3]⟩,
    .chunk sampleSender ⟨(sampleOffer 1).transferId, 2, [3]⟩,
    .finish sampleSender ⟨(sampleOffer 1).transferId⟩,
    .offer sampleSender (sampleOffer 2),
    .chunk sampleSender ⟨(sampleOffer 2).transferId, 0, [1]⟩,
    .offer sampleSender (sampleOffer 3)]

/-- The chunk of another session is rejected, the first transfer is committed, and the second one ends with the chunk
that the sink cannot store. The third is under way when the receiver is dropped. -/
theorem only_verified_content_committed_among_three :
    let start : FileTransferReceiver (Nat × List SinkCall) leadingBytes := .new (0, [])
    let step := FileTransferReceiver.step thirdAppendFails.recorded
    let log := sinkLog thirdAppendFails (calls step start sampleTransfers) (runOn step start sampleTransfers)
    log.map (·.2) =
        [.begin (sampleOffer 1).transferId "lesson.pdf" 3 true,
          .append (sampleOffer 1).transferId 0 [1, 2] true, .append (sampleOffer 1).transferId 2 [3] true,
          .complete (sampleOffer 1).transferId true,
          .begin (sampleOffer 2).transferId "lesson.pdf" 3 true,
          .append (sampleOffer 2).transferId 0 [1] false, .abort (sampleOffer 2).transferId,
          .begin (sampleOffer 3).transferId "lesson.pdf" 3 true, .abort (sampleOffer 3).transferId] ∧
      ∃ before peer offer chunks,
        log.take 3 = before ++ begunBy peer offer true ::
            chunks.map (appendedBy peer (sampleOffer 1).transferId) ∧
          leadingBytes.digest (contents chunks) = offer.sha256 := by
  intro start step log
  have run : Run (Total step) start (calls step start sampleTransfers) (runOn step start sampleTransfers) :=
    Run.of_calls step start sampleTransfers
  refine ⟨by decide +kernel, ?_⟩
  obtain ⟨before, peer, offer, chunks, _, _, _, since, _, _, hash⟩ :=
    (only_verified_content_committed run).1 (log.take 3) (some (.finish sampleSender ⟨(sampleOffer 1).transferId⟩))
      (sampleOffer 1).transferId true (log.drop 4) (by decide +kernel)
  exact ⟨before, peer, offer, chunks, since, hash⟩

end ClassMesh
