import ClassMesh.Control.ReceiverTelemetry
import ClassMesh.Foundation.Run

namespace ClassMesh

open Foundation

def maxReceiverTelemetryReadBytes : Nat := receiverTelemetryWireLen * 4

/-- Two seconds of the monotonic clock, in nanoseconds. -/
def maxReceiverTelemetryPartialAge : Nat := 2 * 10 ^ 9

inductive ReceiverTelemetryFrameStreamError
  | invalidBinding
  | inactive
  | wrongServiceOwner
  | disconnected
  | oversizedRead
  | partialTimedOut
  | partialClockRegression
  | mixedClockModes
  | reportBindingMismatch
  | wire (error : ReceiverTelemetryWireError)
deriving DecidableEq

/-- The part of the buffer that is filled, with the time of its first byte. It is never a whole record. -/
structure RecordFragment where
  bytes : List UInt8
  startedAt : Option Nat
  short : bytes.length < receiverTelemetryWireLen

def RecordFragment.empty : RecordFragment := ⟨[], none, by decide⟩

/-- One more byte: the fragment is longer, or the record is complete. -/
def RecordFragment.push (fragment : RecordFragment) (byte : UInt8) (receivedAt : Option Nat) :
    RecordFragment ⊕ List UInt8 :=
  if short : (fragment.bytes ++ [byte]).length < receiverTelemetryWireLen then
    .inl ⟨fragment.bytes ++ [byte], if fragment.bytes = [] then receivedAt else fragment.startedAt, short⟩
  else .inr (fragment.bytes ++ [byte])

structure ReceiverTelemetryFrameStream where
  active : Option ReceiverTelemetryBinding
  pending : RecordFragment

/-- The loop over the bytes of a read. An error loses the reports of the whole read. -/
def acceptBytes (active : ReceiverTelemetryBinding) (receivedAt : Option Nat) : RecordFragment → List UInt8 →
    Except ReceiverTelemetryFrameStreamError (RecordFragment × List ReceiverTelemetrySnapshot)
  | fragment, [] => .ok (fragment, [])
  | fragment, byte :: rest =>
    match fragment.push byte receivedAt with
    | .inl longer => acceptBytes active receivedAt longer rest
    | .inr record =>
      match decodeReceiverTelemetry record with
      | .error error => .error (.wire error)
      | .ok report =>
        if report.binding ≠ active then .error .reportBindingMismatch
        else
          match acceptBytes active receivedAt .empty rest with
          | .error error => .error error
          | .ok (fragment, reports) => .ok (fragment, report :: reports)

namespace ReceiverTelemetryFrameStream

variable (stream : ReceiverTelemetryFrameStream)

/-- `deactivate` and `reset_pending` wipe the buffer. -/
def deactivate (_stream : ReceiverTelemetryFrameStream) : ReceiverTelemetryFrameStream := ⟨none, .empty⟩

def activateVerified (binding : ReceiverTelemetryBinding) :
    ReceiverTelemetryFrameStream × Except ReceiverTelemetryFrameStreamError Unit :=
  if !binding.isValid then (stream, .error .invalidBinding)
  else if stream.active ≠ some binding then (⟨some binding, .empty⟩, .ok ())
  else (stream, .ok ())

def clearIfMatches (binding : ReceiverTelemetryBinding) : ReceiverTelemetryFrameStream × Bool :=
  if stream.active ≠ some binding then (stream, false) else (stream.deactivate, true)

def verifyOwner (serviceCurrentOwner : ReceiverTelemetryBinding) :
    Except ReceiverTelemetryFrameStreamError ReceiverTelemetryBinding :=
  match stream.active with
  | none => .error .inactive
  | some active => if active ≠ serviceCurrentOwner then .error .wrongServiceOwner else .ok active

def expirePartialAfterVerifiedOwner (serviceCurrentOwner : ReceiverTelemetryBinding) (serviceNow : Nat) :
    ReceiverTelemetryFrameStream × Except ReceiverTelemetryFrameStreamError Unit :=
  match stream.verifyOwner serviceCurrentOwner with
  | .error error => (stream, .error error)
  | .ok _ =>
    if stream.pending.bytes = [] then (stream, .ok ())
    else
      match stream.pending.startedAt with
      | none => (stream.deactivate, .error .mixedClockModes)
      | some since =>
        if serviceNow < since then (stream.deactivate, .error .partialClockRegression)
        else if maxReceiverTelemetryPartialAge < serviceNow - since then (stream.deactivate, .error .partialTimedOut)
        else (stream, .ok ())

def acceptVerifiedInner (serviceCurrentOwner : ReceiverTelemetryBinding) (bytes : List UInt8)
    (serviceReceivedAt : Option Nat) :
    ReceiverTelemetryFrameStream × Except ReceiverTelemetryFrameStreamError (List ReceiverTelemetrySnapshot) :=
  match stream.verifyOwner serviceCurrentOwner with
  | .error error => (stream, .error error)
  | .ok active =>
    if stream.pending.bytes ≠ [] ∧ stream.pending.startedAt = none ∧ serviceReceivedAt.isSome then
      (stream.deactivate, .error .mixedClockModes)
    else if bytes = [] then (stream.deactivate, .error .disconnected)
    else if maxReceiverTelemetryReadBytes < bytes.length then (stream.deactivate, .error .oversizedRead)
    else
      match acceptBytes active serviceReceivedAt stream.pending bytes with
      | .error error => (stream.deactivate, .error error)
      | .ok (pending, reports) => ({ stream with pending := pending }, .ok reports)

def acceptVerifiedAt (serviceCurrentOwner : ReceiverTelemetryBinding) (bytes : List UInt8) (serviceReceivedAt : Nat) :
    ReceiverTelemetryFrameStream × Except ReceiverTelemetryFrameStreamError (List ReceiverTelemetrySnapshot) :=
  match stream.expirePartialAfterVerifiedOwner serviceCurrentOwner serviceReceivedAt with
  | (stream, .error error) => (stream, .error error)
  | (stream, .ok ()) => stream.acceptVerifiedInner serviceCurrentOwner bytes (some serviceReceivedAt)

end ReceiverTelemetryFrameStream

inductive FrameStreamInput
  | activateVerified (binding : ReceiverTelemetryBinding)
  | clearIfMatches (binding : ReceiverTelemetryBinding)
  | expirePartialAfterVerifiedOwner (owner : ReceiverTelemetryBinding) (now : Nat)
  | acceptVerifiedAt (owner : ReceiverTelemetryBinding) (bytes : List UInt8) (receivedAt : Nat)

inductive FrameStreamReply
  | activated (result : Except ReceiverTelemetryFrameStreamError Unit)
  | cleared (result : Bool)
  | expired (result : Except ReceiverTelemetryFrameStreamError Unit)
  | accepted (result : Except ReceiverTelemetryFrameStreamError (List ReceiverTelemetrySnapshot))

def ReceiverTelemetryFrameStream.step (stream : ReceiverTelemetryFrameStream) :
    FrameStreamInput → ReceiverTelemetryFrameStream × FrameStreamReply
  | .activateVerified binding => (stream.activateVerified binding).map id .activated
  | .clearIfMatches binding => (stream.clearIfMatches binding).map id .cleared
  | .expirePartialAfterVerifiedOwner owner now => (stream.expirePartialAfterVerifiedOwner owner now).map id .expired
  | .acceptVerifiedAt owner bytes receivedAt => (stream.acceptVerifiedAt owner bytes receivedAt).map id .accepted

abbrev FrameStreamCall := Call ReceiverTelemetryFrameStream FrameStreamInput FrameStreamReply

/-- A byte with the time at which it was read. -/
abbrev Arrival := UInt8 × Nat

namespace FrameStreamCall

/-- What a call adds to the byte stream of an owner. -/
def arrivals (owner : ReceiverTelemetryBinding) (call : FrameStreamCall) : List Arrival :=
  match call.input with
  | .acceptVerifiedAt other bytes receivedAt => if other = owner then bytes.map (·, receivedAt) else []
  | _ => []

def reports (call : FrameStreamCall) : List ReceiverTelemetrySnapshot :=
  match call.reply with
  | .accepted (.ok reports) => reports
  | _ => []

/-- The call makes a binding the active one. A repeated activation does not. -/
def Activates (call : FrameStreamCall) (binding : ReceiverTelemetryBinding) : Prop :=
  call.input = .activateVerified binding ∧ binding.isValid ∧ call.before.active ≠ some binding

/-- A call by the owner that fails, or that clears its stream. -/
inductive Ends (owner : ReceiverTelemetryBinding) (call : FrameStreamCall) : Prop
  | read (bytes : List UInt8) (receivedAt : Nat) (error : ReceiverTelemetryFrameStreamError)
      (asked : call.input = .acceptVerifiedAt owner bytes receivedAt) (failed : call.reply = .accepted (.error error))
  | expiry (now : Nat) (error : ReceiverTelemetryFrameStreamError)
      (asked : call.input = .expirePartialAfterVerifiedOwner owner now) (failed : call.reply = .expired (.error error))
  | clear (asked : call.input = .clearIfMatches owner)

end FrameStreamCall

/-- The bytes stand for a report of the owner. -/
def Decodes (owner : ReceiverTelemetryBinding) (record : List Arrival) (report : ReceiverTelemetrySnapshot) : Prop :=
  record.length = receiverTelemetryWireLen ∧ decodeReceiverTelemetry (record.map Prod.fst) = .ok report ∧
    report.binding = owner

/-- All bytes came within the allowed time of the first one, none before it. -/
def Prompt (record : List Arrival) : Prop :=
  ∀ first, record.head? = some first → ∀ arrival ∈ record,
    first.2 ≤ arrival.2 ∧ arrival.2 ≤ first.2 + maxReceiverTelemetryPartialAge

/-- The buffer holds these arrivals. -/
structure RecordFragment.Holds (fragment : RecordFragment) (tail : List Arrival) : Prop where
  bytes : fragment.bytes = tail.map Prod.fst
  startedAt : fragment.startedAt = tail.head?.map Prod.snd

section Fragments

variable {fragment longer : RecordFragment} {tail : List Arrival} {byte : UInt8} {receivedAt : Nat}
  {owner : ReceiverTelemetryBinding} {bytes : List UInt8}

theorem RecordFragment.Holds.empty : RecordFragment.empty.Holds [] := ⟨rfl, rfl⟩

theorem RecordFragment.Holds.length_lt (holds : fragment.Holds tail) : tail.length < receiverTelemetryWireLen := by
  have short := fragment.short
  rw [holds.bytes, List.length_map] at short
  exact short

theorem RecordFragment.Holds.push (holds : fragment.Holds tail) (byte : UInt8) (receivedAt : Nat) :
    (∃ longer : RecordFragment, fragment.push byte (some receivedAt) = .inl longer ∧
        longer.Holds (tail ++ [(byte, receivedAt)])) ∨
      (fragment.push byte (some receivedAt) = .inr ((tail ++ [(byte, receivedAt)]).map Prod.fst) ∧
        (tail ++ [(byte, receivedAt)]).length = receiverTelemetryWireLen) := by
  have bytes : fragment.bytes ++ [byte] = (tail ++ [(byte, receivedAt)]).map Prod.fst := by simp [holds.bytes]
  unfold RecordFragment.push
  by_cases short : (fragment.bytes ++ [byte]).length < receiverTelemetryWireLen
  · refine .inl ⟨_, dif_pos short, bytes, ?_⟩
    cases tail with
    | nil => simp [holds.bytes]
    | cons => simp [holds.bytes, holds.startedAt]
  · refine .inr ⟨?_, ?_⟩
    · rw [dif_neg short, bytes]
    · have before := holds.length_lt
      rw [bytes, List.length_map] at short
      simp only [List.length_append, List.length_singleton] at short ⊢
      omega

/-- A byte at this time is neither before the first byte nor too late for it. -/
def InTime (tail : List Arrival) (receivedAt : Nat) : Prop :=
  ∀ first, tail.head? = some first →
    first.2 ≤ receivedAt ∧ receivedAt ≤ first.2 + maxReceiverTelemetryPartialAge

theorem InTime.concat (inTime : InTime tail receivedAt) (byte : UInt8) :
    InTime (tail ++ [(byte, receivedAt)]) receivedAt := by
  intro first head
  cases tail with
  | nil =>
    cases head
    exact ⟨Nat.le_refl _, Nat.le_add_right _ _⟩
  | cons => exact inTime first head

theorem Prompt.concat (prompt : Prompt tail) (inTime : InTime tail receivedAt) (byte : UInt8) :
    Prompt (tail ++ [(byte, receivedAt)]) := by
  intro first head arrival member
  rcases List.mem_append.mp member with old | new
  · cases tail with
    | nil => cases old
    | cons => exact prompt first head arrival old
  · cases List.mem_singleton.mp new
    exact inTime.concat byte first head

/-- A read that succeeds decodes every record that it completes and keeps the rest. -/
theorem acceptBytes_ok {reports : List ReceiverTelemetrySnapshot} (holds : fragment.Holds tail)
    (prompt : Prompt tail) (inTime : InTime tail receivedAt)
    (made : acceptBytes owner (some receivedAt) fragment bytes = .ok (longer, reports)) :
    ∃ records rest, tail ++ bytes.map (·, receivedAt) = records.flatten ++ rest ∧ longer.Holds rest ∧ Prompt rest ∧
      List.Forall₂ (Decodes owner) records reports ∧ ∀ record ∈ records, Prompt record := by
  induction bytes generalizing fragment tail reports with
  | nil =>
    cases made
    exact ⟨[], tail, by simp, holds, prompt, .nil, by simp⟩
  | cons byte bytes ih =>
    rw [acceptBytes] at made
    rcases holds.push byte receivedAt with ⟨_, pushed, holdsMore⟩ | ⟨pushed, whole⟩
    · rw [pushed] at made
      obtain ⟨records, rest, cut, held⟩ := ih holdsMore (prompt.concat inTime byte) (inTime.concat byte) made
      exact ⟨records, rest, by simpa using cut, held⟩
    · rw [pushed] at made
      dsimp only at made
      cases decoded : decodeReceiverTelemetry ((tail ++ [(byte, receivedAt)]).map Prod.fst) with
      | error =>
        rw [decoded] at made
        cases made
      | ok =>
        rw [decoded] at made
        dsimp only at made
        split at made
        · cases made
        rename_i own
        cases more : acceptBytes owner (some receivedAt) .empty bytes with
        | error =>
          rw [more] at made
          cases made
        | ok =>
          rw [more] at made
          cases made
          obtain ⟨records, rest, cut, held, restPrompt, decodes, prompts⟩ :=
            ih .empty (by simp [Prompt]) (by simp [InTime]) more
          refine ⟨(tail ++ [(byte, receivedAt)]) :: records, rest, ?_, held, restPrompt,
            .cons ⟨whole, decoded, not_not.mp own⟩ decodes, ?_⟩
          · rw [List.nil_append] at cut
            simp [cut]
          · exact List.forall_mem_cons.mpr ⟨prompt.concat inTime byte, prompts⟩

/-- A read of bytes that belong to a stream of decodable records succeeds. -/
theorem acceptBytes_of_stream {future : List Arrival} {records : List (List Arrival)}
    {samples : List ReceiverTelemetrySnapshot} (holds : fragment.Holds tail)
    (cut : tail ++ (bytes.map (·, receivedAt) ++ future) = records.flatten)
    (decodes : List.Forall₂ (Decodes owner) records samples) :
    ∃ longer reports later rest samplesLeft,
      acceptBytes owner (some receivedAt) fragment bytes = .ok (longer, reports) ∧
        samples = reports ++ samplesLeft ∧ longer.Holds rest ∧ rest ++ future = later.flatten ∧
        List.Forall₂ (Decodes owner) later samplesLeft ∧ (∀ record ∈ later, record ∈ records) ∧
        ∀ arrival ∈ rest, arrival ∈ tail ∨ arrival.2 = receivedAt := by
  induction bytes generalizing fragment tail records samples with
  | nil =>
    exact ⟨fragment, [], records, tail, samples, rfl, rfl, holds, by simpa using cut, decodes, fun _ member => member,
      fun _ member => .inl member⟩
  | cons byte bytes ih =>
    cases decodes with
    | nil => simp at cut
    | @cons record report records samples decodesFirst decodesRest =>
      obtain ⟨whole, decoded, own⟩ := id decodesFirst
      have grown : (tail ++ [(byte, receivedAt)]) ++ (bytes.map (·, receivedAt) ++ future) =
          record ++ records.flatten := by simpa using cut
      rw [acceptBytes]
      rcases holds.push byte receivedAt with ⟨_, pushed, holdsMore⟩ | ⟨pushed, complete⟩
      · obtain ⟨longer, reports, later, rest, left, made, same, held, restCut, decodesLater, inside, times⟩ :=
          ih holdsMore (by simpa using cut) (.cons decodesFirst decodesRest)
        refine ⟨longer, reports, later, rest, left, ?_, same, held, restCut, decodesLater, inside, ?_⟩
        · rw [pushed]
          exact made
        · intro arrival member
          rcases times arrival member with old | now
          · rcases List.mem_append.mp old with old | new
            · exact .inl old
            · cases List.mem_singleton.mp new
              exact .inr rfl
          · exact .inr now
      · obtain ⟨sameRecord, sameRest⟩ := List.append_inj grown (complete.trans whole.symm)
        obtain ⟨longer, reports, later, rest, left, made, same, held, restCut, decodesLater, inside, times⟩ :=
          ih .empty (by simpa using sameRest) decodesRest
        refine ⟨longer, report :: reports, later, rest, left, ?_, by rw [same]; rfl, held, restCut, decodesLater,
          fun member listed => .tail _ (inside member listed), ?_⟩
        · rw [pushed, sameRecord]
          simp only [decoded, own, ne_eq, not_true_eq_false, if_false, made]
        · intro arrival member
          rcases times arrival member with old | now
          · cases old
          · exact .inr now

end Fragments

section Reads

variable {stream : ReceiverTelemetryFrameStream} {owner : ReceiverTelemetryBinding} {tail : List Arrival}
  {receivedAt : Nat}

open ReceiverTelemetryFrameStream

theorem verifyOwner_active (active : stream.active = some owner) : stream.verifyOwner owner = .ok owner := by
  simp [verifyOwner, active]

theorem verifyOwner_other {other : ReceiverTelemetryBinding} (unowned : stream.active ≠ some other) :
    ∃ error, stream.verifyOwner other = .error error := by
  unfold verifyOwner
  cases active : stream.active with
  | none => exact ⟨_, rfl⟩
  | some current =>
    have apart : current ≠ other := fun same => unowned (by rw [active, same])
    exact ⟨_, if_pos apart⟩

/-- What the expiry check of the owner does to a buffer that holds timed bytes. -/
theorem expirePartial_outcome (active : stream.active = some owner) (holds : stream.pending.Holds tail) (now : Nat) :
    (stream.expirePartialAfterVerifiedOwner owner now = (stream, .ok ()) ∧ InTime tail now) ∨
      ¬InTime tail now ∧ ∃ error, stream.expirePartialAfterVerifiedOwner owner now =
        (stream.deactivate, .error error) := by
  unfold expirePartialAfterVerifiedOwner
  rw [verifyOwner_active active]
  dsimp only
  cases tail with
  | nil =>
    have none : stream.pending.bytes = [] := holds.bytes
    exact .inl ⟨if_pos none, by simp [InTime]⟩
  | cons first =>
    have some : stream.pending.bytes ≠ [] := by simp [holds.bytes]
    have since : stream.pending.startedAt = .some first.2 := holds.startedAt
    rw [if_neg some, since]
    dsimp only
    by_cases early : now < first.2
    · refine .inr ⟨fun inTime => ?_, _, if_pos early⟩
      have := inTime first rfl
      omega
    by_cases late : maxReceiverTelemetryPartialAge < now - first.2
    · refine .inr ⟨fun inTime => ?_, _, by rw [if_neg early, if_pos late]⟩
      have := inTime first rfl
      omega
    · refine .inl ⟨by rw [if_neg early, if_neg late], fun other head => ?_⟩
      cases head
      omega

theorem acceptVerifiedAt_outcome (active : stream.active = some owner) (holds : stream.pending.Holds tail)
    (bytes : List UInt8) (receivedAt : Nat) :
    (∃ pending reports, InTime tail receivedAt ∧
        acceptBytes owner (some receivedAt) stream.pending bytes = .ok (pending, reports) ∧
        stream.acceptVerifiedAt owner bytes receivedAt = ({ stream with pending := pending }, .ok reports)) ∨
      ∃ error, stream.acceptVerifiedAt owner bytes receivedAt = (stream.deactivate, .error error) := by
  unfold acceptVerifiedAt
  rcases expirePartial_outcome active holds receivedAt with ⟨fresh, inTime⟩ | ⟨_, error, expired⟩
  · rw [fresh]
    dsimp only
    unfold acceptVerifiedInner
    rw [verifyOwner_active active]
    dsimp only
    split
    · exact .inr ⟨_, rfl⟩
    split
    · exact .inr ⟨_, rfl⟩
    split
    · exact .inr ⟨_, rfl⟩
    cases read : acceptBytes owner (some receivedAt) stream.pending bytes with
    | error => exact .inr ⟨_, rfl⟩
    | ok result => exact .inl ⟨result.1, result.2, inTime, rfl, rfl⟩
  · rw [expired]
    exact .inr ⟨error, rfl⟩

/-- A read of allowed size in good time returns what the loop over its bytes returns. -/
theorem acceptVerifiedAt_of_inTime (active : stream.active = some owner) (holds : stream.pending.Holds tail)
    {bytes : List UInt8} (inTime : InTime tail receivedAt) (nonempty : bytes ≠ [])
    (sized : bytes.length ≤ maxReceiverTelemetryReadBytes) {pending : RecordFragment}
    {reports : List ReceiverTelemetrySnapshot}
    (read : acceptBytes owner (some receivedAt) stream.pending bytes = .ok (pending, reports)) :
    stream.acceptVerifiedAt owner bytes receivedAt = ({ stream with pending := pending }, .ok reports) := by
  unfold acceptVerifiedAt
  rcases expirePartial_outcome active holds receivedAt with ⟨fresh, _⟩ | ⟨tooLate, _⟩
  · have timed : ¬(stream.pending.bytes ≠ [] ∧ stream.pending.startedAt = none ∧ (some receivedAt).isSome) := by
      rintro ⟨some, none, _⟩
      cases tail with
      | nil => exact some holds.bytes
      | cons => cases holds.startedAt.symm.trans none
    rw [fresh]
    simp only [acceptVerifiedInner, verifyOwner_active active, if_neg timed,
      if_neg nonempty, if_neg (Nat.not_lt.mpr sized), read]
  · exact absurd inTime tooLate

theorem acceptVerifiedAt_unowned (unowned : stream.active ≠ some owner) (bytes : List UInt8) (receivedAt : Nat) :
    ∃ error, stream.acceptVerifiedAt owner bytes receivedAt = (stream, .error error) := by
  obtain ⟨error, refused⟩ := verifyOwner_other unowned
  refine ⟨error, ?_⟩
  simp only [acceptVerifiedAt,
    expirePartialAfterVerifiedOwner, refused]

theorem expirePartial_unowned (unowned : stream.active ≠ some owner) (now : Nat) :
    ∃ error, stream.expirePartialAfterVerifiedOwner owner now = (stream, .error error) := by
  obtain ⟨error, refused⟩ := verifyOwner_other unowned
  refine ⟨error, ?_⟩
  simp only [expirePartialAfterVerifiedOwner, refused]

end Reads

section Runs

open FrameStreamCall ReceiverTelemetryFrameStream

variable {stream final : ReceiverTelemetryFrameStream} {owner : ReceiverTelemetryBinding}
  {since : List FrameStreamCall} {records : List (List Arrival)} {samples : List ReceiverTelemetrySnapshot}

/-- What the stream remembers of the bytes since its activation: they are whole records, each decoded and in time, and
the fragment in the buffer. -/
structure Framed (owner : ReceiverTelemetryBinding) (since : List FrameStreamCall)
    (stream : ReceiverTelemetryFrameStream) : Prop where
  active : stream.active = some owner
  framed : ∃ records tail, since.flatMap (arrivals owner) = records.flatten ++ tail ∧ stream.pending.Holds tail ∧
    Prompt tail ∧ List.Forall₂ (Decodes owner) records (since.flatMap reports) ∧ ∀ record ∈ records, Prompt record

theorem Framed.keep (framed : Framed owner since stream) {call : FrameStreamCall} (silent : arrivals owner call = [])
    (nothing : reports call = []) : Framed owner (since ++ [call]) stream := by
  refine ⟨framed.active, ?_⟩
  simpa [List.flatMap_append, silent, nothing] using framed.framed

/-- A call that neither ends the activation nor begins one keeps the framing, be it a read, a sweep or a call for
another owner. Only a read of this owner adds bytes. -/
theorem Framed.next (framed : Framed owner since stream) {input : FrameStreamInput} {reply : FrameStreamReply}
    (taken : Total step stream input reply final) (unended : ¬Ends owner ⟨stream, input, reply, final⟩)
    (unactivated : ∀ other, ¬Activates ⟨stream, input, reply, final⟩ other) :
    Framed owner (since ++ [⟨stream, input, reply, final⟩]) final := by
  obtain ⟨rfl, rfl⟩ := Prod.ext_iff.mp taken
  cases input with
  | activateVerified binding =>
    have kept : (stream.activateVerified binding).1 = stream := by
      unfold activateVerified
      by_cases valid : binding.isValid
      · by_cases same : stream.active = some binding
        · simp [valid, same]
        · exact absurd ⟨rfl, valid, same⟩ (unactivated binding)
      · simp [valid]
    have after : (stream.step (.activateVerified binding)).1 = stream := kept
    rw [after]
    exact framed.keep rfl rfl
  | clearIfMatches binding =>
    have apart : stream.active ≠ some binding := by
      intro same
      cases framed.active.symm.trans same
      exact unended (.clear rfl)
    have after : (stream.step (.clearIfMatches binding)).1 = stream := by
      simp [step, clearIfMatches, apart]
    rw [after]
    exact framed.keep rfl rfl
  | expirePartialAfterVerifiedOwner other now =>
    have after : (stream.step (.expirePartialAfterVerifiedOwner other now)).1 = stream := by
      by_cases own : other = owner
      · subst own
        obtain ⟨_, _, _, holds, _⟩ := framed.framed
        rcases expirePartial_outcome framed.active holds now with ⟨fresh, _⟩ | ⟨_, error, expired⟩
        · simp [step, fresh]
        · refine absurd (.expiry now error rfl ?_) unended
          simp [step, expired]
      · obtain ⟨_, refused⟩ :=
          expirePartial_unowned (fun same => own (Option.some.inj (same.symm.trans framed.active))) now
        simp [step, refused]
    rw [after]
    exact framed.keep rfl rfl
  | acceptVerifiedAt other bytes receivedAt =>
    by_cases own : other = owner
    · subst own
      obtain ⟨records, _, cut, holds, prompt, decodes, prompts⟩ := framed.framed
      rcases acceptVerifiedAt_outcome framed.active holds bytes receivedAt with
        ⟨pending, accepted, inTime, read, made⟩ | ⟨error, failed⟩
      · obtain ⟨more, rest, moreCut, held, restPrompt, moreDecodes, morePrompts⟩ :=
          acceptBytes_ok holds prompt inTime read
        refine ⟨by simp [step, made, framed.active], records ++ more, rest, ?_, ?_,
          restPrompt, ?_, ?_⟩
        · simp [List.flatMap_append, arrivals, cut, moreCut]
        · simpa [step, made] using held
        · simpa [List.flatMap_append, reports, step, made] using
            List.rel_append decodes moreDecodes
        · exact List.forall_mem_append.mpr ⟨prompts, morePrompts⟩
      · refine absurd (.read bytes receivedAt error rfl ?_) unended
        simp [step, failed]
    · obtain ⟨_, refused⟩ :=
        acceptVerifiedAt_unowned (fun same => own (Option.some.inj (same.symm.trans framed.active))) bytes receivedAt
      have after : (stream.step (.acceptVerifiedAt other bytes receivedAt)).1 = stream := by
        simp [step, refused]
      rw [after]
      refine framed.keep (if_neg own) ?_
      simp [reports, step, refused]

theorem Framed.of_run (active : stream.active = some owner) (empty : stream.pending = .empty)
    (run : Run (Total step) stream since final) (unended : ∀ call ∈ since, ¬Ends owner call)
    (unactivated : ∀ call ∈ since, ∀ other, ¬Activates call other) : Framed owner since final := by
  induction run with
  | start => exact ⟨active, [], [], rfl, by rw [empty]; exact .empty, by simp [Prompt], .nil, by simp⟩
  | next _ taken ih =>
    have framed := ih (forall_of_append unended) (forall_of_append unactivated)
    exact framed.next taken (unended _ List.mem_concat_self) (unactivated _ List.mem_concat_self)

/-- An inactive stream stays inactive and silent until it is activated. -/
theorem inactive_next {input : FrameStreamInput} {reply : FrameStreamReply} (inactive : stream.active = none)
    (taken : Total step stream input reply final)
    (unactivated : ∀ other, ¬Activates ⟨stream, input, reply, final⟩ other) :
    final.active = none ∧ reports ⟨stream, input, reply, final⟩ = [] := by
  obtain ⟨rfl, rfl⟩ := Prod.ext_iff.mp taken
  have unowned (other : ReceiverTelemetryBinding) : stream.active ≠ some other := by simp [inactive]
  cases input with
  | activateVerified binding =>
    refine ⟨?_, rfl⟩
    by_cases valid : binding.isValid
    · exact absurd ⟨rfl, valid, unowned binding⟩ (unactivated binding)
    · simp [step, activateVerified, valid, inactive]
  | clearIfMatches =>
    exact ⟨by simp [step, clearIfMatches, inactive], rfl⟩
  | expirePartialAfterVerifiedOwner other now =>
    obtain ⟨_, refused⟩ := expirePartial_unowned (unowned other) now
    exact ⟨by simp [step, refused, inactive], rfl⟩
  | acceptVerifiedAt other bytes receivedAt =>
    obtain ⟨_, refused⟩ := acceptVerifiedAt_unowned (unowned other) bytes receivedAt
    exact ⟨by simp [step, refused, inactive],
      by simp [reports, step, refused]⟩

theorem inactive_of_run (inactive : stream.active = none) (run : Run (Total step) stream since final)
    (unactivated : ∀ call ∈ since, ∀ other, ¬Activates call other) :
    final.active = none ∧ since.flatMap reports = [] := by
  induction run with
  | start => exact ⟨inactive, rfl⟩
  | next _ taken ih =>
    obtain ⟨still, silent⟩ := ih (forall_of_append unactivated)
    obtain ⟨after, nothing⟩ := inactive_next still taken (unactivated _ List.mem_concat_self)
    exact ⟨after, by simp [List.flatMap_append, silent, nothing]⟩

theorem inactive_of_ends (framed : Framed owner since stream) {input : FrameStreamInput} {reply : FrameStreamReply}
    (taken : Total step stream input reply final) (ends : Ends owner ⟨stream, input, reply, final⟩) :
    final.active = none ∧ reports ⟨stream, input, reply, final⟩ = [] := by
  obtain ⟨rfl, rfl⟩ := Prod.ext_iff.mp taken
  obtain ⟨_, _, _, holds, _⟩ := framed.framed
  cases ends with
  | read bytes receivedAt error asked failed =>
    dsimp only at asked
    subst asked
    rcases acceptVerifiedAt_outcome framed.active holds bytes receivedAt with ⟨_, _, _, _, made⟩ | ⟨_, made⟩
    · simp [step, made] at failed
    · simp [step, made, deactivate, reports]
  | expiry now error asked failed =>
    dsimp only at asked
    subst asked
    rcases expirePartial_outcome framed.active holds now with ⟨made, _⟩ | ⟨_, _, made⟩
    · simp [step, made] at failed
    · simp [step, made, deactivate, reports]
  | clear asked =>
    dsimp only at asked
    subst asked
    simp [step, clearIfMatches, framed.active,
      deactivate, reports]

theorem activated_of_activates {input : FrameStreamInput} {reply : FrameStreamReply}
    (taken : Total step stream input reply final) (activates : Activates ⟨stream, input, reply, final⟩ owner) :
    final = ⟨some owner, .empty⟩ := by
  obtain ⟨asked, valid, fresh⟩ := activates
  dsimp only at asked fresh
  subst asked
  have left : (stream.step (.activateVerified owner)).1 = final := (Prod.ext_iff.mp taken).1
  simpa [step, activateVerified, valid, fresh] using left.symm

/-- A read, as the pipe returns it. -/
structure StreamRead where
  bytes : List UInt8
  receivedAt : Nat

def StreamRead.arrivals (read : StreamRead) : List Arrival := read.bytes.map (·, read.receivedAt)

def StreamRead.input (owner : ReceiverTelemetryBinding) (read : StreamRead) : FrameStreamInput :=
  .acceptVerifiedAt owner read.bytes read.receivedAt

/-- The next byte of a stream of records falls into the record of which the buffer holds the start. -/
theorem mem_record_of_short {tail record rest : List Arrival} {next : Arrival} {later : List Arrival}
    (cut : tail ++ next :: later = record ++ rest) (short : tail.length < record.length) :
    next ∈ record ∧ ∀ arrival ∈ tail, arrival ∈ record := by
  rcases append_eq_append_cons cut.symm with ⟨_, rfl, _⟩ | ⟨_, rfl, _⟩
  · exact ⟨by simp, fun arrival member => List.mem_append_left _ member⟩
  · simp at short

/-- Reads that cut a stream of valid records anyhow return its reports. -/
theorem reads_return_samples {reads : List StreamRead} {tail : List Arrival} (active : stream.active = some owner)
    (holds : stream.pending.Holds tail)
    (sized : ∀ read ∈ reads, read.bytes ≠ [] ∧ read.bytes.length ≤ maxReceiverTelemetryReadBytes)
    (ordered : reads.Pairwise fun first second => first.receivedAt ≤ second.receivedAt)
    (after : ∀ arrival ∈ tail, ∀ read ∈ reads, arrival.2 ≤ read.receivedAt)
    (cut : tail ++ reads.flatMap StreamRead.arrivals = records.flatten)
    (decodes : List.Forall₂ (Decodes owner) records samples)
    (spans : ∀ record ∈ records, ∀ first ∈ record, ∀ last ∈ record, last.2 ≤ first.2 + maxReceiverTelemetryPartialAge) :
    (∀ call ∈ calls step stream (reads.map (StreamRead.input owner)),
        ∃ reports, call.reply = .accepted (.ok reports)) ∧
      (calls step stream (reads.map (StreamRead.input owner))).flatMap reports = samples := by
  induction reads generalizing stream tail records samples with
  | nil =>
    refine ⟨by simp [calls], ?_⟩
    cases decodes with
    | nil => rfl
    | @cons record report records samples decoded =>
      have short := holds.length_lt
      have whole := decoded.1
      simp only [List.flatMap_nil, List.append_nil, List.flatten_cons] at cut
      rw [cut, List.length_append] at short
      omega
  | cons read reads ih =>
    obtain ⟨nonempty, size⟩ := sized read List.mem_cons_self
    have inTime : InTime tail read.receivedAt := by
      intro first head
      have inTail : first ∈ tail := List.mem_of_mem_head? head
      refine ⟨after first inTail read List.mem_cons_self, ?_⟩
      obtain ⟨byte, bytes, split⟩ := List.exists_cons_of_ne_nil nonempty
      cases decodes with
      | nil => simp [StreamRead.arrivals, split] at cut
      | @cons record report records samples decoded =>
        have shape : tail ++ (byte, read.receivedAt) ::
            (bytes.map (·, read.receivedAt) ++ reads.flatMap StreamRead.arrivals) =
            record ++ records.flatten := by simpa [StreamRead.arrivals, split] using cut
        obtain ⟨inside, tailInside⟩ := mem_record_of_short shape (by rw [decoded.1]; exact holds.length_lt)
        exact spans record List.mem_cons_self first (tailInside first inTail) _ inside
    obtain ⟨longer, accepted, later, _, _, made, same, held, restCut, decodesLater, inside, times⟩ :=
      acceptBytes_of_stream holds (by simpa [StreamRead.arrivals] using cut) decodes
    have answer := acceptVerifiedAt_of_inTime active holds inTime nonempty size made
    obtain ⟨first, laterOrdered⟩ := List.pairwise_cons.mp ordered
    have stepped : stream.step (read.input owner) = ({ stream with pending := longer }, .accepted (.ok accepted)) := by
      simp [StreamRead.input, step, answer]
    have stillActive : ({ stream with pending := longer } : ReceiverTelemetryFrameStream).active = some owner := active
    obtain ⟨succeed, returned⟩ := ih stillActive held
      (fun other member => sized other (.tail _ member)) laterOrdered
      (fun arrival member other listed => by
        rcases times arrival member with old | now
        · exact after arrival old other (.tail _ listed)
        · rw [now]
          exact first other listed)
      restCut decodesLater fun record member => spans record (inside record member)
    refine ⟨?_, ?_⟩
    · intro call member
      rw [List.map_cons, calls, stepped] at member
      rcases List.mem_cons.mp member with rfl | later
      · exact ⟨accepted, rfl⟩
      · exact succeed call later
    · rw [List.map_cons, calls, stepped, List.flatMap_cons, returned, same]
      rfl

theorem decodes_of_bytes (written : records.map (·.map Prod.fst) = samples.map ReceiverTelemetrySnapshot.bytes)
    (honest : ∀ sample ∈ samples, sample.Valid ∧ sample.binding = owner) :
    List.Forall₂ (Decodes owner) records samples := by
  induction samples generalizing records with
  | nil =>
    cases List.map_eq_nil_iff.mp written
    exact .nil
  | cons sample samples ih =>
    obtain ⟨_, _, rfl, same, more⟩ := List.map_eq_cons_iff.mp written
    obtain ⟨valid, own⟩ := honest sample List.mem_cons_self
    refine .cons ⟨?_, ?_, own⟩ (ih more fun other member => honest other (.tail _ member))
    · rw [← List.length_map (f := Prod.fst), same, sample.bytes_length]
    · rw [same]
      exact decodeReceiverTelemetry_bytes valid

/-- Telemetry framing does not depend on how reads are split. Valid snapshots of the active binding come back whatever
the reads are that their bytes are cut into, as long as these are of allowed size, in order and in time. For any bytes
whatever, the reports returned since an activation are the decodings of the whole records read so far, each complete in
time, and after the first failure nothing is returned before the next activation. -/
theorem telemetry_framing_split_independent :
    (∀ (stream : ReceiverTelemetryFrameStream) (owner : ReceiverTelemetryBinding)
        (samples : List ReceiverTelemetrySnapshot) (reads : List StreamRead) (records : List (List Arrival)),
      stream.active = some owner → stream.pending = .empty →
      (∀ sample ∈ samples, sample.Valid ∧ sample.binding = owner) →
      (∀ read ∈ reads, 1 ≤ read.bytes.length ∧ read.bytes.length ≤ 544) →
      (reads.Pairwise fun first second => first.receivedAt ≤ second.receivedAt) →
      reads.flatMap StreamRead.arrivals = records.flatten →
      records.map (·.map Prod.fst) = samples.map ReceiverTelemetrySnapshot.bytes →
      (∀ record ∈ records, ∀ first ∈ record, ∀ last ∈ record, last.2 ≤ first.2 + 2 * 10 ^ 9) →
      (∀ call ∈ calls step stream (reads.map (StreamRead.input owner)),
          ∃ reports, call.reply = .accepted (.ok reports)) ∧
        (calls step stream (reads.map (StreamRead.input owner))).flatMap reports =
          samples) ∧
    (∀ (stream final : ReceiverTelemetryFrameStream) (history : List FrameStreamCall),
      Run (Total step) stream history final →
      ∀ earlier activation since rest owner, history = earlier ++ activation :: (since ++ rest) →
        Activates activation owner → (∀ call ∈ since, ∀ other, ¬Activates call other) →
        ((∀ call ∈ since, ¬Ends owner call) →
          ∃ records tail, since.flatMap (arrivals owner) = records.flatten ++ tail ∧
            tail.length < receiverTelemetryWireLen ∧
            List.Forall₂ (Decodes owner) records (since.flatMap reports) ∧ ∀ record ∈ records, Prompt record) ∧
        (∀ before ending later, since = before ++ ending :: later → (∀ call ∈ before, ¬Ends owner call) →
          Ends owner ending → (ending :: later).flatMap reports = [])) := by
  refine ⟨?_, ?_⟩
  · intro stream owner samples reads records active empty honest sized ordered cut written spans
    have limit : maxReceiverTelemetryReadBytes = 544 := rfl
    have holds : stream.pending.Holds [] := by
      rw [empty]
      exact .empty
    refine reads_return_samples active holds ?_ ordered (by simp) (by simpa using cut) (decodes_of_bytes written honest)
      spans
    intro read member
    obtain ⟨some, size⟩ := sized read member
    exact ⟨List.length_pos_iff.mp some, by rw [limit]; exact size⟩
  · intro stream final history run earlier activation since rest owner cut activates unactivated
    obtain ⟨_, taken, later⟩ := run.split cut
    have fresh := activated_of_activates taken activates
    obtain ⟨_, sinceRun, _⟩ := later.parts
    have active : activation.after.active = some owner := by rw [fresh]
    have empty : activation.after.pending = .empty := by rw [fresh]
    refine ⟨?_, ?_⟩
    · intro unended
      obtain ⟨records, tail, whole, holds, _, decodes, prompts⟩ :=
        (Framed.of_run active empty sinceRun unended unactivated).framed
      exact ⟨records, tail, whole, holds.length_lt, decodes, prompts⟩
    · intro before ending after split unended ends
      subst split
      obtain ⟨reached, made, afterRun⟩ := sinceRun.split rfl
      have framed := Framed.of_run active empty reached unended fun call member =>
        unactivated call (List.mem_append_left _ member)
      obtain ⟨inactive, silent⟩ := inactive_of_ends framed made ends
      obtain ⟨_, quiet⟩ := inactive_of_run inactive afterRun fun call member =>
        unactivated call (List.mem_append_right _ (.tail _ member))
      rw [List.flatMap_cons, quiet, List.append_nil]
      exact silent

end Runs

def framedBinding : ReceiverTelemetryBinding := ⟨1, 2, 3, 4, 5, 6, 7, 8, 9⟩
def framedSample : ReceiverTelemetrySnapshot := ⟨framedBinding, 1, ⟨0, 0, 0, 0, 0, 0, 0, 0⟩⟩

/-- The record comes in two parts, a second apart. -/
def framedReads : List StreamRead := [⟨framedSample.bytes.take 100, 0⟩, ⟨framedSample.bytes.drop 100, 10 ^ 9⟩]

/-- A record that arrives in two reads is returned once, as a whole. -/
theorem telemetry_framing_split_independent_in_two :
    (calls ReceiverTelemetryFrameStream.step ⟨some framedBinding, .empty⟩
      (framedReads.map (StreamRead.input framedBinding))).flatMap FrameStreamCall.reports = [framedSample] := by
  refine (telemetry_framing_split_independent.1 ⟨some framedBinding, .empty⟩ framedBinding [framedSample] framedReads
    [framedReads.flatMap StreamRead.arrivals] rfl rfl ?_ ?_ ?_ ?_ ?_ ?_).2
  · intro sample member
    cases List.mem_singleton.mp member
    exact ⟨⟨by decide, by decide⟩, rfl⟩
  · decide
  · decide
  · simp
  · decide
  · intro record member first _ last inside
    cases List.mem_singleton.mp member
    have early : last.2 ≤ 10 ^ 9 := by
      obtain ⟨_, listed, here⟩ := List.mem_flatMap.mp inside
      obtain ⟨_, _, rfl⟩ := List.mem_map.mp here
      simp only [framedReads, List.mem_cons, List.not_mem_nil, or_false] at listed
      rcases listed with rfl | rfl <;> simp
    omega

end ClassMesh
