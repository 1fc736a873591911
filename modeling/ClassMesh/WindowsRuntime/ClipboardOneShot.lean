import ClassMesh.WindowsRuntime.ClipboardIngress

namespace ClassMesh

open Foundation SensitiveClipboardReadStream SensitiveClipboardReadInbox

variable {zeroize : List UInt8 → List UInt8}

section Parsing

variable {buffer : List UInt8} {message : SensitiveClipboardReadSuccess}

/-- All that the parser can do. A message comes from its frame and from nothing else. -/
inductive ParseOutcome (buffer : List UInt8) :
    SensitiveClipboardReadStream × Except ClipboardStreamError (Option SensitiveClipboardReadSuccess) → Prop
  | waiting : ParseOutcome buffer (⟨buffer, .collecting⟩, .ok none)
  | rejected (error : ClipboardStreamError) : ParseOutcome buffer (⟨[], .rejected⟩, .error error)
  | parsed {found : SensitiveClipboardReadSuccess} : frameBytes found = buffer →
      ParseOutcome buffer (⟨[], .complete⟩, .ok (some found))

theorem parse_outcome (buffer : List UInt8) : ParseOutcome buffer (parse buffer) := by
  unfold parse
  split
  · exact .waiting
  · split
    · exact .rejected _
    · simp only
      split
      · exact .rejected _
      · split
        · exact .rejected _
        · split
          · exact .rejected _
          · split
            · exact .rejected _
            · split
              · exact .rejected _
              · split
                · exact .waiting
                · split
                  · rename_i decoded
                    exact .parsed (frameBytes_of_decode decoded)
                  · exact .rejected _

/-- As long as the bytes of a frame have not all arrived the parser waits, and then it parses its message. -/
theorem parse_begins {suffix : List UInt8} (begins : buffer ++ suffix = frameBytes message) :
    (suffix ≠ [] ∧ parse buffer = (⟨buffer, .collecting⟩, .ok none)) ∨
      (suffix = [] ∧ ∃ parsed, parse buffer = (⟨[], .complete⟩, .ok (some parsed)) ∧
        SameMessage parsed message) := by
  have total := frameBytes_length message
  have length := payloadLen_toNat message
  have bound := textBytes_length_le message
  have sizes : buffer.length + suffix.length = (frameBytes message).length := by rw [← begins, List.length_append]
  unfold parse
  by_cases short : buffer.length < ipcHeaderLen
  · refine .inl ⟨?_, if_pos short⟩
    rintro rfl
    rw [List.length_nil] at sizes
    omega
  · have header : IpcHeader.decode buffer = .ok (clipboardReadHeader message) := by
      have front : buffer = (clipboardReadHeader message).bytes ++ buffer.drop ipcHeaderLen := by
        have same := congrArg (List.take ipcHeaderLen) begins
        rw [List.take_append_of_le_length (by omega), frameBytes,
          List.take_left' (IpcHeader.bytes_length _)] at same
        rw [← same, List.take_append_drop]
      rw [front]
      exact decodeHeader_frameBytes message _
    rw [if_neg short, header]
    simp only
    rw [if_neg (by simp [clipboardReadHeader]), if_neg (by simp [clipboardReadHeader]), if_neg (by omega),
      if_neg (by omega), if_neg (by omega)]
    by_cases more : buffer.length < ipcHeaderLen + (clipboardReadHeader message).payloadLen.toNat
    · refine .inl ⟨?_, if_pos more⟩
      rintro rfl
      rw [List.length_nil] at sizes
      omega
    · obtain rfl : suffix = [] := List.eq_nil_of_length_eq_zero (by omega)
      rw [List.append_nil] at begins
      obtain ⟨decoded, ok, same⟩ := decode_frameBytes message
      refine .inr ⟨rfl, decoded, ?_, same⟩
      rw [if_neg more, begins, ok]

theorem SameMessage.frameBytes {other : SensitiveClipboardReadSuccess} (same : SameMessage message other) :
    frameBytes message = frameBytes other := by
  simp only [ClassMesh.frameBytes, clipboardReadHeader, SensitiveClipboardReadSuccess.payloadBytes, same.1, same.2]

end Parsing

/-- A time in the 2.5 seconds after a gate was created. -/
def Timely (startMs nowMs : UInt64) : Prop :=
  startMs ≤ nowMs ∧ nowMs.toNat < startMs.toNat + sensitiveClipboardReadDeadlineMs

/-- A call that leaves the gate open: a push over the authenticated pipe of the right version with both grants for the
current binding in time, or a sweep in time. -/
def ClipboardGateCall.Permitted (binding : ClipboardReadSuccessBinding) (startMs : UInt64) : ClipboardGateInput → Prop
  | .pushChunk handshake version current _ nowMs grants =>
    handshake = .authenticated ∧ version = (ipcVersionMajor, clipboardReadSuccessFutureMinor) ∧
      grants.clipboardCapability ∧ grants.readPermission ∧ current = binding ∧ Timely startMs nowMs
  | .cancel => False
  | .expire nowMs => Timely startMs nowMs

def ClipboardGateInput.incoming : ClipboardGateInput → List UInt8
  | .pushChunk _ _ _ incoming _ _ => incoming
  | _ => []

def ClipboardGateInput.isPush : ClipboardGateInput → Bool
  | .pushChunk .. => true
  | _ => false

abbrev ClipboardGateCall := Call SensitiveClipboardTransportGate ClipboardGateInput ClipboardGateReply

/-- The bytes of all pushes. -/
def pushedBytes (past : List ClipboardGateCall) : List UInt8 := past.flatMap (·.input.incoming)

def ClipboardGateCall.Returns (message : SensitiveClipboardReadSuccess) (call : ClipboardGateCall) : Prop :=
  ∃ chunk, call.reply = .pushed (.ok (some message)) chunk

def ClipboardGateCall.Fails (call : ClipboardGateCall) :
    Prop := ∃ error chunk, call.reply = .pushed (.error error) chunk

open ClipboardGateCall

/-- What a gate is created for: a valid binding, and the time from its creation to its deadline. -/
structure GateTerm where
  binding : ClipboardReadSuccessBinding
  startMs : UInt64
  endMs : UInt64
  bound : binding.isValid
  deadline : endMs.toNat = startMs.toNat + sensitiveClipboardReadDeadlineMs

abbrev GateTerm.Permits (term : GateTerm) : ClipboardGateInput → Prop := Permitted term.binding term.startMs

def GateTerm.acceptance (term : GateTerm) : SensitiveClipboardReadAcceptanceGate :=
  ⟨some term.binding, term.startMs, term.endMs⟩

/-- A gate that has collected some bytes. -/
def openGate (term : GateTerm) (buffer : List UInt8) : SensitiveClipboardTransportGate :=
  ⟨term.binding, ⟨term.acceptance, ⟨buffer, .collecting⟩, term.startMs, term.endMs, false⟩⟩

/-- The deadline check of the code and the time allowed are the same. -/
theorem GateTerm.timely_iff (term : GateTerm) (nowMs : UInt64) :
    Timely term.startMs nowMs ↔ ¬(nowMs < term.startMs ∨ term.endMs ≤ nowMs) := by
  have deadline := term.deadline
  rw [Timely, not_or, UInt64.not_lt, UInt64.not_le, UInt64.lt_iff_toNat_lt, deadline]

section Pushes

variable {term : GateTerm} {current : ClipboardReadSuccessBinding} {nowMs : UInt64} {buffer incoming : List UInt8}
  {handshake : HandshakeState} {version : UInt8 × UInt8} {grants : SensitiveReadGrants}
  {gate : SensitiveClipboardTransportGate} {message : SensitiveClipboardReadSuccess}
  {inbox : SensitiveClipboardReadInbox} {bytes chunk : List UInt8}

theorem new_openGate {expected active : ClipboardReadSuccessBinding}
    (built : SensitiveClipboardTransportGate.new handshake version expected active nowMs grants = .ok gate) :
    ∃ term : GateTerm, term.binding = expected ∧ term.startMs = nowMs ∧ gate = openGate term [] := by
  unfold SensitiveClipboardTransportGate.new at built
  split at built
  · cases built
  · split at built
    · cases built
    · split at built
      · cases built
      · split at built
        · cases built
        · rename_i valid
          have bound : expected.isValid := by
            simp only [Bool.or_eq_true, not_or, Bool.not_eq_true', Bool.not_eq_false] at valid
            exact valid.1.1
          cases later : checkedAdd nowMs sensitiveClipboardReadDeadlineMs with
          | none =>
            simp [new, SensitiveClipboardReadAcceptanceGate.new, bound, later] at built
          | some endMs =>
            simp only [new, SensitiveClipboardReadAcceptanceGate.new, bound, later,
              Bool.not_true, Bool.false_eq_true, if_false, Except.ok.injEq] at built
            exact ⟨⟨expected, nowMs, endMs, bound, checkedAdd_eq_some.mp later⟩, rfl, rfl, built.symm⟩

/-- A closed inbox stays as it is. -/
theorem cancel_closed (gate : SensitiveClipboardTransportGate) : gate.closed.inbox.closed = true := by
  unfold SensitiveClipboardTransportGate.closed cancel
  split
  · assumption
  · rfl

/-- All that a push can do to the inbox of an open gate, with the bytes it completes. -/
inductive Ingress {ε : Type} (term : GateTerm) (permitted : Prop) (bytes : List UInt8) :
    SensitiveClipboardReadInbox × Except ε (Option SensitiveClipboardReadSuccess) → Prop
  | collected : permitted → SensitiveClipboardReadStream.parse bytes = (⟨bytes, .collecting⟩, .ok none) →
      Ingress term permitted bytes ((openGate term bytes).inbox, .ok none)
  | delivered {inbox : SensitiveClipboardReadInbox} {message : SensitiveClipboardReadSuccess} :
      permitted → frameBytes message = bytes → message.binding = term.binding → inbox.closed = true →
      Ingress term permitted bytes (inbox, .ok (some message))
  | failed {inbox : SensitiveClipboardReadInbox} {error : ε} : inbox.closed = true →
      (permitted → ∀ message, message.binding = term.binding → ¬bytes <+: frameBytes message) →
      Ingress term permitted bytes (inbox, .error error)

theorem frameBytes_length_le (message : SensitiveClipboardReadSuccess) :
    (frameBytes message).length ≤ maxSensitiveReadFrame := by
  have total := frameBytes_length message
  have length := payloadLen_toNat message
  have bound := textBytes_length_le message
  simp only [maxSensitiveReadFrame]
  omega

/-- The parser rejects nothing that a frame begins with. -/
theorem parse_error_not_begins {stream : SensitiveClipboardReadStream} {error : ClipboardStreamError}
    (rejected : parse bytes = (stream, .error error)) (message : SensitiveClipboardReadSuccess) :
    ¬bytes <+: frameBytes message := by
  rintro ⟨_, begins⟩
  rcases parse_begins begins with ⟨-, waiting⟩ | ⟨-, _, complete, -⟩
  · rw [rejected] at waiting
    cases waiting
  · rw [rejected] at complete
    cases complete

/-- No frame begins with that of another message. -/
theorem frameBytes_begins {found : SensitiveClipboardReadSuccess} (begins : frameBytes found <+: frameBytes message) :
    SameMessage found message := by
  obtain ⟨_, whole⟩ := begins
  have itself : frameBytes found ++ [] = frameBytes found := List.append_nil _
  rcases parse_begins itself with ⟨more, -⟩ | ⟨-, _, complete, same⟩
  · exact absurd rfl more
  · rcases parse_begins whole with ⟨-, waiting⟩ | ⟨-, _, complete', same'⟩
    · rw [complete] at waiting
      cases waiting
    · rw [complete] at complete'
      cases complete'
      exact ⟨same.1.symm.trans same'.1, same.2.symm.trans same'.2⟩

theorem accept_other (other : message.binding ≠ term.binding) (nowMs : UInt64) :
    ∃ gate error, term.acceptance.accept message nowMs = (gate, .error error) := by
  unfold SensitiveClipboardReadAcceptanceGate.accept
  simp only [GateTerm.acceptance]
  repeat' split
  all_goals exact ⟨_, _, rfl⟩

theorem accept_same (same : message.binding = term.binding) (early : ¬nowMs < term.startMs)
    (late : ¬term.endMs ≤ nowMs) : ∃ gate, term.acceptance.accept message nowMs = (gate, .ok message) := by
  unfold SensitiveClipboardReadAcceptanceGate.accept
  simp only [GateTerm.acceptance, if_neg early, if_neg late, if_neg (not_not.mpr same)]
  exact ⟨_, rfl⟩

theorem inbox_ingress {result : Except SensitiveInboxError (Option SensitiveClipboardReadSuccess)}
    (pushed : (openGate term buffer).inbox.pushChunk zeroize incoming nowMs = (inbox, result, chunk)) :
    Ingress term (Timely term.startMs nowMs) (buffer ++ incoming) (inbox, result) := by
  simp only [openGate] at pushed
  simp only [pushChunk, Bool.false_eq_true, if_false] at pushed
  by_cases early : nowMs < term.startMs
  · rw [if_pos early] at pushed
    cases pushed
    exact .failed rfl fun timely => absurd (.inl early) ((term.timely_iff nowMs).mp timely)
  rw [if_neg early] at pushed
  by_cases late : term.endMs ≤ nowMs
  · rw [if_pos late] at pushed
    cases pushed
    exact .failed rfl fun timely => absurd (.inr late) ((term.timely_iff nowMs).mp timely)
  rw [if_neg late] at pushed
  have timely := (term.timely_iff nowMs).mpr (not_or.mpr ⟨early, late⟩)
  by_cases long : maxSensitiveReadFrame < buffer.length + incoming.length
  · simp only [pushBytes, ne_eq, not_true_eq_false, if_false, if_pos long,
      reject] at pushed
    cases pushed
    refine .failed rfl fun _ message _ begins => ?_
    have shorter := begins.length_le
    have bounded := frameBytes_length_le message
    rw [List.length_append] at shorter
    omega
  simp only [pushBytes, ne_eq, not_true_eq_false, if_false, if_neg long] at pushed
  have outcome := parse_outcome (buffer ++ incoming)
  generalize parsed : parse (buffer ++ incoming) = reply at outcome pushed
  cases outcome with
  | waiting =>
    cases pushed
    exact .collected timely parsed
  | rejected =>
    cases pushed
    exact .failed rfl fun _ message _ => parse_error_not_begins parsed message
  | @parsed message frame =>
    by_cases same : message.binding = term.binding
    · obtain ⟨_, accepted⟩ := accept_same same early late
      simp only [accepted] at pushed
      cases pushed
      exact .delivered timely frame same rfl
    · obtain ⟨_, _, refused⟩ := accept_other same nowMs
      simp only [refused] at pushed
      cases pushed
      refine .failed rfl fun _ other bound begins => same ?_
      rw [← frame] at begins
      exact (frameBytes_begins begins).1.trans bound

theorem Ingress.mapError {ε δ : Type} {permitted : Prop} {result : Except ε (Option SensitiveClipboardReadSuccess)}
    (convert : ε → δ) (ingress : Ingress term permitted bytes (inbox, result)) :
    Ingress term permitted bytes (inbox, result.mapError convert) := by
  cases ingress with
  | collected allowed waiting => exact .collected allowed waiting
  | delivered allowed frame same closed => exact .delivered allowed frame same closed
  | failed closed never => exact .failed closed never

theorem push_ingress {result : Except SensitiveTransportError (Option SensitiveClipboardReadSuccess)}
    (pushed : (openGate term buffer).pushChunk zeroize handshake version current incoming nowMs grants =
      (gate, result, chunk)) :
    gate.expected = term.binding ∧
      Ingress term (term.Permits (.pushChunk handshake version current incoming nowMs grants)) (buffer ++ incoming)
        (gate.inbox, result) := by
  unfold SensitiveClipboardTransportGate.pushChunk at pushed
  split at pushed
  · rename_i unauthenticated
    cases pushed
    exact ⟨rfl, .failed (cancel_closed _) fun permitted => absurd permitted.1 unauthenticated⟩
  · rename_i authenticated
    split at pushed
    · rename_i wrong
      cases pushed
      exact ⟨rfl, .failed (cancel_closed _) fun permitted => absurd permitted.2.1 wrong⟩
    · rename_i agreed
      split at pushed
      · rename_i refused
        cases pushed
        refine ⟨rfl, .failed (cancel_closed _) fun permitted => ?_⟩
        simp [SensitiveReadGrants.allowsRead, permitted.2.2.1, permitted.2.2.2.1] at refused
      · rename_i granted
        split at pushed
        · rename_i changed
          cases pushed
          refine ⟨rfl, .failed (cancel_closed _) fun permitted => ?_⟩
          simp [openGate, permitted.2.2.2.2.1, term.bound] at changed
        · rename_i unchanged
          simp only [not_or, not_not, Bool.not_eq_true', Bool.not_eq_false] at authenticated agreed granted unchanged
          rw [SensitiveReadGrants.allowsRead, Bool.and_eq_true] at granted
          have timely : Timely term.startMs nowMs =
              term.Permits (.pushChunk handshake version current incoming nowMs grants) :=
            propext ⟨fun timely => ⟨authenticated, agreed, granted.1, granted.2, unchanged.1, timely⟩,
              fun permitted => permitted.2.2.2.2.2⟩
          cases pushed
          rw [← timely]
          exact ⟨rfl, (inbox_ingress rfl).mapError _⟩

/-- A closed gate has no way back. -/
theorem push_closed (closed : gate.inbox.closed = true) (handshake : HandshakeState) (version : UInt8 × UInt8)
    (current : ClipboardReadSuccessBinding) (incoming : List UInt8) (nowMs : UInt64) (grants : SensitiveReadGrants) :
    ∃ error, gate.pushChunk zeroize handshake version current incoming nowMs grants =
      (gate, .error error, zeroize incoming) := by
  have same : gate.closed = gate := by
    simp only [SensitiveClipboardTransportGate.closed, cancel, if_pos closed]
  unfold SensitiveClipboardTransportGate.pushChunk
  simp only [same, pushChunk, if_pos closed]
  repeat' split
  all_goals exact ⟨_, rfl⟩

theorem inbox_push_wipes (inbox : SensitiveClipboardReadInbox) :
    (inbox.pushChunk zeroize incoming nowMs).2.2 = zeroize incoming := by
  have wiped : (inbox.stream.pushBytes zeroize incoming).2.2 = zeroize incoming := by
    unfold pushBytes
    repeat' split
    all_goals rfl
  unfold pushChunk
  repeat' split
  all_goals first | rfl | simp_all

/-- Whatever a push does, its chunk is wiped. -/
theorem gate_push_wipes (gate : SensitiveClipboardTransportGate) :
    (gate.pushChunk zeroize handshake version current incoming nowMs grants).2.2 = zeroize incoming := by
  unfold SensitiveClipboardTransportGate.pushChunk
  repeat' split
  all_goals first | rfl | skip
  rename_i pushed
  exact (congrArg (·.2.2) pushed).symm.trans (inbox_push_wipes gate.inbox)

theorem ClipboardGateCall.Fails.not_returns {call : ClipboardGateCall} (fails : Fails call)
    (message : SensitiveClipboardReadSuccess) : ¬Returns message call := by
  obtain ⟨_, _, failed⟩ := fails
  rintro ⟨_, returned⟩
  rw [failed] at returned
  cases returned

end Pushes

section Histories

open SensitiveClipboardTransportGate (step)

variable {term : GateTerm} {past : List ClipboardGateCall}
  {gate after : SensitiveClipboardTransportGate} {input : ClipboardGateInput} {reply : ClipboardGateReply}
  {message : SensitiveClipboardReadSuccess} {buffer : List UInt8}

theorem ClipboardGateCall.Returns.unique {call : ClipboardGateCall} {other : SensitiveClipboardReadSuccess}
    (returned : Returns message call) (again : Returns other call) : message = other := by
  obtain ⟨_, first⟩ := returned
  obtain ⟨_, second⟩ := again
  rw [first] at second
  cases second
  rfl

theorem ClipboardGateCall.Returns.isPush (taken : Total (step zeroize) gate input reply after)
    (returned : Returns message ⟨gate, input, reply, after⟩) : input.isPush := by
  obtain ⟨_, returned⟩ := returned
  cases input with
  | pushChunk => rfl
  | cancel | expire =>
    cases taken
    cases returned

theorem step_closed (closed : gate.inbox.closed = true) (taken : Total (step zeroize) gate input reply after) :
    after = gate ∧ (input.isPush → Fails ⟨gate, input, reply, after⟩) := by
  unfold Foundation.Total at taken
  cases input with
  | pushChunk handshake version current incoming nowMs grants =>
    obtain ⟨error, pushed⟩ := push_closed closed handshake version current incoming nowMs grants
    rw [step, pushed] at taken
    cases taken
    exact ⟨rfl, fun _ => ⟨error, _, rfl⟩⟩
  | cancel =>
    simp only [step, SensitiveClipboardTransportGate.cancel,
      cancel, if_pos closed] at taken
    cases taken
    exact ⟨rfl, nofun⟩
  | expire =>
    simp only [step, SensitiveClipboardTransportGate.expire,
      expire, if_pos closed] at taken
    cases taken
    exact ⟨rfl, nofun⟩

theorem step_wipes (taken : Total (step zeroize) gate input reply after) (push : input.isPush) :
    ∃ result, reply = .pushed result (zeroize input.incoming) := by
  cases input with
  | cancel | expire => cases push
  | pushChunk =>
    cases taken
    exact ⟨_, congrArg _ (gate_push_wipes gate)⟩

/-- A history after which no message can come, because one has been returned or some call or byte was wrong. -/
def Spent (term : GateTerm) (past : List ClipboardGateCall) : Prop :=
  ∀ message, message.binding = term.binding → pushedBytes past <+: frameBytes message →
    (∀ call ∈ past, term.Permits call.input) → ∃ call ∈ past, ∃ found, Returns found call

theorem pushedBytes_concat (past : List ClipboardGateCall) (call : ClipboardGateCall) :
    pushedBytes (past ++ [call]) = pushedBytes past ++ call.input.incoming := by
  simp [pushedBytes]

theorem Spent.concat (spent : Spent term past) (call : ClipboardGateCall) : Spent term (past ++ [call]) := by
  intro message bound begins permitted
  rw [pushedBytes_concat] at begins
  obtain ⟨earlier, member, returned⟩ := spent message bound ((List.prefix_append _ _).trans begins)
    (forall_of_append permitted)
  exact ⟨earlier, List.mem_append_left _ member, returned⟩

/-- A gate either has only collected so far, or it is closed for good. -/
inductive GateHistory (term : GateTerm) (past : List ClipboardGateCall)
    (gate : SensitiveClipboardTransportGate) : Prop
  | collecting : gate = openGate term (pushedBytes past) →
      (∀ call ∈ past, term.Permits call.input) → (∀ call ∈ past, ∀ message, ¬Returns message call) →
      GateHistory term past gate
  | spent : gate.inbox.closed = true → Spent term past → GateHistory term past gate

/-- All that a call can do to an open gate. -/
inductive OpenCall (term : GateTerm) (bytes : List UInt8)
    (call : ClipboardGateCall) : Prop
  | collected : term.Permits call.input → call.after = openGate term bytes →
      (∀ message, ¬Returns message call) → ¬Fails call →
      (call.input.isPush → SensitiveClipboardReadStream.parse bytes = (⟨bytes, .collecting⟩, .ok none)) →
      OpenCall term bytes call
  | delivered {message : SensitiveClipboardReadSuccess} : term.Permits call.input →
      Returns message call → frameBytes message = bytes → message.binding = term.binding →
        call.after.inbox.closed = true →
      OpenCall term bytes call
  | closed : call.after.inbox.closed = true → (∀ message, ¬Returns message call) →
      (term.Permits call.input → ∀ message, message.binding = term.binding → ¬bytes <+: frameBytes message) →
      OpenCall term bytes call

theorem open_push {incoming chunk : List UInt8} {handshake : HandshakeState} {version : UInt8 × UInt8}
    {current : ClipboardReadSuccessBinding} {nowMs : UInt64} {grants : SensitiveReadGrants}
    {result : Except SensitiveTransportError (Option SensitiveClipboardReadSuccess)}
    (pushed : (openGate term buffer).pushChunk zeroize handshake version current incoming nowMs grants =
      (after, result, chunk)) :
    OpenCall term (buffer ++ incoming)
      ⟨openGate term buffer, .pushChunk handshake version current incoming nowMs grants,
        .pushed result chunk, after⟩ := by
  obtain ⟨same, ingress⟩ := push_ingress pushed
  obtain ⟨expected, _⟩ := after
  obtain rfl : expected = term.binding := same
  cases ingress with
  | collected permitted waiting =>
    refine .collected permitted rfl ?_ ?_ fun _ => waiting
    · rintro message ⟨_, returned⟩
      cases returned
    · rintro ⟨_, _, failed⟩
      cases failed
  | delivered permitted frame own closed => exact .delivered permitted ⟨_, rfl⟩ frame own closed
  | failed closed never => exact .closed closed (Fails.not_returns ⟨_, _, rfl⟩) never

theorem open_expire {nowMs : UInt64} (taken : Total (step zeroize) (openGate term buffer) (.expire nowMs) reply after) :
    OpenCall term buffer
      ⟨openGate term buffer, .expire nowMs, reply, after⟩ := by
  have silent (message : SensitiveClipboardReadSuccess) :
      ¬Returns message ⟨openGate term buffer, .expire nowMs, reply, after⟩ :=
    fun returned => Bool.false_ne_true (returned.isPush taken)
  by_cases outside : nowMs < term.startMs ∨ term.endMs ≤ nowMs
  · have swept : (openGate term buffer).inbox.expire nowMs =
        (openGate term buffer).inbox.cancel := (if_neg Bool.false_ne_true).trans (if_pos outside)
    refine .closed ?_ silent fun permitted => absurd outside ((term.timely_iff nowMs).mp permitted)
    cases taken
    exact (congrArg (·.1.closed) swept).trans (cancel_closed (openGate term buffer))
  · have swept : (openGate term buffer).inbox.expire nowMs =
        ((openGate term buffer).inbox, false) := (if_neg Bool.false_ne_true).trans (if_neg outside)
    refine .collected ((term.timely_iff nowMs).mpr outside) ?_ silent ?_ nofun
    · cases taken
      exact congrArg (fun inbox => (⟨term.binding, inbox.1⟩ : SensitiveClipboardTransportGate)) swept
    · cases taken
      rintro ⟨_, _, failed⟩
      cases failed

theorem open_call (taken : Total (step zeroize) (openGate term buffer) input reply after) :
    OpenCall term (buffer ++ input.incoming)
      ⟨openGate term buffer, input, reply, after⟩ := by
  cases input with
  | pushChunk =>
    cases taken
    exact open_push rfl
  | cancel =>
    refine .closed ?_ (fun message returned => Bool.false_ne_true (returned.isPush taken))
      fun permitted => permitted.elim
    cases taken
    rfl
  | expire nowMs =>
    rw [show (ClipboardGateInput.expire nowMs).incoming = [] from rfl, List.append_nil]
    exact open_expire taken

/-- A message is returned exactly by the push that completes its frame. -/
theorem GateHistory.returns_iff (history : GateHistory term past gate)
    (taken : Total (step zeroize) gate input reply after) (push : input.isPush)
    (message : SensitiveClipboardReadSuccess) :
    (∃ found, Returns found ⟨gate, input, reply, after⟩ ∧ SameMessage found message) ↔
      (∀ call ∈ past, ∀ found, ¬Returns found call) ∧
      encodeSensitiveClipboardReadFrame message = some (pushedBytes (past ++ [⟨gate, input, reply, after⟩])) ∧
      message.binding = term.binding ∧
      ∀ call ∈ past ++ [⟨gate, input, reply, after⟩], term.Permits call.input := by
  rw [encode_eq_frameBytes, Option.some_inj, pushedBytes_concat]
  cases history with
  | spent closed spent =>
    refine ⟨fun ⟨found, returned, _⟩ => ?_, fun ⟨fresh, frame, own, permitted⟩ => ?_⟩
    · exact absurd returned (((step_closed closed taken).2 push).not_returns found)
    · obtain ⟨call, member, found, returned⟩ := spent message own (frame ▸ List.prefix_append _ _)
        (forall_of_append permitted)
      exact absurd returned (fresh call member found)
  | collecting same permitted fresh =>
    subst same
    have outcome := open_call taken
    cases outcome with
    | collected _ _ silent _ waits =>
      refine ⟨fun ⟨found, returned, _⟩ => absurd returned (silent found), fun ⟨_, frame, _, _⟩ => ?_⟩
      rcases parse_begins ((List.append_nil _).trans frame.symm) with ⟨more, -⟩ | ⟨-, _, complete, -⟩
      · exact absurd rfl more
      · have waiting := congrArg (·.2) ((waits push).symm.trans complete)
        cases waiting
    | @delivered found allowed returned frame own =>
      refine ⟨fun ⟨other, returned', same⟩ => ?_, fun ⟨_, frame', _, _⟩ => ?_⟩
      · obtain rfl := returned'.unique returned
        refine ⟨fresh, same.frameBytes.symm.trans frame, same.1.symm.trans own, ?_⟩
        exact List.forall_mem_append.mpr ⟨permitted, List.forall_mem_singleton.mpr allowed⟩
      · exact ⟨found, returned, frameBytes_begins (frame.trans frame'.symm ▸ List.prefix_refl _)⟩
    | closed _ silent never =>
      refine ⟨fun ⟨found, returned, _⟩ => absurd returned (silent found), fun ⟨_, frame, own, all⟩ => ?_⟩
      have allowed := all _ List.mem_concat_self
      exact absurd (frame ▸ List.prefix_refl _) (never allowed message own)

/-- What a call does to the history: a returned message or a wrong call spends it. -/
theorem GateHistory.next (history : GateHistory term past gate) (taken : Total (step zeroize) gate input reply after) :
    GateHistory term (past ++ [⟨gate, input, reply, after⟩]) after ∧
      (Fails ⟨gate, input, reply, after⟩ ∨ (∃ message, Returns message ⟨gate, input, reply, after⟩) →
        after.inbox.closed = true) := by
  cases history with
  | spent closed spent =>
    obtain ⟨rfl, -⟩ := step_closed closed taken
    exact ⟨.spent closed (spent.concat _), fun _ => closed⟩
  | collecting same permitted fresh =>
    subst same
    have outcome := open_call taken
    cases outcome with
    | collected allowed kept silent passes =>
      refine ⟨?_, fun ended => (ended.elim passes fun ⟨message, returned⟩ => silent message returned).elim⟩
      refine .collecting (by rw [pushedBytes_concat]; exact kept) ?_ ?_
      · exact List.forall_mem_append.mpr ⟨permitted, List.forall_mem_singleton.mpr allowed⟩
      · exact List.forall_mem_append.mpr ⟨fresh, List.forall_mem_singleton.mpr silent⟩
    | @delivered found _ returned _ _ closed =>
      refine ⟨.spent closed fun _ _ _ _ => ⟨_, List.mem_concat_self, found, returned⟩,
        fun _ => closed⟩
    | closed closed silent never =>
      refine ⟨.spent closed fun message own begins all => ?_, fun _ => closed⟩
      rw [pushedBytes_concat] at begins
      have allowed := all _ List.mem_concat_self
      exact absurd begins (never allowed message own)

theorem gateHistory_of_run (run : Run (Total (step zeroize)) (openGate term []) past gate) :
    GateHistory term past gate := by
  induction run with
  | start => exact .collecting rfl (by simp) (by simp)
  | next _ taken ih => exact (ih.next taken).1

theorem run_closed (run : Run (Total (step zeroize)) gate past after) (closed : gate.inbox.closed = true) :
    ∀ call ∈ past, call.input.isPush → Fails call := by
  intro call member push
  obtain ⟨_, _, _, reached, taken, -⟩ := run.of_mem member
  have still : call.before.inbox.closed = true := by
    refine Run.invariant (P := fun gate => gate.inbox.closed = true) reached closed fun _ _ _ _ closed taken => ?_
    rw [(step_closed closed taken).1]
    exact closed
  exact (step_closed still taken).2 push

end Histories

/-- One-shot ingress. A push returns a message exactly when it completes the frame of that message after nothing but
permitted calls and no earlier message. Nothing comes after a message or a failure, and every chunk is wiped, with
whatever `zeroize` wipes with. -/
theorem clipboard_ingress_one_shot (zeroizes : Zeroizes zeroize) {handshake : HandshakeState}
    {version : UInt8 × UInt8} {expected active : ClipboardReadSuccessBinding} {startMs : UInt64}
    {grants : SensitiveReadGrants} {gate final : SensitiveClipboardTransportGate} {past : List ClipboardGateCall}
    (built : SensitiveClipboardTransportGate.new handshake version expected active startMs grants = .ok gate)
    (run : Run (Total (SensitiveClipboardTransportGate.step zeroize)) gate past final) :
    ∀ earlier call later, past = earlier ++ call :: later →
      (call.input.isPush → ∀ message,
        (∃ found, Returns found call ∧ SameMessage found message) ↔
          (∀ previous ∈ earlier, ∀ found, ¬Returns found previous) ∧
          encodeSensitiveClipboardReadFrame message = some (pushedBytes (earlier ++ [call])) ∧
          message.binding = expected ∧ ∀ made ∈ earlier ++ [call], Permitted expected startMs made.input) ∧
      (∀ message, Returns message call → call.input.isPush ∧
        ∀ other ∈ earlier ++ later, ∀ found, ¬Returns found other) ∧
      (Fails call ∨ (∃ message, Returns message call) → ∀ next ∈ later, next.input.isPush → Fails next) ∧
      (call.input.isPush → ∃ result chunk, call.reply = .pushed result chunk ∧
        chunk.length = call.input.incoming.length ∧ ∀ byte ∈ chunk, byte = 0) := by
  intro earlier call later cut
  obtain ⟨_, rfl, rfl, rfl⟩ := new_openGate built
  obtain ⟨reached, taken, rest⟩ := run.split cut
  have history := gateHistory_of_run reached
  have ends := (history.next taken).2
  have after : Fails call ∨ (∃ message, Returns message call) → ∀ next ∈ later, next.input.isPush → Fails next :=
    fun ended => run_closed rest (ends ended)
  refine ⟨history.returns_iff taken, fun message returned => ?_, after, fun push => ?_⟩
  · have push := returned.isPush taken
    refine ⟨push, List.forall_mem_append.mpr ⟨?_, fun next member found again => ?_⟩⟩
    · exact ((history.returns_iff taken push message).mp ⟨message, returned, rfl, rfl⟩).1
    · obtain ⟨_, _, _, -, taken', -⟩ := rest.of_mem member
      exact (after (.inr ⟨message, returned⟩) next member (again.isPush taken')).not_returns found again
  · obtain ⟨result, wiped⟩ := step_wipes taken push
    exact ⟨result, _, wiped, by simp [zeroizes _], by simp [zeroizes _]⟩

/-- A buffer of zeros in place of another. -/
def zeros (buffer : List UInt8) : List UInt8 := List.replicate buffer.length 0

def clipboardBinding : ClipboardReadSuccessBinding := ⟨1, 2, 3, 4, 5, 6⟩

def clipboardMessage : SensitiveClipboardReadSuccess :=
  ⟨clipboardBinding, [104, 105], 0, by decide, by decide⟩

def clipboardPush (incoming : List UInt8) (nowMs : UInt64) : ClipboardGateInput :=
  .pushChunk .authenticated (0, 12) clipboardBinding incoming nowMs ⟨true, true⟩

/-- A frame in two chunks, with a sweep between them and the last one in the last millisecond. -/
theorem clipboard_ingress_one_shot_in_two_chunks :
    ∃ gate first sweep last,
      SensitiveClipboardTransportGate.new .authenticated (0, 12) clipboardBinding clipboardBinding 100 ⟨true, true⟩ =
        .ok gate ∧
      calls (SensitiveClipboardTransportGate.step zeros) gate
        [clipboardPush ((frameBytes clipboardMessage).take 20) 100, .expire 200,
          clipboardPush ((frameBytes clipboardMessage).drop 20) 2599] = [first, sweep, last] ∧
      ∃ found, Returns found last ∧ SameMessage found clipboardMessage := by
  have built : SensitiveClipboardTransportGate.new .authenticated (0, 12) clipboardBinding clipboardBinding 100
      ⟨true, true⟩ = .ok (openGate ⟨clipboardBinding, 100, 2600, rfl, rfl⟩ []) := by decide +kernel
  refine ⟨_, _, _, _, built, rfl, ?_⟩
  have completes := (clipboard_ingress_one_shot (fun _ => rfl) built (Run.of_calls _ _
    [clipboardPush ((frameBytes clipboardMessage).take 20) 100, .expire 200,
      clipboardPush ((frameBytes clipboardMessage).drop 20) 2599]) [_, _] _ [] rfl).1 rfl clipboardMessage
  refine completes.mpr ⟨?_, ?_, rfl, ?_⟩
  · rintro previous (_ | ⟨_, _ | ⟨_, ⟨⟩⟩⟩) found ⟨_, returned⟩
    · cases returned
    · cases returned
  · rw [encode_eq_frameBytes]
    decide +kernel
  · have inTime : Timely 100 100 ∧ Timely 100 200 ∧ Timely 100 2599 := by
      simp only [Timely]
      decide
    rintro made (_ | ⟨_, _ | ⟨_, _ | ⟨_, ⟨⟩⟩⟩⟩)
    · exact ⟨rfl, rfl, rfl, rfl, rfl, inTime.1⟩
    · exact inTime.2.1
    · exact ⟨rfl, rfl, rfl, rfl, rfl, inTime.2.2⟩

end ClassMesh
