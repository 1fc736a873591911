import ClassMesh.Control.Handshake

namespace ClassMesh

open Foundation Effect ControlChannel

variable {E : Type} {hello : ControlHello} {config : ServerHelloConfig} {channel after : ControlChannel E}
  {session : EstablishedControlSession}

namespace ControlChannel

theorem apply_send (envelope : ControlEnvelope) (channel : ControlChannel E) :
    (send envelope).apply channel =
      match channel.accepts envelope with
      | .error error => (.error (.transport error), channel)
      | .ok () => (.ok (), { channel with sent := channel.sent ++ [envelope] }) := by
  unfold send
  rw [apply_bind, apply_get]
  cases accepted : channel.accepts envelope <;> simp [accepted]

theorem apply_receive (channel : ControlChannel E) :
    receive.apply channel =
      match channel.arriving with
      | [] => (.error (.transport channel.idle), channel)
      | envelope :: later => (.ok envelope, { channel with arriving := later }) := by
  unfold receive
  rw [apply_bind, apply_get]
  cases arriving : channel.arriving with
  | nil => simp [arriving]
  | cons => simp [arriving, apply_map, Except.map]

variable {envelope : ControlEnvelope}

theorem returns_send {value : Unit} :
    (send envelope).Returns channel value after ↔
      channel.accepts envelope = .ok () ∧ { channel with sent := channel.sent ++ [envelope] } = after := by
  rw [Returns, apply_send]
  cases channel.accepts envelope <;> simp

theorem returns_receive :
    receive.Returns channel envelope after ↔
      ∃ later, channel.arriving = envelope :: later ∧ { channel with arriving := later } = after := by
  rw [Returns, apply_receive]
  cases channel.arriving <;> simp [and_comm]

end ControlChannel

section Server

theorem negotiate_eq_some {version other negotiated : ProtocolVersion}
    (agreed : version.negotiate other = some negotiated) :
    negotiated.major = version.major ∧ negotiated.major = other.major ∧
      negotiated.minor.toNat = min version.minor.toNat other.minor.toNat := by
  unfold ProtocolVersion.negotiate at agreed
  split at agreed
  · cases agreed
  case isFalse same =>
    cases agreed
    refine ⟨rfl, not_not.mp same, ?_⟩
    split
    case isTrue less => exact (Nat.min_eq_left (UInt16.le_iff_toNat_le.mp (UInt16.le_of_lt less))).symm
    case isFalse notLess => exact (Nat.min_eq_right (UInt16.le_iff_toNat_le.mp (UInt16.not_lt.mp notLess))).symm

theorem completeServerHello_returns {requestId : UInt64} :
    (completeServerHello config requestId hello).Returns channel session after ↔
      ∃ negotiated, negotiateHello config.localVersion config.localCapabilities hello = .ok negotiated ∧
        (send (ackEnvelope config requestId negotiated)).Returns channel () after ∧
        ⟨config.controlSessionId, negotiated⟩ = session := by
  unfold completeServerHello
  split
  case h_1 error negotiated => simp [negotiated]
  case h_2 agreed negotiated => simp [negotiated, Unique.exists_iff]

/-- The client's opening as the server reads it. -/
theorem receiveHello_returns (arrived : channel.arriving = [helloEnvelope hello]) {request : ControlEnvelope}
    {received : ControlHello} :
    (receiveHello config).Returns channel (request, received) after ↔
      config.controlSessionId ≠ 0 ∧ request = helloEnvelope hello ∧ received = hello ∧
        after = { channel with arriving := [] } := by
  have opens : (validateHelloEnvelope (helloEnvelope hello) : Except (HandshakeError E) Unit) = .ok () := rfl
  have version : (validateHelloProtocolVersion (helloEnvelope hello) hello :
      Except (HandshakeError E) Unit) = .ok () := by
    unfold validateHelloProtocolVersion
    exact bind_eq_ok_iff.mpr ⟨hello.version, requiredVersion_versionToWire hello.version, if_neg (not_not.mpr rfl)⟩
  unfold receiveHello
  simp only [returns_ite, returns_bind, returns_throw, returns_receive, arrived, returns_ofExcept,
    false_and, exists_false, and_false, false_or, List.cons.injEq]
  constructor
  · rintro ⟨named, _, _, ⟨_, ⟨rfl, rfl⟩, rfl⟩, _, _, ⟨_, rfl⟩, returned⟩
    simp only [helloEnvelope, helloFromWire_helloToWire, returns_bind, returns_ofExcept, returns_pure] at returned
    obtain ⟨_, _, ⟨same, rfl⟩, _, _, ⟨_, rfl⟩, pair, rfl⟩ := returned
    cases same
    obtain ⟨rfl, rfl⟩ := Prod.mk.inj pair
    exact ⟨named, rfl, rfl, rfl⟩
  · rintro ⟨named, rfl, rfl, rfl⟩
    refine ⟨named, _, _, ⟨[], ⟨rfl, rfl⟩, rfl⟩, (), _, ⟨opens, rfl⟩, ?_⟩
    simp only [helloEnvelope, helloFromWire_helloToWire, returns_bind, returns_ofExcept, returns_pure]
    exact ⟨_, _, ⟨rfl, rfl⟩, (), _, ⟨version, rfl⟩, rfl, rfl⟩

/-- A server that completes its part of the handshake, whether or not it knows its peer from the transport. -/
def ServerCompletes (config : ServerHelloConfig) (channel : ControlChannel E) (session : EstablishedControlSession)
    (after : ControlChannel E) : Prop :=
  (serverHello config).Returns channel session after ∨
    ∃ authenticatedPeer peer, (serverHelloAuthenticated config authenticatedPeer).Returns channel (session, peer) after

theorem ServerCompletes.steps (completes : ServerCompletes config channel session after) :
    ∃ request received middle, (receiveHello config).Returns channel (request, received) middle ∧
      (completeServerHello config request.requestId received).Returns middle session after := by
  rcases completes with plain | ⟨_, _, authenticated⟩
  · unfold serverHello at plain
    simp only [returns_bind] at plain
    obtain ⟨⟨request, received⟩, middle, found, completed⟩ := plain
    exact ⟨request, received, middle, found, completed⟩
  · unfold serverHelloAuthenticated at authenticated
    simp only [returns_bind] at authenticated
    obtain ⟨⟨request, received⟩, middle, found, completed⟩ := authenticated
    refine ⟨request, received, middle, found, ?_⟩
    dsimp only at completed
    split at completed
    · simp at completed
    · simp only [returns_bind, returns_pure, Prod.mk.injEq] at completed
      obtain ⟨_, _, completed, ⟨rfl, _⟩, rfl⟩ := completed
      exact completed

theorem ServerCompletes.arriving_ne_nil (completes : ServerCompletes config channel session after) :
    channel.arriving ≠ [] := by
  intro empty
  obtain ⟨_, _, _, found, _⟩ := completes.steps
  unfold receiveHello at found
  simp [returns_ite, returns_receive, empty] at found

/-- A server completes by sending its acknowledgement. -/
theorem ServerCompletes.acknowledges (arrived : channel.arriving = [helloEnvelope hello])
    (completes : ServerCompletes config channel session after) :
    ∃ negotiated, negotiateHello config.localVersion config.localCapabilities hello = .ok negotiated ∧
      session = ⟨config.controlSessionId, negotiated⟩ ∧
      after.sent = channel.sent ++ [ackEnvelope config helloRequestId negotiated] := by
  obtain ⟨_, _, _, found, completed⟩ := completes.steps
  obtain ⟨_, rfl, rfl, rfl⟩ := (receiveHello_returns arrived).mp found
  obtain ⟨negotiated, agreed, sent, rfl⟩ := completeServerHello_returns.mp completed
  obtain ⟨_, rfl⟩ := returns_send.mp sent
  exact ⟨negotiated, agreed, rfl, rfl⟩

end Server

section Client

variable {ack : HelloAck} {response : ControlEnvelope}

theorem clientHello_returns :
    (clientHello hello).Returns channel session after ↔
      channel.accepts (helloEnvelope hello) = .ok () ∧ ∃ response later ack,
        channel.arriving = response :: later ∧ response.payload = some (.helloAck ack) ∧
        (validateHelloAckEnvelope response ack : Except (HandshakeError E) Unit) = .ok () ∧
        (establishedFromAck hello ack : Except (HandshakeError E) EstablishedControlSession) = .ok session ∧
        after = { channel with arriving := later, sent := channel.sent ++ [helloEnvelope hello] } := by
  constructor
  · intro returned
    unfold clientHello at returned
    simp only [returns_bind, returns_send, returns_receive] at returned
    obtain ⟨_, _, ⟨accepted, rfl⟩, response, _, ⟨later, arriving, rfl⟩, returned⟩ := returned
    split at returned
    case h_1 ack payload =>
      simp only [returns_bind, returns_ofExcept] at returned
      obtain ⟨_, _, ⟨valid, rfl⟩, established, rfl⟩ := returned
      exact ⟨accepted, response, later, ack, arriving, payload, valid, established, rfl⟩
    · simp at returned
  · rintro ⟨accepted, response, later, _, arriving, payload, valid, established, rfl⟩
    unfold clientHello
    simp only [returns_bind, returns_send, returns_receive]
    refine ⟨(), _, ⟨accepted, rfl⟩, response, _, ⟨later, arriving, rfl⟩, ?_⟩
    rw [payload]
    simp only [returns_bind, returns_ofExcept]
    exact ⟨(), _, ⟨valid, rfl⟩, established, rfl⟩

def SameSent (before after : ControlChannel E) : Prop := after.sent = before.sent

/-- A client sends its opening or, if the transport does not take it, nothing. -/
theorem clientHello_sent (hello : ControlHello) (channel : ControlChannel E) :
    ((clientHello hello).final channel).sent =
      match channel.accepts (helloEnvelope hello) with
      | .error _ => channel.sent
      | .ok () => channel.sent ++ [helloEnvelope hello] := by
  unfold clientHello
  rw [final, apply_bind, apply_send]
  cases channel.accepts (helloEnvelope hello) with
  | error => rfl
  | ok =>
    refine final_bind (R := SameSent) (fun first second => second.trans first) ?_ fun response middle => ?_
    · rw [SameSent, final, apply_receive]
      split <;> rfl
    · split
      · refine final_bind (R := SameSent) (fun first second => second.trans first) ?_ fun _ _ => ?_ <;>
          rw [SameSent, final, apply_ofExcept]
      · rfl

theorem validateHelloAckEnvelope_iff (accepted : ack.accepted = true) :
    (validateHelloAckEnvelope response ack : Except (HandshakeError E) Unit) = .ok () ↔
      (response.controlSessionId = ack.controlSessionId ∧ response.sequence = firstSequence ∧
        response.requestId = helloRequestId) ∧ ∃ version,
        (requiredVersion response.protocolVersion : Except (HandshakeError E) ProtocolVersion) = .ok version ∧
        (requiredVersion ack.negotiatedVersion : Except (HandshakeError E) ProtocolVersion) = .ok version := by
  unfold validateHelloAckEnvelope
  simp only [accepted, if_true, bind_eq_ok_iff, ite_eq_ok_iff, throw_ne_ok, pure_eq_ok_iff, false_and, exists_false,
    and_false, false_or, and_true, not_or, not_not]
  refine and_congr_right fun _ => exists_congr fun version => and_congr_right fun _ => ?_
  exact ⟨fun ⟨_, required, same⟩ => same ▸ required, fun required => ⟨version, required, rfl⟩⟩

theorem establishedFromAck_iff :
    (establishedFromAck hello ack : Except (HandshakeError E) EstablishedControlSession) = .ok session ↔
      ack.accepted = true ∧ ack.controlSessionId ≠ 0 ∧ ∃ version,
        (requiredVersion ack.negotiatedVersion : Except (HandshakeError E) ProtocolVersion) = .ok version ∧
        (hello.version.major = version.major ∧ version.minor ≤ hello.version.minor) ∧
        ⟨ack.controlSessionId, hello.principalId, hello.role, version,
          ((ack.negotiatedCapabilities.filterMap capabilityFromWire).filter (· ∈ hello.capabilities)).toFinset⟩ =
            session := by
  unfold establishedFromAck
  simp only [bind_eq_ok_iff, ite_eq_ok_iff, throw_ne_ok, pure_eq_ok_iff, false_and, exists_false, and_false, false_or,
    ProtocolVersion.isCompatibleWith, Bool.not_eq_true', Bool.or_eq_true, decide_eq_false_iff_not, decide_eq_true_eq,
    not_or, not_not, Bool.not_eq_false, gt_iff_lt, UInt16.not_lt, ne_eq]

/-- What a client knows of a session it accepts. -/
structure AcceptedSession (hello : ControlHello) (response : ControlEnvelope) (session : EstablishedControlSession) :
    Prop where
  major : session.negotiated.version.major = hello.version.major
  minor : session.negotiated.version.minor ≤ hello.version.minor
  capabilities : session.negotiated.capabilities ⊆ hello.capabilities
  nonzero : session.controlSessionId ≠ 0
  session : session.controlSessionId = response.controlSessionId

/-- A client protects itself from any answer. -/
theorem acceptedSession (returned : (clientHello hello).Returns channel session after) :
    ∃ response later, channel.arriving = response :: later ∧ AcceptedSession hello response session := by
  obtain ⟨_, response, later, _, arriving, _, valid, established, _⟩ := clientHello_returns.mp returned
  obtain ⟨accepted, nonzero, _, _, ⟨major, minor⟩, rfl⟩ := establishedFromAck_iff.mp established
  obtain ⟨⟨same, _⟩, _⟩ := (validateHelloAckEnvelope_iff accepted).mp valid
  refine ⟨response, later, arriving, major.symm, minor, fun capability kept => ?_, nonzero, same.symm⟩
  rw [List.mem_toFinset, List.mem_filter, decide_eq_true_eq] at kept
  exact kept.2

end Client

section Agreement

/-- Both ends hold one session, of the older of the two minor versions and the capabilities of both. -/
structure Agreed (hello : ControlHello) (config : ServerHelloConfig) (client server : EstablishedControlSession) :
    Prop where
  same : client = server
  session : client.controlSessionId = config.controlSessionId
  clientMajor : client.negotiated.version.major = hello.version.major
  serverMajor : client.negotiated.version.major = config.localVersion.major
  minor : client.negotiated.version.minor.toNat = min hello.version.minor.toNat config.localVersion.minor.toNat
  capabilities : client.negotiated.capabilities = hello.capabilities ∩ config.localCapabilities

variable {negotiated : NegotiatedHello}

theorem negotiateHello_ok
    (agreed : negotiateHello config.localVersion config.localCapabilities hello = .ok negotiated) :
    ∃ version, config.localVersion.negotiate hello.version = some version ∧
      negotiated = ⟨hello.principalId, hello.role, version, config.localCapabilities ∩ hello.capabilities⟩ := by
  unfold negotiateHello at agreed
  split at agreed
  · cases agreed
  case h_2 version compatible =>
    cases agreed
    exact ⟨version, compatible, rfl⟩

/-- The client's checks pass on what the server answers, and give the server's session. -/
theorem clientHello_of_ack (named : config.controlSessionId ≠ 0)
    (agreed : negotiateHello config.localVersion config.localCapabilities hello = .ok negotiated)
    (accepted : channel.accepts (helloEnvelope hello) = .ok ())
    (answered : channel.arriving = [ackEnvelope config helloRequestId negotiated]) :
    ∃ after, (clientHello hello).Returns channel ⟨config.controlSessionId, negotiated⟩ after := by
  obtain ⟨version, compatible, rfl⟩ := negotiateHello_ok agreed
  obtain ⟨_, major, minor⟩ := negotiate_eq_some compatible
  refine ⟨_, clientHello_returns.mpr ⟨accepted, _, [], _, answered, rfl, ?_, ?_, rfl⟩⟩
  · refine (validateHelloAckEnvelope_iff rfl).mpr ⟨⟨rfl, rfl, rfl⟩, version, ?_, ?_⟩
    · exact requiredVersion_versionToWire version
    · exact requiredVersion_versionToWire version
  · refine establishedFromAck_iff.mpr ⟨rfl, named, version, requiredVersion_versionToWire version,
      ⟨major.symm, UInt16.le_iff_toNat_le.mpr (minor ▸ Nat.min_le_right _ _)⟩, ?_⟩
    congr
    rw [List.toFinset_filter, toFinset_capabilityFromWire]
    refine Finset.filter_true_of_mem fun capability common => decide_eq_true (Finset.mem_inter.mp common).2

/-- A client and a server over a channel that delivers what is sent, and a client alone with whatever it receives. -/
theorem handshake_agreement (hello : ControlHello) (config : ServerHelloConfig) (named : config.controlSessionId ≠ 0) :
    (∀ (client server serverAfter : ControlChannel E) (session : EstablishedControlSession),
      client.sent = [] → server.sent = [] → server.arriving = ((clientHello hello).final client).sent →
      client.arriving = serverAfter.sent → ServerCompletes config server session serverAfter →
      ∃ established clientAfter, (clientHello hello).Returns client established clientAfter ∧
        Agreed hello config established session) ∧
    ∀ (client clientAfter : ControlChannel E) (session : EstablishedControlSession),
      (clientHello hello).Returns client session clientAfter →
      ∃ response later, client.arriving = response :: later ∧ AcceptedSession hello response session := by
  refine ⟨fun client server serverAfter session opening answering delivered returned completes => ?_,
    fun _ _ _ => acceptedSession⟩
  have sent := clientHello_sent hello client
  cases accepted : client.accepts (helloEnvelope hello) with
  | error =>
    rw [sent, accepted, opening] at delivered
    exact absurd delivered completes.arriving_ne_nil
  | ok =>
    rw [sent, accepted, opening] at delivered
    obtain ⟨_, agreed, rfl, acknowledged⟩ := completes.acknowledges delivered
    rw [answering, List.nil_append] at acknowledged
    obtain ⟨clientAfter, established⟩ := clientHello_of_ack named agreed accepted (returned.trans acknowledged)
    refine ⟨_, clientAfter, established, ?_⟩
    obtain ⟨_, compatible, rfl⟩ := negotiateHello_ok agreed
    obtain ⟨serverMajor, clientMajor, minor⟩ := negotiate_eq_some compatible
    exact ⟨rfl, rfl, clientMajor, serverMajor, minor.trans (Nat.min_comm _ _), Finset.inter_comm _ _⟩

def sampleHello : ControlHello where
  principalId := ⟨.replicate 3⟩
  role := .studentDevice
  version := ⟨0, 8⟩
  capabilities := {.udpUnicast, .clipboardText, .fileTransfer}
  hostname := "student-03"
  appVersion := "0.0.1"

def sampleServer : ServerHelloConfig where
  localVersion := ⟨0, 7⟩
  localCapabilities := {.clipboardText, .fileTransfer, .systemActions}
  controlSessionId := 42

def sampleNegotiated : NegotiatedHello where
  principalId := ⟨.replicate 3⟩
  role := .studentDevice
  version := ⟨0, 7⟩
  capabilities := sampleServer.localCapabilities ∩ sampleHello.capabilities

/-- A channel with nothing sent yet. -/
def sampleChannel (arriving : List ControlEnvelope) : ControlChannel Unit := ⟨arriving, [], fun _ => .ok (), ()⟩

/-- Minors 8 and 7 and two common capabilities. -/
theorem handshake_agreement_minor_seven :
    ∃ (server serverAfter client clientAfter : ControlChannel Unit) (session : EstablishedControlSession),
      server.arriving = ((clientHello sampleHello).final client).sent ∧ client.arriving = serverAfter.sent ∧
      (serverHello sampleServer).Returns server session serverAfter ∧
      (clientHello sampleHello).Returns client session clientAfter ∧ session.controlSessionId = 42 ∧
      session.negotiated.version = ⟨0, 7⟩ ∧ session.negotiated.capabilities = {.clipboardText, .fileTransfer} := by
  have served : (serverHello sampleServer).Returns (sampleChannel [helloEnvelope sampleHello])
      ⟨42, sampleNegotiated⟩ ⟨[], [ackEnvelope sampleServer helloRequestId sampleNegotiated], fun _ => .ok (), ()⟩ := by
    unfold serverHello
    rw [returns_bind]
    refine ⟨_, _, (receiveHello_returns rfl).mpr ⟨by decide, rfl, rfl, rfl⟩, ?_⟩
    exact completeServerHello_returns.mpr ⟨sampleNegotiated, rfl, returns_send.mpr ⟨rfl, rfl⟩, rfl⟩
  have delivered : (sampleChannel [helloEnvelope sampleHello]).arriving =
      ((clientHello sampleHello).final
        (sampleChannel [ackEnvelope sampleServer helloRequestId sampleNegotiated])).sent := by
    rw [clientHello_sent]
    rfl
  obtain ⟨_, clientAfter, accepted, agreed⟩ := (handshake_agreement sampleHello sampleServer (by decide)).1
    _ _ _ _ rfl rfl delivered rfl (.inl served)
  rw [agreed.same] at accepted
  exact ⟨_, _, _, clientAfter, _, delivered, rfl, served, accepted, rfl, rfl, by decide⟩

end Agreement

end ClassMesh
