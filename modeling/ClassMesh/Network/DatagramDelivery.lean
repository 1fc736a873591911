import ClassMesh.Foundation.Run
import ClassMesh.Network.Reassembly

namespace ClassMesh

open Std Foundation ReceiverWindow

inductive ReceiveError
  | datagram (error : DatagramError)
  | assemble (error : AssembleError)
deriving DecidableEq

/-- Decode an arriving datagram and push its packet. -/
def receiveDatagram (window : ReceiverWindow) (arrival : Nat × List UInt8) :
    Option (ReceiverWindow × Except ReceiveError (List ReceiverEvent)) :=
  match decodeDatagram arrival.2 with
  | .error error => some (window, .error (.datagram error))
  | .ok packet => (window.push arrival.1 packet).map fun result => (result.1, result.2.mapError .assemble)

abbrev DatagramCall := Call ReceiverWindow (Nat × List UInt8) (Except ReceiveError (List ReceiverEvent))

/-- Each of the packets has arrived at least once. -/
def Arrived (packets : List MediaPacket) (past : List DatagramCall) : Prop :=
  ∀ packet ∈ packets, ∃ call ∈ past, encodeDatagram packet = .ok call.input.2

/-- Nothing is delivered before everything has arrived; then the frame is, once; then nothing happens. -/
structure DeliversOnce (frame : List UInt8) (info : PacketizeMeta) (packets : List MediaPacket)
    (past : List DatagramCall) : Prop where
  early : ∀ earlier call later, past = earlier ++ call :: later → ¬Arrived packets (earlier ++ [call]) →
    ∃ events, call.reply = .ok events ∧ events.filterMap ReceiverWindow.readyFrame = []
  completing : ∀ earlier call later, past = earlier ++ call :: later → ¬Arrived packets earlier →
    Arrived packets (earlier ++ [call]) →
    ∃ events, call.reply = .ok events ∧ events.filterMap ReceiverWindow.readyFrame = [original frame info]
  duplicate : ∀ earlier call later, past = earlier ++ call :: later → Arrived packets earlier → call.reply = .ok []

section

variable {frame : List UInt8} {info : PacketizeMeta} {startUs : Nat} {policy : ReceiverPolicy}
  {window : ReceiverWindow} {past : List DatagramCall} {index : Nat} {seen : List Nat} {arrival : Nat × List UInt8}
  {call : DatagramCall}

/-- The datagram carries the packet at `index`. -/
def Carries (frame : List UInt8) (info : PacketizeMeta) (datagram : List UInt8) (index : Nat) : Prop :=
  index < packetCountOf frame ∧ encodeDatagram (packetAt frame info index) = .ok datagram

theorem Carries.unique (fits : Packetizable frame) {datagram : List UInt8} {other : Nat}
    (one : Carries frame info datagram index) (two : Carries frame info datagram other) : index = other := by
  have first := decodeDatagram_encodeDatagram (packetAt_wellFormed fits info one.1) one.2
  have second := decodeDatagram_encodeDatagram (packetAt_wellFormed fits info two.1) two.2
  have same := Except.ok.inj (first.symm.trans second)
  rw [← packetAt_packetIndex fits info one.1, same, packetAt_packetIndex fits info two.1]

/-- The positions seen so far, for a history of datagrams of the frame. -/
def Seen (frame : List UInt8) (info : PacketizeMeta) (past : List DatagramCall) (seen : List Nat) : Prop :=
  ∀ index < packetCountOf frame, index ∈ seen ↔ ∃ call ∈ past, Carries frame info call.input.2 index

theorem Seen.covers_iff (agrees : Seen frame info past seen) :
    Covers frame seen ↔ Arrived (sentPackets frame info) past := by
  constructor
  · intro covers packet member
    obtain ⟨index, listed, rfl⟩ := List.mem_map.mp member
    have within := List.mem_range.mp listed
    obtain ⟨call, made, carries⟩ := (agrees index within).mp (covers index within)
    exact ⟨call, made, carries.2⟩
  · intro arrived index within
    obtain ⟨call, made, encoded⟩ := arrived _ (List.mem_map.mpr ⟨index, List.mem_range.mpr within, rfl⟩)
    exact (agrees index within).mpr ⟨call, made, within, encoded⟩

theorem Seen.next (fits : Packetizable frame) (agrees : Seen frame info past seen)
    (carries : Carries frame info call.input.2 index) : Seen frame info (past ++ [call]) (index :: seen) := by
  intro other within
  rw [List.mem_cons, agrees other within]
  simp only [List.mem_append, List.mem_singleton]
  constructor
  · rintro (rfl | ⟨old, member, held⟩)
    · exact ⟨call, .inr rfl, carries⟩
    · exact ⟨old, .inl member, held⟩
  · rintro ⟨made, old | rfl, held⟩
    · exact .inr ⟨made, old, held⟩
    · exact .inl (held.unique fits carries)

/-- The window after some of the datagrams of one frame, and no others, have arrived. -/
structure Progress (frame : List UInt8) (info : PacketizeMeta) (startUs : Nat) (policy : ReceiverPolicy)
    (past : List DatagramCall) (window : ReceiverWindow) : Prop where
  policyKept : window.policy = policy
  sound : window.Sound
  alone : ∀ frameId : UInt64, frameId ∈ window.inflight → frameId = info.frameId
  stage : ∃ seen, Seen frame info past seen ∧
    ((Covers frame seen ∧ window.latestCompleteFrame = some info.frameId) ∨
      (¬Covers frame seen ∧ Gathers frame info startUs seen window))
  events : DeliversOnce frame info (sentPackets frame info) past

theorem receiveDatagram_eq (fits : Packetizable frame) (carries : Carries frame info arrival.2 index) :
    receiveDatagram window arrival =
      (window.push arrival.1 (packetAt frame info index)).map fun result =>
        (result.1, result.2.mapError .assemble) := by
  rw [receiveDatagram,
    decodeDatagram_encodeDatagram (packetAt_wellFormed fits info carries.1) carries.2]

theorem deliversOnce_nil : DeliversOnce frame info (sentPackets frame info) [] where
  early := by simp
  completing := by simp
  duplicate := by simp

/-- The laws of a history follow from those of its last call and of what came before. -/
theorem DeliversOnce.next (before : DeliversOnce frame info (sentPackets frame info) past)
    (early : ¬Arrived (sentPackets frame info) (past ++ [call]) →
      ∃ events, call.reply = .ok events ∧ events.filterMap readyFrame = [])
    (completing : ¬Arrived (sentPackets frame info) past → Arrived (sentPackets frame info) (past ++ [call]) →
      ∃ events, call.reply = .ok events ∧ events.filterMap readyFrame = [original frame info])
    (duplicate : Arrived (sentPackets frame info) past → call.reply = .ok []) :
    DeliversOnce frame info (sentPackets frame info) (past ++ [call]) where
  early := by
    intro earlier other later cut
    rcases snoc_eq_append_cons cut with ⟨rfl, rfl, _⟩ | ⟨rest, _, old⟩
    · exact early
    · exact before.early earlier other rest old
  completing := by
    intro earlier other later cut
    rcases snoc_eq_append_cons cut with ⟨rfl, rfl, _⟩ | ⟨rest, _, old⟩
    · exact completing
    · exact before.completing earlier other rest old
  duplicate := by
    intro earlier other later cut
    rcases snoc_eq_append_cons cut with ⟨rfl, rfl, _⟩ | ⟨rest, _, old⟩
    · exact duplicate
    · exact before.duplicate earlier other rest old

/-- A datagram that arrives while the frame is being collected, or that is the first of all. -/
theorem progress_push (fits : Packetizable frame) (policyKept : window.policy = policy) (sound : window.Sound)
    (current : window.late info.frameId = false)
    (alone : ∀ frameId : UInt64, frameId ∈ window.inflight → frameId = info.frameId)
    (agrees : Seen frame info past seen) (open' : ¬Covers frame seen)
    (history : DeliversOnce frame info (sentPackets frame info) past) (carries : Carries frame info arrival.2 index)
    (opened : ∃ held, (window.opened arrival.1 (packetAt frame info index)).inflight[info.frameId]? = some held ∧
      held.firstSeenUs = startUs ∧ Collects frame info seen held.assembler) :
    ∃ after reply, receiveDatagram window arrival = some (after, reply) ∧
      Progress frame info startUs policy (past ++ [⟨window, arrival, reply, after⟩]) after := by
  obtain ⟨after, reply, pushed, outcome, stages⟩ :=
    push_packetAt sound current fits carries.1 opened
  have formed := packetAt_wellFormed fits info carries.1
  have aloneAfter : ∀ frameId : UInt64, frameId ∈ after.inflight → frameId = info.frameId := by
    intro frameId member
    by_contra other
    obtain ⟨_, stored⟩ := Option.isSome_iff_exists.mp (ExtTreeMap.isSome_getElem?_iff_mem.mpr member)
    obtain ⟨_, before, _⟩ := outcome.other_entry other stored
    exact other (alone frameId (ExtTreeMap.isSome_getElem?_iff_mem.mp (by rw [before]; rfl)))
  have policyAfter : after.policy = policy := (outcome.policy_eq).trans policyKept
  have quiet := openingEvents_ready window arrival.1 (packetAt frame info index)
  refine ⟨after, reply.mapError .assemble, by rw [receiveDatagram_eq fits carries, pushed]; rfl, ?_⟩
  have next := agrees.next fits
    (show Carries frame info (⟨window, arrival, reply.mapError .assemble, after⟩ : DatagramCall).input.2
      index from carries)
  refine ⟨policyAfter, sound.after_push formed.valid outcome, aloneAfter, ⟨_, next, ?_⟩, ?_⟩
  · rcases stages with ⟨covers, latest, _⟩ | ⟨missing, gathers, _⟩
    · exact .inl ⟨covers, latest⟩
    · exact .inr ⟨missing, gathers⟩
  · refine history.next ?_ ?_ ?_
    · intro missing
      rcases stages with ⟨covers, _, _⟩ | ⟨_, _, rfl⟩
      · exact absurd (next.covers_iff.mp covers) missing
      · exact ⟨_, rfl, quiet⟩
    · intro _ arrived
      rcases stages with ⟨_, _, rfl⟩ | ⟨missing, _, _⟩
      · exact ⟨_, rfl, by rw [List.filterMap_append, quiet]; rfl⟩
      · exact absurd (next.covers_iff.mpr arrived) missing
    · intro arrived
      exact absurd (agrees.covers_iff.mpr arrived) open'

/-- A datagram that arrives after the frame has been delivered. -/
theorem progress_late (fits : Packetizable frame) (policyKept : window.policy = policy) (sound : window.Sound)
    (alone : ∀ frameId : UInt64, frameId ∈ window.inflight → frameId = info.frameId)
    (agrees : Seen frame info past seen) (covers : Covers frame seen)
    (latest : window.latestCompleteFrame = some info.frameId)
    (history : DeliversOnce frame info (sentPackets frame info) past) (carries : Carries frame info arrival.2 index) :
    ∃ after reply, receiveDatagram window arrival = some (after, reply) ∧
      Progress frame info startUs policy (past ++ [⟨window, arrival, reply, after⟩]) after := by
  have formed := packetAt_wellFormed fits info carries.1
  have late : window.late info.frameId = true := late_iff.mpr ⟨_, latest, UInt64.le_refl _⟩
  have empty : window.inflight = ∅ := by
    refine ExtTreeMap.ext_getElem? fun frameId => ?_
    cases stored : window.inflight[frameId]? with
    | none => simp
    | some =>
      have same := alone frameId (ExtTreeMap.isSome_getElem?_iff_mem.mp (by rw [stored]; rfl))
      have current := (sound.held _ _ stored).current
      rw [same, late] at current
      cases current
  have silent : window.expiryEvents arrival.1 = [] := by
    simp [expiryEvents, staleEntries, liveEntries, empty]
  have emptyAfter : (window.expired arrival.1).inflight = ∅ := by
    refine ExtTreeMap.ext_getElem? fun frameId => ?_
    simp [expired_getElem?, empty]
  obtain ⟨_, _, pushed, outcome⟩ := sound.push_outcome arrival.1 formed.valid
  have soundAfter := sound.after_push formed.valid outcome
  cases outcome with
  | rejected ahead => exact absurd (ahead.symm.trans late) (by simp)
  | stored ahead => exact absurd (ahead.symm.trans late) (by simp)
  | delivered ahead => exact absurd (ahead.symm.trans late) (by simp)
  | late =>
    refine ⟨_, _, by rw [receiveDatagram_eq fits carries, pushed]; rfl, ?_⟩
    have next := agrees.next fits (show Carries frame info
      (⟨window, arrival, .ok (window.expiryEvents arrival.1), window.expired arrival.1⟩ : DatagramCall).input.2 index
      from carries)
    refine ⟨policyKept, soundAfter, by simp [emptyAfter], ⟨_, next, .inl ⟨?_, latest⟩⟩, ?_⟩
    · exact fun other within => List.mem_cons_of_mem _ (covers other within)
    · refine history.next ?_ ?_ ?_
      · intro missing
        refine absurd (next.covers_iff.mp fun other within => ?_) missing
        exact List.mem_cons_of_mem _ (covers other within)
      · intro missing
        exact absurd (agrees.covers_iff.mp covers) missing
      · intro _
        exact congrArg Except.ok silent

theorem Progress.step (fits : Packetizable frame) (progress : Progress frame info startUs policy past window)
    (drawn : ∃ index, Carries frame info arrival.2 index) (inTime : arrival.1 - startUs < policy.dropAfterUs) :
    ∃ after reply, receiveDatagram window arrival = some (after, reply) ∧
      Progress frame info startUs policy (past ++ [⟨window, arrival, reply, after⟩]) after := by
  obtain ⟨index, carries⟩ := drawn
  obtain ⟨_, agrees, ⟨covers, latest⟩ | ⟨open', gathers⟩⟩ := progress.stage
  · exact progress_late fits progress.policyKept progress.sound progress.alone agrees covers latest
      progress.events carries
  · exact progress_push fits progress.policyKept progress.sound gathers.current progress.alone agrees open'
      progress.events carries (gathers.opened (by rw [progress.policyKept]; exact inTime) index)

end

/-- Fragmentation and reassembly are inverse under any order, duplication and loss of the datagrams. The only bound on
the arrivals is that they come before the drop deadline of the first of them. -/
theorem reassembly_inverts_packetize {policy : ReceiverPolicy} {initial : ReceiverWindow} {frame : List UInt8}
    (made : ReceiverWindow.new policy = some initial) (nonempty : frame ≠ [])
    (short : frame.length ≤ 65535 * maxPacketPayload) (info : PacketizeMeta) :
    ∃ packets, packetizeFrame frame info = .ok packets ∧
      (∀ packet ∈ packets, ∃ datagram, encodeDatagram packet = .ok datagram) ∧
      ∀ arrivals : List (Nat × List UInt8),
        (∀ arrival ∈ arrivals, ∃ packet ∈ packets, encodeDatagram packet = .ok arrival.2) →
        (∀ first ∈ arrivals.head?, ∀ arrival ∈ arrivals, arrival.1 - first.1 < policy.dropAfterUs) →
        ∃ past final, tryCalls receiveDatagram initial arrivals = some (past, final) ∧
          DeliversOnce frame info packets past := by
  have fits : Packetizable frame := ⟨nonempty, short⟩
  refine ⟨sentPackets frame info, packetizeFrame_eq_ok fits info, ?_, ?_⟩
  · intro packet member
    obtain ⟨_, listed, rfl⟩ := List.mem_map.mp member
    exact ⟨_, encodeDatagram_eq_ok (packetAt_wellFormed fits info (List.mem_range.mp listed))⟩
  · intro arrivals drawn inTime
    have start := new_eq made
    cases arrivals with
    | nil => exact ⟨[], initial, rfl, deliversOnce_nil⟩
    | cons first rest =>
      have carried : ∀ arrival ∈ first :: rest, ∃ index, Carries frame info arrival.2 index := by
        intro arrival member
        obtain ⟨_, sent, encoded⟩ := drawn arrival member
        obtain ⟨index, listed, rfl⟩ := List.mem_map.mp sent
        exact ⟨index, List.mem_range.mp listed, encoded⟩
      have late := inTime first rfl
      obtain ⟨index, carries⟩ := carried first List.mem_cons_self
      have none : ¬Covers frame [] := fun covers => by
        simpa using covers 0 (packetCountOf_pos fits)
      have opening : ∃ after reply, receiveDatagram initial first = some (after, reply) ∧
          Progress frame info first.1 policy ([] ++ [⟨initial, first, reply, after⟩]) after :=
        progress_push fits (by rw [start]) (new_sound made) (by rw [start]; rfl)
          (by simp [start]) (by intro other _; simp) none deliversOnce_nil carries
          (opened_new fits (by rw [start, expired_getElem?]; simp) index)
      obtain ⟨after, reply, taken, progress⟩ := opening
      have allowed : ∀ arrival ∈ rest, (∃ index, Carries frame info arrival.2 index) ∧
          arrival.1 - first.1 < policy.dropAfterUs :=
        fun arrival member => ⟨carried arrival (List.mem_cons_of_mem _ member),
          late arrival (List.mem_cons_of_mem _ member)⟩
      obtain ⟨later, final, more, done⟩ := tryCalls_of_keep (fun past window arrival progress allowed =>
        progress.step fits allowed.1 allowed.2) allowed progress
      exact ⟨⟨initial, first, reply, after⟩ :: later, final, by simp [tryCalls, taken, more],
        by simpa using done.events⟩

/-- A keyframe of 1300 bytes under the default policy. -/
theorem reassembly_inverts_packetize_1300 :
    let frame : List UInt8 := List.replicate 1300 7
    let info : PacketizeMeta := ⟨0, 4, 9, 44, 100, 33333, true⟩
    ∃ packets, packetizeFrame frame info = .ok packets ∧
      (∀ packet ∈ packets, ∃ datagram, encodeDatagram packet = .ok datagram) ∧
      ∀ arrivals : List (Nat × List UInt8),
        (∀ arrival ∈ arrivals, ∃ packet ∈ packets, encodeDatagram packet = .ok arrival.2) →
        (∀ first ∈ arrivals.head?, ∀ arrival ∈ arrivals, arrival.1 - first.1 < 80000) →
        ∃ past final, tryCalls receiveDatagram { policy := {} } arrivals = some (past, final) ∧
          DeliversOnce frame info packets past := by
  intro frame info
  have made : new {} = some { policy := {} } := rfl
  have length : frame.length = 1300 := List.length_replicate
  have nonempty : frame ≠ [] := List.ne_nil_of_length_pos (by omega)
  have short : frame.length ≤ 65535 * maxPacketPayload := by rw [maxPacketPayload]; omega
  exact reassembly_inverts_packetize made nonempty short info

end ClassMesh
