import ClassMesh.Network.FreshSequences
import ClassMesh.Network.Reassembly

namespace ClassMesh

open Foundation

namespace RetransmitCache

variable {cache : RetransmitCache} {older kept : List CachedPacket} {nowUs : Nat}

/-- The oldest of these entries has not outlived the cache's age limit. -/
def Young (cache : RetransmitCache) (nowUs : Nat) (kept : List CachedPacket) : Prop :=
  ∀ oldest, kept.head? = some oldest → nowUs - oldest.storedAtUs ≤ cache.maxAgeUs

theorem Young.dropWhile (young : cache.Young nowUs kept) :
    (kept.dropWhile fun entry => cache.maxAgeUs < nowUs - entry.storedAtUs) = kept := by
  cases kept with
  | nil => rfl
  | cons oldest =>
    have inTime := young oldest rfl
    exact List.dropWhile_cons_of_neg (by simpa using inTime)

/-- Pruning reaches entries that have not outlived the limit only after those before them. -/
theorem prune_keeps (split : cache.entries = older ++ kept) (young : cache.Young nowUs kept) :
    ∃ rest, (cache.prune nowUs).entries = rest ++ kept := by
  rw [prune, split, List.dropWhile_append]
  split
  · exact ⟨[], young.dropWhile⟩
  · exact ⟨_, rfl⟩

theorem insert_keeps (split : cache.entries = older ++ kept) (young : cache.Young nowUs kept)
    (room : kept.length < cache.maxPackets) (packet : MediaPacket) :
    ∃ rest, (cache.insert nowUs packet).entries = rest ++ (kept ++ [⟨nowUs, packet⟩]) := by
  obtain ⟨pruned, entries⟩ := prune_keeps split young
  simp only [insert, entries]
  have surplus : (pruned ++ kept).length + 1 - cache.maxPackets ≤ pruned.length := by
    rw [List.length_append]
    omega
  rw [List.drop_append_of_le_length surplus, List.append_assoc]
  exact ⟨_, rfl⟩

theorem insertAll_keeps (split : cache.entries = older ++ kept) (young : cache.Young nowUs kept)
    (packets : List MediaPacket) (room : kept.length + packets.length ≤ cache.maxPackets) :
    ∃ rest, (cache.insertAll nowUs packets).entries =
      rest ++ (kept ++ packets.map fun packet => (⟨nowUs, packet⟩ : CachedPacket)) := by
  induction packets generalizing cache older kept with
  | nil => exact ⟨older, by simpa [insertAll] using split⟩
  | cons packet rest ih =>
    rw [List.length_cons] at room
    obtain ⟨_, entries⟩ := insert_keeps split young (by omega) packet
    have stillYoung : (cache.insert nowUs packet).Young nowUs (kept ++ [⟨nowUs, packet⟩]) := by
      intro oldest first
      cases kept with
      | nil =>
        cases first
        simp
      | cons => exact young oldest first
    have more : (kept ++ [(⟨nowUs, packet⟩ : CachedPacket)]).length + rest.length ≤
        (cache.insert nowUs packet).maxPackets := by
      rw [List.length_append, List.length_singleton]
      change kept.length + 1 + rest.length ≤ cache.maxPackets
      omega
    obtain ⟨last, whole⟩ := ih entries stillYoung more
    refine ⟨last, whole.trans ?_⟩
    rw [List.map_cons, List.append_assoc, List.singleton_append]

theorem insertAll_limits (cache : RetransmitCache) (nowUs : Nat) (packets : List MediaPacket) :
    (cache.insertAll nowUs packets).maxPackets = cache.maxPackets ∧
      (cache.insertAll nowUs packets).maxAgeUs = cache.maxAgeUs := by
  induction packets generalizing cache with
  | nil => exact ⟨rfl, rfl⟩
  | cons packet rest ih => exact ih (cache.insert nowUs packet)

/-- A packet is found if it is among the newest entries and no other packet there has its frame and index. -/
theorem find_eq_some {recent : List CachedPacket} {entry : CachedPacket} {frameId : UInt64} {packetIndex : UInt16}
    (split : cache.entries = older ++ recent) (member : entry ∈ recent)
    (matching : entry.packet.header.frameId = frameId ∧ entry.packet.header.packetIndex = packetIndex)
    (unique : ∀ other ∈ recent, other.packet.header.frameId = frameId → other.packet.header.packetIndex = packetIndex →
      other.packet = entry.packet) : cache.find frameId packetIndex = some entry.packet := by
  have found : (recent.reverse.find? fun other => decide (other.packet.header.frameId = frameId ∧
      other.packet.header.packetIndex = packetIndex)).isSome :=
    List.find?_isSome.mpr ⟨entry, List.mem_reverse.mpr member, decide_eq_true matching⟩
  obtain ⟨other, first⟩ := Option.isSome_iff_exists.mp found
  have holds := List.find?_some first
  obtain ⟨sameFrame, sameIndex⟩ := of_decide_eq_true holds
  have same := unique other (List.mem_reverse.mp (List.mem_of_find?_eq_some first)) sameFrame sameIndex
  rw [find, split, List.reverse_append, List.find?_append, first, Option.some_or, Option.map_some, same]

end RetransmitCache

namespace Transport

open RetransmitCache

def SenderInput.nowUs : SenderInput → Nat
  | .sendFrame nowUs _ _ => nowUs
  | .retransmitMissing nowUs _ _ _ => nowUs

section Between

variable {sender after : UdpFrameSender} {input : SenderInput} {reply : SenderReply} {between : List SenderCall}
  {older kept : List CachedPacket}

theorem step_limits (taken : Total UdpFrameSender.step sender input reply after) :
    after.retransmit.maxPackets = sender.retransmit.maxPackets ∧
      after.retransmit.maxAgeUs = sender.retransmit.maxAgeUs := by
  rcases senderStep_cases taken with ⟨nowUs, _, sent, result, outcome, rfl⟩ |
    ⟨nowUs, sent, result, _, cache, _, rfl⟩
  · rw [outcome.retransmit]
    exact insertAll_limits _ _ _
  · rw [cache]
    exact ⟨rfl, rfl⟩

/-- A call keeps entries that are young at its time, if what it sends leaves room for them. -/
theorem step_keeps (taken : Total UdpFrameSender.step sender input reply after)
    (split : sender.retransmit.entries = older ++ kept) (young : sender.retransmit.Young input.nowUs kept)
    (room : kept.length + (SenderCall.fresh ⟨sender, input, reply, after⟩).length ≤ sender.retransmit.maxPackets) :
    ∃ rest newer, after.retransmit.entries = rest ++ (kept ++ newer) ∧
      newer.map (·.packet) = SenderCall.fresh ⟨sender, input, reply, after⟩ := by
  cases input with
  | sendFrame nowUs frame socket =>
    obtain ⟨rfl, rfl⟩ := Prod.ext_iff.mp taken
    have cached := (sender.sendFrame_outcome nowUs frame socket).retransmit
    obtain ⟨rest, entries⟩ := insertAll_keeps split young (sender.sendFrame nowUs frame socket).2.1 room
    refine ⟨rest, _, (congrArg RetransmitCache.entries cached).trans entries, ?_⟩
    rw [List.map_map]
    exact List.map_id _
  | retransmitMissing nowUs frameId missing socket =>
    obtain ⟨rfl, rfl⟩ := Prod.ext_iff.mp taken
    have cached := (sender.retransmitMissing_outcome nowUs frameId missing socket).2.1
    obtain ⟨rest, entries⟩ := prune_keeps split young
    exact ⟨rest, [], by rw [List.append_nil]; exact (congrArg RetransmitCache.entries cached).trans entries, rfl⟩

/-- Entries stay in the cache as long as they are young and what is sent after them leaves room. -/
theorem run_keeps {initial final : UdpFrameSender} {oldest : CachedPacket} {others : List CachedPacket}
    (run : Run (Total UdpFrameSender.step) initial between final)
    (split : initial.retransmit.entries = older ++ oldest :: others)
    (young : ∀ call ∈ between, call.input.nowUs - oldest.storedAtUs ≤ initial.retransmit.maxAgeUs)
    (room : (oldest :: others).length + (freshPackets between).length ≤ initial.retransmit.maxPackets) :
    ∃ rest newer, final.retransmit.entries = rest ++ (oldest :: others ++ newer) ∧
      newer.map (·.packet) = freshPackets between ∧
      final.retransmit.maxPackets = initial.retransmit.maxPackets ∧
      final.retransmit.maxAgeUs = initial.retransmit.maxAgeUs := by
  induction run with
  | start => exact ⟨older, [], by simpa using split, rfl, rfl, rfl⟩
  | @next between sender input reply after _ taken ih =>
    rw [freshPackets_concat, List.length_append] at room
    obtain ⟨_, newer, entries, packets, samePackets, sameAge⟩ :=
      ih (forall_of_append young) (by omega)
    have youngNow : sender.retransmit.Young input.nowUs (oldest :: others ++ newer) := by
      intro first head
      cases head
      rw [sameAge]
      exact young ⟨sender, input, reply, after⟩ (by simp)
    have roomNow : (oldest :: others ++ newer).length + (SenderCall.fresh ⟨sender, input, reply, after⟩).length ≤
        sender.retransmit.maxPackets := by
      have count := congrArg List.length packets
      rw [List.length_map] at count
      rw [samePackets, List.length_append, count]
      omega
    obtain ⟨rest', more, entries', sent⟩ := step_keeps taken entries youngNow roomNow
    obtain ⟨limit, age⟩ := step_limits taken
    refine ⟨rest', newer ++ more, by rw [entries', List.append_assoc], ?_, limit.trans samePackets, age.trans sameAge⟩
    rw [List.map_append, packets, sent, freshPackets_concat]

end Between

/-- What the cache finds for every index asked for is sent, once for each. -/
theorem resend_all {cache : RetransmitCache} {frameId : UInt64} (missing : List UInt16)
    (packetFor : UInt16 → MediaPacket)
    (found : ∀ packetIndex ∈ missing, cache.find frameId packetIndex = some (packetFor packetIndex))
    (formed : ∀ packetIndex ∈ missing, (packetFor packetIndex).WellFormed) (stats : UdpSenderStats) :
    ∃ counted, UdpFrameSender.resend cache frameId missing (fun _ => true) stats =
      (counted, missing.map packetFor, .ok ()) := by
  induction missing generalizing stats with
  | nil => exact ⟨stats, rfl⟩
  | cons packetIndex rest ih =>
    have handed : sendPacketTo true (packetFor packetIndex) = .ok () := by
      rw [sendPacketTo, encodeDatagram_eq_ok (formed packetIndex List.mem_cons_self)]
      rfl
    obtain ⟨counted, others⟩ := ih (List.forall_mem_cons.mp found).2
      (List.forall_mem_cons.mp formed).2
      { stats with retransmitPacketsSent := saturatingAdd stats.retransmitPacketsSent 1 }
    refine ⟨counted, ?_⟩
    simp only [UdpFrameSender.resend, found packetIndex List.mem_cons_self, handed, others, List.map_cons]

section Retention

variable {sender after later : UdpFrameSender} {frame : SharedEncodedFrame} {socket : Nat → Bool}
  {packets : List MediaPacket} {report : SendFrameReport} {between : List SenderCall} {sentUs nackUs : Nat}

theorem sendFrame_ok (sent : sender.sendFrame sentUs frame socket = (after, packets, .ok report)) :
    packetizeFrame frame.data (sender.frameMeta frame) = .ok packets ∧
      after.retransmit = sender.retransmit.insertAll sentUs packets := by
  have outcome : UdpFrameSender.SendOutcome sender sentUs frame after packets (.ok report) := by
    have outcome := sender.sendFrame_outcome sentUs frame socket
    rwa [sent] at outcome
  refine ⟨?_, outcome.retransmit⟩
  cases outcome with
  | complete _ stats report cut => exact cut

/-- A packet of a frame that was sent is found again: the cache had room for what came since, no time since exceeded
the age limit, and no other frame of that number was sent. -/
theorem find_retained (sent : sender.sendFrame sentUs frame socket = (after, packets, .ok report))
    (follows : Run (Total UdpFrameSender.step) after between later)
    (room : packets.length + (freshPackets between).length ≤ sender.retransmit.maxPackets)
    (young : ∀ call ∈ between, call.input.nowUs - sentUs ≤ sender.retransmit.maxAgeUs)
    (youngNow : nackUs - sentUs ≤ sender.retransmit.maxAgeUs)
    (alone : ∀ packet ∈ freshPackets between, packet.header.frameId ≠ frame.info.frameId) {index : Nat}
    (within : index < packetCountOf frame.data) :
    (later.retransmit.prune nackUs).find frame.info.frameId (UInt16.ofNat index) =
      some (packetAt frame.data (sender.frameMeta frame) index) := by
  obtain ⟨cut, cached⟩ := sendFrame_ok sent
  obtain ⟨fits, whole⟩ := fits_of_packetizeFrame cut
  have count : packets.length = packetCountOf frame.data := by rw [whole, List.length_map, List.length_range]
  obtain ⟨limit, age⟩ := insertAll_limits sender.retransmit sentUs packets
  have fresh : sender.retransmit.Young sentUs [] := fun _ head => by cases head
  obtain ⟨_, entries⟩ := insertAll_keeps (List.append_nil _).symm fresh packets
    (by simp only [List.length_nil]; omega)
  rw [List.nil_append, ← cached] at entries
  obtain ⟨first, others, started⟩ : ∃ first others, packets.map (fun packet => (⟨sentUs, packet⟩ : CachedPacket)) =
      first :: others := List.exists_cons_of_length_pos (by rw [List.length_map]; omega)
  have stamped : first.storedAtUs = sentUs := by
    have member : first ∈ packets.map fun packet => (⟨sentUs, packet⟩ : CachedPacket) := by simp [started]
    obtain ⟨_, _, rfl⟩ := List.mem_map.mp member
    rfl
  have length : (first :: others).length = packets.length := by rw [← started, List.length_map]
  rw [started] at entries
  obtain ⟨_, newer, entriesNow, newerPackets, _, sameAge⟩ := run_keeps follows entries
    (by rw [stamped, cached, age]; exact young) (by rw [length, cached, limit]; exact room)
  have youngEntries : later.retransmit.Young nackUs (first :: others ++ newer) := by
    intro oldest head
    cases head
    rw [stamped, sameAge, cached, age]
    exact youngNow
  obtain ⟨left, pruned⟩ := prune_keeps entriesNow youngEntries
  rw [← started] at pruned
  have member : (⟨sentUs, packetAt frame.data (sender.frameMeta frame) index⟩ : CachedPacket) ∈
      packets.map fun packet => (⟨sentUs, packet⟩ : CachedPacket) := by
    rw [whole]
    exact List.mem_map_of_mem (List.mem_map_of_mem (List.mem_range.mpr within))
  refine find_eq_some pruned (List.mem_append_left _ member) ⟨rfl, rfl⟩ fun other recent sameFrame sameIndex => ?_
  rcases List.mem_append.mp recent with own | foreign
  · rw [whole] at own
    obtain ⟨_, listed, rfl⟩ := List.mem_map.mp own
    obtain ⟨position, inside, rfl⟩ := List.mem_map.mp listed
    have left := packetAt_packetIndex fits (sender.frameMeta frame) (List.mem_range.mp inside)
    have right := packetAt_packetIndex fits (sender.frameMeta frame) within
    have same : position = index := by
      rw [← left, ← right]
      exact congrArg UInt16.toNat sameIndex
    rw [same]
  · have sentSince : other.packet ∈ freshPackets between := newerPackets ▸ List.mem_map_of_mem foreign
    exact absurd sameFrame (alone other.packet sentSince)

end Retention

end Transport

end ClassMesh
