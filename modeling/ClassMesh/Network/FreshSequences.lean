import ClassMesh.Network.FrameSender

namespace ClassMesh

open Foundation

namespace Transport

open UdpFrameSender (step)

abbrev SenderCall := Call UdpFrameSender SenderInput SenderReply

/-- The packets that `send_frame` handed over. -/
def SenderCall.fresh (call : SenderCall) : List MediaPacket :=
  match call.reply with
  | .frame sent _ => sent
  | .retransmitted _ _ => []

/-- The packets that `retransmit_missing` handed over. -/
def SenderCall.resent (call : SenderCall) : List MediaPacket :=
  match call.reply with
  | .frame _ _ => []
  | .retransmitted sent _ => sent

def freshPackets (past : List SenderCall) : List MediaPacket := past.flatMap SenderCall.fresh

def freshNumbers (past : List SenderCall) : List Nat := (freshPackets past).map (·.header.sequence.toNat)

/-- A frame of which some packets were sent and others were not. -/
def SenderCall.brokenOff (call : SenderCall) : Bool :=
  match call.reply with
  | .frame sent (.error _) => !sent.isEmpty
  | _ => false

/-- Fresh packets are numbered from zero, each by a number of its own above those before. -/
structure FreshlyNumbered (past : List SenderCall) : Prop where
  distinct : (freshNumbers past).Nodup
  increasing : (freshNumbers past).Pairwise (· < ·)
  fromZero : ∀ first, (freshNumbers past).head? = some first → first = 0

/-- Once a frame was broken off no fresh packet is sent. -/
def EndsWhenBroken (past : List SenderCall) : Prop :=
  ∀ earlier call later, past = earlier ++ call :: later → call.brokenOff = true →
    ∀ next ∈ later, SenderCall.fresh next = []

section Steps

variable {sender after : UdpFrameSender} {input : SenderInput} {reply : SenderReply}
  (taken : Total step sender input reply after)

/-- A frame is sent, or packets of the cache are sent again. -/
theorem senderStep_cases (taken : Total step sender input reply after) :
    (∃ nowUs frame sent result, UdpFrameSender.SendOutcome sender nowUs frame after sent result ∧
        reply = .frame sent result) ∨
      ∃ nowUs sent result, after.nextSequence = sender.nextSequence ∧
        after.retransmit = sender.retransmit.prune nowUs ∧
        (∀ packet ∈ sent, ∃ entry ∈ after.retransmit.entries, entry.packet = packet) ∧
        reply = .retransmitted sent result := by
  cases input with
  | sendFrame nowUs frame socket =>
    obtain ⟨rfl, rfl⟩ := Prod.ext_iff.mp taken
    exact .inl ⟨nowUs, frame, _, _, sender.sendFrame_outcome nowUs frame socket, rfl⟩
  | retransmitMissing nowUs frameId missing socket =>
    obtain ⟨rfl, rfl⟩ := Prod.ext_iff.mp taken
    obtain ⟨counter, cache, sent⟩ := sender.retransmitMissing_outcome nowUs frameId missing socket
    have again : ∀ packet ∈ (sender.retransmitMissing nowUs frameId missing socket).2.1,
        ∃ entry ∈ (sender.retransmitMissing nowUs frameId missing socket).1.retransmit.entries,
          entry.packet = packet := by
      rw [sent, cache]
      exact fun packet member => UdpFrameSender.resend_sent missing socket sender.stats member
    exact .inr ⟨nowUs, _, _, counter, cache, again, rfl⟩

open SenderCall

include taken

theorem fresh_sequences : (fresh ⟨sender, input, reply, after⟩).map (·.header.sequence) =
      (List.range (fresh ⟨sender, input, reply, after⟩).length).map fun index =>
        sender.nextSequence + UInt32.ofNat index := by
  rcases senderStep_cases taken with ⟨_, _, _, _, outcome, rfl⟩ | ⟨_, _, _, _, _, _, rfl⟩
  · exact outcome.sequences
  · rfl

/-- A call that does not break off moves the counter by what it sends; one that does leaves it. -/
theorem step_nextSequence : after.nextSequence = sender.nextSequence +
      UInt32.ofNat (if brokenOff ⟨sender, input, reply, after⟩ then 0
        else (fresh ⟨sender, input, reply, after⟩).length) := by
  rcases senderStep_cases taken with ⟨_, _, sent, result, outcome, rfl⟩ | ⟨_, sent, result, same, _, _, rfl⟩
  · rw [outcome.nextSequence]
    cases result with
    | ok => rfl
    | error =>
      cases sent with
      | nil | cons => rfl
  · simp [brokenOff, fresh, same]

theorem step_cached {entry : CachedPacket} (member : entry ∈ after.retransmit.entries) :
    entry ∈ sender.retransmit.entries ∨ entry.packet ∈ fresh ⟨sender, input, reply, after⟩ := by
  rcases senderStep_cases taken with ⟨nowUs, _, sent, result, outcome, rfl⟩ |
    ⟨nowUs, sent, result, _, cache, _, rfl⟩
  · rw [outcome.retransmit] at member
    exact RetransmitCache.mem_insertAll member
  · rw [cache] at member
    exact .inl (RetransmitCache.mem_prune member)

theorem step_resent {packet : MediaPacket} (member : packet ∈ resent ⟨sender, input, reply, after⟩) :
    ∃ entry ∈ sender.retransmit.entries, entry.packet = packet := by
  rcases senderStep_cases taken with ⟨_, _, _, _, _, rfl⟩ | ⟨_, _, _, _, cache, again, rfl⟩
  · cases member
  · obtain ⟨entry, cached, same⟩ := again packet member
    rw [cache] at cached
    exact ⟨entry, RetransmitCache.mem_prune cached, same⟩

end Steps

section Runs

variable {config : UdpSenderConfig} {initial final : UdpFrameSender} {past : List SenderCall} {call : SenderCall}
  {broken : SenderCall}

theorem freshPackets_concat : freshPackets (past ++ [call]) = freshPackets past ++ SenderCall.fresh call := by
  simp [freshPackets]

theorem EndsWhenBroken.before (ends : EndsWhenBroken (past ++ [call])) : EndsWhenBroken past := by
  intro earlier broken later cut brokenOff next member
  exact ends earlier broken (later ++ [call]) (by simp [cut]) brokenOff next (List.mem_append_left _ member)

theorem EndsWhenBroken.last (ends : EndsWhenBroken (past ++ [call])) (member : broken ∈ past)
    (brokenOff : broken.brokenOff = true) : SenderCall.fresh call = [] := by
  obtain ⟨earlier, later, cut⟩ := List.append_of_mem member
  exact ends earlier broken (later ++ [call]) (by simp [cut]) brokenOff call (by simp)

theorem EndsWhenBroken.concat (ends : EndsWhenBroken past)
    (last : ∀ broken ∈ past, broken.brokenOff = true → SenderCall.fresh call = []) :
    EndsWhenBroken (past ++ [call]) := by
  intro earlier broken later cut brokenOff next member
  rcases snoc_eq_append_cons cut with ⟨rfl, rfl, rfl⟩ | ⟨later', rfl, rfl⟩
  · cases member
  · rcases List.mem_append.mp member with old | new
    · exact ends earlier broken later' rfl brokenOff next old
    · rw [List.mem_singleton.mp new]
      exact last broken (by simp) brokenOff

/-- As long as nothing follows a frame that was broken off, the numbers are zero, one, two and so on. -/
theorem numbers_of_endsWhenBroken (fresh : initial.nextSequence = 0) (run : Run (Total step) initial past final)
    (ends : EndsWhenBroken past) :
    (freshPackets past).map (·.header.sequence) = (List.range (freshPackets past).length).map UInt32.ofNat ∧
      ((∀ call ∈ past, SenderCall.brokenOff call = false) →
        final.nextSequence = UInt32.ofNat (freshPackets past).length) := by
  induction run with
  | start => exact ⟨rfl, fun _ => fresh⟩
  | @next past sender input reply after _ taken ih =>
    obtain ⟨numbers, counter⟩ := ih ends.before
    rw [freshPackets_concat, List.map_append, numbers, List.length_append]
    constructor
    · by_cases whole : ∀ call ∈ past, SenderCall.brokenOff call = false
      · rw [fresh_sequences taken, counter whole, List.range_add, List.map_append, List.map_map]
        congr 2
        funext index
        exact (UInt32.ofNat_add _ _).symm
      · push Not at whole
        obtain ⟨_, member, brokenOff⟩ := whole
        rw [ends.last member (by simpa using brokenOff)]
        simp
    · intro whole
      have unbroken := whole ⟨sender, input, reply, after⟩ (by simp)
      rw [step_nextSequence taken, unbroken, counter (forall_of_append whole)]
      exact (UInt32.ofNat_add _ _).symm

/-- After a frame was broken off the counter stands at a number that has been used. -/
theorem counter_used (run : Run (Total step) initial past final) (ends : EndsWhenBroken past) (member : broken ∈ past)
    (brokenOff : broken.brokenOff = true) : final.nextSequence ∈ (freshPackets past).map (·.header.sequence) := by
  induction run with
  | start => cases member
  | @next past sender input reply after _ taken ih =>
    rw [freshPackets_concat, List.map_append, List.mem_append]
    rcases List.mem_append.mp member with old | new
    · have nothing := ends.last old brokenOff
      have same : after.nextSequence = sender.nextSequence := by
        rw [step_nextSequence taken, nothing]
        simp
      rw [same]
      exact .inl (ih ends.before old)
    · rw [List.mem_singleton.mp new] at brokenOff
      have same : after.nextSequence = sender.nextSequence := by
        rw [step_nextSequence taken, brokenOff]
        simp
      have some : 0 < (SenderCall.fresh ⟨sender, input, reply, after⟩).length := by
        unfold SenderCall.brokenOff at brokenOff
        unfold SenderCall.fresh
        cases reply with
        | frame sent result =>
          cases result with
          | ok => cases brokenOff
          | error => simpa [List.length_pos_iff] using brokenOff
        | retransmitted => cases brokenOff
      rw [same, fresh_sequences taken]
      exact .inr (List.mem_map.mpr ⟨0, List.mem_range.mpr some, by simp⟩)

theorem endsWhenBroken_of_nodup (run : Run (Total step) initial past final)
    (distinct : ((freshPackets past).map (·.header.sequence)).Nodup) : EndsWhenBroken past := by
  induction run with
  | start =>
    intro earlier call later cut
    simp at cut
  | @next past sender input reply after previous taken ih =>
    rw [freshPackets_concat, List.map_append, List.nodup_append] at distinct
    have ends := ih distinct.1
    refine ends.concat fun broken member brokenOff => ?_
    by_contra some
    have used := counter_used previous ends member brokenOff
    refine distinct.2.2 _ used sender.nextSequence ?_ rfl
    rw [fresh_sequences taken]
    exact List.mem_map.mpr ⟨0, List.mem_range.mpr (List.length_pos_iff.mpr some), by simp⟩

theorem cached_fresh (empty : initial.retransmit.entries = []) (run : Run (Total step) initial past final)
    {entry : CachedPacket} (member : entry ∈ final.retransmit.entries) : entry.packet ∈ freshPackets past := by
  induction run with
  | start =>
    rw [empty] at member
    cases member
  | next _ taken ih =>
    rw [freshPackets_concat, List.mem_append]
    exact (step_cached taken member).imp_left ih

theorem new_sender (made : UdpFrameSender.new config = some initial) :
    initial.nextSequence = 0 ∧ initial.retransmit.entries = [] := by
  obtain ⟨_, opened, rfl⟩ := Option.map_eq_some_iff.mp made
  unfold RetransmitCache.new at opened
  split at opened
  · cases opened
    exact ⟨rfl, rfl⟩
  · cases opened

end Runs

/-- Over any run of fewer than `2 ^ 32` fresh packets, the fresh packets are numbered once exactly when none is sent
after a frame that was broken off; what is sent again is always a packet sent before. -/
theorem fresh_numbers_iff {config : UdpSenderConfig} {initial final : UdpFrameSender} {past : List SenderCall}
    (made : UdpFrameSender.new config = some initial) (run : Run (Total step) initial past final)
    (few : (freshPackets past).length < 2 ^ 32) :
    (FreshlyNumbered past ↔ EndsWhenBroken past) ∧
      ∀ earlier call later, past = earlier ++ call :: later → ∀ packet ∈ SenderCall.resent call,
        packet ∈ freshPackets earlier := by
  obtain ⟨zero, empty⟩ := new_sender made
  refine ⟨⟨fun numbered => ?_, fun ends => ?_⟩, fun earlier call later cut packet member => ?_⟩
  · refine endsWhenBroken_of_nodup run (List.Nodup.of_map UInt32.toNat ?_)
    rw [List.map_map]
    exact numbered.distinct
  · have numbers : freshNumbers past = List.range (freshPackets past).length := by
      have images := congrArg (List.map UInt32.toNat) (numbers_of_endsWhenBroken zero run ends).1
      rw [List.map_map, List.map_map] at images
      refine images.trans ((List.map_congr_left fun index member => ?_).trans (List.map_id _))
      have below := List.mem_range.mp member
      exact UInt32.toNat_ofNat_of_lt' (below.trans few)
    refine ⟨numbers ▸ List.nodup_range, numbers ▸ List.pairwise_lt_range, fun first started => ?_⟩
    rw [numbers] at started
    cases count : (freshPackets past).length with
    | zero =>
      rw [count] at started
      cases started
    | succ =>
      rw [count, List.range_succ_eq_map] at started
      exact (Option.some.inj started).symm
  · obtain ⟨reached, taken, _⟩ := run.split cut
    obtain ⟨_, cached, rfl⟩ := step_resent taken member
    exact cached_fresh empty reached cached

/-- A frame of so many zero bytes. -/
def zeroFrame (frameId : UInt64) (size : Nat) : SharedEncodedFrame :=
  ⟨⟨frameId, 0, true⟩, .h264, List.replicate size 0, 0⟩

def smallSender : UdpFrameSender := { config := ⟨7, 8, 1000⟩, retransmit := ⟨[], 8, 1000⟩ }

/-- Two frames of one packet each, both sent. -/
theorem fresh_numbers_two_frames :
    FreshlyNumbered (calls step smallSender
      [.sendFrame 0 (zeroFrame 1 3) fun _ => true, .sendFrame 1 (zeroFrame 2 3) fun _ => true]) := by
  have made : UdpFrameSender.new ⟨7, 8, 1000⟩ = some smallSender := rfl
  have run := Run.of_calls step smallSender
    [.sendFrame 0 (zeroFrame 1 3) fun _ => true, .sendFrame 1 (zeroFrame 2 3) fun _ => true]
  have whole : (calls step smallSender [.sendFrame 0 (zeroFrame 1 3) fun _ => true,
      .sendFrame 1 (zeroFrame 2 3) fun _ => true]).all (fun call => !SenderCall.brokenOff call) = true :=
    by decide +kernel
  refine (fresh_numbers_iff made run (by decide +kernel)).1.mpr ?_
  intro earlier call later cut brokenOff
  have unbroken := List.all_eq_true.mp whole call (by simp [cut])
  simp [brokenOff] at unbroken

/-- The second packet of a frame is not sent: the next frame starts with the number of the first again. -/
theorem number_used_twice : ∃ past final, Run (Total step) smallSender past final ∧
    freshNumbers past = [0, 0] := by
  refine ⟨_, _, Run.of_calls step smallSender
    [.sendFrame 0 (zeroFrame 1 1201) fun turn => turn = 0, .sendFrame 1 (zeroFrame 2 3) fun _ => true], ?_⟩
  decide +kernel

end Transport

end ClassMesh
