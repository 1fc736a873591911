import ClassMesh.Network.CacheRetention
import ClassMesh.Network.RecoveryFeedback

namespace ClassMesh

open Std Foundation ReceiverWindow WindowCall ExtTreeMap

def ReceiverEvent.isNack : ReceiverEvent → Bool
  | .needNack _ _ _ => true
  | _ => false

/-- Time passes, or one of these packets arrives. -/
def WindowInput.OfFrame (packets : List MediaPacket) : WindowInput → Prop
  | .push _ packet => packet ∈ packets
  | .tick _ => True

def pushedIndex (call : WindowCall) : Option Nat :=
  match call.input with
  | .push _ packet => some packet.header.packetIndex.toNat
  | .tick _ => none

def pushedIndices (past : List WindowCall) : List Nat := past.filterMap pushedIndex

def pushedAtUs (call : WindowCall) : Option Nat :=
  match call.input with
  | .push nowUs _ => some nowUs
  | .tick _ => none

def firstPushUs (past : List WindowCall) : Option Nat := past.findSome? pushedAtUs

/-- The indices of a frame of so many packets that have not been pushed, in ascending order. -/
def undelivered (count : Nat) (past : List WindowCall) : List Nat :=
  (List.range count).filter fun index => index ∉ pushedIndices past

section Gathering

variable {frame : List UInt8} {info : PacketizeMeta} {seen : List Nat} {startUs : Nat}
  {window after : ReceiverWindow} {input : WindowInput} {reply : WindowReply} {assembler : FrameAssembler}
  {call : WindowCall}

theorem WindowInput.OfFrame.valid (ofFrame : input.OfFrame (sentPackets frame info)) (fits : Packetizable frame) :
    input.Valid := by
  cases input with
  | push =>
    obtain ⟨_, within, rfl⟩ := mem_sentPackets_iff.mp ofFrame
    exact (packetAt_wellFormed fits info within).valid
  | tick => trivial

theorem Collects.congr {seen' : List Nat} (same : ∀ index, index ∈ seen ↔ index ∈ seen')
    (collects : Collects frame info seen assembler) : Collects frame info seen' assembler :=
  { collects with slots := fun index within => by simp only [collects.slots index within, same] }

theorem Collects.missing_eq (collects : Collects frame info seen assembler) :
    assembler.missing = (List.range (packetCountOf frame)).filter fun index => index ∉ seen := by
  unfold FrameAssembler.missing
  rw [collects.length]
  refine List.filter_congr fun index member => ?_
  by_cases had : index ∈ seen
  · simp [collects.slots index (List.mem_range.mp member), had]
  · simp [collects.slots index (List.mem_range.mp member), had]

theorem Gathers.congr {seen' : List Nat} (same : ∀ index, index ∈ seen ↔ index ∈ seen')
    (gathers : Gathers frame info startUs seen window) : Gathers frame info startUs seen' window := by
  obtain ⟨held, stored, since, collects⟩ := gathers.entry
  exact ⟨gathers.sound, gathers.current, held, stored, since, collects.congr same⟩

theorem Gathers.not_covers (gathers : Gathers frame info startUs seen window) : ¬Covers frame seen := by
  obtain ⟨held, stored, _, collects⟩ := gathers.entry
  have unfinished := (gathers.sound.held _ _ stored).unfinished
  rw [← collects.isComplete_iff (gathers.sound.held _ _ stored).sound, unfinished]
  simp

/-- What a call has made of a frame that was being collected: it was delivered, because the call brought the last packet
missing, or its collection goes on. -/
def Collected (frame : List UInt8) (info : PacketizeMeta) (startUs : Nat) (seen : List Nat) (call : WindowCall) :
    Prop :=
  (Covers frame ((pushedIndex call).toList ++ seen) ∧ call.after.late info.frameId = true ∧ call.after.Sound ∧
      ready call = [original frame info]) ∨
    (Gathers frame info startUs ((pushedIndex call).toList ++ seen) call.after ∧ ready call = [])

/-- A call on a window that collects the frame reports the expiry events, and delivers the frame or goes on. -/
theorem Gathers.step (gathers : Gathers frame info startUs seen window) (fits : Packetizable frame)
    (ofFrame : input.OfFrame (sentPackets frame info)) (inTime : input.nowUs - startUs < window.policy.dropAfterUs) :
    ∃ after reply, window.step input = some (after, reply) ∧
      (∀ event ∈ window.expiryEvents input.nowUs, event ∈ events ⟨window, input, reply, after⟩) ∧
      Collected frame info startUs seen ⟨window, input, reply, after⟩ := by
  cases input with
  | tick nowUs =>
    refine ⟨window.expired nowUs, .ok (window.expiryEvents nowUs), ?_, fun event member => member, .inr ⟨?_, ?_⟩⟩
    · simp [ReceiverWindow.step, ReceiverWindow.tick, gathers.sound.expire_eq]
    · exact gathers.tick inTime
    · exact expiryEvents_ready window nowUs
  | push nowUs =>
    obtain ⟨index, within, rfl⟩ := mem_sentPackets_iff.mp ofFrame
    have position := packetAt_packetIndex fits info within
    obtain ⟨after, reply, pushed, outcome, stage⟩ :=
      push_packetAt gathers.sound gathers.current fits within (gathers.opened inTime index)
    have soundAfter := gathers.sound.after_push (packetAt_wellFormed fits info within).valid outcome
    refine ⟨after, reply, pushed, ?_, ?_⟩
    · intro event member
      rcases stage with ⟨_, _, rfl⟩ | ⟨_, _, rfl⟩
      · exact List.mem_append_left _ (List.mem_append_left _ member)
      · exact List.mem_append_left _ member
    · rcases stage with ⟨covers, latest, rfl⟩ | ⟨_, collecting, rfl⟩
      · refine .inl ⟨?_, late_iff.mpr ⟨_, latest, UInt64.le_refl _⟩, soundAfter, ?_⟩
        · simpa only [pushedIndex, position, Option.toList_some, List.singleton_append] using covers
        simp [ready, events, openingEvents_ready, readyFrame]
      · refine .inr ⟨?_, openingEvents_ready window nowUs _⟩
        simpa only [pushedIndex, position, Option.toList_some, List.singleton_append] using collecting

/-- Once the frame was delivered, its packets deliver nothing more. -/
theorem late_pushes (sound : window.Sound) (late : window.late info.frameId = true) (fits : Packetizable frame)
    (arrivals : List (Nat × MediaPacket)) (ofFrame : ∀ arrival ∈ arrivals, arrival.2 ∈ sentPackets frame info) :
    ∃ calls final, tryCalls step window (arrivals.map fun arrival => .push arrival.1 arrival.2) =
      some (calls, final) ∧ readyFrames calls = [] := by
  induction arrivals generalizing window with
  | nil => exact ⟨[], window, rfl, rfl⟩
  | cons arrival rest ih =>
    obtain ⟨_, within, same⟩ := mem_sentPackets_iff.mp (ofFrame arrival List.mem_cons_self)
    have valid : arrival.2.header.validate = .ok () :=
      same ▸ (packetAt_wellFormed fits info within).valid
    have behind : window.late arrival.2.header.frameId = true := by
      rw [same]
      exact late
    obtain ⟨_, _, pushed, outcome⟩ := sound.push_outcome arrival.1 valid
    obtain ⟨rfl, rfl⟩ := outcome.of_late behind
    obtain ⟨_, final, more, nothing⟩ := ih (sound.expired arrival.1) late
      fun other member => ofFrame other (List.mem_cons_of_mem _ member)
    refine ⟨_, final, tryCalls_cons pushed more, ?_⟩
    rw [readyFrames, List.flatMap_cons]
    exact (congrArg₂ _ (expiryEvents_ready window arrival.1) nothing)

/-- Packets of the frame among which are all that it lacks deliver it once, unless the call has delivered it already.
The induction is on the packets: each is the call of the next step, and after the delivery the rest are late. -/
theorem Collected.recover (collected : Collected frame info startUs seen call) (fits : Packetizable frame)
    (arrivals : List (Nat × MediaPacket)) (ofFrame : ∀ arrival ∈ arrivals, arrival.2 ∈ sentPackets frame info)
    (inTime : ∀ arrival ∈ arrivals, arrival.1 - startUs < call.after.policy.dropAfterUs)
    (whole : ∀ index < packetCountOf frame, index ∈ (pushedIndex call).toList ++ seen ∨
      index ∈ arrivals.map fun arrival => arrival.2.header.packetIndex.toNat) :
    ∃ calls final, tryCalls ReceiverWindow.step call.after (arrivals.map fun arrival => .push arrival.1 arrival.2) =
      some (calls, final) ∧ readyFrames (call :: calls) = [original frame info] := by
  induction arrivals generalizing call seen with
  | nil =>
    rcases collected with ⟨_, _, _, delivered⟩ | ⟨collecting, _⟩
    · exact ⟨[], _, rfl, by simp [readyFrames, delivered]⟩
    · exact absurd (fun index within => (whole index within).elim id (by simp)) collecting.not_covers
  | cons arrival rest ih =>
    rcases collected with ⟨_, late, sound, delivered⟩ | ⟨collecting, nothing⟩
    · obtain ⟨calls, final, pushed, silent⟩ := late_pushes sound late fits (arrival :: rest) ofFrame
      refine ⟨calls, final, pushed, ?_⟩
      rw [readyFrames, List.flatMap_cons, delivered]
      exact congrArg _ silent
    · have here : WindowInput.OfFrame (sentPackets frame info) (.push arrival.1 arrival.2) :=
        ofFrame arrival List.mem_cons_self
      obtain ⟨_, _, taken, _, next⟩ := collecting.step fits here (inTime arrival List.mem_cons_self)
      have policy := collecting.sound.step_policy (here.valid fits) taken
      obtain ⟨_, final, more, delivered⟩ := ih next
        (List.forall_mem_cons.mp ofFrame).2
        (fun other member => policy ▸ inTime other (List.mem_cons_of_mem _ member)) fun index within => by
          rcases whole index within with had | brought
          · exact .inl (List.mem_append_right _ had)
          · rcases List.mem_cons.mp brought with here | later
            · exact .inl (by simp [pushedIndex, here])
            · exact .inr later
      refine ⟨_, final, tryCalls_cons taken more, ?_⟩
      rw [readyFrames, List.flatMap_cons, nothing]
      exact delivered

/-- The packets that had not been seen, in whatever order they are pushed, are all that the frame lacks. -/
theorem Collected.recover_resent (collected : Collected frame info startUs seen call) (fits : Packetizable frame)
    {missing : List UInt16}
    (listed : missing.map UInt16.toNat = (List.range (packetCountOf frame)).filter fun index => index ∉ seen)
    (arrivals : List (Nat × MediaPacket))
    (order : (arrivals.map Prod.snd).Perm (missing.map fun packetIndex => packetAt frame info packetIndex.toNat))
    (inTime : ∀ arrival ∈ arrivals, arrival.1 - startUs < call.after.policy.dropAfterUs) :
    ∃ calls final, tryCalls ReceiverWindow.step call.after (arrivals.map fun arrival => .push arrival.1 arrival.2) =
      some (calls, final) ∧ readyFrames (call :: calls) = [original frame info] := by
  have asked {index : Nat} : index ∈ missing.map UInt16.toNat ↔ index < packetCountOf frame ∧ index ∉ seen := by
    rw [listed, List.mem_filter, List.mem_range, decide_eq_true_iff]
  refine collected.recover fits arrivals (fun arrival member => ?_) inTime fun index within => ?_
  · obtain ⟨packetIndex, asks, same⟩ := List.mem_map.mp (order.subset (List.mem_map_of_mem member))
    exact mem_sentPackets_iff.mpr ⟨packetIndex.toNat, (asked.mp (List.mem_map_of_mem asks)).1, same.symm⟩
  · by_cases had : index ∈ seen
    · exact .inl (List.mem_append_right _ had)
    · obtain ⟨_, asks, rfl⟩ := List.mem_map.mp (asked.mpr ⟨within, had⟩)
      obtain ⟨arrival, member, same⟩ := List.mem_map.mp (order.symm.subset (List.mem_map_of_mem asks))
      refine .inr (List.mem_map.mpr ⟨arrival, member, ?_⟩)
      rw [same]
      exact packetAt_packetIndex fits _ within

end Gathering

section Asking

variable {frame : List UInt8} {info : PacketizeMeta} {seen : List Nat} {startUs nowUs : Nat} {policy : ReceiverPolicy}
  {window after fresh : ReceiverWindow} {input : WindowInput} {reply : WindowReply} {past : List WindowCall}
  {frameId : UInt64} {held : InflightFrame}

/-- The window collects this frame only, and has not asked for any of its packets. -/
structure Unasked (frame : List UInt8) (info : PacketizeMeta) (startUs : Nat) (seen : List Nat)
    (window : ReceiverWindow) : Prop where
  gathers : Gathers frame info startUs seen window
  only : ∀ id, id ∈ window.inflight → id = info.frameId
  unasked : ∀ held, window.inflight[info.frameId]? = some held → held.lastNackUs = none

theorem needNack_mem_expiryEvents (stored : window.inflight[frameId]? = some held)
    (live : held.stale window.policy nowUs = false) (asks : held.asks window.policy nowUs = true) :
    .needNack held.assembler.streamId frameId (held.assembler.missingPacketIndices.getD []) ∈
      window.expiryEvents nowUs := by
  refine List.mem_append_left _ (List.mem_filterMap.mpr ⟨(frameId, held), ?_, if_pos asks⟩)
  exact List.mem_filter.mpr ⟨mem_toList_iff_getElem?_eq_some.mpr stored, by simp [live]⟩

/-- Every request the window makes is for this frame and lists what has not been seen of it. -/
theorem Unasked.request (unasked : Unasked frame info startUs seen window) {streamId : UInt32} {missing : List UInt16}
    (asked : .needNack streamId frameId missing ∈ window.expiryEvents nowUs) :
    streamId = info.streamId ∧ frameId = info.frameId ∧
      missing.map UInt16.toNat = ((List.range (packetCountOf frame)).filter fun index => index ∉ seen) ∧
      window.policy.nackAfterUs ≤ nowUs - startUs := by
  obtain ⟨_, stored, asks, stream, rfl⟩ := needNack_of_expiryEvents asked
  have id := unasked.only frameId (BTreeMap.mem_of_getElem? stored)
  subst id
  obtain ⟨held, stored', since, collects⟩ := unasked.gathers.entry
  cases stored.symm.trans stored'
  refine ⟨stream.trans collects.stream, rfl, ?_, ?_⟩
  · rw [(unasked.gathers.sound.held _ _ stored).sound.missingPacketIndices_eq, collects.missing_eq]
  · have due := (Bool.and_eq_true_iff.mp (Bool.and_eq_true_iff.mp asks).1).1
    rw [since] at due
    exact of_decide_eq_true due

/-- Once the frame is old enough, the window asks. -/
theorem Unasked.asks (unasked : Unasked frame info startUs seen window)
    (due : window.policy.nackAfterUs ≤ nowUs - startUs) (inTime : nowUs - startUs < window.policy.dropAfterUs) :
    ∃ missing, .needNack info.streamId info.frameId missing ∈ window.expiryEvents nowUs := by
  obtain ⟨held, stored, since, collects⟩ := unasked.gathers.entry
  have never := unasked.unasked held stored
  have lacking : held.assembler.missing ≠ [] := by
    rw [collects.missing_eq]
    intro nothing
    refine unasked.gathers.not_covers fun index within => ?_
    have listed := List.filter_eq_nil_iff.mp nothing index (List.mem_range.mpr within)
    simpa using listed
  have asks : held.asks window.policy nowUs = true := by
    simp [InflightFrame.asks, InflightFrame.nackDue, since, due, never, lacking]
  rw [← collects.stream]
  exact ⟨_, needNack_mem_expiryEvents stored (live_of_inTime since inTime) asks⟩

/-- Before the deadline a call makes no request. -/
theorem Unasked.silent (unasked : Unasked frame info startUs seen window) (valid : input.Valid)
    (taken : Partial step window input reply after) (early : input.nowUs - startUs < window.policy.nackAfterUs) :
    ∀ event ∈ events ⟨window, input, reply, after⟩, event.isNack = false := by
  intro event member
  cases event with
  | needNack =>
    have late := (unasked.request (needNack_of_events unasked.gathers.sound valid taken member)).2.2.2
    omega
  | frameReady | needKeyframe | droppedStaleFrame => rfl

/-- From the deadline on a call that reports the expiry events makes one request, for exactly what has not been seen of
the frame. -/
theorem Unasked.requests (unasked : Unasked frame info startUs seen window) (valid : input.Valid)
    (taken : Partial step window input reply after)
    (reported : ∀ event ∈ window.expiryEvents input.nowUs, event ∈ events ⟨window, input, reply, after⟩)
    (due : window.policy.nackAfterUs ≤ input.nowUs - startUs)
    (inTime : input.nowUs - startUs < window.policy.dropAfterUs) :
    ∃ missing, .needNack info.streamId info.frameId missing ∈ events ⟨window, input, reply, after⟩ ∧
      (∀ event ∈ events ⟨window, input, reply, after⟩, event.isNack = true →
        event = .needNack info.streamId info.frameId missing) ∧
      missing.map UInt16.toNat = (List.range (packetCountOf frame)).filter fun index => index ∉ seen := by
  obtain ⟨missing, asked⟩ := unasked.asks due inTime
  have listed := (unasked.request asked).2.2.1
  refine ⟨missing, reported _ asked, fun event member isNack => ?_, listed⟩
  cases event with
  | needNack =>
    obtain ⟨rfl, rfl, found, _⟩ := unasked.request (needNack_of_events unasked.gathers.sound valid taken member)
    rw [List.map_injective_iff.mpr (fun _ _ => UInt16.toNat_inj.mp) (found.trans listed.symm)]
  | frameReady | needKeyframe | droppedStaleFrame => cases isNack

/-- An entry has not asked before, or it was there, and asked then or asks now. -/
theorem step_asked (sound : window.Sound) (valid : input.Valid) (taken : Partial step window input reply after)
    (stored : after.inflight[frameId]? = some held) :
    held.lastNackUs = none ∨ ∃ previous, window.inflight[frameId]? = some previous ∧
      previous.stale window.policy input.nowUs = false ∧
      held.lastNackUs = (previous.nacked window.policy input.nowUs).lastNackUs := by
  rcases sound.step_cases valid taken with ⟨nowUs, rfl, rfl, _⟩ | ⟨nowUs, packet, rfl, _, outcome⟩
  · obtain ⟨previous, before, live, rfl⟩ := expired_eq_some_iff.mp stored
    exact .inr ⟨previous, before, live, rfl⟩
  · by_cases other : frameId = packet.header.frameId
    · subst other
      have opened {entry : InflightFrame}
          (there : (window.opened nowUs packet).inflight[packet.header.frameId]? = some entry) :
          entry.lastNackUs = none ∨ ∃ previous, window.inflight[packet.header.frameId]? = some previous ∧
            previous.stale window.policy nowUs = false ∧
            entry.lastNackUs = (previous.nacked window.policy nowUs).lastNackUs := by
        rw [opened, entered_getElem?_self, Option.some.injEq] at there
        subst there
        cases before : (window.expired nowUs).inflight[packet.header.frameId]? with
        | none => exact .inl rfl
        | some =>
          obtain ⟨previous, was, live, rfl⟩ := expired_eq_some_iff.mp before
          exact .inr ⟨previous, was, live, rfl⟩
      cases outcome with
      | late =>
        obtain ⟨previous, before, live, rfl⟩ := expired_eq_some_iff.mp stored
        exact .inr ⟨previous, before, live, rfl⟩
      | rejected => exact opened stored
      | stored _ entry =>
        rw [getElem?_insert_self, Option.some.injEq] at stored
        subst stored
        have asked := opened entry
        exact asked
      | delivered =>
        rw [getElem?_filter'] at stored
        have there := (Option.filter_eq_some_iff.mp stored).1
        simp at there
    · obtain ⟨previous, before, live, rfl⟩ := outcome.other_entry other stored
      exact .inr ⟨previous, before, live, rfl⟩

/-- A window that holds no other frame holds no other after a packet of this one. -/
theorem only_step (sound : window.Sound) (fits : Packetizable frame)
    (ofFrame : input.OfFrame (sentPackets frame info)) (taken : Partial step window input reply after)
    (only : ∀ id, id ∈ window.inflight → id = info.frameId) : ∀ id, id ∈ after.inflight → id = info.frameId := by
  intro id member
  obtain ⟨_, stored⟩ := Option.isSome_iff_exists.mp (isSome_getElem?_iff_mem.mpr member)
  rcases sound.step_entry (ofFrame.valid fits) taken stored with ⟨_, before, _⟩ | ⟨_, rfl, own⟩
  · exact only id (BTreeMap.mem_of_getElem? before)
  · obtain ⟨_, _, rfl⟩ := mem_sentPackets_iff.mp ofFrame
    exact own.symm

/-- As long as no request is made, none has been made. -/
theorem Unasked.step (unasked : Unasked frame info startUs seen window) (fits : Packetizable frame)
    (ofFrame : input.OfFrame (sentPackets frame info)) (inTime : input.nowUs - startUs < window.policy.dropAfterUs)
    (taken : Partial step window input reply after)
    (quiet : ∀ event ∈ events ⟨window, input, reply, after⟩, event.isNack = false)
    (open' : ¬Covers frame ((pushedIndex ⟨window, input, reply, after⟩).toList ++ seen)) :
    Unasked frame info startUs ((pushedIndex ⟨window, input, reply, after⟩).toList ++ seen) after := by
  obtain ⟨_, _, taken', reported, stage⟩ := unasked.gathers.step fits ofFrame inTime
  cases Option.some.inj (taken'.symm.trans taken)
  have sound := unasked.gathers.sound
  refine ⟨?_, only_step sound fits ofFrame taken unasked.only, fun held stored => ?_⟩
  · rcases stage with ⟨covers, _⟩ | ⟨collecting, _⟩
    · exact absurd covers open'
    · exact collecting
  · rcases step_asked sound (ofFrame.valid fits) taken stored with never | ⟨previous, before, live, same⟩
    · exact never
    · have silent : ¬previous.asks window.policy input.nowUs = true := by
        intro asks
        have loud := quiet _ (reported _ (needNack_mem_expiryEvents before live asks))
        cases loud
      rw [same, InflightFrame.nacked, if_neg silent]
      exact unasked.unasked previous before

/-- The first packet of the frame to arrive starts its collection. -/
theorem unasked_of_first (sound : window.Sound) (empty : window.inflight = ∅)
    (current : window.late info.frameId = false) (fits : Packetizable frame) {packet : MediaPacket}
    (member : packet ∈ sentPackets frame info) (taken : Partial step window (.push nowUs packet) reply after)
    (open' : ¬Covers frame [packet.header.packetIndex.toNat]) :
    Unasked frame info nowUs [packet.header.packetIndex.toNat] after := by
  have ofFrame : WindowInput.OfFrame (sentPackets frame info) (.push nowUs packet) := member
  have only := only_step sound fits ofFrame taken (by simp [empty])
  have asked {held : InflightFrame} (stored : after.inflight[info.frameId]? = some held) : held.lastNackUs = none := by
    rcases step_asked sound (ofFrame.valid fits) taken stored with never | ⟨_, before, _⟩
    · exact never
    · simp [empty] at before
  obtain ⟨index, within, rfl⟩ := mem_sentPackets_iff.mp member
  have absent : (window.expired nowUs).inflight[info.frameId]? = none := by
    rw [expired_getElem?, empty]
    simp
  obtain ⟨_, _, pushed, _, stage⟩ := push_packetAt sound current fits within
    (opened_new fits absent index)
  cases Option.some.inj (pushed.symm.trans taken)
  rw [packetAt_packetIndex fits info within] at open' ⊢
  rcases stage with ⟨covers, _⟩ | ⟨_, gathers, _⟩
  · exact absurd covers open'
  · exact ⟨gathers, only, fun held stored => asked stored⟩

theorem firstPushUs_concat (call : WindowCall) :
    firstPushUs (past ++ [call]) = (firstPushUs past).or (pushedAtUs call) := by
  rw [firstPushUs, List.findSome?_append, List.findSome?_singleton]
  rfl

theorem pushedIndices_concat (call : WindowCall) :
    pushedIndices (past ++ [call]) = pushedIndices past ++ (pushedIndex call).toList := by
  rw [pushedIndices, List.filterMap_append]
  cases shown : pushedIndex call with
  | none | some => simp [shown, pushedIndices]

/-- Until the first packet the window stays empty. -/
theorem idle_of_run (made : new policy = some fresh) (run : Run (Partial step) fresh past window)
    (untouched : firstPushUs past = none) :
    window.inflight = ∅ ∧ window.latestCompleteFrame = none ∧ window.Sound ∧ pushedIndices past = [] := by
  induction run with
  | start =>
    have start := new_eq made
    exact ⟨by rw [start], by rw [start], new_sound made, rfl⟩
  | @next past window input reply after _ taken ih =>
    rw [firstPushUs_concat, Option.or_eq_none_iff] at untouched
    obtain ⟨empty, none, sound, nothing⟩ := ih untouched.1
    cases input with
    | push => cases untouched.2
    | tick nowUs =>
      have valid : WindowInput.Valid (.tick nowUs) := trivial
      rcases sound.step_cases valid taken with ⟨_, _, rfl, _⟩ | ⟨_, _, impossible, _⟩
      · refine ⟨?_, none, sound.expired _, by rw [pushedIndices_concat, nothing]; rfl⟩
        refine ext_getElem? fun id => ?_
        rw [expired_getElem?, empty]
        simp
      · cases impossible

/-- A run of packets of one frame, in time and without a request, collects exactly what was pushed. -/
theorem unasked_of_run (made : new policy = some fresh) (fits : Packetizable frame)
    (run : Run (Partial step) fresh past window)
    (ofFrame : ∀ call ∈ past, call.input.OfFrame (sentPackets frame info))
    (quiet : ∀ call ∈ past, ∀ event ∈ events call, event.isNack = false) (started : firstPushUs past = some startUs)
    (inTime : ∀ call ∈ past, call.input.nowUs - startUs < policy.dropAfterUs)
    (open' : ¬Covers frame (pushedIndices past)) :
    Unasked frame info startUs (pushedIndices past) window ∧ window.policy = policy := by
  induction run with
  | start => cases started
  | @next past window input reply after previous taken ih =>
    have ofFrameNow := ofFrame ⟨window, input, reply, after⟩ (by simp)
    have same (index : Nat) : index ∈ (pushedIndex ⟨window, input, reply, after⟩).toList ++ pushedIndices past ↔
        index ∈ pushedIndices past ++ (pushedIndex ⟨window, input, reply, after⟩).toList := by
      rw [List.mem_append, List.mem_append, or_comm]
    rw [pushedIndices_concat] at open' ⊢
    have open'' : ¬Covers frame ((pushedIndex ⟨window, input, reply, after⟩).toList ++ pushedIndices past) :=
      fun covers => open' fun index within => (same index).mp (covers index within)
    rw [firstPushUs_concat] at started
    cases first : firstPushUs past with
    | none =>
      obtain ⟨empty, none, sound, nothing⟩ := idle_of_run made previous first
      rw [first, Option.none_or] at started
      cases input with
      | tick => cases started
      | push =>
        cases started
        rw [nothing] at open' ⊢
        have current : window.late info.frameId = false := by simp [late, none]
        have policyNow := policy_of_run (new_sound made) (previous.next taken)
          fun call member => (ofFrame call member).valid fits
        refine ⟨unasked_of_first sound empty current fits ofFrameNow taken open', ?_⟩
        rw [policyNow, new_eq made]
    | some =>
      rw [first, Option.some_or] at started
      cases started
      obtain ⟨unasked, policyNow⟩ := ih (forall_of_append ofFrame) (forall_of_append quiet) first
        (forall_of_append inTime)
        (fun covers => open' fun index within => List.mem_append_left _ (covers index within))
      have inTimeNow := inTime ⟨window, input, reply, after⟩ (by simp)
      have next := unasked.step fits ofFrameNow (by rw [policyNow]; exact inTimeNow) taken
        (quiet _ (by simp)) open''
      refine ⟨⟨next.gathers.congr same, next.only, next.unasked⟩, ?_⟩
      rw [unasked.gathers.sound.step_policy (ofFrameNow.valid fits) taken, policyNow]

end Asking

namespace Transport

section Recovery

variable {sender after later : UdpFrameSender} {frame : SharedEncodedFrame} {socket : Nat → Bool}
  {packets : List MediaPacket} {report : SendFrameReport} {between : List SenderCall} {sentUs nackUs : Nat}
  (sent : sender.sendFrame sentUs frame socket = (after, packets, .ok report))
  (follows : Run (Total UdpFrameSender.step) after between later)
  (room : packets.length - 1 + (freshPackets between).length < sender.retransmit.maxPackets)
  (young : ∀ call ∈ between, call.input.nowUs - sentUs ≤ sender.retransmit.maxAgeUs)
  (youngNow : nackUs - sentUs ≤ sender.retransmit.maxAgeUs)
  (alone : ∀ packet ∈ freshPackets between, packet.header.frameId ≠ frame.info.frameId)

include sent follows room young youngNow alone

/-- The sender of a frame that its cache retains answers a request for packets of the frame with one packet for each. -/
theorem retransmitMissing_answers {missing : List UInt16}
    (within : ∀ packetIndex ∈ missing, packetIndex.toNat < packetCountOf frame.data) :
    ∃ last, later.retransmitMissing nackUs frame.info.frameId missing (fun _ => true) =
      (last, missing.map fun packetIndex => packetAt frame.data (sender.frameMeta frame) packetIndex.toNat,
        .ok missing.length) := by
  obtain ⟨cut, _⟩ := sendFrame_ok sent
  obtain ⟨fits, whole⟩ := fits_of_packetizeFrame cut
  have count : packets.length = packetCountOf frame.data := by rw [whole, List.length_map, List.length_range]
  have positive := packetCountOf_pos fits
  obtain ⟨counted, all⟩ := resend_all missing
    (fun packetIndex => packetAt frame.data (sender.frameMeta frame) packetIndex.toNat)
    (fun packetIndex member => by
      have found := find_retained sent follows (by omega) young youngNow alone (within packetIndex member)
      rwa [UInt16.ofNat_toNat] at found)
    (fun packetIndex member => packetAt_wellFormed fits _ (within packetIndex member)) later.stats
  refine ⟨{ later with retransmit := later.retransmit.prune nackUs, stats := counted }, ?_⟩
  simp only [UdpFrameSender.retransmitMissing, all, List.length_map]

/-- Loss recovery between a sender and a receiver. The frame was sent, the cache had room for it and for what was sent
since, and kept it young, and no other frame of its number was sent; some of its packets arrived at a fresh window, in
time, and no request was made yet. Before the deadline the window stays silent. From the deadline on it asks for exactly
the packets that did not arrive, the sender has one packet for each of them, and in whatever order these arrive in time
the frame is delivered once, byte for byte. -/
theorem nack_recovers_frame {policy : ReceiverPolicy} {fresh window : ReceiverWindow} {past : List WindowCall}
    {startUs : Nat} (made : ReceiverWindow.new policy = some fresh)
    (run : Run (Partial ReceiverWindow.step) fresh past window) (ofFrame : ∀ call ∈ past, call.input.OfFrame packets)
    (quiet : ∀ call ∈ past, ∀ event ∈ WindowCall.events call, event.isNack = false)
    (started : firstPushUs past = some startUs)
    (inTime : ∀ call ∈ past, call.input.nowUs - startUs < policy.dropAfterUs)
    (proper : undelivered packets.length past ≠ []) (input : WindowInput) (drawn : input.OfFrame packets)
    (before : input.nowUs - startUs < policy.dropAfterUs) :
    ∃ next reply, window.step input = some (next, reply) ∧
      (input.nowUs - startUs < policy.nackAfterUs →
        ∀ event ∈ WindowCall.events ⟨window, input, reply, next⟩, event.isNack = false) ∧
      (policy.nackAfterUs ≤ input.nowUs - startUs → ∃ missing last resent,
        .needNack sender.config.streamId frame.info.frameId missing ∈
            WindowCall.events ⟨window, input, reply, next⟩ ∧
          (∀ event ∈ WindowCall.events ⟨window, input, reply, next⟩, event.isNack = true →
            event = .needNack sender.config.streamId frame.info.frameId missing) ∧
          missing.map UInt16.toNat = undelivered packets.length past ∧
          later.retransmitMissing nackUs frame.info.frameId missing (fun _ => true) =
            (last, resent, .ok missing.length) ∧
          resent.map (·.header.packetIndex) = missing ∧
          ∀ arrivals : List (Nat × MediaPacket), (arrivals.map Prod.snd).Perm resent →
            (∀ arrival ∈ arrivals, arrival.1 - startUs < policy.dropAfterUs) →
            ∃ calls final, tryCalls ReceiverWindow.step next (arrivals.map fun arrival => .push arrival.1 arrival.2) =
                some (calls, final) ∧
              readyFrames (⟨window, input, reply, next⟩ :: calls) =
                [⟨sender.config.streamId, frame.info.frameId, frame.info.timestampUs, frame.info.keyframe,
                  frame.data⟩]) := by
  obtain ⟨cut, _⟩ := sendFrame_ok sent
  obtain ⟨fits, whole⟩ := fits_of_packetizeFrame cut
  have packetsEq : packets = sentPackets frame.data (sender.frameMeta frame) := whole
  have count : packets.length = packetCountOf frame.data := by rw [whole, List.length_map, List.length_range]
  rw [packetsEq] at ofFrame drawn
  rw [count] at proper ⊢
  have open' : ¬Covers frame.data (pushedIndices past) := by
    intro covers
    refine proper (List.filter_eq_nil_iff.mpr fun index member => ?_)
    simpa using covers index (List.mem_range.mp member)
  obtain ⟨unasked, rfl⟩ := unasked_of_run made fits run ofFrame quiet started inTime open'
  obtain ⟨next, reply, taken, reported, collected⟩ := unasked.gathers.step fits drawn before
  have valid := drawn.valid fits
  refine ⟨next, reply, taken, unasked.silent valid taken, fun due => ?_⟩
  obtain ⟨missing, asked, only, listed⟩ := unasked.requests valid taken reported due before
  have within : ∀ packetIndex ∈ missing, packetIndex.toNat < packetCountOf frame.data := by
    intro packetIndex member
    have inside : packetIndex.toNat ∈ missing.map UInt16.toNat := List.mem_map_of_mem member
    rw [listed] at inside
    exact List.mem_range.mp (List.mem_filter.mp inside).1
  obtain ⟨last, answered⟩ := retransmitMissing_answers sent follows room young youngNow alone within
  refine ⟨missing, last, _, asked, only, listed, answered, ?_, fun arrivals order arrivalsInTime => ?_⟩
  · rw [List.map_map]
    exact (List.map_congr_left fun _ _ => UInt16.ofNat_toNat).trans (List.map_id _)
  · refine collected.recover_resent fits listed arrivals order ?_
    rw [unasked.gathers.sound.step_policy valid taken]
    exact arrivalsInTime

end Recovery

/-- A frame of two packets of which the second is lost. -/
theorem nack_recovers_frame_of_two : ∃ window next reply, window.step (.tick 20000) = some (next, reply) ∧
    .needNack 7 1 [1] ∈ WindowCall.events ⟨window, .tick 20000, reply, next⟩ := by
  have done : (smallSender.sendFrame 0 (zeroFrame 1 1201) fun _ => true).2.2 = .ok ⟨1, 2, 1201, 0, 2⟩ := by
    decide +kernel
  have count : (smallSender.sendFrame 0 (zeroFrame 1 1201) fun _ => true).2.1.length = 2 := by decide +kernel
  have first : packetAt (zeroFrame 1 1201).data (smallSender.frameMeta (zeroFrame 1 1201)) 0 ∈
      (smallSender.sendFrame 0 (zeroFrame 1 1201) fun _ => true).2.1 := by decide +kernel
  rcases sent : smallSender.sendFrame 0 (zeroFrame 1 1201) fun _ => true with ⟨_, _, result⟩
  rw [sent] at done count first
  cases done
  have made : new {} = some { policy := {} } := rfl
  have traced : (tryCalls step { policy := {} }
      [.push 0 (packetAt (zeroFrame 1 1201).data (smallSender.frameMeta (zeroFrame 1 1201)) 0)]).map
        (fun result => (result.1.map WindowCall.events, pushedIndices result.1, firstPushUs result.1)) =
          some ([[]], [0], some 0) := by decide +kernel
  obtain ⟨past, window, run, inputs, shown⟩ := Run.of_traced traced
  simp only [Prod.mk.injEq] at shown
  obtain ⟨events, indices, started⟩ := shown
  have drawn := forall_of_inputs (P := WindowInput.OfFrame _) inputs (by simpa [WindowInput.OfFrame] using first)
  have inTime : ∀ call ∈ past, call.input.nowUs - 0 < 80000 :=
    forall_of_inputs (P := fun input => input.nowUs - 0 < 80000) inputs (by simp [WindowInput.nowUs])
  have quiet : ∀ call ∈ past, ∀ event ∈ WindowCall.events call, event.isNack = false := by
    intro call member
    have silent : WindowCall.events call ∈ past.map WindowCall.events := List.mem_map_of_mem member
    rw [events, List.mem_singleton] at silent
    simp [silent]
  have lost : undelivered 2 past = [1] := by
    rw [undelivered, indices]
    decide
  obtain ⟨next, reply, taken, _, asks⟩ := nack_recovers_frame sent .start (by rw [count]; decide) (by simp)
    (by decide : 500 - 0 ≤ 1000) (by simp [freshPackets]) made run drawn quiet started inTime
    (by rw [count, lost]; simp) (.tick 20000) trivial (by decide)
  obtain ⟨missing, _, _, emitted, _, listed, _⟩ := asks (by decide)
  rw [count, lost] at listed
  have one : missing = [1] := List.map_injective_iff.mpr (fun _ _ => UInt16.toNat_inj.mp) listed
  rw [one] at emitted
  exact ⟨window, next, reply, taken, emitted⟩

/-- Two frames of two packets with one number are sent. The second packet of the first is lost and asked for, and the
one sent again is that of the second frame, so the bytes delivered are those of neither. -/
theorem reused_number_mixes_frames :
    let first := zeroFrame 1 1201
    let second : SharedEncodedFrame := ⟨⟨1, 0, true⟩, .h264, List.replicate 1201 1, 1⟩
    let packets := (smallSender.sendFrame 0 first fun _ => true).2.1
    let later := runOn UdpFrameSender.step smallSender
      [.sendFrame 0 first fun _ => true, .sendFrame 1 second fun _ => true]
    let resent := (later.retransmitMissing 500 1 [1] fun _ => true).2.1
    (tryCalls ReceiverWindow.step { policy := {} }
      ((packets.take 1).map (.push 0) ++ [.tick 20000] ++ resent.map (.push 20001))).map
        (fun result => (result.1.map fun call => (WindowCall.events call).filter ReceiverEvent.isNack,
          (readyFrames result.1).map (·.data))) =
      some ([[], [.needNack 7 1 [1]], []], [List.replicate 1200 0 ++ [1]]) := by
  decide +kernel

end Transport

end ClassMesh
