import ClassMesh.Network.UnicastFanout
import ClassMesh.Security.GroupMembership
import ClassMesh.Security.IdealSframe
import ClassMesh.Video.SinkIsolation

namespace ClassMesh

open Std Foundation ExtTreeMap BTreeMap SinkQueue ProtectedUnicastFanout

theorem pop_self (distributor : FrameDistributor) (id : SinkId) :
    (distributor.popNextDecodable id).1.sinks[id]? =
      (distributor.sinks[id]?).map fun queue => queue.popNextDecodable.1 :=
  (popWith_view popNextDecodable distributor id id).1.trans (if_pos rfl)

theorem pop_other (distributor : FrameDistributor) {first second : SinkId} (different : second ≠ first) :
    (distributor.popNextDecodable first).1.sinks[second]? = distributor.sinks[second]? :=
  (popWith_view popNextDecodable distributor first second).1.trans (if_neg different.symm)

/-- What a pop gives depends on the queue of its sink. -/
theorem pop_result (distributor : FrameDistributor) (id : SinkId) :
    (distributor.popNextDecodable id).2 = (distributor.sinks[id]?).bind fun queue => queue.popNextDecodable.2 :=
  (popWith_view popNextDecodable distributor id id).2

/-- A pop that gives a frame leaves fewer in the queue. -/
theorem popNextDecodable_shrinks {queue : SinkQueue} {frame : SharedEncodedFrame}
    (popped : queue.popNextDecodable.2 = some frame) : queue.popNextDecodable.1.frames.size < queue.frames.size := by
  unfold popNextDecodable at popped ⊢
  split at popped
  · rename_i none
    unfold popLatest at popped ⊢
    split at popped
    · cases popped
    · simpa using size_pos_of_mem (mem_of_getElem? popped)
  · rename_i keyframeId found
    have erased := size_erase_of_getElem? popped
    have some := size_pos_of_mem (mem_of_getElem? popped)
    have bound := size_foldl_erase_le (queue.frames.keys.filter (· < keyframeId)) queue.frames
    simp only
    omega

section Take

variable {entries : List (SinkId × ProtectedUnicastFanoutEntry)} {distributor : FrameDistributor}

/-- The frames that the sinks of the entries give. -/
def takenFrames (entries : List (SinkId × ProtectedUnicastFanoutEntry)) (distributor : FrameDistributor) :
    List (SinkId × SharedEncodedFrame) :=
  entries.filterMap fun entry => (distributor.popNextDecodable entry.2.sink).2.map (entry.1, ·)

theorem takenFrames_pop (distributor : FrameDistributor) {first : SinkId}
    (apart : ∀ entry ∈ entries, entry.2.sink ≠ first) :
    takenFrames entries (distributor.popNextDecodable first).1 = takenFrames entries distributor := by
  refine List.filterMap_congr fun entry member => ?_
  rw [pop_result, pop_result, pop_other distributor (apart entry member)]

/-- The first loop gathers what the sinks give, grouped by shared frame. Popping from one sink leaves the others as they
were, so the frames may be read off the distributor at the start. -/
theorem takeFrames_groups (nodup : (entries.map (·.2.sink)).Nodup)
    (gathered : List (SharedEncodedFrame × List SinkId)) :
    (takeFrames entries distributor gathered).2 =
      (takenFrames entries distributor).foldl (joinGroup SameShared) gathered := by
  induction entries generalizing distributor gathered with
  | nil => rfl
  | cons entry rest ih =>
    obtain ⟨fresh, others⟩ := List.nodup_cons.mp nodup
    have apart : ∀ other ∈ rest, other.2.sink ≠ entry.2.sink := fun other member same =>
      fresh (List.mem_map.mpr ⟨other, member, same⟩)
    have rest_eq := takenFrames_pop distributor apart
    unfold takeFrames takenFrames
    cases popped : distributor.popNextDecodable entry.2.sink with
    | mk after frame =>
      rw [popped] at rest_eq
      cases frame with
      | none =>
        rw [List.filterMap_cons_none (by rw [popped]; rfl)]
        simp only [ih others]
        rw [rest_eq]
        rfl
      | some =>
        rw [List.filterMap_cons_some (by rw [popped]; rfl)]
        simp only [ih others]
        rw [rest_eq]
        rfl

/-- Every entry has popped from its sink, and from no other. -/
theorem takeFrames_sinks (distributor : FrameDistributor) (nodup : (entries.map (·.2.sink)).Nodup)
    (gathered : List (SharedEncodedFrame × List SinkId)) (id : SinkId) :
    (takeFrames entries distributor gathered).1.sinks[id]? =
      if id ∈ entries.map (·.2.sink) then (distributor.sinks[id]?).map fun queue => queue.popNextDecodable.1
      else distributor.sinks[id]? := by
  induction entries generalizing distributor gathered with
  | nil => rfl
  | cons entry rest ih =>
    obtain ⟨fresh, others⟩ := List.nodup_cons.mp nodup
    have step (gathered : List (SharedEncodedFrame × List SinkId)) :
        (takeFrames rest (distributor.popNextDecodable entry.2.sink).1 gathered).1.sinks[id]? =
          if id ∈ (entry :: rest).map (·.2.sink) then (distributor.sinks[id]?).map fun queue => queue.popNextDecodable.1
          else distributor.sinks[id]? := by
      rw [ih _ others, List.map_cons]
      by_cases same : id = entry.2.sink
      · rw [same, if_neg fresh, if_pos List.mem_cons_self, pop_self]
      · rw [pop_other distributor same]
        simp only [List.mem_cons, same, false_or]
    unfold takeFrames
    cases popped : distributor.popNextDecodable entry.2.sink with
    | mk after frame =>
      rw [popped] at step
      cases frame <;> exact step _

end Take

section Seal

variable {S : Sframe} {authorization : AuthorizationStore} {coordinator after : GroupMediaCoordinator S}
  {binding : ProtectedMediaBinding} {bound : Option ProtectedMediaBinding} {sender : GroupMediaSender S}
  {frame : SharedEncodedFrame} {frames : List SharedEncodedFrame} {sealed : SealedGroupMediaFrame}

/-- The cipher takes plaintexts with their metadata one after the other, and what it gives keeps to the limit of a
sealed frame. -/
def Sframe.Encrypts (S : Sframe) (key : S.EncryptionKey) : S.Counter → List (List UInt8 × List UInt8) → Prop
  | _, [] => True
  | counter, (plaintext, associatedData) :: rest =>
    (∃ data, data.length ≤ maxGroupMediaSealedBytes ∧
        (S.encrypt counter key plaintext associatedData).2 = .ok data) ∧
      S.Encrypts key (S.encrypt counter key plaintext associatedData).1 rest

/-- The coordinator seals for the binding, with this sender: its epoch is active and that of the binding, no rotation is
due, every registered receiver is still authorized, and the ids of the binding are not zero. -/
structure SealsFor (authorization : AuthorizationStore) (binding : ProtectedMediaBinding)
    (coordinator : GroupMediaCoordinator S) (sender : GroupMediaSender S) : Prop where
  active : coordinator.active.map (·.sender) = some sender
  settled : coordinator.rotationRequired = false
  authorized : ∀ principal ∈ coordinator.receivers, authorization.authorize principal .receivePresentation = true
  epoch : binding.epoch = sender.epoch
  presentation : binding.presentationId ≠ 0
  stream : binding.streamId ≠ 0

/-- The metadata that a frame is sealed with. -/
def SealsFor.frameBinding (seals : SealsFor authorization binding coordinator sender) (frame : SharedEncodedFrame) :
    GroupMediaFrameBinding :=
  ⟨binding.presentationId, binding.streamId, binding.epoch, frame.info.frameId, frame.info.timestampUs,
    frame.info.keyframe, seals.presentation, seals.stream⟩

/-- The coordinator seals for the binding, and the frames are such that all of them can be sealed, one after the
other. -/
structure Sealable (authorization : AuthorizationStore) (binding : ProtectedMediaBinding)
    (coordinator : GroupMediaCoordinator S) (sender : GroupMediaSender S)
    (frames : List SharedEncodedFrame) : Prop where
  seals : SealsFor authorization binding coordinator sender
  codec : ∀ frame ∈ frames, frame.codec = .h264
  short : ∀ frame ∈ frames, frame.data.length ≤ maxGroupMediaFrameBytes
  encrypts : S.Encrypts sender.key sender.counter
    (frames.map fun frame => (frame.data, (seals.frameBinding frame).associatedData))

/-- There is nothing to seal, or the fan-out is bound and all of it can be sealed. -/
def AllSealable (authorization : AuthorizationStore) (bound : Option ProtectedMediaBinding)
    (coordinator : GroupMediaCoordinator S) (frames : List SharedEncodedFrame) : Prop :=
  frames = [] ∨ ∃ binding sender, bound = some binding ∧ Sealable authorization binding coordinator sender frames

/-- A frame that was sealed is an H.264 frame, and the coordinator sealed for the binding. -/
theorem sealsFor_of_protect
    (run : protectSharedH264Frame binding coordinator authorization frame = (after, .ok sealed)) :
    frame.codec = .h264 ∧ ∃ sender, SealsFor authorization binding coordinator sender := by
  unfold protectSharedH264Frame at run
  split at run
  · cases run
  rename_i codec
  split at run
  · cases run
  rename_i frameBinding made
  obtain ⟨presentation, stream, epoch, _⟩ := GroupMediaFrameBinding.new_ok made
  refine ⟨not_not.mp codec, ?_⟩
  dsimp only at run
  cases result : (coordinator.sealBoundFrame authorization frame.data frameBinding).2 with
  | error =>
    rw [result] at run
    cases (Prod.mk.inj run).2
  | ok =>
    unfold GroupMediaCoordinator.sealBoundFrame at result
    dsimp only at result
    split at result
    · cases result
    rename_i quiet
    split at result
    · cases result
    rename_i active live
    have here : coordinator.active = some active := live
    obtain ⟨settled, kept⟩ := GroupMediaCoordinator.reconcileAuthorization_unchanged (by rw [here]; rfl)
      (Bool.not_eq_true _ ▸ quiet)
    refine ⟨active.sender, by rw [here]; rfl, settled, fun principal member => ?_, ?_, ?_, ?_⟩
    · refine GroupMediaCoordinator.reconcileAuthorization_authorized coordinator authorization ?_
      rw [GroupMediaCoordinator.mem_registered, kept]
      exact member
    · by_contra other
      rw [GroupMediaSender.sealBoundFrame, if_pos (by rw [epoch]; exact other)] at result
      cases result
    · rw [← presentation]
      exact frameBinding.presentation_nonzero
    · rw [← stream]
      exact frameBinding.stream_nonzero

namespace SealsFor

variable {active : ActiveEpoch S}

/-- With the coordinator sealing for the binding, the outcome for an H.264 frame is that of the sender. -/
theorem protect_eq (seals : SealsFor authorization binding coordinator sender)
    (here : coordinator.active = some active) (codec : frame.codec = .h264) :
    protectSharedH264Frame binding coordinator authorization frame =
      ({ coordinator with
          active := some { active with sender :=
            (sender.sealFrame frame.data (seals.frameBinding frame).associatedData).1 } },
        (((sender.sealFrame frame.data (seals.frameBinding frame).associatedData).2.map
          (⟨seals.frameBinding frame, ·⟩)).mapError .crypto).mapError .coordinator) := by
  have made : GroupMediaFrameBinding.new binding.presentationId binding.streamId binding.epoch frame.info.frameId
      frame.info.timestampUs frame.info.keyframe = .ok (seals.frameBinding frame) :=
    GroupMediaFrameBinding.new_self (seals.frameBinding frame)
  have same : active.sender = sender := by
    have mapped := seals.active
    rw [here] at mapped
    exact Option.some.inj mapped
  have epoch : ¬(seals.frameBinding frame).epoch ≠ sender.epoch := not_not.mpr seals.epoch
  unfold protectSharedH264Frame GroupMediaCoordinator.sealBoundFrame GroupMediaSender.sealBoundFrame
  simp only [codec, ne_eq, not_true_eq_false, if_false, made,
    GroupMediaCoordinator.reconcileAuthorization_eq_self seals.authorized, seals.settled, here, same, if_neg epoch,
    Bool.false_eq_true]

/-- The coordinator with the counter of its sender moved on seals for the binding still. -/
theorem advance (seals : SealsFor authorization binding coordinator sender) (counter : S.Counter) :
    SealsFor authorization binding
      { coordinator with active := some { active with sender := { sender with counter := counter } } }
      { sender with counter := counter } :=
  ⟨rfl, seals.settled, seals.authorized, seals.epoch, seals.presentation, seals.stream⟩

end SealsFor

/-- All frames can be sealed exactly if the first one is and the others then can be. -/
theorem allSealable_cons : AllSealable authorization (some binding) coordinator (frame :: frames) ↔
    ∃ after sealed, protectSharedH264Frame binding coordinator authorization frame = (after, .ok sealed) ∧
      AllSealable authorization (some binding) after frames := by
  constructor
  · rintro (none | ⟨_, sender, same, seals, codec, short, ⟨data, fits, encrypted⟩, later⟩)
    · cases none
    cases same
    obtain ⟨active, here, _⟩ := Option.map_eq_some_iff.mp seals.active
    obtain ⟨first, others⟩ := List.forall_mem_cons.mp short
    obtain ⟨h264, rest⟩ := List.forall_mem_cons.mp codec
    have metadata := validateAadLen_associatedData (seals.frameBinding frame)
    have taken : (sender.sealFrame frame.data (seals.frameBinding frame).associatedData).2 = .ok data :=
      (GroupMediaSender.sealFrame_ok_iff metadata).mpr ⟨first, fits, encrypted⟩
    have moved := congrArg Prod.fst (sender.sealFrame_eq first metadata)
    exact ⟨_, _, (seals.protect_eq here h264).trans (by rw [taken, moved]; rfl),
      .inr ⟨binding, { sender with counter := _ }, rfl, seals.advance _, rest, others, later⟩⟩
  · rintro ⟨_, _, run, more⟩
    obtain ⟨codec, sender, seals⟩ := sealsFor_of_protect run
    obtain ⟨active, here, _⟩ := Option.map_eq_some_iff.mp seals.active
    rw [seals.protect_eq here codec] at run
    obtain ⟨rfl, result⟩ := Prod.mk.inj run
    cases taken : (sender.sealFrame frame.data (seals.frameBinding frame).associatedData).2 with
    | error =>
      rw [taken] at result
      cases result
    | ok data =>
      have metadata := validateAadLen_associatedData (seals.frameBinding frame)
      obtain ⟨short, fits, encrypted⟩ := (GroupMediaSender.sealFrame_ok_iff metadata).mp taken
      have moved := congrArg Prod.fst (sender.sealFrame_eq short metadata)
      rw [moved] at more
      refine .inr ⟨binding, sender, rfl, ?_⟩
      rcases more with rfl | ⟨_, _, same, others⟩
      · exact ⟨seals, by simpa using codec, by simpa using short, ⟨data, fits, encrypted⟩, trivial⟩
      · cases same
        cases Option.some.inj others.seals.active
        exact ⟨seals, List.forall_mem_cons.mpr ⟨codec, others.codec⟩, List.forall_mem_cons.mpr ⟨short, others.short⟩,
          ⟨data, fits, encrypted⟩, others.encrypts⟩

/-- Once the first frame has been sealed, the question is whether the others can be. -/
theorem allSealable_cons_of_sealed
    (run : protectSharedH264Frame binding coordinator authorization frame = (after, .ok sealed)) :
    AllSealable authorization (some binding) coordinator (frame :: frames) ↔
      AllSealable authorization (some binding) after frames := by
  rw [allSealable_cons, run]
  constructor
  · rintro ⟨_, _, same, all⟩
    cases same
    exact all
  · exact fun all => ⟨_, _, rfl, all⟩

end Seal

section Deliver

variable {S : Sframe} {authorization : AuthorizationStore} {sockets : SinkId → Nat → SocketOutcome}
  {state : FanoutState S} {sealed : SealedGroupMediaFrame}

def configAt (fanout : ProtectedUnicastFanout) (id : SinkId) : Option ProtectedUnicastSenderConfig :=
  (fanout.entries[id]?).map (·.config)

/-- Ciphertexts are handed to sinks, and all but the senders of the sinks stays as it was. -/
structure Hands (items : List (SinkId × SealedGroupMediaFrame)) (before after : FanoutState S) : Prop where
  handed : after.handed = before.handed ++ items
  seals : after.seals = before.seals
  distributor : after.distributor = before.distributor
  coordinator : after.coordinator = before.coordinator
  configs : configAt after.fanout = configAt before.fanout

/-- A registered sink is handed the frame, and gives one outcome. -/
theorem deliver_outcome (sockets : SinkId → Nat → SocketOutcome) (sealed : SealedGroupMediaFrame) {sinkId : SinkId}
    (registered : (configAt state.fanout sinkId).isSome) :
    ∃ after delivery, deliverOne sockets state sealed sinkId = (after, some delivery) ∧ delivery.sinkId = sinkId ∧
      Hands [(sinkId, sealed)] state after := by
  unfold deliverOne
  split
  · rename_i absent
    simp [configAt, absent] at registered
  · rename_i entry stored
    refine ⟨_, _, rfl, ?_, ⟨rfl, rfl, rfl, rfl, ?_⟩⟩
    · split <;> rfl
    · funext id
      unfold configAt setSender
      by_cases same : id = sinkId
      · subst same
        rw [getElem?_insert_self, stored]
        rfl
      · rw [getElem?_insert_ne same]

theorem deliverAll_outcome (sockets : SinkId → Nat → SocketOutcome) (sealed : SealedGroupMediaFrame)
    {sinkIds : List SinkId} (registered : ∀ id ∈ sinkIds, (configAt state.fanout id).isSome)
    (deliveries : List ProtectedUnicastFanoutDelivery) :
    ∃ after more, deliverAll sockets sealed sinkIds state deliveries = (after, deliveries ++ more) ∧
      more.map (·.sinkId) = sinkIds ∧ Hands (sinkIds.map (·, sealed)) state after := by
  induction sinkIds generalizing state deliveries with
  | nil => exact ⟨state, [], by simp [deliverAll], rfl, by simp, rfl, rfl, rfl, rfl⟩
  | cons id rest ih =>
    obtain ⟨first, others⟩ := List.forall_mem_cons.mp registered
    obtain ⟨_, delivery, done, named, one⟩ := deliver_outcome sockets sealed first
    obtain ⟨after, more, rest_done, names, hands⟩ := ih (one.configs ▸ others) (deliveries ++ [delivery])
    refine ⟨after, delivery :: more, ?_, ?_, ?_, hands.seals.trans one.seals,
      hands.distributor.trans one.distributor, hands.coordinator.trans one.coordinator, hands.configs.trans one.configs⟩
    · simp only [deliverAll, done, Option.toList_some, rest_done, List.append_assoc, List.singleton_append]
    · rw [List.map_cons, named, names]
    · rw [hands.handed, one.handed, List.append_assoc]
      rfl

/-- The groups with their ciphertexts. -/
structure DeliveredGroups (gathered : List (SharedEncodedFrame × List SinkId)) (sealed : List SealedGroupMediaFrame)
    (before after : FanoutState S) : Prop where
  length : sealed.length = gathered.length
  seals : after.seals = before.seals ++ (gathered.zip sealed).map fun pair => (pair.1.1, .ok pair.2)
  handed : after.handed = before.handed ++ (gathered.zip sealed).flatMap fun pair => pair.1.2.map (·, pair.2)

/-- The loop over the groups, from any state: it takes nothing more from the distributor, and it goes through exactly if
all frames can be sealed one after the other. The induction is on the groups, with the coordinator moving on at each
seal. -/
theorem deliverGroups_outcome (authorization : AuthorizationStore) (sockets : SinkId → Nat → SocketOutcome)
    (state : FanoutState S) {bound : Option ProtectedMediaBinding}
    {gathered : List (SharedEncodedFrame × List SinkId)} (nonempty : ∀ group ∈ gathered, group.2 ≠ [])
    (registered : ∀ group ∈ gathered, ∀ id ∈ group.2, (configAt state.fanout id).isSome)
    (binds : ∀ id config, configAt state.fanout id = some config → bound = some config.protectedBinding)
    (deliveries : List ProtectedUnicastFanoutDelivery) :
    (deliverGroups authorization sockets gathered state deliveries).1.distributor = state.distributor ∧
      ((AllSealable authorization bound state.coordinator (gathered.map (·.1)) ∧
        ∃ sealed more, (deliverGroups authorization sockets gathered state deliveries).2 = .ok (deliveries ++ more) ∧
          DeliveredGroups gathered sealed state (deliverGroups authorization sockets gathered state deliveries).1 ∧
          more.map (·.sinkId) = gathered.flatMap (·.2)) ∨
      (¬AllSealable authorization bound state.coordinator (gathered.map (·.1)) ∧
        ∃ error, (deliverGroups authorization sockets gathered state deliveries).2 = .error error)) := by
  induction gathered generalizing state deliveries with
  | nil =>
    exact ⟨rfl, .inl ⟨.inl rfl, [], [], by simp [deliverGroups],
      ⟨rfl, by simp [deliverGroups], by simp [deliverGroups]⟩, rfl⟩⟩
  | cons group rest ih =>
    obtain ⟨frame, _⟩ := group
    obtain ⟨here, later⟩ := List.forall_mem_cons.mp nonempty
    obtain ⟨known, others⟩ := List.forall_mem_cons.mp registered
    obtain ⟨first, tail, rfl⟩ := List.exists_cons_of_ne_nil here
    obtain ⟨config, found⟩ := Option.isSome_iff_exists.mp (known first List.mem_cons_self)
    have chosen : groupConfig state.fanout (first :: tail) = some config := found
    cases binds first config found
    cases made : protectSharedH264Frame config.protectedBinding state.coordinator authorization frame with
    | mk coordinator result =>
      cases result with
      | error =>
        simp only [deliverGroups, chosen, sealSharedH264FrameForUnicast, made, Except.mapError]
        refine ⟨trivial, .inr ⟨fun all => ?_, _, rfl⟩⟩
        obtain ⟨_, _, same, _⟩ := allSealable_cons.mp all
        cases made.symm.trans same
      | ok sealed =>
        let begun : FanoutState S :=
          { state with coordinator := coordinator, seals := state.seals ++ [(frame, .ok sealed)] }
        have registered' : ∀ id ∈ first :: tail, (configAt begun.fanout id).isSome := known
        obtain ⟨middle, more, done, names, hands⟩ := deliverAll_outcome sockets sealed registered' deliveries
        have step : deliverGroups authorization sockets ((frame, first :: tail) :: rest) state deliveries =
            deliverGroups authorization sockets rest middle (deliveries ++ more) := by
          rw [deliverGroups]
          simp only [chosen, sealSharedH264FrameForUnicast, made, Except.mapError]
          rw [done]
        obtain ⟨stayed, outcome⟩ := ih middle later (hands.configs ▸ others) (hands.configs ▸ binds)
          (deliveries ++ more)
        rw [hands.coordinator] at outcome
        rw [step, List.map_cons, allSealable_cons_of_sealed made]
        refine ⟨stayed.trans hands.distributor, outcome.imp ?_ id⟩
        rintro ⟨all, sealedRest, moreRest, result, groups, namesRest⟩
        refine ⟨all, sealed :: sealedRest, more ++ moreRest, ?_, ⟨?_, ?_, ?_⟩, ?_⟩
        · rw [result, List.append_assoc]
        · rw [List.length_cons, List.length_cons, groups.length]
        · rw [groups.seals, hands.seals, List.zip_cons_cons, List.map_cons, List.append_assoc]
          rfl
        · rw [groups.handed, hands.handed, List.zip_cons_cons, List.flatMap_cons, List.append_assoc]
        · rw [List.map_append, names, namesRest, List.flatMap_cons]

end Deliver

section Accounts

variable {S : Sframe} {authorization : AuthorizationStore} {sockets : SinkId → Nat → SocketOutcome}

/-- The sink is attached, and frames are queued for it. -/
def hasQueued (state : FanoutState S) (id : SinkId) : Bool :=
  state.fanout.entries.contains id && (state.distributor.sinks[id]?).any fun queue => 0 < queue.frames.size

/-- The frame that a drain takes from an attached sink. -/
def drainedFrame (state : FanoutState S) (id : SinkId) : Option SharedEncodedFrame :=
  if state.fanout.entries.contains id then (state.distributor.popNextDecodable id).2 else none

/-- A drain that succeeds gives one outcome for every attached sink with a queued frame and none for the others. Every
shared frame it takes is sealed once, and the sinks it was taken from are handed this ciphertext, once each. -/
structure DrainAccounted (before after : FanoutState S) (deliveries : List ProtectedUnicastFanoutDelivery) : Prop where
  outcomes : ∀ id, (deliveries.map (·.sinkId)).count id = if hasQueued before id then 1 else 0
  sealedOnce : ∀ id frame, drainedFrame before id = some frame → ∃ leader sealed,
    after.seals.filter (fun made => SameShared made.1 frame) = [(leader, .ok sealed)] ∧
      after.handed.filter (·.1 = id) = [(id, sealed)]
  onlyTaken : ∀ made ∈ after.seals, ∃ id, drainedFrame before id = some made.1

/-- A drain that fails has taken no frame and has handed out nothing. -/
def DrainAccounts (before after : FanoutState S) :
    Except ProtectedUnicastFanoutError (List ProtectedUnicastFanoutDelivery) → Prop
  | .ok deliveries => DrainAccounted before after deliveries
  | .error _ => after.distributor = before.distributor ∧ after.handed = []

variable (state : FanoutState S) {frame : SharedEncodedFrame}

theorem sinks_nodup (fanout : ProtectedUnicastFanout) : (fanout.entries.toList.map (·.2.sink)).Nodup := by
  have own : fanout.entries.toList.map (·.2.sink) = fanout.entries.toList.map (·.1) := by
    refine List.map_congr_left fun entry member => ?_
    exact fanout.own entry.1 entry.2 (mem_toList_iff_getElem?_eq_some.mp member)
  rw [own]
  exact nodup_map_fst_toList _

/-- The frames that a drain takes, with their sinks. -/
def takenItems : List (SinkId × SharedEncodedFrame) := takenFrames state.fanout.entries.toList state.distributor

/-- The distinct shared frames among them, in the order of the sinks that give them first. -/
def drainedShared : List SharedEncodedFrame := (groups SameShared (takenItems state)).map (·.1)

theorem mem_takenItems {id : SinkId} : (id, frame) ∈ takenItems state ↔ drainedFrame state id = some frame := by
  unfold takenItems takenFrames drainedFrame
  rw [List.mem_filterMap]
  constructor
  · rintro ⟨⟨key, entry⟩, member, popped⟩
    have stored := mem_toList_iff_getElem?_eq_some.mp member
    obtain ⟨_, found, same⟩ := Option.map_eq_some_iff.mp popped
    cases same
    rw [if_pos (contains_iff_mem.mpr (mem_of_getElem? stored))]
    rw [state.fanout.own key entry stored] at found
    exact found
  · intro taken
    split at taken
    · rename_i attached
      obtain ⟨entry, stored⟩ := Option.isSome_iff_exists.mp
        (isSome_getElem?_iff_mem.mpr (contains_iff_mem.mp attached))
      refine ⟨(id, entry), mem_toList_iff_getElem?_eq_some.mpr stored, ?_⟩
      rw [state.fanout.own id entry stored, taken]
      rfl
    · cases taken

theorem takenItems_nodup : ((takenItems state).map (·.1)).Nodup := by
  have sublist : ((takenItems state).map (·.1)).Sublist (state.fanout.entries.toList.map (·.1)) := by
    unfold takenItems takenFrames
    induction state.fanout.entries.toList with
    | nil => exact .slnil
    | cons entry rest ih =>
      cases popped : (state.distributor.popNextDecodable entry.2.sink).2 with
      | none =>
        rw [List.filterMap_cons_none (by rw [popped]; rfl)]
        exact ih.cons _
      | some =>
        rw [List.filterMap_cons_some (by rw [popped]; rfl)]
        exact ih.cons_cons _
  exact (nodup_map_fst_toList _).sublist sublist

/-- A queue with frames gives one. -/
theorem popNextDecodable_isSome (queue : SinkQueue) :
    queue.popNextDecodable.2.isSome = decide (0 < queue.frames.size) := by
  unfold popNextDecodable
  split
  · unfold popLatest
    split
    · rename_i empty
      rw [maxKey?_eq_none_iff] at empty
      simp [empty]
    · rename_i latest found
      obtain ⟨member, -⟩ := maxKey?_eq_some_iff_mem_and_forall.mp found
      simp only [isSome_getElem?_eq_contains, contains_iff_mem.mpr member,
        size_pos_of_mem member, decide_true]
  · rename_i keyframeId found
    obtain ⟨_, stored, _⟩ := queuedKeyframe_eq_some found
    have kept : keyframeId ∉ queue.frames.keys.filter (· < keyframeId) := by simp
    simp only [getElem?_foldl_erase kept, stored, Option.isSome_some,
      size_pos_of_mem (mem_of_getElem? stored), decide_true]

theorem popNextDecodable_mem {queue : SinkQueue} (popped : queue.popNextDecodable.2 = some frame) :
    ∃ id : UInt64, queue.frames[id]? = some frame := by
  unfold popNextDecodable at popped
  split at popped
  · unfold popLatest at popped
    split at popped
    · cases popped
    · exact ⟨_, popped⟩
  · rename_i keyframeId _
    have kept : keyframeId ∉ queue.frames.keys.filter (· < keyframeId) := by simp
    exact ⟨keyframeId, (getElem?_foldl_erase kept queue.frames).symm.trans popped⟩

theorem drainedFrame_isSome (id : SinkId) : (drainedFrame state id).isSome = hasQueued state id := by
  unfold drainedFrame hasQueued
  cases state.fanout.entries.contains id with
  | false => rfl
  | true =>
    rw [if_pos rfl, pop_result]
    cases state.distributor.sinks[id]? with
    | none => rfl
    | some queue => exact popNextDecodable_isSome queue

/-- The state of a drain between its two loops. -/
def afterTaking : FanoutState S :=
  { state with
    distributor := (takeFrames state.fanout.entries.toList state.distributor []).1
    seals := []
    handed := [] }

theorem drain_groups : (takeFrames state.fanout.entries.toList state.distributor []).2 =
    groups SameShared (takenItems state) := takeFrames_groups (sinks_nodup state.fanout) []

theorem takenItems_grouped : Grouped SameShared (takenItems state) (groups SameShared (takenItems state)) :=
  groups_grouped (fun _ => ⟨rfl, rfl, rfl⟩) _

theorem registered_of_group {group : SharedEncodedFrame × List SinkId} {id : SinkId}
    (member : group ∈ groups SameShared (takenItems state)) (inside : id ∈ group.2) :
    (configAt state.fanout id).isSome := by
  have key := (takenItems_grouped state).keys.mem_iff.mp (List.mem_flatMap.mpr ⟨group, member, inside⟩)
  obtain ⟨⟨_, _⟩, item, rfl⟩ := List.mem_map.mp key
  have taken := (mem_takenItems state).mp item
  unfold drainedFrame at taken
  split at taken
  · rename_i attached
    rw [configAt, Option.isSome_map, isSome_getElem?_eq_contains]
    exact attached
  · cases taken

/-- Groups that were delivered account for the drain. Their leaders are distinct and every taken item is in one of them,
so each sink finds its frame sealed once and is handed it once. -/
theorem accounted_of_groups {after : FanoutState S} {deliveries : List ProtectedUnicastFanoutDelivery}
    {sealed : List SealedGroupMediaFrame}
    (delivered : DeliveredGroups (groups SameShared (takenItems state)) sealed (afterTaking state) after)
    (names : deliveries.map (·.sinkId) = (groups SameShared (takenItems state)).flatMap (·.2)) :
    DrainAccounted state after deliveries := by
  have grouped := takenItems_grouped state
  have nodup := takenItems_nodup state
  have leaders : ((groups SameShared (takenItems state)).zip sealed).map (·.1) = groups SameShared (takenItems state) :=
    List.map_fst_zip (Nat.le_of_eq delivered.length.symm)
  have seals : after.seals = ((groups SameShared (takenItems state)).zip sealed).map
      fun pair => (pair.1.1, .ok pair.2) :=
    delivered.seals
  refine ⟨fun id => ?_, fun id frame taken => ?_, fun made member => ?_⟩
  · rw [names, grouped.keys.count_eq, ← drainedFrame_isSome, nodup.count]
    congr 1
    refine propext ⟨fun member => ?_, fun taken => ?_⟩
    · obtain ⟨⟨_, _⟩, item, rfl⟩ := List.mem_map.mp member
      rw [(mem_takenItems state).mp item]
      rfl
    · obtain ⟨frame, taken⟩ := Option.isSome_iff_exists.mp taken
      exact List.mem_map.mpr ⟨(id, frame), (mem_takenItems state).mpr taken, rfl⟩
  · obtain ⟨group, found, inside, same⟩ := grouped.covers _ ((mem_takenItems state).mpr taken)
    obtain ⟨cipher, paired⟩ := exists_mem_zip delivered.length found
    refine ⟨group.1, cipher, ?_, ?_⟩
    · rw [seals]
      refine filter_of_apart (fun same => ⟨same.1.symm, same.2.1.symm, same.2.2.symm⟩)
        (fun first second => ⟨first.1.trans second.1, first.2.1.trans second.2.1, first.2.2.trans second.2.2⟩) ?_
        (List.mem_map.mpr ⟨(group, cipher), paired, rfl⟩) same
      have apart := grouped.apart
      rw [← leaders, List.map_map] at apart
      rw [List.map_map]
      exact apart
    · have sinks : (((groups SameShared (takenItems state)).zip sealed).map
          fun pair => (pair.1.2, pair.2)).flatMap (·.1) =
          (groups SameShared (takenItems state)).flatMap (·.2) := by
        conv_rhs => rw [← leaders]
        rw [List.flatMap_map, List.flatMap_map]
      have alone := filter_flatMap_key (sinks ▸ grouped.keys.nodup_iff.mpr nodup)
        (List.mem_map.mpr ⟨(group, cipher), paired, rfl⟩) inside
      rw [List.flatMap_map] at alone
      rw [delivered.handed]
      exact alone
  · rw [seals] at member
    obtain ⟨pair, paired, rfl⟩ := List.mem_map.mp member
    have leader : pair.1.1 ∈ (groups SameShared (takenItems state)).map (·.1) :=
      List.mem_map.mpr ⟨pair.1, (List.of_mem_zip paired).1, rfl⟩
    obtain ⟨⟨id, _⟩, item, same⟩ := grouped.leaders _ leader
    exact ⟨id, by rw [(mem_takenItems state).mp item]; exact congrArg some same⟩

theorem drain_eq (authorization : AuthorizationStore) (sockets : SinkId → Nat → SocketOutcome) :
    drain authorization sockets state =
      deliverGroups authorization sockets (groups SameShared (takenItems state)) (afterTaking state) [] := by
  rw [← drain_groups]
  rfl

/-- A sink that gives a frame is left with fewer. -/
theorem distributor_changed {item : SinkId × SharedEncodedFrame} (member : item ∈ takenItems state) :
    (afterTaking state).distributor ≠ state.distributor := by
  intro same
  have taken := (mem_takenItems state).mp member
  unfold drainedFrame at taken
  split at taken
  · rename_i attached
    rw [pop_result] at taken
    obtain ⟨queue, stored, popped⟩ := Option.bind_eq_some_iff.mp taken
    obtain ⟨entry, registered⟩ := Option.isSome_iff_exists.mp
      (isSome_getElem?_iff_mem.mpr (contains_iff_mem.mp attached))
    have inside : item.1 ∈ state.fanout.entries.toList.map (·.2.sink) := by
      refine List.mem_map.mpr ⟨(item.1, entry), mem_toList_iff_getElem?_eq_some.mpr registered, ?_⟩
      exact state.fanout.own item.1 entry registered
    have left := takeFrames_sinks state.distributor (sinks_nodup state.fanout) [] item.1
    rw [if_pos inside, stored] at left
    have kept : (afterTaking state).distributor.sinks[item.1]? = some queue := by
      rw [same]
      exact stored
    have fewer := popNextDecodable_shrinks popped
    have unchanged : queue.popNextDecodable.1 = queue := Option.some.inj (left.symm.trans kept)
    rw [unchanged] at fewer
    exact Nat.lt_irrefl _ fewer
  · cases taken

/-- A drain accounts for every frame it takes exactly if it takes none, or the coordinator seals for the binding of the
fan-out and the frames taken are H.264 frames within the limits that the cipher takes one after the other. -/
theorem fanout_accounts_iff :
    DrainAccounts state (ProtectedUnicastFanout.drain authorization sockets state).1
        (ProtectedUnicastFanout.drain authorization sockets state).2 ↔
      AllSealable authorization state.fanout.binding state.coordinator (drainedShared state) := by
  have grouped := takenItems_grouped state
  have binds : ∀ id config, configAt state.fanout id = some config →
      state.fanout.binding = some config.protectedBinding := by
    intro id config found
    obtain ⟨entry, stored, rfl⟩ := Option.map_eq_some_iff.mp found
    exact state.fanout.bound id entry stored
  obtain ⟨stayed, outcome⟩ := deliverGroups_outcome authorization sockets (afterTaking state) grouped.nonempty
    (fun group member id inside => registered_of_group state member inside) binds []
  rw [← drain_eq] at stayed outcome
  generalize drain authorization sockets state = drained at stayed outcome ⊢
  rcases outcome with ⟨all, _, _, result, delivered, names⟩ | ⟨failed, _, result⟩
  · rw [result]
    exact ⟨fun _ => all, fun _ => accounted_of_groups state delivered names⟩
  · rw [result]
    refine ⟨fun accounts => ?_, fun all => absurd all failed⟩
    -- a drain fails only at a group, and the sinks of the group have given their frames by then
    exfalso
    cases items : takenItems state with
    | nil =>
      rw [items] at failed
      exact failed (.inl rfl)
    | cons item =>
      have member : item ∈ takenItems state := items ▸ List.mem_cons_self
      exact distributor_changed state member (stayed.symm.trans accounts.1)

def sampleSenderConfig (port : UInt16) : ProtectedUnicastSenderConfig :=
  ⟨⟨.v4 0x0a000004, port⟩, 55, 7, ⟨1, of_decide_eq_false rfl⟩⟩

def hevcKeyframe : SharedEncodedFrame := ⟨⟨1, 0, true⟩, .hevc, [0, 0, 1], 1⟩

def secondFrame (keyframe : Bool) : SharedEncodedFrame := ⟨⟨2, 33333, keyframe⟩, .h264, [0, 0, 1], 2⟩

/-- Two sinks, with an epoch in force. The second one is attached after a keyframe of another codec, which the first
one gives up when the frame after it is a keyframe. -/
def twoSinks (keyframe : Bool) : FanoutState (ledgerSframe []) :=
  let first := ProtectedUnicastFanout.attach {} {} 1 (sampleSenderConfig 5001) 2 (.ok ())
  let second := first.1.attach (first.2.1.publish hevcKeyframe) 2 (sampleSenderConfig 5002) 2 (.ok ())
  { fanout := second.1
    distributor := second.2.1.publish (secondFrame keyframe)
    coordinator := (GroupMediaCoordinator.beginEpoch {} (some sampleMaterial)).1 }

theorem entries_twoSinks (keyframe : Bool) :
    ((twoSinks keyframe).fanout.entries.toList.map fun entry => (entry.1, entry.2.sink)) = [(1, 1), (2, 2)] := by
  revert keyframe
  decide +kernel

theorem takenItems_twoSinks {keyframe : Bool} {first second : SharedEncodedFrame}
    (atFirst : ((twoSinks keyframe).distributor.popNextDecodable 1).2 = some first)
    (atSecond : ((twoSinks keyframe).distributor.popNextDecodable 2).2 = some second) :
    takenItems (twoSinks keyframe) = [(1, first), (2, second)] := by
  have taken : takenItems (twoSinks keyframe) =
      ((twoSinks keyframe).fanout.entries.toList.map fun entry => (entry.1, entry.2.sink)).filterMap fun entry =>
        ((twoSinks keyframe).distributor.popNextDecodable entry.2).2.map (entry.1, ·) := by
    rw [List.filterMap_map]
    rfl
  rw [taken, entries_twoSinks]
  simp only [List.filterMap_cons, atFirst, atSecond, Option.map_some, List.filterMap_nil]

/-- Two sinks share a frame, which is sealed once: one sink sends it and the other one would block. -/
theorem fanout_accounts_iff_shared_frame :
    let drained := ProtectedUnicastFanout.drain {} (fun id _ => if id = 1 then .written 51 else .wouldBlock)
      (twoSinks true)
    DrainAccounts (twoSinks true) drained.1 drained.2 ∧
      drained.2 = .ok [.sent 1 ⟨2, 1, 11, 0, 1⟩, .droppedBackpressure 2 ⟨2, 0, 1⟩] := by
  have taken : takenItems (twoSinks true) = [(1, secondFrame true), (2, secondFrame true)] :=
    takenItems_twoSinks (by decide +kernel) (by decide +kernel)
  have gathered : groups SameShared (takenItems (twoSinks true)) = [(secondFrame true, [1, 2])] := by
    rw [taken]
    decide +kernel
  have shared : drainedShared (twoSinks true) = [secondFrame true] := by
    rw [drainedShared, gathered]
    rfl
  have nobody : (twoSinks true).coordinator.receivers = GroupMediaCoordinator.awaitKeys (S := ledgerSframe []) {} := rfl
  have seals : SealsFor {} (sampleSenderConfig 5001).protectedBinding (twoSinks true).coordinator
      ⟨(sampleSenderConfig 5001).epoch, (1, sampleMaterial), (0 : UInt64)⟩ :=
    ⟨rfl, rfl, by simp [nobody, GroupMediaCoordinator.awaitKeys], rfl, by decide, by decide⟩
  intro drained
  constructor
  · refine (fanout_accounts_iff (twoSinks true)).mpr (.inr ⟨_, _, by decide +kernel, seals, ?_, ?_, ?_⟩)
    all_goals rw [shared]
    · simp [secondFrame]
    · simp [secondFrame, maxGroupMediaFrameBytes]
    · exact ⟨⟨u64ToBe 0 ++ [0, 0, 1], by decide, rfl⟩, trivial⟩
  · have made : drained = _ := drain_eq (twoSinks true) _ _
    rw [made, gathered]
    decide +kernel

/-- The frame of the first sink cannot be sealed, and with it the frame of the second sink is lost, which can be. -/
theorem unsealable_frame_costs_other_sink :
    let drained := ProtectedUnicastFanout.drain {} (fun _ _ => .wouldBlock) (twoSinks false)
    drainedFrame (twoSinks false) 2 = some (secondFrame false) ∧ hasQueued (twoSinks false) 2 = true ∧
      (∃ sealed, (sealSharedH264FrameForUnicast (sampleSenderConfig 5002) (twoSinks false).coordinator {}
        (secondFrame false)).2 = .ok sealed) ∧
      drained.2 = .error (.seal (.core .unsupportedCodec)) ∧ hasQueued drained.1 2 = false := by
  have one : ((twoSinks false).distributor.sinks[(2 : SinkId)]?).map (·.frames.toList) =
      some [(2, secondFrame false)] := by
    decide +kernel
  obtain ⟨queue, stored, frames⟩ := Option.map_eq_some_iff.mp one
  have size : queue.frames.size = 1 := by
    rw [← length_toList, frames]
    rfl
  have popped : queue.popNextDecodable.2 = some (secondFrame false) := by
    have some : queue.popNextDecodable.2.isSome := by simp [popNextDecodable_isSome, size]
    obtain ⟨_, popped⟩ := Option.isSome_iff_exists.mp some
    obtain ⟨_, member⟩ := popNextDecodable_mem popped
    rw [← mem_toList_iff_getElem?_eq_some, frames, List.mem_singleton] at member
    rw [popped]
    exact congrArg (Option.some ·.2) member
  have second : ((twoSinks false).distributor.popNextDecodable 2).2 = some (secondFrame false) := by
    rw [pop_result, stored]
    exact popped
  have first : ((twoSinks false).distributor.popNextDecodable 1).2 = some hevcKeyframe := by decide +kernel
  have taken := takenItems_twoSinks first second
  have queued : drainedFrame (twoSinks false) 2 = some (secondFrame false) :=
    (mem_takenItems (twoSinks false)).mp (taken ▸ List.mem_cons_of_mem _ List.mem_cons_self)
  have gathered : groups SameShared (takenItems (twoSinks false)) =
      [(hevcKeyframe, [1]), (secondFrame false, [2])] := by
    rw [taken]
    decide +kernel
  intro drained
  have failed : drained = _ := drain_eq (twoSinks false) {} fun _ _ => .wouldBlock
  rw [gathered] at failed
  refine ⟨queued, ?_, ⟨_, rfl⟩, ?_, ?_⟩
  · decide +kernel
  · rw [failed]
    decide +kernel
  · have empty := popNextDecodable_shrinks popped
    have left : drained.1.distributor.sinks[(2 : SinkId)]? = some queue.popNextDecodable.1 := by
      rw [failed]
      refine (takeFrames_sinks (twoSinks false).distributor (sinks_nodup (twoSinks false).fanout) [] 2).trans ?_
      rw [if_pos (by decide +kernel), stored]
      rfl
    unfold hasQueued
    rw [left, Option.any_some, decide_eq_false (by omega), Bool.and_false]

end Accounts

end ClassMesh
