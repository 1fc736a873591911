import ClassMesh.Video.MonitoringFanIn

namespace ClassMesh

open Std Foundation MonitoringFanIn ExtTreeMap BTreeMap

abbrev FanInCall := Call MonitoringFanIn FanInInput FanInReply

/-- The frame that a call accepted for a source. -/
def FanInCall.acceptedFrame (source : MonitoringSourceId) (call : FanInCall) : Option SharedEncodedFrame :=
  match call.input, call.reply with
  | .push update, .pushed (.ok _) => if update.sourceId = source then some update.frame else none
  | _, _ => none

def FanInCall.accepts (call : FanInCall) : Bool :=
  match call.reply with
  | .pushed (.ok _) => true
  | _ => false

def FanInCall.removes (call : FanInCall) : Bool :=
  match call.reply with
  | .discarded removed => removed
  | _ => false

def FanInCall.drained (call : FanInCall) : List MonitoringThumbnailUpdate :=
  match call.reply with
  | .drained updates => updates
  | _ => []

open FanInCall

def lastAccepted (source : MonitoringSourceId) (past : List FanInCall) : Option SharedEncodedFrame :=
  (past.filterMap (acceptedFrame source)).getLast?

def drainedUpdates (past : List FanInCall) : List MonitoringThumbnailUpdate := past.flatMap drained

def acceptedCount (past : List FanInCall) : Nat := past.countP accepts
def removedCount (past : List FanInCall) : Nat := past.countP removes
def drainCount (calls : List FanInCall) : Nat := calls.countP fun call => call.input = .drain

section Steps

variable {fanIn after : MonitoringFanIn} {input : FanInInput} {reply : FanInReply} {source : MonitoringSourceId}

/-- Everything that a call can do. -/
inductive FanInOutcome (fanIn : MonitoringFanIn) : FanInInput → FanInReply → MonitoringFanIn → Prop
  | replaced (update : MonitoringThumbnailUpdate) : update.sourceId ∈ fanIn.pending →
      FanInOutcome fanIn (.push update) (.pushed (.ok .replaced))
        { fanIn with
          pending := fanIn.pending.insert update.sourceId update.frame
          acceptedUpdates := saturatingAdd fanIn.acceptedUpdates 1
          supersededUpdates := saturatingAdd fanIn.supersededUpdates 1 }
  | rejected (update : MonitoringThumbnailUpdate) (rejected : UInt64) (error : MonitoringFanInError) :
      FanInOutcome fanIn (.push update) (.pushed (.error error)) { fanIn with rejectedUpdates := rejected }
  | inserted (update : MonitoringThumbnailUpdate) : update.sourceId ∉ fanIn.pending →
      fanIn.pending.size < fanIn.config.maxSources →
      FanInOutcome fanIn (.push update) (.pushed (.ok .inserted))
        { fanIn with
          pending := fanIn.pending.insert update.sourceId update.frame
          acceptedUpdates := saturatingAdd fanIn.acceptedUpdates 1 }
  | discarded (sourceId : MonitoringSourceId) :
      FanInOutcome fanIn (.discardSource sourceId) (.discarded (fanIn.pending.contains sourceId))
        { fanIn with pending := fanIn.pending.erase sourceId }
  | drained (after : MonitoringFanIn) (updates : List MonitoringThumbnailUpdate) :
      Drains fanIn fanIn.selected after updates → FanInOutcome fanIn .drain (.drained updates) after

theorem fanIn_outcome (taken : Total step fanIn input reply after) : FanInOutcome fanIn input reply after := by
  cases input with
  | push update =>
    obtain ⟨rfl, rfl⟩ := Prod.ext_iff.mp taken
    simp only [step, push]
    split
    · rename_i present
      exact .replaced update (contains_iff_mem.mp present)
    · rename_i absent
      split
      · exact .rejected update _ _
      · rename_i room
        exact .inserted update (fun present => absent (contains_iff_mem.mpr present)) (Nat.lt_of_not_le room)
  | discardSource sourceId =>
    obtain ⟨rfl, rfl⟩ := Prod.ext_iff.mp taken
    exact .discarded sourceId
  | drain =>
    obtain ⟨rfl, rfl⟩ := Prod.ext_iff.mp taken
    exact .drained _ _ fanIn.drain_drains

theorem FanInOutcome.config_eq (outcome : FanInOutcome fanIn input reply after) : after.config = fanIn.config := by
  cases outcome with
  | replaced | rejected | inserted | discarded => rfl
  | drained _ updates drains => exact drains.config

/-- A frame that is pending is one that just was accepted, or was pending before and nothing was accepted. -/
theorem FanInOutcome.pending_origin (outcome : FanInOutcome fanIn input reply after) {frame : SharedEncodedFrame}
    (stored : after.pending[source]? = some frame) :
    acceptedFrame source ⟨fanIn, input, reply, after⟩ = some frame ∨
      (acceptedFrame source ⟨fanIn, input, reply, after⟩ = none ∧ fanIn.pending[source]? = some frame) := by
  have pushed {update : MonitoringThumbnailUpdate} {result : MonitoringFanInPush} {next : MonitoringFanIn}
      (here : (fanIn.pending.insert update.sourceId update.frame)[source]? = some frame) :
      acceptedFrame source ⟨fanIn, .push update, .pushed (.ok result), next⟩ = some frame ∨
        (acceptedFrame source ⟨fanIn, .push update, .pushed (.ok result), next⟩ = none ∧
          fanIn.pending[source]? = some frame) := by
    by_cases same : update.sourceId = source
    · subst same
      rw [getElem?_insert_self] at here
      exact .inl ((if_pos rfl).trans here)
    · rw [getElem?_insert_ne (Ne.symm same)] at here
      exact .inr ⟨if_neg same, here⟩
  cases outcome with
  | replaced | inserted => exact pushed stored
  | rejected => exact .inr ⟨rfl, stored⟩
  | discarded =>
    refine .inr ⟨rfl, ?_⟩
    exact (getElem?_erase_cases stored).2
  | drained _ updates drains =>
    rw [drains.kept source] at stored
    split at stored
    · cases stored
    · exact .inr ⟨rfl, stored⟩

end Steps

section Ledger

variable {initial final : MonitoringFanIn} {past : List FanInCall} {source : MonitoringSourceId}

/-- The balance of what was accepted. -/
structure FanInLedger (past : List FanInCall) (fanIn : MonitoringFanIn) : Prop where
  accepted : fanIn.acceptedUpdates.toNat = acceptedCount past
  balance : acceptedCount past = (drainedUpdates past).length + fanIn.supersededUpdates.toNat + removedCount past +
    fanIn.pending.size

theorem counted_concat (past : List FanInCall) (call : FanInCall) :
    acceptedCount (past ++ [call]) = acceptedCount past + (if call.accepts then 1 else 0) ∧
      removedCount (past ++ [call]) = removedCount past + (if call.removes then 1 else 0) ∧
      drainedUpdates (past ++ [call]) = drainedUpdates past ++ call.drained := by
  refine ⟨?_, ?_, by simp [drainedUpdates]⟩
  · rw [acceptedCount, List.countP_append, List.countP_singleton]
    rfl
  · rw [removedCount, List.countP_append, List.countP_singleton]
    rfl

/-- One call keeps the balance: an accepted update is pending until it is drained, superseded or removed. Fewer than `2
^ 64` accepted updates keep the counters from saturating. -/
theorem FanInLedger.step {fanIn after : MonitoringFanIn} {input : FanInInput} {reply : FanInReply}
    (ledger : FanInLedger past fanIn) (outcome : FanInOutcome fanIn input reply after)
    (few : acceptedCount (past ++ [⟨fanIn, input, reply, after⟩]) < 2 ^ 64) :
    FanInLedger (past ++ [⟨fanIn, input, reply, after⟩]) after := by
  obtain ⟨acceptedNext, removedNext, drainedNext⟩ := counted_concat past ⟨fanIn, input, reply, after⟩
  have accepted := ledger.accepted
  have balance := ledger.balance
  rw [acceptedNext] at few
  cases outcome with
  | replaced update present =>
    obtain ⟨_, stored⟩ := Option.isSome_iff_exists.mp (isSome_getElem?_iff_mem.mpr present)
    simp only [accepts, if_true] at few acceptedNext
    refine ⟨?_, ?_⟩
    · rw [acceptedNext, ← accepted]
      exact saturatingAdd_one (by omega)
    · rw [acceptedNext, removedNext, drainedNext, size_insert_of_getElem? stored,
        saturatingAdd_one (by omega)]
      simp only [removes, drained, List.append_nil, Bool.false_eq_true, if_false]
      omega
  | rejected =>
    refine ⟨?_, ?_⟩
    · rw [acceptedNext]
      exact accepted
    · rw [acceptedNext, removedNext, drainedNext]
      simp only [accepts, removes, drained, List.append_nil, Bool.false_eq_true, if_false]
      exact balance
  | inserted update absent =>
    simp only [accepts, if_true] at few acceptedNext
    refine ⟨?_, ?_⟩
    · rw [acceptedNext, ← accepted]
      exact saturatingAdd_one (by omega)
    · rw [acceptedNext, removedNext, drainedNext, size_insert_of_not_mem absent]
      simp only [removes, drained, List.append_nil, Bool.false_eq_true, if_false]
      omega
  | discarded sourceId =>
    refine ⟨?_, ?_⟩
    · rw [acceptedNext]
      exact accepted
    · rw [acceptedNext, removedNext, drainedNext]
      rw [size_erase]
      simp only [accepts, removes, drained, List.append_nil, Bool.false_eq_true, if_false]
      cases present : fanIn.pending.contains sourceId with
      | true =>
        have some := size_pos_of_mem (contains_iff_mem.mp present)
        simp only [↓reduceIte]
        omega
      | false =>
        simp only [Bool.false_eq_true, ↓reduceIte]
        omega
  | drained _ updates drains =>
    have size := drains.count
    refine ⟨?_, ?_⟩
    · rw [acceptedNext, drains.accepted]
      exact accepted
    · rw [acceptedNext, removedNext, drainedNext, drains.superseded, List.length_append]
      simp only [accepts, removes, drained, Bool.false_eq_true, if_false]
      omega

theorem FanInLedger.of_run (empty : initial.pending = ∅) (fresh : initial.acceptedUpdates = 0)
    (none : initial.supersededUpdates = 0) (run : Run (Total MonitoringFanIn.step) initial past final)
    (few : acceptedCount past < 2 ^ 64) : FanInLedger past final := by
  induction run with
  | start => exact ⟨by rw [fresh]; rfl, by rw [none, empty]; rfl⟩
  | @next past fanIn input reply after _ taken ih =>
    refine (ih ?_).step (fanIn_outcome taken) few
    rw [(counted_concat past _).1] at few
    omega

theorem bounded_of_run (empty : initial.pending = ∅) (run : Run (Total step) initial past final) :
    final.config = initial.config ∧ final.pending.size ≤ initial.config.maxSources := by
  induction run with
  | start => exact ⟨rfl, by simp [empty]⟩
  | next _ taken ih =>
    obtain ⟨config, bounded⟩ := ih
    have outcome := fanIn_outcome taken
    refine ⟨outcome.config_eq.trans config, ?_⟩
    cases outcome with
    | replaced update present =>
      obtain ⟨_, stored⟩ := Option.isSome_iff_exists.mp (isSome_getElem?_iff_mem.mpr present)
      rw [size_insert_of_getElem? stored]
      exact bounded
    | rejected => exact bounded
    | inserted update absent room =>
      rw [size_insert_of_not_mem absent, ← config]
      exact room
    | discarded => exact size_erase_le.trans bounded
    | drained _ updates drains =>
      have size := drains.count
      omega

/-- What is pending is the frame accepted last. -/
theorem latest_of_run (empty : initial.pending = ∅) (run : Run (Total step) initial past final)
    {frame : SharedEncodedFrame} (stored : final.pending[source]? = some frame) :
    lastAccepted source past = some frame := by
  induction run with
  | start => simp [empty] at stored
  | next _ taken ih =>
    rw [lastAccepted, List.filterMap_append]
    rcases (fanIn_outcome taken).pending_origin stored with accepted | ⟨nothing, before⟩
    · simp [accepted]
    · simp only [List.filterMap_cons, nothing, List.filterMap_nil, List.append_nil]
      exact ih before

end Ledger

section Waiting

variable {initial final fanIn after : MonitoringFanIn} {input : FanInInput} {reply : FanInReply}
  {past middle : List FanInCall} {source : MonitoringSourceId} {ids : Finset MonitoringSourceId}

/-- Only sources that push are pending. -/
theorem knownSources_step (outcome : FanInOutcome fanIn input reply after)
    (known : ∀ update, input = .push update → update.sourceId ∈ ids) (pending : ∀ id, id ∈ fanIn.pending → id ∈ ids) :
    ∀ id, id ∈ after.pending → id ∈ ids := by
  intro id member
  obtain ⟨_, stored⟩ := Option.isSome_iff_exists.mp (isSome_getElem?_iff_mem.mpr member)
  rcases outcome.pending_origin stored with accepted | ⟨_, before⟩
  · unfold acceptedFrame at accepted
    split at accepted
    case h_1 update result pushes replies =>
      split at accepted
      · rename_i same
        exact same ▸ known update pushes
      · cases accepted
    case h_2 => cases accepted
  · exact pending id (mem_of_getElem? before)

theorem knownSources_of_run (run : Run (Total step) initial past final)
    (known : ∀ call ∈ past, ∀ update, call.input = .push update → update.sourceId ∈ ids)
    (pending : ∀ id, id ∈ initial.pending → id ∈ ids) : ∀ id, id ∈ final.pending → id ∈ ids := by
  induction run with
  | start => exact pending
  | @next past fanIn input reply after _ taken ih =>
    exact knownSources_step (fanIn_outcome taken) (known ⟨fanIn, input, reply, after⟩ (by simp))
      (ih (forall_of_append known))

/-- How many of the sources are not after this one in the round that starts after the cursor. -/
def rank (ids : Finset MonitoringSourceId) (cursor : Option MonitoringSourceId) (source : MonitoringSourceId) : Nat :=
  (ids.filter fun other => place cursor other ≤ place cursor source).card

theorem rank_pos (cursor : Option MonitoringSourceId) (member : source ∈ ids) : 0 < rank ids cursor source :=
  Finset.card_pos.mpr ⟨source, Finset.mem_filter.mpr ⟨member, Nat.le_refl _⟩⟩

/-- A drain that passes a pending source over brings it nearer by all that it drains. -/
theorem rank_drain {updates : List MonitoringThumbnailUpdate} (drains : Drains fanIn fanIn.selected after updates)
    (positive : 0 < fanIn.config.maxUpdatesPerDrain) (pending : ∀ id, id ∈ fanIn.pending → id ∈ ids)
    (waiting : source ∈ fanIn.pending) (passed : source ∉ fanIn.selected) :
    rank ids after.cursor source + fanIn.config.maxUpdatesPerDrain ≤ rank ids fanIn.cursor source := by
  have split : fanIn.turns = fanIn.selected ++ fanIn.turns.drop fanIn.config.maxUpdatesPerDrain :=
    (List.take_append_drop _ _).symm
  have later : source ∈ fanIn.turns.drop fanIn.config.maxUpdatesPerDrain := by
    have turn := mem_turns.mpr waiting
    rw [split] at turn
    exact (List.mem_append.mp turn).resolve_left passed
  have length : fanIn.selected.length = fanIn.config.maxUpdatesPerDrain := by
    have beyond := List.length_pos_of_mem later
    rw [List.length_drop] at beyond
    exact List.length_take_of_le (by omega)
  have ordered := fanIn.turns_ordered
  rw [split, List.pairwise_append] at ordered
  obtain ⟨within, _, across⟩ := ordered
  obtain ⟨front, last, ends⟩ : ∃ front last, fanIn.selected = front ++ [last] :=
    (List.eq_nil_or_concat fanIn.selected).resolve_left (List.ne_nil_of_length_pos (by omega)) |>.imp
      fun front => fun ⟨last, same⟩ => ⟨last, by simpa using same⟩
  have upToLast : ∀ other ∈ fanIn.selected, place fanIn.cursor other ≤ place fanIn.cursor last := by
    intro other member
    rw [ends] at member within
    rcases List.mem_append.mp member with earlier | final
    · exact ((List.pairwise_append.mp within).2.2 other earlier last List.mem_cons_self).le
    · rw [List.mem_singleton.mp final]
  have lastSelected : last ∈ fanIn.selected := by simp [ends]
  have cursor : after.cursor = some last := by
    rw [drains.cursor, ends]
    simp
  have distinct : fanIn.selected.Nodup := (List.take_sublist _ _).nodup fanIn.turns_nodup
  have disjoint : Disjoint (ids.filter fun other => place (some last) other ≤ place (some last) source)
      fanIn.selected.toFinset := by
    rw [Finset.disjoint_left]
    intro other ahead taken
    have beyond := (place_advance (across last lastSelected source later) (Finset.mem_filter.mp ahead).2).1
    exact absurd (upToLast other (List.mem_toFinset.mp taken)) (Nat.not_le.mpr beyond)
  have inside : (ids.filter fun other => place (some last) other ≤ place (some last) source) ∪
      fanIn.selected.toFinset ⊆ ids.filter fun other => place fanIn.cursor other ≤ place fanIn.cursor source := by
    intro other member
    rcases Finset.mem_union.mp member with ahead | taken
    · obtain ⟨known, near⟩ := Finset.mem_filter.mp ahead
      exact Finset.mem_filter.mpr ⟨known, (place_advance (across last lastSelected source later) near).2⟩
    · have selected := List.mem_toFinset.mp taken
      refine Finset.mem_filter.mpr ⟨pending other (mem_turns.mp (List.mem_of_mem_take selected)), ?_⟩
      exact (across other selected source later).le
  have card := Finset.card_le_card inside
  rw [Finset.card_union_of_disjoint disjoint, List.toFinset_card_of_nodup distinct, length] at card
  rw [rank, cursor]
  exact card

/-- While a source waits, every drain brings it nearer. -/
theorem waiting_of_run (run : Run (Total step) initial middle final)
    (positive : 0 < initial.config.maxUpdatesPerDrain)
    (known : ∀ call ∈ middle, ∀ update, call.input = .push update → update.sourceId ∈ ids)
    (pending : ∀ id, id ∈ initial.pending → id ∈ ids) (waiting : source ∈ initial.pending)
    (kept : ∀ call ∈ middle, call.input ≠ .discardSource source)
    (passed : ∀ call ∈ middle, source ∉ (drained call).map (·.sourceId)) :
    source ∈ final.pending ∧ final.config = initial.config ∧
      rank ids final.cursor source + initial.config.maxUpdatesPerDrain * drainCount middle ≤
        rank ids initial.cursor source := by
  induction run with
  | start => exact ⟨waiting, rfl, by simp [drainCount]⟩
  | @next middle fanIn input reply after previous taken ih =>
    have pendingNow := knownSources_of_run previous (forall_of_append known)
      pending
    obtain ⟨still, config, near⟩ := ih (forall_of_append known) (forall_of_append kept) (forall_of_append passed)
    have outcome := fanIn_outcome taken
    have notDiscarded := kept ⟨fanIn, input, reply, after⟩ (by simp)
    have notDrained := passed ⟨fanIn, input, reply, after⟩ (by simp)
    have count : drainCount (middle ++ [⟨fanIn, input, reply, after⟩]) =
        drainCount middle + (if input = .drain then 1 else 0) := by
      simp [drainCount, List.countP_append, List.countP_singleton]
    rw [count]
    refine ⟨?_, outcome.config_eq.trans config, ?_⟩
    · cases outcome with
      | replaced | inserted => exact mem_insert_iff.mpr (.inr still)
      | rejected => exact still
      | discarded sourceId =>
        have other : sourceId ≠ source := fun same => notDiscarded (by rw [same])
        exact mem_erase.mpr ⟨by simpa [Std.compare_eq_iff_eq] using other, still⟩
      | drained _ updates drains =>
        obtain ⟨frame, stored⟩ := Option.isSome_iff_exists.mp (isSome_getElem?_iff_mem.mpr still)
        have notSelected : source ∉ fanIn.selected := drains.sources ▸ notDrained
        refine mem_of_getElem? (?_ : after.pending[source]? = some frame)
        rw [drains.kept, if_neg notSelected, stored]
    · cases outcome with
      | replaced | rejected | inserted | discarded => simpa using near
      | drained _ updates drains =>
        have notSelected : source ∉ fanIn.selected := drains.sources ▸ notDrained
        have nearer := rank_drain drains (by rw [config]; exact positive) pendingNow still notSelected
        rw [config] at nearer
        rw [if_pos rfl, Nat.mul_add, Nat.mul_one]
        omega

end Waiting

theorem new_fanIn {config : MonitoringFanInConfig} {initial : MonitoringFanIn} (made : new config = .ok initial) :
    initial = { config := config } ∧ 0 < config.maxUpdatesPerDrain := by
  unfold new at made
  split at made
  · cases made
  · split at made
    · cases made
    · rename_i budget
      cases made
      exact ⟨rfl, Nat.pos_of_ne_zero budget⟩

/-- Over every run whose counters do not saturate, the updates accepted are those drained, superseded, removed and
pending; the sources pending are bounded; what is drained is the frame accepted last; and a source that waits is drained
after as many drains as it takes to go once round all the sources there are. -/
theorem fanIn_fair_lossless {config : MonitoringFanInConfig} {initial final : MonitoringFanIn} {past : List FanInCall}
    (made : MonitoringFanIn.new config = .ok initial) (run : Run (Total MonitoringFanIn.step) initial past final)
    (few : acceptedCount past < 2 ^ 64) (ids : Finset MonitoringSourceId)
    (known : ∀ call ∈ past, ∀ update, call.input = .push update → update.sourceId ∈ ids) :
    final.acceptedUpdates.toNat = (drainedUpdates past).length + final.supersededUpdates.toNat + removedCount past +
        final.pending.size ∧
      final.pending.size ≤ config.maxSources ∧
      (∀ earlier call later, past = earlier ++ call :: later → ∀ update ∈ drained call,
        lastAccepted update.sourceId earlier = some update.frame) ∧
      ∀ earlier first rest later source, past = earlier ++ first :: (rest ++ later) →
        source ∈ first.before.pending → (∀ call ∈ first :: rest, call.input ≠ .discardSource source) →
        ids.card ⌈/⌉ config.maxUpdatesPerDrain ≤ drainCount (first :: rest) →
        ∃ call ∈ first :: rest, source ∈ (drained call).map (·.sourceId) := by
  obtain ⟨start, positive⟩ := new_fanIn made
  have empty : initial.pending = ∅ := by rw [start]
  have ledger := FanInLedger.of_run empty (by rw [start]) (by rw [start]) run few
  obtain ⟨_, bounded⟩ := bounded_of_run empty run
  refine ⟨ledger.accepted.trans ledger.balance, by rw [start] at bounded; exact bounded, ?_, ?_⟩
  · intro earlier call later cut update member
    obtain ⟨reached, taken, _⟩ := run.split cut
    obtain ⟨before, input, reply, after⟩ := call
    have outcome : FanInOutcome before input reply after := fanIn_outcome taken
    cases outcome with
    | drained _ updates drains => exact latest_of_run empty reached (drains.frames update member)
    | replaced | rejected | inserted | discarded => cases member
  · intro earlier first rest later source cut waiting kept enough
    by_contra passed
    push Not at passed
    subst cut
    rw [← List.cons_append] at run known
    obtain ⟨before, reached, onwards⟩ := run.parts
    obtain ⟨last, waits, _⟩ := onwards.parts
    have same : first.before = before := (waits.split (List.nil_append _).symm).1.of_nil
    rw [same] at waiting
    have pending := knownSources_of_run reached (forall_of_append known)
      (by simp [empty])
    have config' : before.config = config := by rw [(bounded_of_run empty reached).1, start]
    obtain ⟨_, _, near⟩ := waiting_of_run waits (by rw [config']; exact positive)
      (fun call member => known call (List.mem_append_right _ (List.mem_append_left _ member)))
      pending waiting kept passed
    have some := rank_pos last.cursor (pending source waiting)
    have all : rank ids before.cursor source ≤ ids.card := Finset.card_filter_le _ _
    rw [ceilDiv_le_iff_le_mul positive] at enough
    rw [config'] at near
    omega

def thumbnail : SharedEncodedFrame := ⟨⟨1, 0, true⟩, .h264, [0, 0, 1], 0⟩

/-- Two sources and drains of one update each: each of them waits for two drains at most. -/
theorem fanIn_fair_lossless_two_sources :
    let inputs : List FanInInput := [.push ⟨1, thumbnail⟩, .push ⟨2, thumbnail⟩, .drain, .drain]
    ∃ initial, MonitoringFanIn.new ⟨2, 1⟩ = .ok initial ∧
      ∃ call ∈ (calls MonitoringFanIn.step initial inputs).drop 2, 2 ∈ (drained call).map (·.sourceId) := by
  intro inputs
  have made : new ⟨2, 1⟩ = .ok { config := ⟨2, 1⟩ } := rfl
  have run := Run.of_calls step { config := ⟨2, 1⟩ } inputs
  have known : ∀ call ∈ calls step { config := ⟨2, 1⟩ } inputs, ∀ update,
      call.input = .push update → update.sourceId ∈ ({1, 2} : Finset MonitoringSourceId) := by
    refine forall_of_inputs (P := fun input => ∀ update, input = FanInInput.push update → update.sourceId ∈ _)
      (rfl : _ = inputs) ?_
    simp [inputs]
  have fair := (fanIn_fair_lossless made run (by decide +kernel) {1, 2} known).2.2.2
  exact ⟨_, made, fair [_, _] _ [_] [] 2 rfl (by decide +kernel) (by simp) (by decide +kernel)⟩

end ClassMesh
