import ClassMesh.Security.GroupMedia

namespace ClassMesh

open Foundation

variable {S : Sframe}

theorem validatePlaintextLen_ok {len : Nat} : validatePlaintextLen len = .ok () ↔ len ≤ maxGroupMediaFrameBytes := by
  unfold validatePlaintextLen
  split
  · simp only [reduceCtorEq, false_iff]
    omega
  · simp only [true_iff]
    omega

theorem validateSealedLen_ok {len : Nat} : validateSealedLen len = .ok () ↔ len ≤ maxGroupMediaSealedBytes := by
  unfold validateSealedLen
  split
  · simp only [reduceCtorEq, false_iff]
    omega
  · simp only [true_iff]
    omega

theorem validateAadLen_associatedData (binding : GroupMediaFrameBinding) :
    validateAadLen binding.associatedData.length = .ok () := by
  rw [binding.associatedData_length]
  rfl

namespace GroupMediaSender

variable {sender : GroupMediaSender S} {plaintext associatedData data : List UInt8}

/-- A frame within the limit is encrypted at the sender's counter, and the counter moves on. -/
theorem sealFrame_eq (sender : GroupMediaSender S) (short : plaintext.length ≤ maxGroupMediaFrameBytes)
    (metadata : validateAadLen associatedData.length = .ok ()) :
    sender.sealFrame plaintext associatedData =
      ({ sender with counter := (S.encrypt sender.counter sender.key plaintext associatedData).1 },
        ((S.encrypt sender.counter sender.key plaintext associatedData).2.mapError .fromSframe).bind fun data =>
          (validateSealedLen data.length).map fun _ => data) := by
  unfold sealFrame
  rw [validatePlaintextLen_ok.mpr short, metadata]
  dsimp only
  cases (S.encrypt sender.counter sender.key plaintext associatedData).2 with
  | error | ok => rfl

theorem sealFrame_ok_iff (metadata : validateAadLen associatedData.length = .ok ()) :
    (sender.sealFrame plaintext associatedData).2 = .ok data ↔
      plaintext.length ≤ maxGroupMediaFrameBytes ∧ data.length ≤ maxGroupMediaSealedBytes ∧
        (S.encrypt sender.counter sender.key plaintext associatedData).2 = .ok data := by
  by_cases short : plaintext.length ≤ maxGroupMediaFrameBytes
  · rw [sender.sealFrame_eq short metadata, and_iff_right short]
    cases (S.encrypt sender.counter sender.key plaintext associatedData).2 with
    | error => simp [Except.mapError, Except.bind]
    | ok sealed =>
      cases fits : validateSealedLen sealed.length with
      | error =>
        simp only [Except.mapError, Except.bind, fits, Except.map, reduceCtorEq, false_iff, Except.ok.injEq]
        rintro ⟨small, rfl⟩
        cases fits.symm.trans (validateSealedLen_ok.mpr small)
      | ok =>
        have small := validateSealedLen_ok.mp fits
        simp only [Except.mapError, Except.bind, fits, Except.map, Except.ok.injEq]
        exact ⟨fun same => ⟨same ▸ small, same⟩, fun both => both.2⟩
  · have long : validatePlaintextLen plaintext.length = .error .frameTooLarge := if_pos (Nat.not_le.mp short)
    simp [sealFrame, long, short]

end GroupMediaSender

/-- One frame that came out of `seal_bound_frame`, with the sender as the call found it and the key
material the sender was made from. -/
structure Sealing (S : Sframe) where
  material : Bytes32
  sender : GroupMediaSender S
  plaintext : List UInt8
  frame : SealedGroupMediaFrame
  derived : S.deriveEncryptionKey sender.epoch.sframeKeyId material = .ok sender.key
  made : (sender.sealBoundFrame plaintext frame.binding).2 = .ok frame

namespace Sealing

def Under (sealing : Sealing S) (keyId : UInt64) (material : Bytes32) : Prop :=
  sealing.sender.epoch.sframeKeyId = keyId ∧ sealing.material = material

theorem spec (sealing : Sealing S) : sealing.frame.binding.epoch = sealing.sender.epoch ∧
    sealing.plaintext.length ≤ maxGroupMediaFrameBytes ∧
    sealing.frame.data.length ≤ maxGroupMediaSealedBytes ∧
    (S.encrypt sealing.sender.counter sealing.sender.key sealing.plaintext
      sealing.frame.binding.associatedData).2 = .ok sealing.frame.data := by
  have made := sealing.made
  unfold GroupMediaSender.sealBoundFrame at made
  by_cases sameEpoch : sealing.frame.binding.epoch = sealing.sender.epoch
  · rw [if_neg (not_not.mpr sameEpoch)] at made
    dsimp only at made
    cases sealed : (sealing.sender.sealFrame sealing.plaintext sealing.frame.binding.associatedData).2 with
    | error => simp [sealed, Except.map] at made
    | ok data =>
      have atFrame : ⟨sealing.frame.binding, data⟩ = sealing.frame := by simpa [sealed, Except.map] using made
      have atData : sealing.frame.data = data := (congrArg SealedGroupMediaFrame.data atFrame).symm
      rw [atData]
      exact ⟨sameEpoch, (GroupMediaSender.sealFrame_ok_iff (validateAadLen_associatedData _)).mp sealed⟩
  · rw [if_pos sameEpoch] at made
    cases made

end Sealing

/-- The cipher as the protocol assumes it, for the frames sealed so far. `accepted` says which counters a replay state
does not let through again: those it has let through, and with a bounded window also those too old for it. -/
structure IdealSframe (S : Sframe) (sealings : List (Sealing S)) (accepted : S.Replay → S.Counter → Prop) : Prop where
  opensOnlySealed {keyId material key replay replay' data associatedData plaintext} :
    S.deriveDecryptionKey keyId material = .ok key →
    S.validatedDecrypt replay key data associatedData = (replay', .ok plaintext) →
    ∃ sealing ∈ sealings, sealing.Under keyId material ∧ sealing.frame.data = data ∧
      sealing.frame.binding.associatedData = associatedData ∧ sealing.plaintext = plaintext
  acceptsOnce {keyId material key replay replay' data associatedData plaintext} {sealing : Sealing S} :
    S.deriveDecryptionKey keyId material = .ok key →
    S.validatedDecrypt replay key data associatedData = (replay', .ok plaintext) →
    sealing ∈ sealings → sealing.Under keyId material → sealing.frame.data = data →
    ¬accepted replay sealing.sender.counter ∧ accepted replay' sealing.sender.counter
  keepsAccepted {key replay replay' data associatedData result counter} :
    S.validatedDecrypt replay key data associatedData = (replay', result) →
    accepted replay counter → accepted replay' counter

/-- What delivery needs beyond safety, as the decision on group media documents it: replay state is recorded only after
authentication, and duplicate and too-old counters are rejected. So a call adds to the counters not let through again
only that of the frame it was given, if it was sealed, and counters behind that one; and a sealed frame opens while all
of them are behind its own. How far behind a counter is too old is left open. -/
structure LiveSframe (S : Sframe) (sealings : List (Sealing S)) (accepted : S.Replay → S.Counter → Prop)
    (position : S.Counter → Nat) : Prop extends IdealSframe S sealings accepted where
  startsEmpty {keyId tolerance replay counter} :
    S.replayStart keyId tolerance = some replay → ¬accepted replay counter
  acceptsOnlyOpened {keyId material key replay replay' data associatedData result counter} :
    S.deriveDecryptionKey keyId material = .ok key →
    S.validatedDecrypt replay key data associatedData = (replay', result) → accepted replay' counter →
    accepted replay counter ∨ ∃ sealing ∈ sealings, sealing.Under keyId material ∧
      sealing.frame.data = data ∧ sealing.frame.binding.associatedData = associatedData ∧
      (sealing.sender.counter = counter ∨ position counter < position sealing.sender.counter)
  opensNewer {keyId material key replay} {sealing : Sealing S} :
    S.deriveDecryptionKey keyId material = .ok key → sealing ∈ sealings → sealing.Under keyId material →
    (∀ counter, accepted replay counter → position counter < position sealing.sender.counter) →
    ∃ replay', S.validatedDecrypt replay key sealing.frame.data sealing.frame.binding.associatedData =
      (replay', .ok sealing.plaintext)

section Ledger

variable {ledger : List LedgerEntry} {key : UInt64 × Bytes32} {window : ReplayWindow}

def Sealing.entry (sealing : Sealing (ledgerSframe ledger)) : LedgerEntry where
  key := (sealing.sender.epoch.sframeKeyId, sealing.material)
  counter := sealing.sender.counter
  associatedData := sealing.frame.binding.associatedData
  data := sealing.frame.data
  plaintext := sealing.plaintext

/-- The stand-in puts the counter in front of the plaintext. -/
theorem Sealing.entry_data (sealing : Sealing (ledgerSframe ledger)) :
    sealing.entry.data = u64ToBe sealing.entry.counter ++ sealing.entry.plaintext :=
  (Except.ok.inj sealing.spec.2.2.2).symm

theorem Sealing.entry_counter {a b : Sealing (ledgerSframe ledger)} (same : a.entry.data = b.entry.data) :
    a.entry.counter = b.entry.counter ∧ a.entry.plaintext = b.entry.plaintext := by
  rw [a.entry_data, b.entry_data] at same
  obtain ⟨counter, plaintext⟩ := List.append_inj same (by simp)
  exact ⟨u64ToBe_injective counter, plaintext⟩

theorem ledger_find {data associatedData : List UInt8} {entry : LedgerEntry}
    (found : ledger.find? (fun entry => entry.key = key ∧ entry.data = data ∧ entry.associatedData = associatedData) =
      some entry) : entry ∈ ledger ∧ entry.key = key ∧ entry.data = data ∧ entry.associatedData = associatedData := by
  refine ⟨List.mem_of_find?_eq_some found, ?_⟩
  simpa using List.find?_some found

/-- The counters that the stand-in does not let through again. -/
def ReplayWindow.Accepted (window : ReplayWindow) (counter : UInt64) : Prop :=
  window.tooOld counter = true ∨ counter ∈ window.seen

theorem ReplayWindow.tooOld_iff {counter : UInt64} :
    window.tooOld counter = true ↔ counter.toNat + window.tolerance < window.newest := decide_eq_true_iff

/-- A counter let through blocks itself and the counters that it leaves behind the window. -/
theorem ReplayWindow.record_accepted {counter other : UInt64} (fresh : ¬window.Accepted counter) :
    (window.record counter).Accepted other ↔
      window.Accepted other ∨ other = counter ∨ other.toNat + window.tolerance < counter.toNat := by
  have young : ¬counter.toNat + window.tolerance < window.newest := fun old => fresh (.inl (tooOld_iff.mpr old))
  have kept : other ∈ (window.record counter).seen ↔
      (other = counter ∨ other ∈ window.seen) ∧ ¬(window.record counter).tooOld other = true := by
    simp [record, tooOld]
  have moved : (window.record counter).tooOld other = true ↔
      other.toNat + window.tolerance < max window.newest counter.toNat := tooOld_iff
  rw [Accepted, Accepted, kept, moved, tooOld_iff]
  by_cases same : other = counter
  · subst same
    simp only [true_or, true_and, or_true, iff_true]
    omega
  · simp only [same, false_or]
    by_cases held : other ∈ window.seen
    · simp only [held, true_and, or_true, true_or, iff_true]
      exact Classical.em _
    · simp only [held, false_and, or_false]
      omega

/-- Everything `validatedDecrypt` of the stand-in can do. -/
theorem ledger_decrypt {after : ReplayWindow} {data associatedData : List UInt8}
    {result : Except SframeError (List UInt8)}
    (ran : (ledgerSframe ledger).validatedDecrypt window key data associatedData = (after, result)) :
    (after = window ∧ ∃ error, result = .error error) ∨
      ∃ entry ∈ ledger, entry.key = key ∧ entry.data = data ∧ entry.associatedData = associatedData ∧
        ¬window.Accepted entry.counter ∧ after = window.record entry.counter ∧ result = .ok entry.plaintext := by
  unfold ledgerSframe at ran
  dsimp only at ran
  split at ran
  · cases ran
    exact .inl ⟨rfl, _, rfl⟩
  case h_2 entry found =>
    obtain ⟨member, sameKey, sameData, sameBinding⟩ := ledger_find found
    split at ran
    · cases ran
      exact .inl ⟨rfl, _, rfl⟩
    case isFalse young =>
      split at ran
      · cases ran
        exact .inl ⟨rfl, _, rfl⟩
      case isFalse unseen =>
        cases ran
        exact .inr ⟨entry, member, sameKey, sameData, sameBinding, not_or.mpr ⟨young, unseen⟩, rfl, rfl⟩

/-- A ledger that holds exactly the frames sealed meets every assumption on the cipher, with a window of any size. -/
theorem ledger_live (sealings : List (Sealing (ledgerSframe ledger)))
    (whole : ∀ entry, entry ∈ ledger ↔ ∃ sealing ∈ sealings, sealing.entry = entry) :
    LiveSframe (ledgerSframe ledger) sealings ReplayWindow.Accepted (fun (counter : UInt64) => counter.toNat) where
  opensOnlySealed := by
    intro keyId material key replay replay' data associatedData plaintext derived ran
    cases derived
    rcases ledger_decrypt ran with ⟨_, _, failed⟩ | ⟨entry, member, sameKey, sameData, sameBinding, _, _, opened⟩
    · cases failed
    · obtain ⟨sealing, sealed, rfl⟩ := (whole entry).mp member
      exact ⟨sealing, sealed, ⟨congrArg Prod.fst sameKey, congrArg Prod.snd sameKey⟩, sameData, sameBinding,
        (Except.ok.inj opened).symm⟩
  acceptsOnce := by
    intro keyId material key replay replay' data associatedData plaintext sealing _ ran _ _ atData
    rcases ledger_decrypt ran with ⟨_, _, failed⟩ | ⟨entry, member, _, sameData, _, fresh, rfl, _⟩
    · cases failed
    · obtain ⟨other, _, rfl⟩ := (whole entry).mp member
      have sameCounter := (Sealing.entry_counter (a := other) (b := sealing) (sameData.trans atData.symm)).1
      rw [sameCounter] at fresh ⊢
      exact ⟨fresh, (ReplayWindow.record_accepted fresh).mpr (.inr (.inl rfl))⟩
  keepsAccepted := by
    intro key replay replay' data associatedData result counter ran accepted
    rcases ledger_decrypt ran with ⟨same, _⟩ | ⟨_, _, _, _, _, fresh, rfl, _⟩
    · exact same ▸ accepted
    · exact (ReplayWindow.record_accepted fresh).mpr (.inl accepted)
  startsEmpty := by
    intro keyId tolerance replay counter started
    cases started
    rintro (old | seen)
    · simp [ReplayWindow.tooOld] at old
    · cases seen
  acceptsOnlyOpened := by
    intro keyId material key replay replay' data associatedData result counter derived ran accepted
    cases derived
    rcases ledger_decrypt ran with ⟨same, _⟩ | ⟨entry, member, sameKey, sameData, sameBinding, fresh, rfl, _⟩
    · exact .inl (same ▸ accepted)
    · obtain ⟨sealing, sealed, rfl⟩ := (whole entry).mp member
      refine ((ReplayWindow.record_accepted fresh).mp accepted).imp_right fun passed => ?_
      exact ⟨sealing, sealed, ⟨congrArg Prod.fst sameKey, congrArg Prod.snd sameKey⟩, sameData, sameBinding,
        passed.imp Eq.symm fun behind => Nat.lt_of_le_of_lt (Nat.le_add_right _ _) behind⟩
  opensNewer := by
    intro keyId material key (replay : ReplayWindow) sealing derived sealed under newer
    cases derived
    obtain ⟨rfl, rfl⟩ := under
    refine ⟨replay.record sealing.entry.counter, ?_⟩
    unfold ledgerSframe
    dsimp only
    split
    case h_1 missing =>
      have unlike := List.find?_eq_none.mp missing sealing.entry ((whole _).mpr ⟨sealing, sealed, rfl⟩)
      simp [Sealing.entry] at unlike
    case h_2 entry found =>
      obtain ⟨member, _, sameData, _⟩ := ledger_find found
      obtain ⟨other, _, rfl⟩ := (whole entry).mp member
      obtain ⟨sameCounter, samePlaintext⟩ := Sealing.entry_counter (a := other) (b := sealing) sameData
      obtain ⟨young, unseen⟩ := not_or.mp (fun accepted : replay.Accepted sealing.entry.counter =>
        Nat.lt_irrefl _ (newer _ accepted))
      rw [sameCounter, if_neg young, if_neg unseen, samePlaintext]
      rfl

end Ledger

section Sample

def sampleMaterial : Bytes32 := ⟨List.replicate 32 7, rfl⟩

def sampleBinding : GroupMediaFrameBinding := ⟨55, 7, sampleEpoch, 10, 1000, true, by decide, by decide⟩

def sampleLedger : List LedgerEntry :=
  [⟨(3, sampleMaterial), 0, sampleBinding.associatedData, u64ToBe 0 ++ [1, 2], [1, 2]⟩]

/-- The first frame of a sender, in the stand-in that knows only this frame. -/
def sampleSealing : Sealing (ledgerSframe sampleLedger) where
  material := sampleMaterial
  sender := ⟨sampleEpoch, (3, sampleMaterial), (0 : UInt64)⟩
  plaintext := [1, 2]
  frame := ⟨sampleBinding, u64ToBe 0 ++ [1, 2]⟩
  derived := rfl
  made := rfl

theorem sampleLedger_whole (entry : LedgerEntry) :
    entry ∈ sampleLedger ↔ ∃ sealing ∈ [sampleSealing], sealing.entry = entry := by
  constructor
  · intro member
    exact ⟨sampleSealing, List.mem_singleton_self _, (List.mem_singleton.mp member).symm⟩
  · rintro ⟨_, member, rfl⟩
    rw [List.mem_singleton.mp member]
    exact List.mem_singleton_self _

end Sample

end ClassMesh
