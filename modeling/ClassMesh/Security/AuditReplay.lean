import ClassMesh.Security.ClassroomAudit
import ClassMesh.Security.CredentialIndex

namespace ClassMesh

open Std Foundation

/-- The records carry the generations from this one on, without a gap. -/
def NumberedFrom (generation : Nat) (records : List ClassroomAuditIntentRecord) : Prop :=
  records.map (·.expectedPolicyGeneration.toNat) = List.range' generation records.length

section Numbering

variable {generation : Nat} {record : ClassroomAuditIntentRecord} {rest first second : List ClassroomAuditIntentRecord}

theorem numberedFrom_cons : NumberedFrom generation (record :: rest) ↔
    record.expectedPolicyGeneration.toNat = generation ∧ NumberedFrom (generation + 1) rest := by
  simp [NumberedFrom, List.range'_succ]

theorem numberedFrom_append : NumberedFrom generation (first ++ second) ↔
    NumberedFrom generation first ∧ NumberedFrom (generation + first.length) second := by
  induction first generalizing generation with
  | nil => simp [NumberedFrom]
  | cons record rest ih =>
    simp only [List.cons_append, numberedFrom_cons, ih, List.length_cons, and_assoc]
    rw [Nat.add_assoc generation 1, Nat.add_comm 1]

theorem ClassroomAuditIntentRecord.generation_range (record : ClassroomAuditIntentRecord) :
    record.expectedPolicyGeneration ≠ 0 ∧ record.expectedPolicyGeneration ≠ exhaustedGeneration := by
  have valid := record.valid
  unfold ClassroomAuditIntent.validate at valid
  split at valid
  · cases valid
  case isFalse sound =>
    simp only [not_or] at sound
    exact ⟨sound.2.2.2.1, sound.2.2.2.2.1⟩

theorem ne_exhaustedGeneration_iff {generation : UInt64} :
    generation ≠ exhaustedGeneration ↔ generation.toNat < 2 ^ 64 - 1 := by
  have below := generation.toNat_lt
  rw [ne_eq, ← UInt64.toNat_inj, show exhaustedGeneration.toNat = 2 ^ 64 - 1 from rfl]
  omega

theorem nextGeneration_eq_some {generation next : UInt64} {steps : Nat} :
    nextGeneration generation steps = some next ↔
      next.toNat = generation.toNat + steps ∧ next.toNat < 2 ^ 64 - 1 := by
  rw [nextGeneration, Option.filter_eq_some_iff, checkedAdd_eq_some, decide_eq_true_eq, ne_exhaustedGeneration_iff]

/-- The check for exhaustion never refuses a log whose next record is valid and numbered as it should be. -/
theorem nextGeneration_of_numbered {generation : UInt64} {steps : Nat}
    (numbered : NumberedFrom (generation.toNat + steps) (record :: rest)) :
    ∃ next, nextGeneration generation steps = some next ∧ next.toNat = generation.toNat + steps := by
  have carried := (numberedFrom_cons.mp numbered).1
  have below := ne_exhaustedGeneration_iff.mp record.generation_range.2
  exact ⟨record.expectedPolicyGeneration, nextGeneration_eq_some.mpr ⟨carried, below⟩, carried⟩

end Numbering

/-- What the checks ask of one record, given those before it. -/
structure ChainHistory.Accepts (history : ChainHistory) (record : ClassroomAuditIntentRecord) : Prop where
  later : ∀ last ∈ history.lastTimestamp, last ≤ record.checkedAtUnixMs
  fresh : record.request ∉ history.seenRequests
  coherent : history.lastPermissions.contradict record = false

def ChainHistory.Fits (history : ChainHistory) : List ClassroomAuditIntentRecord → Prop
  | [] => True
  | record :: rest => history.Accepts record ∧ (history.add record).Fits rest

variable {history : ChainHistory} {record : ClassroomAuditIntentRecord} {records : List ClassroomAuditIntentRecord}
  {batchIndex index : Nat} {generation : UInt64} {batches : List (List ClassroomAuditIntentRecord)}
  {store final : AuthorizationStore}

theorem ChainHistory.fits_append {first second : List ClassroomAuditIntentRecord} :
    history.Fits (first ++ second) ↔ history.Fits first ∧ (first.foldl ChainHistory.add history).Fits second := by
  induction first generalizing history with
  | nil => simp [ChainHistory.Fits]
  | cons record rest ih => simp only [List.cons_append, ChainHistory.Fits, ih, and_assoc, List.foldl_cons]

theorem ClaimedPermissions.contradict_cons {claimed : ClaimedPermissions} {key : PrincipalId × Permission}
    {grant : Bool} :
    ClaimedPermissions.contradict ((key, grant) :: claimed) record =
      if record.key = key then grant != record.previousGrant else claimed.contradict record := by
  unfold ClaimedPermissions.contradict
  rw [List.lookup_cons]
  split
  · rename_i same
    rw [if_pos (eq_of_beq same), Option.any_some]
  · rename_i differ
    rw [if_neg (ne_of_beq_false differ)]

/-- What the longer history accepts, the shorter one accepts. -/
structure ChainHistory.Covers (history shorter : ChainHistory) : Prop where
  times : ∀ time, (∀ last ∈ history.lastTimestamp, last ≤ time) → ∀ last ∈ shorter.lastTimestamp, last ≤ time
  requests : shorter.seenRequests ⊆ history.seenRequests
  permissions : ∀ record, history.lastPermissions.contradict record = false →
    shorter.lastPermissions.contradict record = false

namespace ChainHistory.Covers

variable {history shorter : ChainHistory}

theorem add (covers : history.Covers shorter) (record : ClassroomAuditIntentRecord) :
    (history.add record).Covers (shorter.add record) where
  times := fun _ bound => bound
  requests := List.cons_subset_cons _ covers.requests
  permissions := by
    intro later
    simp only [ChainHistory.add, ClaimedPermissions.contradict_cons]
    split
    · exact id
    · exact covers.permissions later

theorem fits (covers : history.Covers shorter) (fits : history.Fits records) : shorter.Fits records := by
  induction records generalizing history shorter with
  | nil => trivial
  | cons record rest ih =>
    obtain ⟨⟨later, fresh, coherent⟩, others⟩ := fits
    exact ⟨⟨covers.times _ later, fun seen => fresh (covers.requests seen), covers.permissions _ coherent⟩,
      ih (covers.add record) others⟩

end ChainHistory.Covers

open ChainHistory

/-- The history that a batch check starts from. -/
def batchHistory : ChainHistory := { lastTimestamp := some 0 }

theorem covers_batchHistory (history : ChainHistory) : history.Covers batchHistory where
  times := by
    intro time _ last atLast
    cases atLast
    exact UInt64.le_iff_toNat_le.mpr (Nat.zero_le _)
  requests := List.nil_subset _
  permissions := fun _ _ => rfl

/-- The three tests of both loops are passed exactly by the records that the history accepts. -/
theorem ChainHistory.accepts_iff :
    history.Accepts record ↔ ¬(history.lastTimestamp.any (record.checkedAtUnixMs < ·) = true) ∧
      record.request ∉ history.seenRequests ∧ ¬(history.lastPermissions.contradict record = true) := by
  have times : (¬(history.lastTimestamp.any (record.checkedAtUnixMs < ·) = true)) ↔
      ∀ last ∈ history.lastTimestamp, last ≤ record.checkedAtUnixMs := by
    cases history.lastTimestamp with
    | none | some => simp
  rw [times, Bool.not_eq_true]
  exact ⟨fun accepts => ⟨accepts.later, accepts.fresh, accepts.coherent⟩,
    fun tests => ⟨tests.1, tests.2.1, tests.2.2⟩⟩

theorem checkChainEntries_ok {after : ChainHistory} :
    checkChainEntries batchIndex index history records = .ok after ↔
      history.Fits records ∧ after = records.foldl add history := by
  induction records generalizing index history with
  | nil =>
    rw [checkChainEntries, Except.ok.injEq]
    exact ⟨fun same => ⟨trivial, same.symm⟩, fun same => same.2.symm⟩
  | cons record rest ih =>
    rw [checkChainEntries, Fits, accepts_iff]
    split
    · rename_i early
      simp [early]
    split
    · rename_i seen
      simp [seen]
    split
    · rename_i contradicted
      simp [contradicted]
    rename_i onTime unseen coherent
    rw [ih, List.foldl_cons]
    exact ⟨fun passed => ⟨⟨⟨onTime, unseen, coherent⟩, passed.1⟩, passed.2⟩, fun passed => ⟨passed.1.2, passed.2⟩⟩

theorem checkBatchEntries_ok {last : UInt64} {requests : List (PrincipalId × UInt64)}
    {permissions : ClaimedPermissions} :
    checkBatchEntries index generation last requests permissions records = .ok () ↔
      NumberedFrom generation.toNat records ∧ Fits ⟨some last, requests, permissions⟩ records := by
  induction records generalizing index generation last requests permissions with
  | nil => simp [checkBatchEntries, NumberedFrom, Fits]
  | cons record rest ih =>
    rw [checkBatchEntries, numberedFrom_cons, UInt64.toNat_inj, Fits, accepts_iff,
      Option.any_some, decide_eq_true_eq]
    split
    · rename_i gap
      simp [gap]
    split
    · rename_i early
      simp [early]
    split
    · rename_i seen
      simp [seen]
    split
    · rename_i contradicted
      simp [contradicted]
    rename_i numbered onTime unseen coherent
    have entry : (¬record.checkedAtUnixMs < last ∧ record.request ∉ requests ∧
        ¬(permissions.contradict record = true)) := ⟨onTime, unseen, coherent⟩
    have carried := not_not.mp numbered
    cases rest with
    | nil => simp [carried, onTime, unseen, coherent, NumberedFrom, Fits]
    | cons =>
      rw [List.isEmpty_cons, if_neg Bool.false_ne_true]
      constructor
      · intro passed
        split at passed
        · cases passed
        case h_2 next moved =>
          obtain ⟨counted, fits⟩ := ih.mp passed
          rw [(nextGeneration_eq_some.mp moved).1] at counted
          exact ⟨⟨carried, counted⟩, entry, fits⟩
      · rintro ⟨⟨_, counted⟩, _, fits⟩
        obtain ⟨_, moved, value⟩ := nextGeneration_of_numbered counted
        rw [moved]
        rw [← value] at counted
        exact ih.mpr ⟨counted, fits⟩

/-- Batches of one to 64 records. -/
def BatchSizes (batches : List (List ClassroomAuditIntentRecord)) : Prop :=
  ∀ batch ∈ batches, batch ≠ [] ∧ batch.length ≤ maxAuditBatchEntries

theorem checkBatch_ok {batch : List ClassroomAuditIntentRecord} (nonempty : batch ≠ [])
    (bounded : batch.length ≤ maxAuditBatchEntries) :
    checkClassroomAuditBatchConsistency generation batch = .ok () ↔
      NumberedFrom generation.toNat batch ∧ batchHistory.Fits batch := by
  rw [checkClassroomAuditBatchConsistency, if_neg (by simpa using nonempty), if_neg (Nat.not_lt.mpr bounded)]
  split
  · rename_i invalid
    simp only [reduceCtorEq, false_iff, not_and]
    intro numbered
    exfalso
    obtain ⟨record, _, rfl⟩ := List.exists_cons_of_ne_nil nonempty
    have carried := UInt64.toNat_inj.mp (numberedFrom_cons.mp numbered).1
    rw [← carried] at invalid
    exact invalid.elim record.generation_range.1 record.generation_range.2
  · exact checkBatchEntries_ok

/-- The nested passes of the chain check, wherever the batches end, are one pass over all records. -/
theorem checkChainBatches_ok (sizes : BatchSizes batches) :
    checkChainBatches batchIndex generation history batches = .ok () ↔
      NumberedFrom generation.toNat batches.flatten ∧ history.Fits batches.flatten := by
  induction batches generalizing batchIndex generation history with
  | nil => simp [checkChainBatches, NumberedFrom, Fits]
  | cons batch rest ih =>
    obtain ⟨⟨nonempty, bounded⟩, others⟩ := List.forall_mem_cons.mp sizes
    have check : checkClassroomAuditBatchConsistency generation batch = .ok () ↔
        NumberedFrom generation.toNat batch ∧ batchHistory.Fits batch := checkBatch_ok nonempty bounded
    rw [List.flatten_cons, numberedFrom_append, fits_append, checkChainBatches]
    split
    · rename_i reason refused
      simp only [refused, reduceCtorEq, false_iff] at check ⊢
      rintro ⟨⟨numbered, _⟩, fits, _⟩
      exact check ⟨numbered, (covers_batchHistory history).fits fits⟩
    case h_2 passed =>
      have numbered := (check.mp passed).1
      split
      · rename_i error refused
        simp only [reduceCtorEq, false_iff]
        rintro ⟨_, fits, _⟩
        rw [checkChainEntries_ok.mpr ⟨fits, rfl⟩] at refused
        cases refused
      case h_2 after entries =>
        obtain ⟨fits, rfl⟩ := checkChainEntries_ok.mp entries
        cases rest with
        | nil =>
          have ended : NumberedFrom (generation.toNat + batch.length) [] := rfl
          simp [numbered, ended, fits, Fits]
        | cons following =>
          rw [List.isEmpty_cons, if_neg Bool.false_ne_true]
          constructor
          · intro passed
            split at passed
            · cases passed
            case h_2 next moved =>
              obtain ⟨counted, later⟩ := (ih others).mp passed
              rw [(nextGeneration_eq_some.mp moved).1] at counted
              exact ⟨⟨numbered, counted⟩, fits, later⟩
          · rintro ⟨⟨_, counted⟩, _, later⟩
            obtain ⟨_, _, split⟩ := List.exists_cons_of_ne_nil (others following List.mem_cons_self).1
            have counting := counted
            rw [List.flatten_cons, split, List.cons_append] at counting
            obtain ⟨_, moved, value⟩ := nextGeneration_of_numbered counting
            rw [moved]
            rw [← value] at counted
            exact (ih others).mpr ⟨counted, later⟩

/-- The replay's own table of roles is the one of the preview. -/
theorem replayAllows_underlyingPermission (permission : ClassroomPermission) (kind : PrincipalKind) :
    (¬(kind = .teacher ∨ kind = .studentDevice) ∨ replayAllows kind permission.underlyingPermission = false) ↔
      permission.allowedFor kind = false := by
  cases permission <;> cases kind <;> decide

theorem Principal.any_accepted_iff {principal : Principal} {nowUnixMs : UInt64} :
    (principal.credentials.toList.any fun entry => entry.2.isAcceptedAt nowUnixMs) = true ↔
      ∃ (fingerprint : CredentialFingerprint) (credential : CredentialRecord),
        principal.credentials[fingerprint]? = some credential ∧ credential.isAcceptedAt nowUnixMs = true := by
  rw [List.any_eq_true]
  constructor
  · rintro ⟨⟨fingerprint, credential⟩, listed, accepted⟩
    exact ⟨fingerprint, credential, ExtTreeMap.mem_toList_iff_getElem?_eq_some.mp listed, accepted⟩
  · rintro ⟨fingerprint, credential, held, accepted⟩
    exact ⟨(fingerprint, credential), ExtTreeMap.mem_toList_iff_getElem?_eq_some.mpr held, accepted⟩

/-- A record is replayed exactly if it is legal in the store, and the result is the store with the record applied. Its
place in the batch only names the error. -/
theorem replayRecord_ok {after : AuthorizationStore} (indexed : store.Indexed) :
    replayRecord index store record = .ok after ↔ record.LegalIn store ∧ after = record.appliedTo store := by
  constructor
  · intro replayed
    unfold replayRecord at replayed
    split at replayed
    · cases replayed
    case h_2 actor atActor =>
      split at replayed
      · cases replayed
      case isFalse authorized =>
        split at replayed
        · cases replayed
        case isFalse accepted =>
          split at replayed
          · cases replayed
          case h_2 target atTarget =>
            dsimp only at replayed
            split at replayed
            · cases replayed
            case isFalse enabled =>
              split at replayed
              · cases replayed
              case isFalse allowed =>
                split at replayed
                · cases replayed
                case isFalse granted =>
                  rw [indexed.upsert_setPermission atTarget] at replayed
                  cases replayed
                  rw [replayAllows_underlyingPermission, Bool.not_eq_false] at allowed
                  rw [Bool.not_eq_false, Principal.any_accepted_iff] at accepted
                  simp only [not_or, Bool.not_eq_false, not_not] at authorized enabled granted
                  exact ⟨⟨⟨actor, atActor, authorized.1, authorized.2.1, authorized.2.2, accepted⟩,
                    ⟨target, atTarget, enabled, allowed, granted⟩⟩, rfl⟩
  · rintro ⟨⟨⟨actor, atActor, actorEnabled, administrator, manages, accepted⟩,
      ⟨target, atTarget, enabled, allowed, granted⟩⟩, rfl⟩
    have table := (replayAllows_underlyingPermission record.permission target.kind).not
    rw [Bool.not_eq_false] at table
    rw [replayRecord, atActor]
    dsimp only
    rw [if_neg (by simp [actorEnabled, administrator, manages]),
      if_neg (by rw [Bool.not_eq_false]; exact Principal.any_accepted_iff.mpr accepted), atTarget]
    dsimp only
    rw [if_neg (by simp [enabled]), if_neg (table.mpr allowed), if_neg (not_not.mpr granted),
      indexed.upsert_setPermission atTarget]
    rfl

def intentsOf (records : List ClassroomAuditIntentRecord) : List ClassroomAuditIntent :=
  records.map (·.toClassroomAuditIntent)

theorem replayRecords_ok (indexed : store.Indexed) :
    replayRecords index store records = .ok final ↔ Replays store (intentsOf records) final := by
  induction records generalizing index store with
  | nil =>
    rw [replayRecords, Except.ok.injEq]
    exact replays_nil.symm
  | cons record rest ih =>
    rw [replayRecords, intentsOf, List.map_cons, replays_cons, ← intentsOf]
    split
    · rename_i error refused
      simp only [reduceCtorEq, false_iff, not_and]
      intro legal
      rw [(replayRecord_ok indexed).mpr ⟨legal, rfl⟩] at refused
      cases refused
    case h_2 after replayed =>
      obtain ⟨legal, rfl⟩ := (replayRecord_ok indexed).mp replayed
      rw [ih (indexed.appliedTo _)]
      exact ⟨fun replays => ⟨legal, replays⟩, fun replays => replays.2⟩

/-- Once the chain check has passed, the replay repeats its batch checks with the same generations. -/
theorem replayBatches_ok (indexed : store.Indexed)
    (consistent : checkChainBatches batchIndex generation history batches = .ok ()) :
    replayBatches batchIndex store generation batches = .ok final ↔
      Replays store (intentsOf batches.flatten) final := by
  induction batches generalizing batchIndex store generation history with
  | nil =>
    rw [replayBatches, Except.ok.injEq]
    exact replays_nil.symm
  | cons batch rest ih =>
    rw [checkChainBatches] at consistent
    rw [List.flatten_cons, intentsOf, List.map_append, ← intentsOf, ← intentsOf, replayBatches, replayUntrustedBatch]
    split at consistent
    · cases consistent
    case h_2 passed =>
      split at consistent
      · cases consistent
      case h_2 after entries =>
        split
        · rename_i reason refused
          simp only [reduceCtorEq, false_iff]
          intro replays
          obtain ⟨_, first⟩ := replays.of_append
          rw [(replayRecords_ok indexed).mpr first] at refused
          cases refused
        case h_2 middle replayed =>
          have first := (replayRecords_ok indexed).mp replayed
          rw [first.append_iff]
          cases rest with
          | nil =>
            rw [List.isEmpty_nil, if_pos rfl, Except.ok.injEq]
            exact replays_nil.symm
          | cons =>
            rw [List.isEmpty_cons, if_neg Bool.false_ne_true] at consistent ⊢
            split at consistent
            · cases consistent
            case h_2 next moved => exact ih (first.indexed indexed) consistent

/-- Every claim so far about a grant is what the store holds. -/
def ClaimedPermissions.HoldIn (claimed : ClaimedPermissions) (store : AuthorizationStore) : Prop :=
  ∀ target permission granted, claimed.lookup (target, permission) = some granted →
    ∃ record, store.principal target = some record ∧ record.permissions.contains permission = granted

namespace ClaimedPermissions.HoldIn

variable {claimed : ClaimedPermissions} {store : AuthorizationStore} {record : ClassroomAuditIntentRecord}

/-- A record that is legal in the store contradicts no earlier one. -/
theorem not_contradict (hold : claimed.HoldIn store) (legal : record.LegalIn store) :
    claimed.contradict record = false := by
  unfold ClaimedPermissions.contradict
  cases found : claimed.lookup record.key with
  | none => rfl
  | some =>
    obtain ⟨holder, stored, contains⟩ := hold _ _ _ found
    obtain ⟨target, atTarget, _, _, previous⟩ := legal.target
    obtain rfl : holder = target := Option.some.inj (stored.symm.trans atTarget)
    rw [← contains, ← previous, Option.any_some, bne_self_eq_false]

theorem next (hold : claimed.HoldIn store) (legal : record.LegalIn store) :
    ClaimedPermissions.HoldIn ((record.key, record.newGrant) :: claimed) (record.appliedTo store) := by
  intro target permission granted found
  obtain ⟨holder, atHolder, _⟩ := legal.target
  have applied := store.principal_withPermission atHolder record.permission.underlyingPermission record.newGrant
  rw [List.lookup_cons] at found
  split at found
  · rename_i same
    obtain ⟨rfl, rfl⟩ := Prod.mk.inj (eq_of_beq same)
    cases found
    exact ⟨_, (applied _).trans (if_pos rfl), Principal.contains_setPermission_self⟩
  · rename_i differ
    obtain ⟨other, stored, contains⟩ := hold _ _ _ found
    by_cases sameTarget : target = record.target
    · subst sameTarget
      obtain rfl : holder = other := Option.some.inj (atHolder.symm.trans stored)
      have otherPermission : permission ≠ record.permission.underlyingPermission := by
        rintro rfl
        exact ne_of_beq_false differ rfl
      exact ⟨_, (applied _).trans (if_pos rfl), (Principal.contains_setPermission_ne otherPermission).trans contains⟩
    · exact ⟨other, (applied _).trans ((if_neg sameTarget).trans stored), contains⟩

end ClaimedPermissions.HoldIn

/-- Where the records can be replayed, the checks for order and repetition are all that is left of the chain's
state. -/
theorem Replays.fits_iff (replays : Replays store (intentsOf records) final)
    (hold : history.lastPermissions.HoldIn store) :
    history.Fits records ↔
      ((∀ record ∈ records, ∀ last ∈ history.lastTimestamp, last ≤ record.checkedAtUnixMs) ∧
        records.Pairwise (·.checkedAtUnixMs ≤ ·.checkedAtUnixMs)) ∧
      (∀ record ∈ records, record.request ∉ history.seenRequests) ∧ (records.map (·.request)).Nodup := by
  induction records generalizing store history with
  | nil => simp [Fits]
  | cons record rest ih =>
    obtain ⟨legal, others⟩ := replays_cons.mp replays
    rw [Fits, ih others (hold.next legal)]
    simp only [forall_eq_or_imp, List.pairwise_cons, List.map_cons, List.nodup_cons, add,
      Option.mem_def, Option.some.injEq, forall_eq', List.mem_cons, not_or, List.mem_map, not_exists, not_and]
    constructor
    · rintro ⟨⟨later, fresh, _⟩, ⟨following, ordered⟩, unseen, distinct⟩
      refine ⟨⟨⟨later, ?_⟩, following, ordered⟩, ⟨fresh, fun other member => (unseen other member).2⟩,
        fun other member => (unseen other member).1, distinct⟩
      intro other member last atLast
      exact UInt64.le_trans (later last atLast) (following other member)
    · rintro ⟨⟨⟨later, _⟩, following, ordered⟩, ⟨fresh, unseen⟩, differ, distinct⟩
      exact ⟨⟨later, fresh, hold.not_contradict legal⟩, ⟨following, ordered⟩,
        fun other member => ⟨differ other member, unseen other member⟩, distinct⟩

/-- What an accepted log is, with no mention of batches. -/
structure FlatReplay (initial final : AuthorizationStore) (generation : UInt64)
    (records : List ClassroomAuditIntentRecord) : Prop where
  started : generation ≠ 0
  numbered : NumberedFrom generation.toNat records
  notExhausted : ∀ record ∈ records, record.expectedPolicyGeneration ≠ exhaustedGeneration
  ordered : records.Pairwise (·.checkedAtUnixMs ≤ ·.checkedAtUnixMs)
  distinct : (records.map (·.request)).Nodup
  replays : Replays initial (intentsOf records) final

/-- A log of one to sixteen batches, each of one to 64 records. -/
structure ChainSizes (batches : List (List ClassroomAuditIntentRecord)) : Prop where
  nonempty : batches ≠ []
  bounded : batches.length ≤ maxAuditChainBatches
  batches : BatchSizes batches

section Accepted

variable {initial final : AuthorizationStore} {generation : UInt64} {batches : List (List ClassroomAuditIntentRecord)}

theorem ChainSizes.started (sizes : ChainSizes batches) (numbered : NumberedFrom generation.toNat batches.flatten) :
    generation ≠ 0 := by
  obtain ⟨batch, _, rfl⟩ := List.exists_cons_of_ne_nil sizes.nonempty
  obtain ⟨record, _, rfl⟩ := List.exists_cons_of_ne_nil (sizes.batches batch List.mem_cons_self).1
  rw [List.flatten_cons, List.cons_append] at numbered
  rw [← UInt64.toNat_inj.mp (numberedFrom_cons.mp numbered).1]
  exact record.generation_range.1

/-- A chain is accepted exactly if its records, with the batches forgotten, replay from the baseline to the final store.
The sizes of chain and batches are all that depends on the cuts. -/
theorem chainAgainstBaseline_ok (indexed : initial.Indexed) (sizes : ChainSizes batches) :
    checkClassroomAuditChainAgainstBaseline initial final generation batches = .ok () ↔
      FlatReplay initial final generation batches.flatten := by
  have chain : checkClassroomAuditChainConsistency generation batches = .ok () ↔
      NumberedFrom generation.toNat batches.flatten ∧ Fits {} batches.flatten := by
    rw [checkClassroomAuditChainConsistency, if_neg (by simpa using sizes.nonempty),
      if_neg (Nat.not_lt.mpr sizes.bounded)]
    exact checkChainBatches_ok sizes.batches
  have consistent : checkClassroomAuditChainConsistency generation batches = .ok () →
      checkChainBatches 0 generation {} batches = .ok () :=
    fun passed => (checkChainBatches_ok sizes.batches).mpr (chain.mp passed)
  have holdNothing : ClaimedPermissions.HoldIn [] initial := by
    intro target permission granted found
    cases found
  rw [checkClassroomAuditChainAgainstBaseline]
  constructor
  · intro accepted
    split at accepted
    · cases accepted
    case h_2 passed =>
      split at accepted
      · cases accepted
      case h_2 candidate replayed =>
        split at accepted
        · cases accepted
        case isFalse reached =>
          obtain rfl : candidate = final := not_not.mp reached
          have replays := (replayBatches_ok indexed (consistent passed)).mp replayed
          obtain ⟨numbered, fits⟩ := chain.mp passed
          obtain ⟨⟨_, ordered⟩, _, distinct⟩ := (replays.fits_iff holdNothing).mp fits
          exact ⟨sizes.started numbered, numbered, fun record _ => record.generation_range.2, ordered, distinct,
            replays⟩
  · intro flat
    have fits : Fits {} batches.flatten :=
      (flat.replays.fits_iff holdNothing).mpr ⟨⟨by simp, flat.ordered⟩, by simp, flat.distinct⟩
    have passed := chain.mpr ⟨flat.numbered, fits⟩
    rw [passed]
    dsimp only
    rw [(replayBatches_ok indexed (consistent passed)).mpr flat.replays]
    exact if_neg (not_not.mpr rfl)

end Accepted

/-- Records of successive successful stagings, each made on the candidate of the one before. -/
inductive StagedRecords : AuthorizationStore → List ClassroomAuditIntentRecord → AuthorizationStore → Prop
  | done (store : AuthorizationStore) : StagedRecords store [] store
  | next {store final : AuthorizationStore} {actorCredential : CredentialFingerprint}
      {change : ClassroomPermissionChange} {nowUnixMs : UInt64} {draft : ClassroomPolicyDraft}
      {record : ClassroomAuditIntentRecord} {rest : List ClassroomAuditIntentRecord}
      (staged : stageClassroomPermissionChange store actorCredential change nowUnixMs = .ok draft)
      (recorded : ClassroomAuditIntentRecord.fromIntent draft.audit = .ok record)
      (others : StagedRecords draft.candidate rest final) : StagedRecords store (record :: rest) final

theorem StagedRecords.replays (staged : StagedRecords store records final) (indexed : store.Indexed) :
    Replays store (intentsOf records) final := by
  induction staged with
  | done store => exact .done store
  | next made recorded _ ih =>
    have draft := stage_ok indexed made
    have same := ClassroomAuditIntentRecord.fromIntent_ok recorded
    have legal := draft.legal
    rw [← same] at legal
    rw [draft.candidate, ← same] at ih
    exact .next legal (ih (indexed.appliedTo _))

/-- The chain check accepts exactly the logs that replay step by step, so it does not matter how a log is cut;
and it accepts what staging produces when that is numbered, in order and without repeated requests. -/
theorem audit_chain_is_flat_replay {past : List StoreCall} {initial : AuthorizationStore}
    (reachable : Run (Total AuthorizationStore.step) {} past initial) (final : AuthorizationStore)
    (generation : UInt64) {batches : List (List ClassroomAuditIntentRecord)} (sizes : ChainSizes batches) :
    (checkClassroomAuditChainAgainstBaseline initial final generation batches = .ok () ↔
        FlatReplay initial final generation batches.flatten) ∧
      (∀ others, ChainSizes others → others.flatten = batches.flatten →
        (checkClassroomAuditChainAgainstBaseline initial final generation others = .ok () ↔
          checkClassroomAuditChainAgainstBaseline initial final generation batches = .ok ())) ∧
      (StagedRecords initial batches.flatten final →
        (checkClassroomAuditChainAgainstBaseline initial final generation batches = .ok () ↔
          NumberedFrom generation.toNat batches.flatten ∧
            batches.flatten.Pairwise (·.checkedAtUnixMs ≤ ·.checkedAtUnixMs) ∧
            (batches.flatten.map (·.request)).Nodup)) := by
  have indexed := AuthorizationStore.indexed_of_run reachable
  refine ⟨chainAgainstBaseline_ok indexed sizes, ?_, ?_⟩
  · intro others otherSizes same
    rw [chainAgainstBaseline_ok indexed otherSizes, chainAgainstBaseline_ok indexed sizes, same]
  · intro staged
    rw [chainAgainstBaseline_ok indexed sizes]
    constructor
    · intro flat
      exact ⟨flat.numbered, flat.ordered, flat.distinct⟩
    · rintro ⟨numbered, ordered, distinct⟩
      exact ⟨sizes.started numbered, numbered, fun record _ => record.generation_range.2, ordered, distinct,
        staged.replays indexed⟩

section Sample

def sampleIntent (grant : Bool) (number : UInt64) : ClassroomAuditIntent where
  actor := ⟨.replicate 9⟩
  target := ⟨.replicate 2⟩
  permission := .viewMonitoring
  previousGrant := !grant
  newGrant := grant
  requestId := number
  expectedPolicyGeneration := number
  checkedAtUnixMs := 10

/-- Two changes that undo each other, in one batch or in two. -/
theorem audit_chain_is_flat_replay_undone :
    let initial := runOn AuthorizationStore.step {} sampleBaseline
    let records : List ClassroomAuditIntentRecord :=
      [⟨sampleIntent true 1, by decide⟩, ⟨sampleIntent false 2, by decide⟩]
    FlatReplay initial initial 1 records ∧
      checkClassroomAuditChainAgainstBaseline initial initial 1 [records] = .ok () := by
  intro initial records
  have reachable := Run.of_calls AuthorizationStore.step {} sampleBaseline
  have sizes : ChainSizes (records.map ([·])) := ⟨by decide, by decide, by
    intro batch listed
    obtain ⟨_, _, rfl⟩ := List.mem_map.mp listed
    exact ⟨by simp, by simp [maxAuditBatchEntries]⟩⟩
  have sizesTogether : ChainSizes [records] := ⟨by decide, by decide, by
    intro batch listed
    obtain rfl := List.mem_singleton.mp listed
    exact ⟨by simp [records], by decide⟩⟩
  obtain ⟨exactly, cuttings, _⟩ := audit_chain_is_flat_replay reachable initial 1 sizes
  have accepted : checkClassroomAuditChainAgainstBaseline initial initial 1 (records.map ([·])) = .ok () := by
    decide +kernel
  exact ⟨exactly.mp accepted, (cuttings [records] sizesTogether rfl).mpr accepted⟩

end Sample

end ClassMesh
