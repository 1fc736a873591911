import ClassMesh.Foundation.Run
import ClassMesh.Security.Principal

namespace ClassMesh

open Std Foundation

inductive CredentialInput
  | addCredential (credential : CredentialRecord)
  | rotateToBounded (replacement : CredentialRecord) (overlapUntilUnixMs : UInt64)
  | revokeCredential (fingerprint : CredentialFingerprint) (nowUnixMs : UInt64)

abbrev CredentialCall := Call Principal CredentialInput (Except CredentialMutationError Unit)

def Principal.step (principal : Principal) : CredentialInput → Principal × Except CredentialMutationError Unit
  | .addCredential credential => principal.addCredential credential
  | .rotateToBounded replacement overlapUntilUnixMs => principal.rotateToBounded replacement overlapUntilUnixMs
  | .revokeCredential fingerprint nowUnixMs => principal.revokeCredential fingerprint nowUnixMs

namespace CredentialRecord

variable {record : CredentialRecord}

theorem isAcceptedAt_iff {nowUnixMs : UInt64} :
    record.isAcceptedAt nowUnixMs = true ↔
      record.issuedAtUnixMs ≤ nowUnixMs ∧ record.state ≠ .revoked ∧
        (∀ revokedAt, record.revokedAtUnixMs = some revokedAt → nowUnixMs < revokedAt) ∧
        ∀ expiresAt, record.expiresAtUnixMs = some expiresAt → nowUnixMs < expiresAt := by
  unfold isAcceptedAt
  by_cases issued : nowUnixMs < record.issuedAtUnixMs
  · simp [issued, UInt64.not_le.mpr issued]
  by_cases revoked : record.state = .revoked
  · simp [issued, revoked]
  rw [if_neg issued, if_neg revoked]
  cases record.revokedAtUnixMs <;> cases record.expiresAtUnixMs <;>
    simp [UInt64.not_lt.mp issued, revoked, and_comm]

/-- Accepted at no time at which the other one is not. -/
def AcceptsLess (later earlier : CredentialRecord) : Prop :=
  ∀ nowUnixMs, later.isAcceptedAt nowUnixMs = true → earlier.isAcceptedAt nowUnixMs = true

theorem AcceptsLess.refl (record : CredentialRecord) : record.AcceptsLess record := fun _ accepted => accepted

theorem AcceptsLess.trans {last middle first : CredentialRecord} (second : last.AcceptsLess middle)
    (one : middle.AcceptsLess first) : last.AcceptsLess first := fun time accepted => one time (second time accepted)

theorem markRetiring_ne_revoked : record.markRetiring.state ≠ .revoked ↔ record.state ≠ .revoked := by
  unfold markRetiring
  split
  case isTrue active => simp [active]
  case isFalse => rfl

theorem markRetiring_times (record : CredentialRecord) :
    record.markRetiring.issuedAtUnixMs = record.issuedAtUnixMs ∧
      record.markRetiring.revokedAtUnixMs = record.revokedAtUnixMs := by
  unfold markRetiring
  split <;> exact ⟨rfl, rfl⟩

/-- A rotation closes the window of an older credential at the deadline, and opens none. -/
theorem boundOverlap_accepted {overlapUntilUnixMs nowUnixMs : UInt64}
    (accepted : (Principal.boundOverlap overlapUntilUnixMs record).isAcceptedAt nowUnixMs = true) :
    record.isAcceptedAt nowUnixMs = true ∧ nowUnixMs < overlapUntilUnixMs := by
  obtain ⟨issued, state, revoked, expires⟩ := isAcceptedAt_iff.mp accepted
  obtain ⟨sameIssued, sameRevoked⟩ := record.markRetiring_times
  have before := expires _ rfl
  have opened : record.issuedAtUnixMs ≤ nowUnixMs := sameIssued ▸ issued
  have kept : record.state ≠ .revoked := markRetiring_ne_revoked.mp state
  have unrevoked : ∀ revokedAt, record.revokedAtUnixMs = some revokedAt → nowUnixMs < revokedAt := sameRevoked ▸ revoked
  cases known : record.expiresAtUnixMs with
  | none =>
    rw [known] at before
    exact ⟨isAcceptedAt_iff.mpr ⟨opened, kept, unrevoked, by simp [known]⟩, before⟩
  | some current =>
    rw [known] at before
    obtain ⟨first, second⟩ : nowUnixMs < current ∧ nowUnixMs < overlapUntilUnixMs := by
      have earlier : nowUnixMs < if current ≤ overlapUntilUnixMs then current else overlapUntilUnixMs := before
      split at earlier
      case isTrue sooner => exact ⟨earlier, UInt64.lt_of_lt_of_le earlier sooner⟩
      case isFalse later => exact ⟨UInt64.lt_trans earlier (UInt64.not_le.mp later), earlier⟩
    exact ⟨isAcceptedAt_iff.mpr ⟨opened, kept, unrevoked, by simpa [known] using first⟩, second⟩

theorem revoke_rejected (record : CredentialRecord) (revokedAt nowUnixMs : UInt64) :
    (record.revoke revokedAt).isAcceptedAt nowUnixMs = false := by
  refine Bool.eq_false_iff.mpr fun accepted => ?_
  exact (isAcceptedAt_iff.mp accepted).2.1 rfl

end CredentialRecord

namespace Principal

variable {principal after : Principal} {input : CredentialInput} {reply : Except CredentialMutationError Unit}
  {fingerprint : CredentialFingerprint} {record : CredentialRecord} {nowUnixMs : UInt64}

theorem step_error {error : CredentialMutationError} (taken : principal.step input = (after, .error error)) :
    after = principal := by
  cases input with
  | addCredential credential =>
    change principal.addCredential credential = _ at taken
    unfold addCredential at taken
    split at taken
    · cases taken
      rfl
    · cases taken
  | rotateToBounded replacement overlapUntilUnixMs =>
    change principal.rotateToBounded replacement overlapUntilUnixMs = _ at taken
    unfold rotateToBounded at taken
    split at taken
    · cases taken
      rfl
    split at taken
    · cases taken
      rfl
    split at taken
    · cases taken
      rfl
    · cases taken
  | revokeCredential other nowUnixMs =>
    change principal.revokeCredential other nowUnixMs = _ at taken
    unfold revokeCredential at taken
    split at taken
    · cases taken
      rfl
    · cases taken

theorem rotateToBounded_ok {replacement : CredentialRecord} {overlapUntilUnixMs : UInt64}
    (taken : principal.rotateToBounded replacement overlapUntilUnixMs = (after, .ok ()))
    (stored : principal.credentials[fingerprint]? = some record) :
    after.enabled = principal.enabled ∧
      after.credentials[fingerprint]? = some (boundOverlap overlapUntilUnixMs record) := by
  unfold rotateToBounded at taken
  split at taken
  · cases taken
  split at taken
  · cases taken
  split at taken
  · cases taken
  case isFalse fresh =>
    cases taken
    have other : fingerprint ≠ replacement.fingerprint := by
      rintro rfl
      exact fresh (ExtTreeMap.contains_iff_mem.mpr (BTreeMap.mem_of_getElem? stored))
    refine ⟨rfl, ?_⟩
    rw [BTreeMap.getElem?_insert_ne other, ExtTreeMap.getElem?_map, stored, Option.map_some]

theorem addCredential_ok {credential : CredentialRecord}
    (taken : principal.addCredential credential = (after, .ok ()))
    (stored : principal.credentials[fingerprint]? = some record) :
    after.enabled = principal.enabled ∧ after.credentials[fingerprint]? = some record := by
  unfold addCredential at taken
  split at taken
  · cases taken
  case isFalse fresh =>
    cases taken
    have other : fingerprint ≠ credential.fingerprint := by
      rintro rfl
      exact fresh (ExtTreeMap.contains_iff_mem.mpr (BTreeMap.mem_of_getElem? stored))
    exact ⟨rfl, (BTreeMap.getElem?_insert_ne other).trans stored⟩

theorem revokeCredential_ok {other : CredentialFingerprint}
    (taken : principal.revokeCredential other nowUnixMs = (after, reply))
    (stored : principal.credentials[fingerprint]? = some record) :
    after.enabled = principal.enabled ∧
      after.credentials[fingerprint]? = some (if fingerprint = other then record.revoke nowUnixMs else record) := by
  unfold revokeCredential at taken
  by_cases same : fingerprint = other
  · subst same
    rw [stored] at taken
    cases taken
    exact ⟨rfl, by rw [ExtTreeMap.getElem?_insert_self, if_pos rfl]⟩
  · rw [if_neg same]
    split at taken
    · cases taken
      exact ⟨rfl, stored⟩
    · cases taken
      exact ⟨rfl, (BTreeMap.getElem?_insert_ne same).trans stored⟩

/-- A call keeps every credential that is there, and opens none of its windows. -/
theorem step_acceptsLess (taken : principal.step input = (after, reply))
    (stored : principal.credentials[fingerprint]? = some record) :
    after.enabled = principal.enabled ∧
      ∃ kept, after.credentials[fingerprint]? = some kept ∧ kept.AcceptsLess record := by
  cases reply with
  | error =>
    cases step_error taken
    exact ⟨rfl, record, stored, .refl record⟩
  | ok =>
    cases input with
    | addCredential =>
      obtain ⟨enabled, kept⟩ := addCredential_ok taken stored
      exact ⟨enabled, record, kept, .refl record⟩
    | rotateToBounded =>
      obtain ⟨enabled, kept⟩ := rotateToBounded_ok taken stored
      exact ⟨enabled, _, kept, fun _ accepted => (CredentialRecord.boundOverlap_accepted accepted).1⟩
    | revokeCredential =>
      obtain ⟨enabled, kept⟩ := revokeCredential_ok taken stored
      refine ⟨enabled, _, kept, fun time accepted => ?_⟩
      split at accepted
      · rw [CredentialRecord.revoke_rejected] at accepted
        cases accepted
      · exact accepted

theorem run_acceptsLess {initial final : Principal} {past : List CredentialCall}
    (run : Run (Total step) initial past final) (stored : initial.credentials[fingerprint]? = some record) :
    ∃ kept, final.credentials[fingerprint]? = some kept ∧ kept.AcceptsLess record := by
  induction run with
  | start => exact ⟨record, stored, .refl record⟩
  | next _ taken ih =>
    obtain ⟨_, there, less⟩ := ih
    obtain ⟨_, kept, here, evenLess⟩ := step_acceptsLess taken there
    exact ⟨kept, here, evenLess.trans less⟩

theorem acceptsCredential_iff (stored : principal.credentials[fingerprint]? = some record) :
    principal.acceptsCredential fingerprint nowUnixMs = true ↔
      principal.enabled = true ∧ record.isAcceptedAt nowUnixMs = true := by
  simp [acceptsCredential, stored]

/-- What a record does not accept, the principal does not accept later either. -/
theorem rejected_later {final : Principal} {later : List CredentialCall}
    (run : Run (Total step) principal later final) (stored : principal.credentials[fingerprint]? = some record)
    (rejected : record.isAcceptedAt nowUnixMs ≠ true) : final.acceptsCredential fingerprint nowUnixMs = false := by
  obtain ⟨_, there, less⟩ := run_acceptsLess run stored
  refine Bool.eq_false_iff.mpr fun accepted => rejected (less nowUnixMs ?_)
  exact ((acceptsCredential_iff there).mp accepted).2

end Principal

/-- The calls on a principal only ever close the times at which a credential that is there is accepted. What a rotation
or a revocation has closed stays closed to the end of the run, whatever is called afterwards. -/
theorem credential_acceptance_shrinks {initial final : Principal} {past : List CredentialCall}
    (run : Run (Total Principal.step) initial past final) (earlier later : List CredentialCall)
    (call : CredentialCall) (cut : past = earlier ++ call :: later) :
    (∀ fingerprint ∈ call.before.credentials, ∀ nowUnixMs, call.after.acceptsCredential fingerprint nowUnixMs = true →
      call.before.acceptsCredential fingerprint nowUnixMs = true) ∧
    (∀ replacement deadline, call.input = .rotateToBounded replacement deadline → call.reply = .ok () →
      ∀ fingerprint ∈ call.before.credentials, ∀ nowUnixMs, deadline ≤ nowUnixMs →
        final.acceptsCredential fingerprint nowUnixMs = false) ∧
    (∀ fingerprint revokedAt, call.input = .revokeCredential fingerprint revokedAt →
      fingerprint ∈ call.before.credentials → ∀ nowUnixMs, final.acceptsCredential fingerprint nowUnixMs = false) ∧
    ∀ error, call.reply = .error error → call.after = call.before := by
  obtain ⟨_, taken, rest⟩ := run.split cut
  obtain ⟨before, input, reply, after⟩ := call
  have made : before.step input = (after, reply) := taken
  dsimp only at rest ⊢
  refine ⟨fun fingerprint member nowUnixMs accepted => ?_,
    fun replacement deadline rotates succeeds fingerprint member nowUnixMs passed => ?_,
    fun fingerprint revokedAt revokes member nowUnixMs => ?_, fun error failed => ?_⟩
  · obtain ⟨_, stored⟩ := Option.isSome_iff_exists.mp (ExtTreeMap.isSome_getElem?_iff_mem.mpr member)
    obtain ⟨enabled, _, there, less⟩ := Principal.step_acceptsLess made stored
    obtain ⟨on, open_⟩ := (Principal.acceptsCredential_iff there).mp accepted
    exact (Principal.acceptsCredential_iff stored).mpr ⟨enabled ▸ on, less nowUnixMs open_⟩
  · obtain ⟨_, stored⟩ := Option.isSome_iff_exists.mp (ExtTreeMap.isSome_getElem?_iff_mem.mpr member)
    subst rotates succeeds
    obtain ⟨_, bounded⟩ := Principal.rotateToBounded_ok made stored
    refine Principal.rejected_later rest bounded fun accepted => ?_
    exact UInt64.not_lt.mpr passed (CredentialRecord.boundOverlap_accepted accepted).2
  · obtain ⟨_, stored⟩ := Option.isSome_iff_exists.mp (ExtTreeMap.isSome_getElem?_iff_mem.mpr member)
    subst revokes
    obtain ⟨_, revoked⟩ := Principal.revokeCredential_ok made stored
    rw [if_pos rfl] at revoked
    refine Principal.rejected_later rest revoked fun accepted => ?_
    rw [CredentialRecord.revoke_rejected] at accepted
    cases accepted
  · subst failed
    exact Principal.step_error made

/-- A credential is rotated out with deadline 20 and then revoked. -/
theorem credential_acceptance_shrinks_rotated :
    let old : CredentialFingerprint := ⟨.replicate 1⟩
    let new : CredentialFingerprint := ⟨.replicate 2⟩
    let holder : Principal := ⟨⟨.replicate 9⟩, .studentDevice, true, ∅,
      (∅ : BTreeMap CredentialFingerprint CredentialRecord).insert old (.active old 5)⟩
    let inputs : List CredentialInput := [.rotateToBounded (.active new 10) 20, .revokeCredential new 30]
    let final := runOn Principal.step holder inputs
    holder.acceptsCredential old 20 = true ∧
      (∀ nowUnixMs, 20 ≤ nowUnixMs → final.acceptsCredential old nowUnixMs = false) ∧
      ∀ nowUnixMs, final.acceptsCredential new nowUnixMs = false := by
  intro old new holder inputs final
  have run := Run.of_calls Principal.step holder inputs
  have rotated := (credential_acceptance_shrinks run [] _ _ rfl).2.1
  have revoked := (credential_acceptance_shrinks run [_] _ _ rfl).2.2.1
  refine ⟨by decide +kernel, fun nowUnixMs passed => ?_, fun nowUnixMs => ?_⟩
  · exact rotated _ _ rfl (by decide +kernel) old (by decide +kernel) nowUnixMs passed
  · exact revoked _ _ rfl (by decide +kernel) nowUnixMs

end ClassMesh
