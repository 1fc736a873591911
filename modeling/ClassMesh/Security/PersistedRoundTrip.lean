import ClassMesh.Security.PersistedState

namespace ClassMesh

open Std Foundation ExtTreeMap PersistedPrincipal PersistedCredential BTreeMap

/-- Principals that `add_credential`, `rotate_to_bounded` and `revoke_credential` build from an empty
credential map; a call that fails leaves its principal as it was. -/
inductive Principal.Built : Principal → Prop
  | empty (id kind enabled permissions) : Built ⟨id, kind, enabled, permissions, ∅⟩
  | add {principal} (fingerprint issuedAtUnixMs) : Built principal →
      Built (principal.addCredential (.active fingerprint issuedAtUnixMs)).1
  | rotate {principal} (fingerprint issuedAtUnixMs overlapUntilUnixMs) : Built principal →
      Built (principal.rotateToBounded (.active fingerprint issuedAtUnixMs) overlapUntilUnixMs).1
  | revoke {principal} (fingerprint nowUnixMs) : Built principal →
      Built (principal.revokeCredential fingerprint nowUnixMs).1

/-- Stores that `upsert` and `disable` reach from the default store with such principals. -/
inductive AuthorizationStore.Reachable : AuthorizationStore → Prop
  | default : Reachable {}
  | upsert {store principal} : Reachable store → principal.Built → Reachable (store.upsert principal).1
  | disable {store} (principal) : Reachable store → Reachable (store.disable principal).1

/-- The two time rules of the loader. -/
def CredentialRecord.TimesOrdered (record : CredentialRecord) : Prop :=
  (∀ expires, record.expiresAtUnixMs = some expires → record.issuedAtUnixMs < expires) ∧
    ∀ revoked, record.revokedAtUnixMs = some revoked → record.issuedAtUnixMs ≤ revoked

def Principal.Loadable (principal : Principal) : Prop :=
  principal.credentials.size ≤ maxCredentialsPerPrincipal ∧
    ∀ (fingerprint : CredentialFingerprint) (record : CredentialRecord),
      principal.credentials[fingerprint]? = some record → record.TimesOrdered

def AuthorizationStore.Loadable (store : AuthorizationStore) : Prop :=
  ∀ (id : PrincipalId) (principal : Principal), store.principals[id]? = some principal → principal.Loadable

/-- What the mutating API does keep: each record sits under its own fingerprint, and it carries a
revocation time exactly when it is revoked. -/
def CredentialRecord.Coherent (record : CredentialRecord) (fingerprint : CredentialFingerprint) : Prop :=
  record.fingerprint = fingerprint ∧ (record.state = .revoked ↔ record.revokedAtUnixMs.isSome = true)

def Principal.Coherent (principal : Principal) : Prop :=
  ∀ (fingerprint : CredentialFingerprint) (record : CredentialRecord),
    principal.credentials[fingerprint]? = some record → record.Coherent fingerprint

theorem CredentialRecord.active_coherent (fingerprint : CredentialFingerprint) (issuedAtUnixMs : UInt64) :
    (CredentialRecord.active fingerprint issuedAtUnixMs).Coherent fingerprint :=
  ⟨rfl, by simp [active]⟩

namespace Principal

variable {principal : Principal} {fingerprint : CredentialFingerprint} {record : CredentialRecord}

theorem Coherent.insert (coherent : principal.Coherent) (new : record.Coherent fingerprint) :
    Coherent { principal with credentials := principal.credentials.insert fingerprint record } := by
  intro other held stored
  rcases getElem?_insert_cases stored with ⟨rfl, rfl⟩ | ⟨_, old⟩
  · exact new
  · exact coherent other held old

theorem boundOverlap_coherent (overlapUntilUnixMs : UInt64) (coherent : record.Coherent fingerprint) :
    (boundOverlap overlapUntilUnixMs record).Coherent fingerprint := by
  obtain ⟨own, revoked⟩ := coherent
  unfold boundOverlap CredentialRecord.markRetiring
  split
  · rename_i active
    rw [active] at revoked
    exact ⟨own, by simpa using revoked⟩
  · exact ⟨own, revoked⟩

theorem Built.coherent (built : principal.Built) : principal.Coherent := by
  induction built with
  | empty =>
    intro fingerprint record stored
    simp at stored
  | add fingerprint issued _ ih =>
    unfold addCredential
    split
    · exact ih
    · exact ih.insert (CredentialRecord.active_coherent fingerprint issued)
  | @rotate principal fingerprint issued overlap _ ih =>
    unfold rotateToBounded
    split
    · exact ih
    split
    · exact ih
    split
    · exact ih
    · have bounded : Coherent { principal with
          credentials := principal.credentials.map fun _ credential => boundOverlap overlap credential } := by
        intro other held stored
        rw [getElem?_map, Option.map_eq_some_iff] at stored
        obtain ⟨previous, atOther, rfl⟩ := stored
        exact boundOverlap_coherent overlap (ih other previous atOther)
      exact bounded.insert (CredentialRecord.active_coherent fingerprint issued)
  | revoke fingerprint now _ ih =>
    unfold revokeCredential
    split
    · exact ih
    · rename_i credential atFingerprint
      exact ih.insert ⟨(ih fingerprint credential atFingerprint).1, by simp [CredentialRecord.revoke]⟩

end Principal

namespace AuthorizationStore

variable {store : AuthorizationStore}

theorem Reachable.indexed (reach : store.Reachable) : store.Indexed := by
  induction reach with
  | default => exact indexed_default
  | upsert _ _ ih => exact ih.upsert _
  | disable id _ ih => exact ih.disable id

theorem Reachable.coherent (reach : store.Reachable) :
    ∀ (id : PrincipalId) (principal : Principal), store.principals[id]? = some principal → principal.Coherent := by
  induction reach with
  | default => simp
  | @upsert store principal _ built ih =>
    intro id held stored
    unfold AuthorizationStore.upsert at stored
    split at stored
    · exact ih id held stored
    · rcases getElem?_insert_cases stored with ⟨_, rfl⟩ | ⟨_, old⟩
      · exact built.coherent
      · exact ih id held old
  | @disable store principal _ ih =>
    intro id held stored
    unfold AuthorizationStore.disable at stored
    split at stored
    · exact ih id held stored
    · rename_i record atPrincipal
      rcases getElem?_insert_cases stored with ⟨rfl, rfl⟩ | ⟨_, old⟩
      · exact ih id record atPrincipal
      · exact ih id held old

end AuthorizationStore

theorem PersistedCredential.intoRecord_eq_ok_iff {record read : CredentialRecord}
    {fingerprint : CredentialFingerprint} (coherent : record.Coherent fingerprint) :
    (fromRecord record).intoRecord = .ok read ↔ record.TimesOrdered ∧ read = record := by
  have state : decide (record.state = .revoked) = record.revokedAtUnixMs.isSome := by
    rw [Bool.eq_iff_iff, decide_eq_true_iff]
    exact coherent.2
  have times : ((record.expiresAtUnixMs.any (· ≤ record.issuedAtUnixMs) ||
      record.revokedAtUnixMs.any (· < record.issuedAtUnixMs)) = true) ↔ ¬record.TimesOrdered := by
    simp only [CredentialRecord.TimesOrdered, Bool.or_eq_true, Option.any_eq_true, decide_eq_true_eq]
    grind
  unfold intoRecord fromRecord
  simp only [credentialStateFromU8_toU8, state, ne_eq, not_true_eq_false, if_false]
  by_cases ordered : record.TimesOrdered
  · rw [if_neg (fun broken => times.mp broken ordered), Except.ok.injEq]
    exact ⟨fun same => ⟨ordered, same.symm⟩, fun same => same.2.symm⟩
  · rw [if_pos (times.mpr ordered)]
    simp [ordered]

namespace PersistedPrincipal

theorem readPermissions_toU8 (permissions : BTreeSet Permission) (values : List Permission) :
    readPermissions permissions (values.map permissionToU8) =
      .ok (values.foldl (fun current permission => current.insert permission) permissions) := by
  induction values generalizing permissions with
  | nil => rfl
  | cons permission rest ih => simp [readPermissions, ih]

theorem readPermissions_toList (permissions : BTreeSet Permission) :
    readPermissions ∅ (permissions.toList.map permissionToU8) = .ok permissions := by
  rw [readPermissions_toU8]
  refine congrArg Except.ok (ExtTreeSet.ext_mem fun permission => ?_)
  rw [BTreeSet.mem_foldl_insert]
  simp

theorem permissions_within (permissions : BTreeSet Permission) :
    permissions.toList.length ≤ maxPermissionsPerPrincipal := by
  have distinct : permissions.toList.Nodup :=
    ExtTreeSet.distinct_toList.imp fun different same => different (by simp [same])
  have listed : permissions.toList ⊆ [.viewMonitoring, .viewInteractive, .controlInput, .startPresentation,
      .receivePresentation, .sendFile, .receiveFile, .lockDevice, .restartDevice, .shutdownDevice,
      .manageEnrollment, .managePolicy, .readClipboard, .writeClipboard, .sendTeacherMessage, .openTarget] := by
    intro permission _
    cases permission <;> simp
  have few := (distinct.subperm listed).length_le
  simp only [List.length_cons, List.length_nil] at few
  rw [maxPermissionsPerPrincipal]
  omega

/-- The credential loop succeeds exactly when every record's times are in order. -/
theorem readCredentials_eq_ok_iff (entries : List (CredentialFingerprint × CredentialRecord))
    (credentials read : BTreeMap CredentialFingerprint CredentialRecord)
    (coherent : ∀ entry ∈ entries, entry.2.Coherent entry.1) (distinct : (entries.map Prod.fst).Nodup)
    (apart : ∀ entry ∈ entries, entry.1 ∉ credentials) :
    readCredentials credentials (entries.map fun entry => .fromRecord entry.2) = .ok read ↔
      (∀ entry ∈ entries, entry.2.TimesOrdered) ∧
        read = entries.foldl (fun current entry => current.insert entry.1 entry.2) credentials := by
  induction entries generalizing credentials with
  | nil => simp [readCredentials, eq_comm]
  | cons entry rest ih =>
    rw [List.map_cons, List.nodup_cons] at distinct
    have own := coherent entry List.mem_cons_self
    have fresh := apart entry List.mem_cons_self
    simp only [List.map_cons, readCredentials, List.foldl_cons, List.forall_mem_cons]
    by_cases ordered : entry.2.TimesOrdered
    · rw [(intoRecord_eq_ok_iff own).mpr ⟨ordered, rfl⟩]
      have absent : credentials.contains entry.2.fingerprint = false := by
        rw [own.1, ← Bool.not_eq_true]
        exact fun inside => fresh (contains_iff_mem.mp inside)
      simp only [absent, Bool.false_eq_true, if_false, ordered, true_and]
      rw [own.1]
      refine ih _ (List.forall_mem_cons.mp coherent).2 distinct.2 ?_
      intro other member inside
      rw [mem_insert, Std.compare_eq_iff_eq] at inside
      rcases inside with same | old
      · exact distinct.1 (List.mem_map.mpr ⟨other, member, same.symm⟩)
      · exact apart other (List.mem_cons_of_mem _ member) old
    · have rejected : ∀ record, (fromRecord entry.2).intoRecord ≠ .ok record :=
        fun record made => ordered ((intoRecord_eq_ok_iff own).mp made).1
      cases made : (fromRecord entry.2).intoRecord with
      | ok record => exact absurd made (rejected record)
      | error => simp [ordered]

/-- A persisted principal is read back exactly if it is loadable, and then unchanged. The loader's checks of single
credentials are turned into a statement about the whole map. -/
theorem intoPrincipal_eq_ok_iff {principal read : Principal} (coherent : principal.Coherent) :
    (fromPrincipal principal).intoPrincipal = .ok read ↔ principal.Loadable ∧ read = principal := by
  have entries : ∀ entry ∈ principal.credentials.toList, principal.credentials[entry.1]? = some entry.2 :=
    fun entry member => mem_toList_iff_getElem?_eq_some.mp member
  have credentials (read : BTreeMap CredentialFingerprint CredentialRecord) :
      readCredentials ∅ (principal.credentials.toList.map fun entry => .fromRecord entry.2) = .ok read ↔
        (∀ entry ∈ principal.credentials.toList, entry.2.TimesOrdered) ∧ read = principal.credentials := by
    rw [readCredentials_eq_ok_iff _ _ _ (fun entry member => coherent _ _ (entries entry member))
      (by rw [map_fst_toList_eq_keys]; exact nodup_keys) (by simp),
      foldl_insert_toList]
  have loadable : principal.Loadable ↔ principal.credentials.size ≤ maxCredentialsPerPrincipal ∧
      ∀ entry ∈ principal.credentials.toList, entry.2.TimesOrdered := by
    refine and_congr_right fun _ => ⟨fun all entry member => all _ _ (entries entry member), ?_⟩
    intro all fingerprint record stored
    exact all (fingerprint, record) (mem_toList_iff_getElem?_eq_some.mpr stored)
  simp only [intoPrincipal, fromPrincipal, readPermissions_toList, List.length_map,
    if_neg (Nat.not_lt.mpr (permissions_within principal.permissions)),
    length_toList, principalKindFromU8_toU8, loadable]
  by_cases few : principal.credentials.size ≤ maxCredentialsPerPrincipal
  · rw [if_neg (Nat.not_lt.mpr few)]
    cases made : readCredentials ∅ (principal.credentials.toList.map fun entry => .fromRecord entry.2) with
    | ok held =>
      obtain ⟨ordered, rfl⟩ := (credentials held).mp made
      simp only [Except.ok.injEq, few, true_and, eq_comm (a := read)]
      exact (and_iff_right ordered).symm
    | error =>
      have disordered : ¬∀ entry ∈ principal.credentials.toList, entry.2.TimesOrdered :=
        fun ordered => by simpa [made] using (credentials _).mpr ⟨ordered, rfl⟩
      exact ⟨nofun, fun both => absurd both.1.2 disordered⟩
  · rw [if_pos (Nat.lt_of_not_le few)]
    simp [few]

end PersistedPrincipal

namespace AuthorizationStore

/-- Records taken from one indexed store never collide when they are inserted again. -/
theorem Indexed.upsert_part {whole part : AuthorizationStore} (all : whole.Indexed) (indexed : part.Indexed)
    (within : ∀ (id : PrincipalId) (held : Principal), part.principals[id]? = some held →
      whole.principals[id]? = some held) {principal : Principal}
    (stored : whole.principals[principal.id]? = some principal) :
    ∃ after, part.upsert principal = (after, .ok ()) ∧ after.Indexed ∧
      after.principals = part.principals.insert principal.id principal := by
  have free : part.foreignOwner principal.id principal.credentials.keys = none := by
    refine foreignOwner_eq_none.mpr fun fingerprint listed owner owned => ?_
    obtain ⟨held, atOwner, member⟩ := (indexed.exact fingerprint owner).mp owned
    exact all.owner_unique (within owner held atOwner) stored member (by simpa using listed)
  have accepted : part.upsert principal = (⟨_, _⟩, .ok ()) := upsert_ok_iff.mpr ⟨free, rfl, rfl⟩
  have kept := indexed.upsert principal
  rw [accepted] at kept
  exact ⟨_, accepted, kept, rfl⟩

end AuthorizationStore

namespace PersistedState

/-- The principal loop succeeds exactly when every record is loadable, and rebuilds the index. -/
theorem readPrincipals_eq_ok_iff {whole : AuthorizationStore} (all : whole.Indexed)
    (entries : List (PrincipalId × Principal)) (seen : BTreeSet PrincipalId) {part final : AuthorizationStore}
    (listed : ∀ entry ∈ entries, whole.principals[entry.1]? = some entry.2)
    (coherent : ∀ entry ∈ entries, entry.2.Coherent) (distinct : (entries.map Prod.fst).Nodup)
    (apart : ∀ entry ∈ entries, entry.1 ∉ seen) (indexed : part.Indexed)
    (within : ∀ (id : PrincipalId) (held : Principal), part.principals[id]? = some held →
      whole.principals[id]? = some held) :
    readPrincipals seen part (entries.map fun entry => .fromPrincipal entry.2) = .ok final ↔
      (∀ entry ∈ entries, entry.2.Loadable) ∧ final.Indexed ∧
        final.principals = entries.foldl (fun current entry => current.insert entry.1 entry.2) part.principals := by
  induction entries generalizing seen part with
  | nil =>
    simp only [List.map_nil, readPrincipals, Except.ok.injEq, List.foldl_nil]
    constructor
    · rintro rfl
      exact ⟨by simp, indexed, rfl⟩
    · rintro ⟨_, rebuilt, same⟩
      exact indexed.ext_principals rebuilt same.symm
  | cons entry rest ih =>
    obtain ⟨id, principal⟩ := entry
    rw [List.map_cons, List.nodup_cons] at distinct
    have stored := listed _ List.mem_cons_self
    have own : principal.id = id := all.keyed id principal stored
    have sound := coherent _ List.mem_cons_self
    have unseen : seen.contains id = false := by
      rw [← Bool.not_eq_true]
      exact fun inside => apart _ List.mem_cons_self (ExtTreeSet.contains_iff_mem.mp inside)
    have persistedId : (⟨(fromPrincipal principal).id⟩ : PrincipalId) = id := own
    simp only [List.map_cons, readPrincipals, persistedId, unseen, Bool.false_eq_true, if_false, List.foldl_cons,
      List.forall_mem_cons]
    by_cases loadable : principal.Loadable
    · rw [(intoPrincipal_eq_ok_iff sound).mpr ⟨loadable, rfl⟩]
      subst own
      obtain ⟨_, accepted, kept, records⟩ := all.upsert_part indexed within stored
      simp only [accepted, loadable, true_and, ← records]
      refine ih _ (List.forall_mem_cons.mp listed).2
        (List.forall_mem_cons.mp coherent).2 distinct.2 ?_ kept ?_
      · intro other member inside
        rw [ExtTreeSet.mem_insert, Std.compare_eq_iff_eq] at inside
        rcases inside with same | old
        · exact distinct.1 (List.mem_map.mpr ⟨other, member, same.symm⟩)
        · exact apart other (List.mem_cons_of_mem _ member) old
      · intro other held atOther
        rw [records] at atOther
        rcases getElem?_insert_cases atOther with ⟨rfl, rfl⟩ | ⟨_, old⟩
        · exact stored
        · exact within other held old
    · cases made : (fromPrincipal principal).intoPrincipal with
      | ok => exact absurd ((intoPrincipal_eq_ok_iff sound).mp made).1 loadable
      | error => simp [loadable]

/-- Every principal takes at least 420 bytes of the text. The documented layout of `to_vec_pretty` needs more than
that: it writes the 32 bytes of an id one a line, with eight blanks in front of each. -/
def RoomPerPrincipal (encode : PersistedState → Option (List UInt8)) : Prop :=
  ∀ state bytes, encode state = some bytes → 420 * state.principals.length ≤ bytes.length

/-- What the loader makes of a file that `save` accepts. Nothing is assumed of the encoder but that a principal takes
its room, which keeps a file within the size limit below the loader's limit on principals. -/
theorem intoStore_fromStore_iff {encode : PersistedState → Option (List UInt8)} (room : RoomPerPrincipal encode)
    {store : AuthorizationStore} (reach : store.Reachable) {bytes : List UInt8}
    (written : encode (fromStore store) = some bytes) (fits : bytes.length ≤ maxStateBytes) :
    (fromStore store).intoStore = .ok store ↔ store.Loadable := by
  have few : (fromStore store).principals.length ≤ maxPrincipals := by
    have roomy := room _ _ written
    rw [maxStateBytes] at fits
    rw [maxPrincipals]
    omega
  have entries : ∀ entry ∈ store.principals.toList, store.principals[entry.1]? = some entry.2 :=
    fun entry member => mem_toList_iff_getElem?_eq_some.mp member
  unfold intoStore
  rw [if_neg (by simp [fromStore]), if_neg (Nat.not_lt.mpr few)]
  simp only [fromStore]
  rw [readPrincipals_eq_ok_iff reach.indexed _ _ entries
    (fun entry member => reach.coherent _ _ (entries entry member))
    (by rw [map_fst_toList_eq_keys]; exact nodup_keys) (by simp)
    AuthorizationStore.indexed_default (by simp), foldl_insert_toList]
  constructor
  · rintro ⟨all, _⟩ id principal stored
    exact all (id, principal) (mem_toList_iff_getElem?_eq_some.mpr stored)
  · intro all
    exact ⟨fun entry member => all _ _ (entries entry member), reach.indexed, rfl⟩

section Sample

open PrettyJson

theorem length_principal_json_ge (persisted : PersistedPrincipal) : 420 ≤ (persisted.json 2).length := by
  have fields := length_block_ge '\x7b' '\x7d' [field "id" (bytesJson persisted.id.bytes),
    field "kind" (number persisted.kind.toNat), field "enabled" (boolean persisted.enabled),
    field "permissions" (bytesJson persisted.permissions),
    field "credentials" (array (persisted.credentials.map PersistedCredential.json))] 2
  have id : 32 * 11 ≤ (bytesJson persisted.id.bytes (2 + 1)).length := by
    have digits : ∀ item ∈ persisted.id.bytes.map fun b => number b.toNat, 1 ≤ (item 4).length := by
      intro item member
      obtain ⟨b, _, rfl⟩ := List.mem_map.mp member
      exact length_number_pos b.toNat 4
    simpa [bytesJson, persisted.id.length_eq] using length_array_ge digits
  have names : "id".toList.length = 2 ∧ "kind".toList.length = 4 ∧ "enabled".toList.length = 7 ∧
      "permissions".toList.length = 11 ∧ "credentials".toList.length = 11 := by decide
  simp only [List.map_cons, List.map_nil, List.sum_cons, List.sum_nil, length_field, names] at fields
  refine Nat.le_trans ?_ fields
  omega

theorem prettyJson_room : RoomPerPrincipal prettyJson := by
  intro state bytes made
  cases made
  have fields := length_block_ge '\x7b' '\x7d' [field "version" (number state.version.toNat),
    field "principals" (array (state.principals.map PersistedPrincipal.json))] 0
  have items : ∀ item ∈ state.principals.map PersistedPrincipal.json, 420 ≤ (item (1 + 1)).length := by
    intro item member
    obtain ⟨persisted, _, rfl⟩ := List.mem_map.mp member
    exact length_principal_json_ge persisted
  have each := length_array_ge items
  simp only [List.map_cons, List.map_nil, List.sum_cons, List.sum_nil, length_field, List.length_map, zero_add]
    at fields each
  simp only [List.length_map, PersistedState.json, object]
  omega

/-- A principal with one credential, issued at 2 and revoked at 1. -/
def backdated : Principal :=
  let key : CredentialFingerprint := ⟨.replicate 1⟩
  let empty : Principal := ⟨⟨.replicate 7⟩, .teacher, true, ∅, ∅⟩
  ((empty.addCredential (.active key 2)).1.revokeCredential key 1).1

/-- `save` writes the store that holds it and `load` rejects the file. -/
theorem intoStore_rejects_backdated :
    let store := (AuthorizationStore.upsert {} backdated).1
    store.Reachable ∧ ((fromStore store).prettyJson.any (·.length ≤ maxStateBytes)) = true ∧
      (fromStore store).intoStore = .error (.invalidCredentialTime ⟨.replicate 1⟩) :=
  ⟨.upsert .default (.revoke _ _ (.add _ _ (.empty _ _ _ _))), by decide +kernel, by decide +kernel⟩

/-- A rotation in the right order survives. -/
theorem intoStore_fromStore_iff_rotated :
    let teacher : Principal := ⟨⟨.replicate 7⟩, .teacher, true, {.viewMonitoring}, ∅⟩
    let rotated := ((teacher.addCredential (.active ⟨.replicate 1⟩ 5)).1.rotateToBounded
      (.active ⟨.replicate 2⟩ 8) 9).1
    let store := (AuthorizationStore.upsert {} rotated).1
    (fromStore store).intoStore = .ok store ∧ store.Loadable :=
  have loads := by decide +kernel
  ⟨loads, (intoStore_fromStore_iff prettyJson_room (.upsert .default (.rotate _ _ _ (.add _ _ (.empty _ _ _ _)))) rfl
    (by decide +kernel)).mp loads⟩

end Sample

end PersistedState

end ClassMesh
