import ClassMesh.Foundation.Run
import ClassMesh.Security.AuthorizationStore

namespace ClassMesh

open Std Foundation AuthorizationStore

inductive StoreInput
  | upsert (principal : Principal)
  | disable (principal : PrincipalId)

inductive StoreReply
  | upserted (result : Except AuthorizationStoreError Unit)
  | disabled (found : Bool)
deriving DecidableEq

abbrev StoreCall := Call AuthorizationStore StoreInput StoreReply

namespace AuthorizationStore

def step (store : AuthorizationStore) : StoreInput → AuthorizationStore × StoreReply
  | .upsert principal => ((store.upsert principal).1, .upserted (store.upsert principal).2)
  | .disable principal => ((store.disable principal).1, .disabled (store.disable principal).2)

/-- Looking for the credential in every record, without the index. -/
def scanForCredential (store : AuthorizationStore) (fingerprint : CredentialFingerprint) (nowUnixMs : UInt64) :
    Option PrincipalId :=
  (store.principals.toList.find? fun entry =>
    entry.2.enabled && entry.2.credentials[fingerprint]?.any (·.isAcceptedAt nowUnixMs)).map Prod.fst

variable {store : AuthorizationStore} {fingerprint : CredentialFingerprint} {nowUnixMs : UInt64} {id : PrincipalId}

theorem mem_of_acceptsCredential {record : Principal}
    (accepts : record.acceptsCredential fingerprint nowUnixMs = true) : fingerprint ∈ record.credentials := by
  unfold Principal.acceptsCredential at accepts
  rw [Bool.and_eq_true, Option.any_eq_true] at accepts
  obtain ⟨_, _, stored, _⟩ := accepts
  exact BTreeMap.mem_of_getElem? stored

theorem Indexed.principalForCredential_eq_some (indexed : store.Indexed) :
    store.principalForCredential fingerprint nowUnixMs = some id ↔
      ∃ record, store.principals[id]? = some record ∧ record.acceptsCredential fingerprint nowUnixMs = true := by
  unfold principalForCredential
  simp only [Option.bind_eq_bind, Option.bind_eq_some_iff, Option.ite_none_right_eq_some, Option.some.injEq]
  constructor
  · rintro ⟨_, _, record, stored, accepts, rfl⟩
    exact ⟨record, stored, accepts⟩
  · rintro ⟨record, stored, accepts⟩
    have owned := (indexed.exact fingerprint id).mpr ⟨record, stored, mem_of_acceptsCredential accepts⟩
    exact ⟨id, owned, record, stored, accepts, rfl⟩

/-- At most one record holds the fingerprint, so it does not matter which one the scan meets first. -/
theorem Indexed.scanForCredential_eq_some (indexed : store.Indexed) :
    store.scanForCredential fingerprint nowUnixMs = some id ↔
      ∃ record, store.principals[id]? = some record ∧ record.acceptsCredential fingerprint nowUnixMs = true := by
  unfold scanForCredential
  rw [Option.map_eq_some_iff]
  constructor
  · rintro ⟨entry, found, rfl⟩
    have listed := ExtTreeMap.mem_toList_iff_getElem?_eq_some.mp (List.mem_of_find?_eq_some found)
    have accepts : entry.2.acceptsCredential fingerprint nowUnixMs = true := by
      simpa [Principal.acceptsCredential] using List.find?_some found
    exact ⟨entry.2, listed, accepts⟩
  · rintro ⟨record, stored, accepts⟩
    have listed := ExtTreeMap.mem_toList_iff_getElem?_eq_some.mpr stored
    have present : (store.principals.toList.find? fun entry =>
        entry.2.acceptsCredential fingerprint nowUnixMs).isSome = true :=
      List.find?_isSome.mpr ⟨(id, record), listed, accepts⟩
    obtain ⟨entry, found⟩ := Option.isSome_iff_exists.mp present
    have atEntry := ExtTreeMap.mem_toList_iff_getElem?_eq_some.mp (List.mem_of_find?_eq_some found)
    have acceptsToo : entry.2.acceptsCredential fingerprint nowUnixMs = true := by simpa using List.find?_some found
    exact ⟨entry, found, indexed.owner_unique atEntry stored (mem_of_acceptsCredential acceptsToo)
      (mem_of_acceptsCredential accepts)⟩

/-- The index says exactly what the records say. -/
structure IndexExact (store : AuthorizationStore) : Prop where
  inverse : ∀ fingerprint id, store.credentialOwners[fingerprint]? = some id ↔
    ∃ record : Principal, store.principals[id]? = some record ∧ fingerprint ∈ record.credentials
  held_once : ∀ (fingerprint : CredentialFingerprint) (id other : PrincipalId) (record held : Principal),
    store.principals[id]? = some record → store.principals[other]? = some held →
    fingerprint ∈ record.credentials → fingerprint ∈ held.credentials → id = other
  lookup : ∀ fingerprint nowUnixMs,
    store.principalForCredential fingerprint nowUnixMs = store.scanForCredential fingerprint nowUnixMs

theorem Indexed.indexExact (indexed : store.Indexed) : store.IndexExact where
  inverse := indexed.exact
  held_once := fun _ _ _ _ _ atId atOther inId inOther => indexed.owner_unique atId atOther inId inOther
  lookup := by
    intro fingerprint nowUnixMs
    refine Option.ext fun id => ?_
    rw [indexed.principalForCredential_eq_some, indexed.scanForCredential_eq_some]

theorem Indexed.step (indexed : store.Indexed) (input : StoreInput) : (store.step input).1.Indexed := by
  cases input with
  | upsert principal => exact indexed.upsert principal
  | disable principal => exact indexed.disable principal

theorem indexed_of_run {past : List StoreCall} (run : Run (Total step) {} past store) : store.Indexed := by
  refine run.invariant indexed_default fun before input reply after indexed taken => ?_
  have kept := indexed.step input
  rw [taken] at kept
  exact kept

theorem step_upsert_error {after : AuthorizationStore} {input : StoreInput} {error : AuthorizationStoreError}
    (taken : Total step store input (.upserted (.error error)) after) : after = store := by
  cases input with
  | upsert principal =>
    have result : store.upsert principal = (after, .error error) := by
      simp only [Foundation.Total, step, Prod.mk.injEq, StoreReply.upserted.injEq] at taken
      exact Prod.ext taken.1 taken.2
    exact upsert_error result
  | disable => simp [Foundation.Total, step] at taken

end AuthorizationStore

/-- In every state of every run of updates the index is the inverse of the records, and a refused update leaves
no trace. -/
theorem credential_index_exact {past : List StoreCall} {store : AuthorizationStore}
    (run : Run (Total AuthorizationStore.step) {} past store) :
    store.IndexExact ∧ ∀ call ∈ past, ∀ error, call.reply = .upserted (.error error) → call.after = call.before := by
  refine ⟨(indexed_of_run run).indexExact, ?_⟩
  rintro ⟨_, _, _, _⟩ member error rfl
  obtain ⟨_, _, _, _, taken, _⟩ := run.of_mem member
  exact step_upsert_error taken

section Sample

def sampleFingerprint : CredentialFingerprint := ⟨.replicate 1⟩

def sampleHolder (id : UInt8) : Principal where
  id := ⟨.replicate id⟩
  kind := .teacher
  enabled := true
  permissions := ∅
  credentials := (∅ : BTreeMap CredentialFingerprint CredentialRecord).insert sampleFingerprint
    (.active sampleFingerprint 5)

/-- A fingerprint is taken, refused to a second principal, given up by the first and taken by the second. -/
theorem credential_index_exact_moved : ∃ past store,
    Run (Total AuthorizationStore.step) {} past store ∧
      past.map (·.reply) = [.upserted (.ok ()),
        .upserted (.error (.credentialOwnedByAnotherPrincipal sampleFingerprint ⟨.replicate 2⟩)),
        .upserted (.ok ()), .upserted (.ok ()), .disabled true] ∧
      store.IndexExact := by
  have run := Run.of_calls step {}
    [.upsert (sampleHolder 2), .upsert (sampleHolder 3), .upsert { sampleHolder 2 with credentials := ∅ },
      .upsert (sampleHolder 3), .disable ⟨.replicate 3⟩]
  exact ⟨_, _, run, by decide +kernel, (credential_index_exact run).1⟩

def sampleAdministrator : Principal where
  id := ⟨.replicate 9⟩
  kind := .administrator
  enabled := true
  permissions := (∅ : BTreeSet Permission).insert .managePolicy
  credentials := (∅ : BTreeMap CredentialFingerprint CredentialRecord).insert ⟨.replicate 9⟩
    (.active ⟨.replicate 9⟩ 5)

/-- Updates that enrol an administrator and a teacher. -/
def sampleBaseline : List StoreInput := [.upsert sampleAdministrator, .upsert (sampleHolder 2)]

end Sample

end ClassMesh
