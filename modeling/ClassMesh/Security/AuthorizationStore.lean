import ClassMesh.Security.Principal

namespace ClassMesh

open Std

inductive AuthorizationStoreError
  | credentialOwnedByAnotherPrincipal (fingerprint : CredentialFingerprint) (owner : PrincipalId)
deriving DecidableEq

structure AuthorizationStore where
  principals : BTreeMap PrincipalId Principal := ∅
  credentialOwners : BTreeMap CredentialFingerprint PrincipalId := ∅
deriving DecidableEq

namespace AuthorizationStore

variable (store : AuthorizationStore)

/-- The first fingerprint of the list that the index gives to a principal other than `id`. -/
def foreignOwner (id : PrincipalId) (fingerprints : List CredentialFingerprint) :
    Option (CredentialFingerprint × PrincipalId) :=
  fingerprints.findSome? fun fingerprint =>
    match store.credentialOwners[fingerprint]? with
    | some owner => if owner ≠ id then some (fingerprint, owner) else none
    | none => none

/-- The index without the fingerprints that the previous record of `id` put there. -/
def releaseCredentials (id : PrincipalId) : BTreeMap CredentialFingerprint PrincipalId :=
  match store.principals[id]? with
  | some previous => previous.credentials.keys.foldl
      (fun owners fingerprint => if owners[fingerprint]? = some id then owners.erase fingerprint else owners)
      store.credentialOwners
  | none => store.credentialOwners

def upsert (principal : Principal) : AuthorizationStore × Except AuthorizationStoreError Unit :=
  match store.foreignOwner principal.id principal.credentials.keys with
  | some (fingerprint, owner) => (store, .error (.credentialOwnedByAnotherPrincipal fingerprint owner))
  | none =>
    ({ principals := store.principals.insert principal.id principal
       credentialOwners := principal.credentials.keys.foldl
         (fun owners fingerprint => owners.insert fingerprint principal.id)
         (store.releaseCredentials principal.id) }, .ok ())

def authorize (principal : PrincipalId) (permission : Permission) : Bool :=
  store.principals[principal]?.any (·.allows permission)

def principalForCredential (fingerprint : CredentialFingerprint) (nowUnixMs : UInt64) : Option PrincipalId := do
  let principalId ← store.credentialOwners[fingerprint]?
  let principal ← store.principals[principalId]?
  if principal.acceptsCredential fingerprint nowUnixMs then some principalId else none

def authorizeCredential (fingerprint : CredentialFingerprint) (permission : Permission) (nowUnixMs : UInt64) : Bool :=
  match store.principalForCredential fingerprint nowUnixMs with
  | none => false
  | some principal => store.authorize principal permission

def disable (principal : PrincipalId) : AuthorizationStore × Bool :=
  match store.principals[principal]? with
  | none => (store, false)
  | some record =>
    ({ store with principals := store.principals.insert principal { record with enabled := false } }, true)

variable {store after : AuthorizationStore} {id : PrincipalId} {record : Principal} {principal : Principal}

theorem foreignOwner_eq_none {fingerprints : List CredentialFingerprint} :
    store.foreignOwner id fingerprints = none ↔
      ∀ fingerprint ∈ fingerprints, ∀ owner, store.credentialOwners[fingerprint]? = some owner → owner = id := by
  simp only [foreignOwner, List.findSome?_eq_none_iff]
  refine forall₂_congr fun fingerprint _ => ?_
  cases store.credentialOwners[fingerprint]? with
  | none | some => simp

/-- A stored record sits under its own id, and the index names exactly the principal whose
record holds the fingerprint. -/
structure Indexed (store : AuthorizationStore) : Prop where
  keyed : ∀ id (record : Principal), store.principals[id]? = some record → record.id = id
  exact : ∀ fingerprint owner, store.credentialOwners[fingerprint]? = some owner ↔
    ∃ record : Principal, store.principals[owner]? = some record ∧ fingerprint ∈ record.credentials

theorem indexed_default : Indexed {} where
  keyed := by simp
  exact := by simp

/-- No fingerprint is held by two principals. -/
theorem Indexed.owner_unique (indexed : store.Indexed) {fingerprint : CredentialFingerprint} {other : PrincipalId}
    {held : Principal} (atId : store.principals[id]? = some record) (atOther : store.principals[other]? = some held)
    (inId : fingerprint ∈ record.credentials) (inOther : fingerprint ∈ held.credentials) : id = other := by
  have first := (indexed.exact fingerprint id).mpr ⟨record, atId, inId⟩
  have second := (indexed.exact fingerprint other).mpr ⟨held, atOther, inOther⟩
  exact Option.some.inj (first.symm.trans second)

theorem releaseCredentials_getElem? (indexed : store.Indexed) (id : PrincipalId) (fingerprint : CredentialFingerprint) :
    (store.releaseCredentials id)[fingerprint]? =
      if store.credentialOwners[fingerprint]? = some id then none else store.credentialOwners[fingerprint]? := by
  unfold releaseCredentials
  split
  · rename_i previous atId
    rw [BTreeMap.getElem?_foldl_erase_if]
    by_cases owned : store.credentialOwners[fingerprint]? = some id
    · obtain ⟨_, atRecord, member⟩ := (indexed.exact fingerprint id).mp owned
      cases Option.some.inj (atRecord.symm.trans atId)
      simp [owned, member]
    · simp [owned]
  · rename_i absent
    rw [if_neg]
    intro owned
    obtain ⟨_, atRecord, _⟩ := (indexed.exact fingerprint id).mp owned
    simp [absent] at atRecord

/-- An accepted upsert replaces one record and gives that principal exactly its new fingerprints. -/
theorem upsert_ok_iff :
    store.upsert principal = (after, .ok ()) ↔
      store.foreignOwner principal.id principal.credentials.keys = none ∧
      after.principals = store.principals.insert principal.id principal ∧
      after.credentialOwners = principal.credentials.keys.foldl
        (fun owners fingerprint => owners.insert fingerprint principal.id)
        (store.releaseCredentials principal.id) := by
  unfold upsert
  split
  · rename_i foreign
    simp [foreign]
  · rename_i foreign
    cases after
    simp [foreign, eq_comm]

theorem upsert_error {error : AuthorizationStoreError} (rejected : store.upsert principal = (after, .error error)) :
    after = store := by
  unfold upsert at rejected
  split at rejected
  · exact (Prod.ext_iff.mp rejected).1.symm
  · simp at rejected

/-- An upsert keeps the owner index exact: the fingerprints of the new record lead to it, and those that only the old
record had lead nowhere. -/
theorem Indexed.upsert (indexed : store.Indexed) (principal : Principal) : (store.upsert principal).1.Indexed := by
  unfold AuthorizationStore.upsert
  split
  · exact indexed
  rename_i free
  have mine := foreignOwner_eq_none.mp free
  refine ⟨?_, ?_⟩
  · intro id record
    simp only [ExtTreeMap.getElem?_insert, Std.compare_eq_iff_eq]
    split
    · rename_i same
      intro stored
      cases Option.some.inj stored
      exact same
    · exact indexed.keyed id record
  · intro fingerprint owner
    rw [BTreeMap.getElem?_foldl_insert, releaseCredentials_getElem? indexed]
    simp only [ExtTreeMap.mem_keys, ExtTreeMap.getElem?_insert, Std.compare_eq_iff_eq]
    by_cases listed : fingerprint ∈ principal.credentials
    · rw [if_pos listed]
      constructor
      · intro same
        cases Option.some.inj same
        exact ⟨principal, by simp, listed⟩
      · rintro ⟨record, stored, held⟩
        by_cases same : principal.id = owner
        · rw [same]
        · rw [if_neg same] at stored
          have owned := (indexed.exact fingerprint owner).mpr ⟨record, stored, held⟩
          exact absurd (mine fingerprint (by simpa using listed) owner owned).symm same
    · rw [if_neg listed]
      by_cases same : principal.id = owner
      · subst same
        constructor
        · split <;> simp_all
        · rintro ⟨_, stored, held⟩
          rw [if_pos rfl] at stored
          cases Option.some.inj stored
          exact absurd held listed
      · rw [if_neg same, ← indexed.exact fingerprint owner]
        split
        · rename_i owned
          rw [owned]
          simpa using same
        · rfl

/-- The credential index is determined by the records. -/
theorem Indexed.ext_principals {a b : AuthorizationStore} (left : a.Indexed) (right : b.Indexed)
    (same : a.principals = b.principals) : a = b := by
  have owners : a.credentialOwners = b.credentialOwners := by
    refine ExtTreeMap.ext_getElem? fun fingerprint => Option.ext fun owner => ?_
    rw [left.exact, right.exact, same]
  cases a
  cases b
  simp only [mk.injEq]
  exact ⟨same, owners⟩

/-- A record may be replaced by one with the same id and the same fingerprints. -/
theorem Indexed.replace (indexed : store.Indexed) {next : Principal} (atId : store.principals[id]? = some record)
    (sameId : next.id = id) (sameCredentials : next.credentials = record.credentials) :
    Indexed { store with principals := store.principals.insert id next } := by
  refine ⟨?_, ?_⟩
  · intro other held
    simp only [ExtTreeMap.getElem?_insert, Std.compare_eq_iff_eq]
    split
    · rename_i same
      intro stored
      cases Option.some.inj stored
      exact sameId.trans same
    · exact indexed.keyed other held
  · intro fingerprint owner
    rw [indexed.exact fingerprint owner]
    simp only [ExtTreeMap.getElem?_insert, Std.compare_eq_iff_eq]
    by_cases same : id = owner
    · subst same
      simp [atId, sameCredentials]
    · simp [same]

theorem Indexed.disable (indexed : store.Indexed) (id : PrincipalId) : (store.disable id).1.Indexed := by
  unfold AuthorizationStore.disable
  split
  · exact indexed
  · rename_i record atId
    exact indexed.replace atId (indexed.keyed id record atId) rfl

/-- An upsert that keeps the fingerprints of the record in place is never refused, and only replaces the record. -/
theorem Indexed.upsert_replace (indexed : store.Indexed) {next : Principal}
    (stored : store.principals[next.id]? = some record) (sameCredentials : next.credentials = record.credentials) :
    store.upsert next = ({ store with principals := store.principals.insert next.id next }, .ok ()) := by
  have free : store.foreignOwner next.id next.credentials.keys = none := by
    refine foreignOwner_eq_none.mpr fun fingerprint listed owner owned => ?_
    obtain ⟨_, atOwner, member⟩ := (indexed.exact fingerprint owner).mp owned
    refine indexed.owner_unique atOwner stored member ?_
    rw [← sameCredentials]
    simpa using listed
  have accepted : store.upsert next = (⟨_, _⟩, .ok ()) := upsert_ok_iff.mpr ⟨free, rfl, rfl⟩
  have kept := indexed.upsert next
  rw [accepted] at kept
  rw [accepted]
  exact Prod.ext (kept.ext_principals (indexed.replace stored rfl sameCredentials) rfl) rfl

end AuthorizationStore

end ClassMesh
