import ClassMesh.Foundation.PrettyJson
import ClassMesh.Security.AuthorizationStore

namespace ClassMesh

open Std Foundation

def stateVersion : UInt32 := 1
def maxStateBytes : Nat := 4 * 1024 * 1024
def maxPrincipals : Nat := 10000
def maxCredentialsPerPrincipal : Nat := 16
def maxPermissionsPerPrincipal : Nat := 32

inductive PersistenceError
  | io
  | json
  | stateTooLarge (bytes maximum : Nat)
  | unsupportedVersion (version : UInt32)
  | tooManyPrincipals (count : Nat)
  | tooManyCredentials (principal : PrincipalId) (count : Nat)
  | tooManyPermissions (principal : PrincipalId) (count : Nat)
  | duplicatePrincipal (principal : PrincipalId)
  | duplicateCredential (fingerprint : CredentialFingerprint)
  | invalidPrincipalKind (value : UInt8)
  | invalidPermission (value : UInt8)
  | invalidCredentialState (value : UInt8)
  | invalidCredentialTime (fingerprint : CredentialFingerprint)
  | authorization (error : AuthorizationStoreError)
deriving DecidableEq

def principalKindToU8 : PrincipalKind → UInt8
  | .teacher => 1
  | .studentDevice => 2
  | .administrator => 3
  | .service => 4
  | .sessionWorker => 5

def principalKindFromU8 (value : UInt8) : Except PersistenceError PrincipalKind :=
  match value with
  | 1 => .ok .teacher
  | 2 => .ok .studentDevice
  | 3 => .ok .administrator
  | 4 => .ok .service
  | 5 => .ok .sessionWorker
  | _ => .error (.invalidPrincipalKind value)

def permissionToU8 : Permission → UInt8
  | .viewMonitoring => 1
  | .viewInteractive => 2
  | .controlInput => 3
  | .startPresentation => 4
  | .receivePresentation => 5
  | .sendFile => 6
  | .receiveFile => 7
  | .lockDevice => 8
  | .restartDevice => 9
  | .shutdownDevice => 10
  | .manageEnrollment => 11
  | .managePolicy => 12
  | .readClipboard => 13
  | .writeClipboard => 14
  | .sendTeacherMessage => 15
  | .openTarget => 16

def permissionFromU8 (value : UInt8) : Except PersistenceError Permission :=
  match value with
  | 1 => .ok .viewMonitoring
  | 2 => .ok .viewInteractive
  | 3 => .ok .controlInput
  | 4 => .ok .startPresentation
  | 5 => .ok .receivePresentation
  | 6 => .ok .sendFile
  | 7 => .ok .receiveFile
  | 8 => .ok .lockDevice
  | 9 => .ok .restartDevice
  | 10 => .ok .shutdownDevice
  | 11 => .ok .manageEnrollment
  | 12 => .ok .managePolicy
  | 13 => .ok .readClipboard
  | 14 => .ok .writeClipboard
  | 15 => .ok .sendTeacherMessage
  | 16 => .ok .openTarget
  | _ => .error (.invalidPermission value)

def credentialStateToU8 : CredentialState → UInt8
  | .active => 1
  | .retiring => 2
  | .revoked => 3

def credentialStateFromU8 (value : UInt8) : Except PersistenceError CredentialState :=
  match value with
  | 1 => .ok .active
  | 2 => .ok .retiring
  | 3 => .ok .revoked
  | _ => .error (.invalidCredentialState value)

@[simp] theorem principalKindFromU8_toU8 (kind : PrincipalKind) :
    principalKindFromU8 (principalKindToU8 kind) = .ok kind := by
  cases kind <;> rfl

@[simp] theorem permissionFromU8_toU8 (permission : Permission) :
    permissionFromU8 (permissionToU8 permission) = .ok permission := by
  cases permission <;> rfl

@[simp] theorem credentialStateFromU8_toU8 (state : CredentialState) :
    credentialStateFromU8 (credentialStateToU8 state) = .ok state := by
  cases state <;> rfl

structure PersistedCredential where
  fingerprint : Bytes32
  state : UInt8
  issuedAtUnixMs : UInt64
  expiresAtUnixMs : Option UInt64
  revokedAtUnixMs : Option UInt64
deriving DecidableEq

namespace PersistedCredential

def fromRecord (record : CredentialRecord) : PersistedCredential where
  fingerprint := record.fingerprint.raw
  state := credentialStateToU8 record.state
  issuedAtUnixMs := record.issuedAtUnixMs
  expiresAtUnixMs := record.expiresAtUnixMs
  revokedAtUnixMs := record.revokedAtUnixMs

def intoRecord (credential : PersistedCredential) : Except PersistenceError CredentialRecord :=
  let fingerprint : CredentialFingerprint := ⟨credential.fingerprint⟩
  if credential.expiresAtUnixMs.any (· ≤ credential.issuedAtUnixMs) ||
      credential.revokedAtUnixMs.any (· < credential.issuedAtUnixMs) then
    .error (.invalidCredentialTime fingerprint)
  else
    match credentialStateFromU8 credential.state with
    | .error error => .error error
    | .ok state =>
      if decide (state = .revoked) ≠ credential.revokedAtUnixMs.isSome then
        .error (.invalidCredentialTime fingerprint)
      else
        .ok ⟨fingerprint, state, credential.issuedAtUnixMs, credential.expiresAtUnixMs, credential.revokedAtUnixMs⟩

end PersistedCredential

structure PersistedPrincipal where
  id : Bytes32
  kind : UInt8
  enabled : Bool
  permissions : List UInt8
  credentials : List PersistedCredential
deriving DecidableEq

namespace PersistedPrincipal

def fromPrincipal (principal : Principal) : PersistedPrincipal where
  id := principal.id.raw
  kind := principalKindToU8 principal.kind
  enabled := principal.enabled
  permissions := principal.permissions.toList.map permissionToU8
  credentials := principal.credentials.toList.map fun entry => .fromRecord entry.2

/-- The loop that collects permissions. -/
def readPermissions (permissions : BTreeSet Permission) :
    List UInt8 → Except PersistenceError (BTreeSet Permission)
  | [] => .ok permissions
  | value :: rest =>
    match permissionFromU8 value with
    | .error error => .error error
    | .ok permission => readPermissions (permissions.insert permission) rest

/-- The loop that collects credentials and rejects a fingerprint seen twice. -/
def readCredentials (credentials : BTreeMap CredentialFingerprint CredentialRecord) :
    List PersistedCredential → Except PersistenceError (BTreeMap CredentialFingerprint CredentialRecord)
  | [] => .ok credentials
  | credential :: rest =>
    match credential.intoRecord with
    | .error error => .error error
    | .ok record =>
      if credentials.contains record.fingerprint then .error (.duplicateCredential record.fingerprint)
      else readCredentials (credentials.insert record.fingerprint record) rest

def intoPrincipal (persisted : PersistedPrincipal) : Except PersistenceError Principal :=
  let principalId : PrincipalId := ⟨persisted.id⟩
  if maxPermissionsPerPrincipal < persisted.permissions.length then
    .error (.tooManyPermissions principalId persisted.permissions.length)
  else if maxCredentialsPerPrincipal < persisted.credentials.length then
    .error (.tooManyCredentials principalId persisted.credentials.length)
  else
    match readPermissions ∅ persisted.permissions with
    | .error error => .error error
    | .ok permissions =>
      match readCredentials ∅ persisted.credentials with
      | .error error => .error error
      | .ok credentials =>
        match principalKindFromU8 persisted.kind with
        | .error error => .error error
        | .ok kind => .ok ⟨principalId, kind, persisted.enabled, permissions, credentials⟩

end PersistedPrincipal

structure PersistedState where
  version : UInt32
  principals : List PersistedPrincipal
deriving DecidableEq

namespace PersistedState

def fromStore (store : AuthorizationStore) : PersistedState where
  version := stateVersion
  principals := store.principals.toList.map fun entry => .fromPrincipal entry.2

/-- The loop that rebuilds the store, one upsert a principal. -/
def readPrincipals (seen : BTreeSet PrincipalId) (store : AuthorizationStore) :
    List PersistedPrincipal → Except PersistenceError AuthorizationStore
  | [] => .ok store
  | persisted :: rest =>
    if seen.contains ⟨persisted.id⟩ then .error (.duplicatePrincipal ⟨persisted.id⟩)
    else
      match persisted.intoPrincipal with
      | .error error => .error error
      | .ok principal =>
        match store.upsert principal with
        | (_, .error error) => .error (.authorization error)
        | (after, .ok ()) => readPrincipals (seen.insert ⟨persisted.id⟩) after rest

def intoStore (state : PersistedState) : Except PersistenceError AuthorizationStore :=
  if state.version ≠ stateVersion then .error (.unsupportedVersion state.version)
  else if maxPrincipals < state.principals.length then .error (.tooManyPrincipals state.principals.length)
  else readPrincipals ∅ {} state.principals

end PersistedState

section Json

open PrettyJson

/-! A text of the layout that `serde_json::to_vec_pretty` documents, to run the model on concrete stores: fields in
declaration order, byte arrays as arrays of numbers. No result rests on it; they hold for every encoder. -/

def bytesJson (bytes : List UInt8) : Doc := array (bytes.map fun b => number b.toNat)

def optionJson (value : Option UInt64) : Doc := value.elim null fun v => number v.toNat

def PersistedCredential.json (credential : PersistedCredential) : Doc :=
  object [field "fingerprint" (bytesJson credential.fingerprint.bytes),
    field "state" (number credential.state.toNat),
    field "issued_at_unix_ms" (number credential.issuedAtUnixMs.toNat),
    field "expires_at_unix_ms" (optionJson credential.expiresAtUnixMs),
    field "revoked_at_unix_ms" (optionJson credential.revokedAtUnixMs)]

def PersistedPrincipal.json (persisted : PersistedPrincipal) : Doc :=
  object [field "id" (bytesJson persisted.id.bytes),
    field "kind" (number persisted.kind.toNat),
    field "enabled" (boolean persisted.enabled),
    field "permissions" (bytesJson persisted.permissions),
    field "credentials" (array (persisted.credentials.map PersistedCredential.json))]

def PersistedState.json (state : PersistedState) : Doc :=
  object [field "version" (number state.version.toNat),
    field "principals" (array (state.principals.map PersistedPrincipal.json))]

def PersistedState.prettyJson (state : PersistedState) : Option (List UInt8) :=
  some ((state.json 0).map Char.toUInt8)

end Json

end ClassMesh
