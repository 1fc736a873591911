import ClassMesh.Foundation.OrderedMap

namespace ClassMesh

open Std

structure PrincipalId where
  raw : Bytes32
deriving DecidableEq

structure CredentialFingerprint where
  raw : Bytes32
deriving DecidableEq

instance : Ord PrincipalId := ⟨compareOn PrincipalId.raw⟩

instance : TransOrd PrincipalId := inferInstanceAs (TransCmp (compareOn PrincipalId.raw))

instance : LawfulEqOrd PrincipalId where
  eq_of_compare {a b} same := by
    cases a
    cases b
    exact congrArg PrincipalId.mk (LawfulEqOrd.eq_of_compare (α := Bytes32) same)

instance : Ord CredentialFingerprint := ⟨compareOn CredentialFingerprint.raw⟩

instance : TransOrd CredentialFingerprint :=
  inferInstanceAs (TransCmp (compareOn CredentialFingerprint.raw))

instance : LawfulEqOrd CredentialFingerprint where
  eq_of_compare {a b} same := by
    cases a
    cases b
    exact congrArg CredentialFingerprint.mk (LawfulEqOrd.eq_of_compare (α := Bytes32) same)

inductive PrincipalKind
  | teacher
  | studentDevice
  | administrator
  | service
  | sessionWorker
deriving DecidableEq, Repr

inductive Permission
  | viewMonitoring
  | viewInteractive
  | controlInput
  | startPresentation
  | receivePresentation
  | sendFile
  | receiveFile
  | lockDevice
  | restartDevice
  | shutdownDevice
  | manageEnrollment
  | managePolicy
  | readClipboard
  | writeClipboard
  | sendTeacherMessage
  | openTarget
deriving DecidableEq, Repr, Ord

instance : TransOrd Permission := inferInstanceAs (TransCmp (compareOn Permission.ctorIdx))

instance : LawfulEqOrd Permission where
  eq_of_compare {a b} same := by
    have index : a.ctorIdx = b.ctorIdx := LawfulEqOrd.eq_of_compare (α := Nat) same
    cases a <;> cases b <;> first | rfl | exact absurd index (by decide)

inductive CredentialState
  | active
  | retiring
  | revoked
deriving DecidableEq, Repr

structure CredentialRecord where
  fingerprint : CredentialFingerprint
  state : CredentialState
  issuedAtUnixMs : UInt64
  expiresAtUnixMs : Option UInt64
  revokedAtUnixMs : Option UInt64
deriving DecidableEq

namespace CredentialRecord

def active (fingerprint : CredentialFingerprint) (issuedAtUnixMs : UInt64) : CredentialRecord where
  fingerprint := fingerprint
  state := .active
  issuedAtUnixMs := issuedAtUnixMs
  expiresAtUnixMs := none
  revokedAtUnixMs := none

def isAcceptedAt (record : CredentialRecord) (nowUnixMs : UInt64) : Bool :=
  if nowUnixMs < record.issuedAtUnixMs then false
  else if record.state = .revoked then false
  else if record.revokedAtUnixMs.any (· ≤ nowUnixMs) then false
  else if record.expiresAtUnixMs.any (· ≤ nowUnixMs) then false
  else true

def markRetiring (record : CredentialRecord) : CredentialRecord :=
  if record.state = .active then { record with state := .retiring } else record

def revoke (record : CredentialRecord) (nowUnixMs : UInt64) : CredentialRecord :=
  { record with state := .revoked, revokedAtUnixMs := some nowUnixMs }

end CredentialRecord

inductive CredentialMutationError
  | duplicateCredential
  | credentialNotFound
  | replacementMustBeActive
  | invalidRotationOverlapDeadline
deriving DecidableEq, Repr

structure Principal where
  id : PrincipalId
  kind : PrincipalKind
  enabled : Bool
  permissions : BTreeSet Permission
  credentials : BTreeMap CredentialFingerprint CredentialRecord
deriving DecidableEq

namespace Principal

variable (principal : Principal)

def allows (permission : Permission) : Bool :=
  principal.enabled && principal.permissions.contains permission

def acceptsCredential (fingerprint : CredentialFingerprint) (nowUnixMs : UInt64) : Bool :=
  principal.enabled && principal.credentials[fingerprint]?.any (·.isAcceptedAt nowUnixMs)

def addCredential (credential : CredentialRecord) : Principal × Except CredentialMutationError Unit :=
  if principal.credentials.contains credential.fingerprint then
    (principal, .error .duplicateCredential)
  else
    ({ principal with
        credentials := principal.credentials.insert credential.fingerprint credential }, .ok ())

/-- What a rotation does to each credential that was there before it. -/
def boundOverlap (overlapUntilUnixMs : UInt64) (credential : CredentialRecord) : CredentialRecord :=
  { credential.markRetiring with
    expiresAtUnixMs := some (credential.expiresAtUnixMs.elim overlapUntilUnixMs
      (fun current => min current overlapUntilUnixMs)) }

def rotateToBounded (replacement : CredentialRecord) (overlapUntilUnixMs : UInt64) :
    Principal × Except CredentialMutationError Unit :=
  if overlapUntilUnixMs ≤ replacement.issuedAtUnixMs then
    (principal, .error .invalidRotationOverlapDeadline)
  else if replacement.state ≠ .active then
    (principal, .error .replacementMustBeActive)
  else if principal.credentials.contains replacement.fingerprint then
    (principal, .error .duplicateCredential)
  else
    let bounded := principal.credentials.map (fun _ credential => boundOverlap overlapUntilUnixMs credential)
    ({ principal with credentials := bounded.insert replacement.fingerprint replacement }, .ok ())

def revokeCredential (fingerprint : CredentialFingerprint) (nowUnixMs : UInt64) :
    Principal × Except CredentialMutationError Unit :=
  match principal.credentials[fingerprint]? with
  | none => (principal, .error .credentialNotFound)
  | some credential =>
    ({ principal with
        credentials := principal.credentials.insert fingerprint (credential.revoke nowUnixMs) }, .ok ())

end Principal

end ClassMesh
