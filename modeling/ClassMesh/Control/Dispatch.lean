import ClassMesh.Control.AuthenticatedGuard
import ClassMesh.Security.CredentialIndex

namespace ClassMesh

open Foundation

/-- An action that stands for something to do. -/
structure AuthorizedSystemAction where
  action : SystemAction
  specified : action ≠ .unspecified
deriving DecidableEq

def AuthorizedSystemAction.fromValidated (action : SystemAction) :
    Except SystemActionControlError AuthorizedSystemAction :=
  if specified : action ≠ .unspecified then .ok ⟨action, specified⟩ else .error .invalidAction

inductive PrivilegedControlCommand
  | inputEvent (input : InputEvent)
  | clipboardReadRequest (requestId : UInt64)
  | clipboardWrite (textUtf8 : String)
  | presentationStart (start : PresentationStart)
  | presentationStop (stop : PresentationStop)
  | systemAction (authorized : AuthorizedSystemAction)
  | teacherInteraction (request : TeacherInteractionRequest)
  | fileTransferOffer (offer : FileTransferOffer)
  | fileTransferChunk (chunk : FileTransferChunk)
  | fileTransferFinish (finish : FileTransferFinish)
  | fileTransferCancel (cancel : FileTransferCancel)
  | fileTransferPullRequest (request : FileTransferPullRequest)
deriving DecidableEq

inductive PrivilegedDispatchError
  | unsupportedPayload
  | malformedInputEvent
  | inputSequenceMismatch (envelope input : UInt64)
  | clipboardReadRequestMissingId
  | invalidClipboardText (error : ClipboardTextError)
  | presentationRequestMissingId
  | presentationRequiresProtocolV3
  | invalidPresentation (error : PresentationControlError)
  | systemActionRequestMissingId
  | systemActionRequiresProtocolV5
  | invalidSystemAction (error : SystemActionControlError)
  | teacherInteractionRequestMissingId
  | teacherInteractionRequiresProtocolV6
  | invalidTeacherInteraction (error : TeacherInteractionError)
  | fileTransferOfferRequestMissingId
  | fileTransferRequestMissingId
  | fileTransferRequiresProtocolV7
  | fileTransferPullRequestMissingId
  | fileTransferPullRequiresProtocolV8
  | invalidFileTransferOffer (error : FileTransferError)
  | invalidFileTransferPull (error : FileTransferError)
  | invalidFileTransferChunk (error : FileTransferError)
  | invalidFileTransferFinish (error : FileTransferError)
  | invalidFileTransferCancel (error : FileTransferError)
  | authorization (error : CommandAuthorizationError)
deriving DecidableEq

abbrev Dispatched := AuthenticatedControlGuard × Except PrivilegedDispatchError PrivilegedControlCommand

section Dispatch

variable (guard : AuthenticatedControlGuard) (authorization : AuthorizationStore) (envelope : ControlEnvelope)
  (nowUnixMs : UInt64)

/-- The end of every branch: the guard is asked, and the command is made after that. -/
def authorizeCommand (permission : Permission) (command : Except PrivilegedDispatchError PrivilegedControlCommand) :
    Dispatched :=
  match guard.authorize authorization envelope permission nowUnixMs with
  | (guard, .error error) => (guard, .error (.authorization error))
  | (guard, .ok ()) => (guard, command)

/-- The branches that ask for a protocol version and a request id before they look at the payload. -/
def correlatedCommand (supported : Bool) (versionError missingId : PrivilegedDispatchError)
    (validated : Except PrivilegedDispatchError
      (Permission × Except PrivilegedDispatchError PrivilegedControlCommand)) : Dispatched :=
  if supported = false then (guard, .error versionError)
  else if envelope.requestId = 0 then (guard, .error missingId)
  else
    match validated with
    | .error error => (guard, .error error)
    | .ok (permission, command) => authorizeCommand guard authorization envelope nowUnixMs permission command

/-- The presentation branches ask for a minor version only of major version 0. -/
def presentationSupported (version : ProtocolVersion) : Bool :=
  !(version.major = 0 && version.minor < 3)

/-- The other branches ask for the major version too. -/
def ProtocolVersion.supports (version minimum : ProtocolVersion) : Bool :=
  !(version.major ≠ minimum.major || version.minor < minimum.minor)

def systemActionPermission (request : SystemActionRequest) :
    Except PrivilegedDispatchError (Permission × Except PrivilegedDispatchError PrivilegedControlCommand) :=
  match systemAction request.action with
  | .error error => .error (.invalidSystemAction error)
  | .ok action =>
    let command :=
      match AuthorizedSystemAction.fromValidated action with
      | .error error => .error (.invalidSystemAction error)
      | .ok authorized => .ok (.systemAction authorized)
    match action with
    | .lock => .ok (.lockDevice, command)
    | .restart => .ok (.restartDevice, command)
    | .shutdown => .ok (.shutdownDevice, command)
    | .unspecified => .error (.invalidSystemAction .invalidAction)

variable (isIpv6Addr : List Char → Bool)

def teacherInteractionPermission (request : TeacherInteractionRequest) :
    Except PrivilegedDispatchError (Permission × Except PrivilegedDispatchError PrivilegedControlCommand) :=
  match validateTeacherInteractionRequest isIpv6Addr request with
  | .error error => .error (.invalidTeacherInteraction error)
  | .ok .message => .ok (.sendTeacherMessage, .ok (.teacherInteraction request))
  | .ok .openTarget => .ok (.openTarget, .ok (.teacherInteraction request))
  | .ok .unspecified => .error (.invalidTeacherInteraction .missingAction)

/-- A validation followed by one command under one permission. -/
def validatedFor {ε : Type} (validation : Except ε Unit) (error : ε → PrivilegedDispatchError)
    (permission : Permission) (command : PrivilegedControlCommand) :
    Except PrivilegedDispatchError (Permission × Except PrivilegedDispatchError PrivilegedControlCommand) :=
  match validation with
  | .error reason => .error (error reason)
  | .ok () => .ok (permission, .ok command)

def fileTransferCommand (missingId : PrivilegedDispatchError)
    (validated : Except PrivilegedDispatchError
      (Permission × Except PrivilegedDispatchError PrivilegedControlCommand)) : Dispatched :=
  correlatedCommand guard authorization envelope nowUnixMs (guard.protocolVersion.supports fileTransferMinVersion)
    .fileTransferRequiresProtocolV7 missingId validated

def dispatchPrivilegedCommand : Dispatched :=
  match envelope.payload with
  | none => (guard, .error (.authorization .missingPayload))
  | some (.inputEvent input) =>
    if input.event = none then (guard, .error .malformedInputEvent)
    else if input.sequence ≠ envelope.sequence then
      (guard, .error (.inputSequenceMismatch envelope.sequence input.sequence))
    else authorizeCommand guard authorization envelope nowUnixMs .controlInput (.ok (.inputEvent input))
  | some .clipboardReadRequest =>
    if envelope.requestId = 0 then (guard, .error .clipboardReadRequestMissingId)
    else authorizeCommand guard authorization envelope nowUnixMs .readClipboard
      (.ok (.clipboardReadRequest envelope.requestId))
  | some (.clipboardWrite write) =>
    match validateWrite write with
    | .error error => (guard, .error (.invalidClipboardText error))
    | .ok () => authorizeCommand guard authorization envelope nowUnixMs .writeClipboard
        (.ok (.clipboardWrite write.textUtf8))
  | some (.presentationStart start) =>
    correlatedCommand guard authorization envelope nowUnixMs (presentationSupported guard.protocolVersion)
      .presentationRequiresProtocolV3 .presentationRequestMissingId
      (validatedFor (validatePresentationStart start) .invalidPresentation .startPresentation
        (.presentationStart start))
  | some (.presentationStop stop) =>
    correlatedCommand guard authorization envelope nowUnixMs (presentationSupported guard.protocolVersion)
      .presentationRequiresProtocolV3 .presentationRequestMissingId
      (validatedFor (validatePresentationStop stop) .invalidPresentation .startPresentation (.presentationStop stop))
  | some (.systemActionRequest request) =>
    correlatedCommand guard authorization envelope nowUnixMs (guard.protocolVersion.supports systemActionMinVersion)
      .systemActionRequiresProtocolV5 .systemActionRequestMissingId (systemActionPermission request)
  | some (.teacherInteractionRequest request) =>
    correlatedCommand guard authorization envelope nowUnixMs
      (guard.protocolVersion.supports teacherInteractionMinVersion)
      .teacherInteractionRequiresProtocolV6 .teacherInteractionRequestMissingId
      (teacherInteractionPermission isIpv6Addr request)
  | some (.fileTransferOffer offer) =>
    fileTransferCommand guard authorization envelope nowUnixMs .fileTransferOfferRequestMissingId
      (validatedFor (validateOffer offer) .invalidFileTransferOffer .sendFile (.fileTransferOffer offer))
  | some (.fileTransferChunk chunk) =>
    fileTransferCommand guard authorization envelope nowUnixMs .fileTransferRequestMissingId
      (validatedFor (validateChunk chunk) .invalidFileTransferChunk .sendFile (.fileTransferChunk chunk))
  | some (.fileTransferFinish finish) =>
    fileTransferCommand guard authorization envelope nowUnixMs .fileTransferRequestMissingId
      (validatedFor (validateFinish finish) .invalidFileTransferFinish .sendFile (.fileTransferFinish finish))
  | some (.fileTransferCancel cancel) =>
    fileTransferCommand guard authorization envelope nowUnixMs .fileTransferRequestMissingId
      (validatedFor (validateCancel cancel) .invalidFileTransferCancel .sendFile (.fileTransferCancel cancel))
  | some (.fileTransferPullRequest request) =>
    correlatedCommand guard authorization envelope nowUnixMs
      (guard.protocolVersion.supports fileTransferPullMinVersion)
      .fileTransferPullRequiresProtocolV8 .fileTransferPullRequestMissingId
      (validatedFor (validatePullRequest request) .invalidFileTransferPull .receiveFile
        (.fileTransferPullRequest request))
  | some _ => (guard, .error .unsupportedPayload)

end Dispatch

/-- The permission that a payload is mapped to. -/
def ControlPayload.requiredPermission : ControlPayload → Option Permission
  | .inputEvent _ => some .controlInput
  | .clipboardReadRequest => some .readClipboard
  | .clipboardWrite _ => some .writeClipboard
  | .presentationStart _ | .presentationStop _ => some .startPresentation
  | .systemActionRequest request =>
    match SystemAction.tryFrom request.action with
    | some .lock => some .lockDevice
    | some .restart => some .restartDevice
    | some .shutdown => some .shutdownDevice
    | _ => none
  | .teacherInteractionRequest request =>
    match request.action with
    | some (.message _) => some .sendTeacherMessage
    | some (.openTarget _) => some .openTarget
    | none => none
  | .fileTransferOffer _ | .fileTransferChunk _ | .fileTransferFinish _ | .fileTransferCancel _ => some .sendFile
  | .fileTransferPullRequest _ => some .receiveFile
  | _ => none

def PrivilegedDispatchError.isUnauthorized : PrivilegedDispatchError → Bool
  | .authorization (.unauthorized _) => true
  | _ => false

section Outcome

variable {guard : AuthenticatedControlGuard} {authorization : AuthorizationStore} {envelope : ControlEnvelope}
  {nowUnixMs : UInt64} {payload : ControlPayload}

/-- A dispatch either stops before the guard is asked, or asks it for the permission of the payload. -/
inductive DispatchOutcome (guard : AuthenticatedControlGuard) (authorization : AuthorizationStore)
    (envelope : ControlEnvelope) (nowUnixMs : UInt64) : Dispatched → Prop
  | stopped {error : PrivilegedDispatchError} (other : error.isUnauthorized = false) :
      DispatchOutcome guard authorization envelope nowUnixMs (guard, .error error)
  | asked {payload : ControlPayload} {permission : Permission} (command : PrivilegedControlCommand)
      (carried : envelope.payload = some payload) (mapped : payload.requiredPermission = some permission) :
      DispatchOutcome guard authorization envelope nowUnixMs
        (authorizeCommand guard authorization envelope nowUnixMs permission (.ok command))

/-- A validation that names the permission of its payload and has a command for it, or fails for a reason of its
own. -/
inductive PreparedFor (payload : ControlPayload) :
    Except PrivilegedDispatchError (Permission × Except PrivilegedDispatchError PrivilegedControlCommand) → Prop
  | failed {error : PrivilegedDispatchError} (other : error.isUnauthorized = false) : PreparedFor payload (.error error)
  | ready {permission : Permission} (command : PrivilegedControlCommand)
      (mapped : payload.requiredPermission = some permission) : PreparedFor payload (.ok (permission, .ok command))

theorem validatedFor_prepared {ε : Type} {permission : Permission}
    (mapped : payload.requiredPermission = some permission) (validation : Except ε Unit)
    {error : ε → PrivilegedDispatchError} (other : ∀ reason, (error reason).isUnauthorized = false)
    (command : PrivilegedControlCommand) : PreparedFor payload (validatedFor validation error permission command) := by
  cases validation with
  | error reason => exact .failed (other reason)
  | ok => exact .ready command mapped

theorem systemActionPermission_prepared (request : SystemActionRequest) :
    PreparedFor (.systemActionRequest request) (systemActionPermission request) := by
  unfold systemActionPermission systemAction
  cases read : SystemAction.tryFrom request.action with
  | none => exact .failed rfl
  | some action =>
    cases action with
    | unspecified => exact .failed rfl
    | lock | restart | shutdown => exact .ready _ (by simp only [ControlPayload.requiredPermission, read])

theorem validateTeacherInteractionRequest_ok {isIpv6Addr : List Char → Bool} {request : TeacherInteractionRequest}
    {kind : TeacherInteractionKind} (valid : validateTeacherInteractionRequest isIpv6Addr request = .ok kind) :
    (∃ textUtf8, request.action = some (.message textUtf8) ∧ kind = .message) ∨
      (∃ target, request.action = some (.openTarget target) ∧ kind = .openTarget) := by
  unfold validateTeacherInteractionRequest at valid
  split at valid
  · cases valid
  case h_2 textUtf8 read =>
    cases validated : validateMessage textUtf8 with
    | error => simp [validated, Except.map] at valid
    | ok =>
      simp only [validated, Except.map, Except.ok.injEq] at valid
      exact .inl ⟨textUtf8, read, valid.symm⟩
  case h_3 target read =>
    cases validated : validateOpenTarget isIpv6Addr target with
    | error => simp [validated, Except.map] at valid
    | ok =>
      simp only [validated, Except.map, Except.ok.injEq] at valid
      exact .inr ⟨target, read, valid.symm⟩

theorem teacherInteractionPermission_prepared (isIpv6Addr : List Char → Bool) (request : TeacherInteractionRequest) :
    PreparedFor (.teacherInteractionRequest request) (teacherInteractionPermission isIpv6Addr request) := by
  unfold teacherInteractionPermission
  cases validated : validateTeacherInteractionRequest isIpv6Addr request with
  | error => exact .failed rfl
  | ok =>
    rcases validateTeacherInteractionRequest_ok validated with ⟨_, read, rfl⟩ | ⟨_, read, rfl⟩
    · exact .ready _ (by simp only [ControlPayload.requiredPermission, read])
    · exact .ready _ (by simp only [ControlPayload.requiredPermission, read])

theorem correlatedCommand_outcome (carried : envelope.payload = some payload) {supported : Bool}
    {versionError missingId : PrivilegedDispatchError} (otherVersion : versionError.isUnauthorized = false)
    (otherId : missingId.isUnauthorized = false)
    {validated : Except PrivilegedDispatchError
      (Permission × Except PrivilegedDispatchError PrivilegedControlCommand)}
    (prepared : PreparedFor payload validated) :
    DispatchOutcome guard authorization envelope nowUnixMs
      (correlatedCommand guard authorization envelope nowUnixMs supported versionError missingId validated) := by
  unfold correlatedCommand
  split
  · exact .stopped otherVersion
  split
  · exact .stopped otherId
  cases prepared with
  | failed other => exact .stopped other
  | ready command mapped => exact .asked command carried mapped

/-- What a dispatch returns, by the payload of the envelope. Every branch of the source ends in one of the cases, so
that later proofs do not unfold it. -/
theorem dispatch_outcome (isIpv6Addr : List Char → Bool) :
    DispatchOutcome guard authorization envelope nowUnixMs
      (dispatchPrivilegedCommand guard authorization envelope nowUnixMs isIpv6Addr) := by
  unfold dispatchPrivilegedCommand
  split
  · exact .stopped rfl
  case h_2 input carried =>
    split
    · exact .stopped rfl
    split
    · exact .stopped rfl
    · exact .asked _ carried rfl
  case h_3 carried =>
    split
    · exact .stopped rfl
    · exact .asked _ carried rfl
  case h_4 write carried =>
    split
    · exact .stopped rfl
    · exact .asked _ carried rfl
  case h_7 request carried =>
    exact correlatedCommand_outcome carried rfl rfl (systemActionPermission_prepared request)
  case h_8 request carried =>
    exact correlatedCommand_outcome carried rfl rfl (teacherInteractionPermission_prepared isIpv6Addr request)
  case h_14 => exact .stopped rfl
  all_goals
    rename_i carried
    exact correlatedCommand_outcome carried rfl rfl (validatedFor_prepared rfl _ (fun _ => rfl) _)

end Outcome

/-- One use of the guard, with whatever store and time the caller passes. -/
inductive GuardInput
  | validate (envelope : ControlEnvelope)
  | authorize (authorization : AuthorizationStore) (envelope : ControlEnvelope) (permission : Permission)
      (nowUnixMs : UInt64)
  | dispatch (authorization : AuthorizationStore) (envelope : ControlEnvelope) (nowUnixMs : UInt64)

inductive GuardReply
  | answered (result : Except CommandAuthorizationError Unit)
  | dispatched (result : Except PrivilegedDispatchError PrivilegedControlCommand)
deriving DecidableEq

abbrev GuardCall := Call AuthenticatedControlGuard GuardInput GuardReply

def GuardInput.envelope : GuardInput → ControlEnvelope
  | .validate envelope => envelope
  | .authorize _ envelope _ _ => envelope
  | .dispatch _ envelope _ => envelope

def AuthenticatedControlGuard.step (isIpv6Addr : List Char → Bool) (guard : AuthenticatedControlGuard) :
    GuardInput → AuthenticatedControlGuard × GuardReply
  | .validate envelope => (guard.validateEnvelope envelope).map id .answered
  | .authorize authorization envelope permission nowUnixMs =>
    (guard.authorize authorization envelope permission nowUnixMs).map id .answered
  | .dispatch authorization envelope nowUnixMs =>
    (dispatchPrivilegedCommand guard authorization envelope nowUnixMs isIpv6Addr).map id .dispatched

namespace GuardReply

/-- The reply is a refusal for lack of permission. -/
def isUnauthorized : GuardReply → Bool
  | .answered (.error (.unauthorized _)) => true
  | .dispatched (.error error) => error.isUnauthorized
  | _ => false

/-- The reply is an error of any other kind. -/
def isOtherError : GuardReply → Bool
  | .answered (.error (.unauthorized _)) => false
  | .answered (.error _) => true
  | .dispatched (.error error) => !error.isUnauthorized
  | _ => false

def command : GuardReply → Option PrivilegedControlCommand
  | .dispatched (.ok command) => some command
  | _ => none

variable {reply : GuardReply}

theorem not_isOtherError_of_command (returned : reply.command ≠ none) : reply.isOtherError = false := by
  cases reply with
  | answered => exact absurd rfl returned
  | dispatched result =>
    cases result with
    | error => exact absurd rfl returned
    | ok => rfl

theorem not_isOtherError_of_isUnauthorized (refused : reply.isUnauthorized = true) : reply.isOtherError = false := by
  rcases reply with (error | _) | (error | _)
  · cases error <;> first | rfl | cases refused
  · rfl
  · simpa [isOtherError, isUnauthorized] using refused
  · rfl

end GuardReply

/-- A command that the peer may give: the payload is mapped to a permission which the peer's principal holds, in the
store and at the time passed. -/
def GuardInput.Permitted (input : GuardInput) (peer : AuthenticatedPeerIdentity) : Prop :=
  ∃ authorization nowUnixMs payload permission, input = .dispatch authorization input.envelope nowUnixMs ∧
    input.envelope.payload = some payload ∧ payload.requiredPermission = some permission ∧
    peer.Authorized authorization permission nowUnixMs

section History

open AuthenticatedControlGuard

variable {isIpv6Addr : List Char → Bool} {guard after : AuthenticatedControlGuard} {input : GuardInput}
  {reply : GuardReply}

/-- One use of the guard: an error other than a refusal keeps it as it is, everything else moves it to the
sequence of the envelope, and a command is returned only for what the peer holds. -/
inductive GuardOutcome (guard : AuthenticatedControlGuard) (input : GuardInput) :
    GuardReply → AuthenticatedControlGuard → Prop
  | kept {reply : GuardReply} (other : reply.isOtherError = true) : GuardOutcome guard input reply guard
  | moved {reply : GuardReply} (admits : guard.Admits input.envelope) (success : reply.isOtherError = false)
      (noCommand : reply.command = none) :
      GuardOutcome guard input reply { guard with lastSequence := input.envelope.sequence }
  | commanded {payload : ControlPayload} {permission : Permission} {authorization : AuthorizationStore}
      {nowUnixMs : UInt64} {command : PrivilegedControlCommand} (admits : guard.Admits input.envelope)
      (dispatch : input = .dispatch authorization input.envelope nowUnixMs)
      (carried : input.envelope.payload = some payload) (mapped : payload.requiredPermission = some permission)
      (authorized : guard.peer.Authorized authorization permission nowUnixMs) :
      GuardOutcome guard input (.dispatched (.ok command))
        { guard with lastSequence := input.envelope.sequence }

theorem AuthenticatedControlGuard.Consumption.outcome {result : Except CommandAuthorizationError Unit}
    (consumption : Consumption guard input.envelope after (consumes result)) :
    GuardOutcome guard input (.answered result) after := by
  generalize consumedBy : consumes result = consumed at consumption
  cases consumption with
  | consumed admits =>
    refine .moved admits ?_ rfl
    rcases result with error | _
    · cases error <;> first | rfl | cases consumedBy
    · rfl
  | kept =>
    refine .kept ?_
    rcases result with error | _
    · cases error <;> first | rfl | cases consumedBy
    · cases consumedBy

theorem dispatch_guardOutcome {authorization : AuthorizationStore} {envelope : ControlEnvelope} {nowUnixMs : UInt64}
    {dispatched : Dispatched} (outcome : DispatchOutcome guard authorization envelope nowUnixMs dispatched) :
    GuardOutcome guard (.dispatch authorization envelope nowUnixMs) (.dispatched dispatched.2) dispatched.1 := by
  cases outcome with
  | stopped other => exact .kept (by simp [GuardReply.isOtherError, other])
  | @asked payload permission command carried mapped =>
    have consumption := guard.authorize_consumption authorization envelope permission nowUnixMs
    unfold authorizeCommand
    generalize answer : guard.authorize authorization envelope permission nowUnixMs = answered at consumption ⊢
    obtain ⟨moved, result⟩ := answered
    cases result with
    | ok =>
      obtain ⟨admits, rfl, authorized⟩ := authorize_ok answer
      exact .commanded admits rfl carried mapped authorized
    | error error =>
      generalize consumedBy : consumes (.error error) = consumed at consumption
      cases consumption with
      | consumed admits =>
        refine .moved admits ?_ rfl
        cases error <;> first | rfl | cases consumedBy
      | kept =>
        refine .kept ?_
        cases error <;> first | rfl | cases consumedBy

theorem step_outcome (taken : Total (AuthenticatedControlGuard.step isIpv6Addr) guard input reply after) :
    GuardOutcome guard input reply after := by
  cases input with
  | validate envelope =>
    cases taken
    exact (validateEnvelope_consumption guard envelope).outcome
  | authorize authorization envelope permission nowUnixMs =>
    cases taken
    exact (guard.authorize_consumption authorization envelope permission nowUnixMs).outcome
  | dispatch =>
    cases taken
    exact dispatch_guardOutcome (dispatch_outcome isIpv6Addr)

theorem ne_of_lastSequence_lt (newer : guard.lastSequence < after.lastSequence) : after ≠ guard := by
  rintro rfl
  exact UInt64.lt_irrefl _ newer

namespace GuardOutcome

variable (outcome : GuardOutcome guard input reply after)

include outcome

theorem eq_of_isOtherError (other : reply.isOtherError = true) : after = guard := by
  cases outcome with
  | kept => rfl
  | moved _ success => rw [success] at other; cases other
  | commanded => cases other

theorem ne_of_not_isOtherError (success : reply.isOtherError = false) : after ≠ guard := by
  cases outcome with
  | kept other => rw [success] at other; cases other
  | moved admits => exact ne_of_lastSequence_lt admits.newer
  | commanded admits => exact ne_of_lastSequence_lt admits.newer

theorem lastSequence_of_ne (moved : after ≠ guard) :
    after.lastSequence = input.envelope.sequence ∧ guard.lastSequence < input.envelope.sequence := by
  cases outcome with
  | kept => exact absurd rfl moved
  | moved admits => exact ⟨rfl, admits.newer⟩
  | commanded admits => exact ⟨rfl, admits.newer⟩

theorem peer_eq : after.peer = guard.peer := by
  cases outcome <;> rfl

theorem permitted (returned : reply.command ≠ none) : input.Permitted guard.peer := by
  cases outcome with
  | kept other =>
    rw [GuardReply.not_isOtherError_of_command returned] at other
    cases other
  | moved _ _ noCommand => exact absurd noCommand returned
  | commanded _ dispatch carried mapped authorized => exact ⟨_, _, _, _, dispatch, carried, mapped, authorized⟩

end GuardOutcome

end History

/-- The sequences of the calls that moved the guard, and so used one up. -/
def consumedSequences (past : List GuardCall) : List UInt64 :=
  (past.filter fun call => call.after ≠ call.before).map (·.input.envelope.sequence)

theorem consumedSequences_append (earlier later : List GuardCall) :
    consumedSequences (earlier ++ later) = consumedSequences earlier ++ consumedSequences later := by
  simp [consumedSequences]

theorem consumedSequences_cons_of_ne {call : GuardCall} (moved : call.after ≠ call.before) (later : List GuardCall) :
    consumedSequences (call :: later) = call.input.envelope.sequence :: consumedSequences later := by
  simp [consumedSequences, moved]

variable {past : List GuardCall} {initial guard : AuthenticatedControlGuard}

theorem mem_consumedSequences {call : GuardCall} (member : call ∈ past) (moved : call.after ≠ call.before) :
    call.input.envelope.sequence ∈ consumedSequences past :=
  List.mem_map_of_mem (List.mem_filter.mpr ⟨member, by simpa using moved⟩)

/-- Where the guard stands after its calls. -/
structure GuardHistory (initial : AuthenticatedControlGuard) (past : List GuardCall)
    (guard : AuthenticatedControlGuard) :
    Prop where
  peer : guard.peer = initial.peer
  grown : initial.lastSequence ≤ guard.lastSequence
  increasing : (consumedSequences past).Pairwise (· < ·)
  above : ∀ sequence ∈ consumedSequences past, initial.lastSequence < sequence
  upTo : ∀ sequence ∈ consumedSequences past, sequence ≤ guard.lastSequence

/-- One call keeps the account of the guard: a sequence is consumed only if it is above all those before, whatever the
outcome of the command. -/
theorem GuardHistory.next {after : AuthenticatedControlGuard} {input : GuardInput} {reply : GuardReply}
    (history : GuardHistory initial past guard) (outcome : GuardOutcome guard input reply after) :
    GuardHistory initial (past ++ [⟨guard, input, reply, after⟩]) after := by
  obtain ⟨peer, grown, increasing, above, upTo⟩ := history
  have samePeer := outcome.peer_eq.trans peer
  by_cases moved : after = guard
  · subst moved
    have same : consumedSequences (past ++ [⟨after, input, reply, after⟩]) = consumedSequences past := by
      simp [consumedSequences]
    rw [← same] at increasing above upTo
    exact ⟨samePeer, grown, increasing, above, upTo⟩
  · obtain ⟨last, newer⟩ := outcome.lastSequence_of_ne moved
    have added : consumedSequences (past ++ [⟨guard, input, reply, after⟩]) =
        consumedSequences past ++ [input.envelope.sequence] := by
      rw [consumedSequences_append, consumedSequences_cons_of_ne moved]
      rfl
    have aboveInitial := UInt64.lt_of_le_of_lt grown newer
    refine ⟨samePeer, ?_, ?_, ?_, ?_⟩
    · rw [last]
      exact UInt64.le_of_lt aboveInitial
    · rw [added, List.pairwise_append]
      refine ⟨increasing, List.pairwise_singleton _ _, ?_⟩
      intro sequence earlier current here
      rw [List.mem_singleton.mp here]
      exact UInt64.lt_of_le_of_lt (upTo sequence earlier) newer
    · rw [added]
      exact forall_mem_concat above aboveInitial
    · rw [added, last]
      refine forall_mem_concat (fun sequence earlier => ?_) (UInt64.le_refl _)
      exact UInt64.le_of_lt (UInt64.lt_of_le_of_lt (upTo sequence earlier) newer)

theorem GuardHistory.of_run {isIpv6Addr : List Char → Bool}
    (run : Run (Total (AuthenticatedControlGuard.step isIpv6Addr)) initial past guard) :
    GuardHistory initial past guard := by
  induction run with
  | start => exact ⟨rfl, UInt64.le_refl _, .nil, by simp [consumedSequences], by simp [consumedSequences]⟩
  | next _ taken ih => exact ih.next (step_outcome taken)

/-- Over any uses of one guard, with stores and times that change at will, sequences are consumed in increasing
order, no sequence gives two commands or a command after a refusal, every command was permitted when it was given,
and an error other than a refusal leaves the guard as it was. -/
theorem commands_exactly_once {isIpv6Addr : List Char → Bool} {initial guard : AuthenticatedControlGuard}
    {past : List GuardCall} (run : Run (Total (AuthenticatedControlGuard.step isIpv6Addr)) initial past guard) :
    (consumedSequences past).Pairwise (· < ·) ∧
      (∀ sequence ∈ consumedSequences past, initial.lastSequence < sequence) ∧
      (∀ earlier call later, past = earlier ++ call :: later →
        (call.reply.command ≠ none ∨ call.reply.isUnauthorized = true) →
        ∀ other ∈ later, other.reply.command ≠ none →
          other.input.envelope.sequence ≠ call.input.envelope.sequence) ∧
      (∀ call ∈ past, call.reply.command ≠ none → call.input.Permitted initial.peer) ∧
      (∀ call ∈ past, call.reply.isOtherError = true → call.after = call.before) := by
  have history := GuardHistory.of_run run
  refine ⟨history.increasing, history.above, ?_, ?_, ?_⟩
  · intro earlier call later cut consumed other member commanded same
    obtain ⟨_, taken, rest⟩ := run.split cut
    obtain ⟨_, _, _, _, takenOther, _⟩ := rest.of_mem member
    have moved : call.after ≠ call.before := by
      refine (step_outcome taken).ne_of_not_isOtherError ?_
      rcases consumed with returned | refused
      · exact GuardReply.not_isOtherError_of_command returned
      · exact GuardReply.not_isOtherError_of_isUnauthorized refused
    have movedOther : other.after ≠ other.before :=
      (step_outcome takenOther).ne_of_not_isOtherError (GuardReply.not_isOtherError_of_command commanded)
    have ordered := history.increasing
    rw [cut, consumedSequences_append, consumedSequences_cons_of_ne moved, List.pairwise_append,
      List.pairwise_cons] at ordered
    have newer := ordered.2.1.1 _ (mem_consumedSequences member movedOther)
    rw [same] at newer
    exact UInt64.lt_irrefl _ newer
  · intro call member commanded
    obtain ⟨_, _, _, reached, taken, _⟩ := run.of_mem member
    have permitted := (step_outcome taken).permitted commanded
    rwa [(GuardHistory.of_run reached).peer] at permitted
  · intro call member other
    obtain ⟨_, _, _, _, taken, _⟩ := run.of_mem member
    exact (step_outcome taken).eq_of_isOtherError other

section Sample

def sampleClipboardRead (sequence : UInt64) : ControlEnvelope where
  controlSessionId := 1
  sequence := sequence
  protocolVersion := some ⟨0, 8⟩
  requestId := 1
  payload := some .clipboardReadRequest

def sampleGuard : AuthenticatedControlGuard := ⟨⟨⟨.replicate 2⟩, sampleFingerprint⟩, 1, ⟨0, 8⟩, 0⟩

/-- A request is refused, repeated after the permission was granted, and made anew. -/
theorem commands_exactly_once_granted_later : ∃ past guard,
    Run (Total (AuthenticatedControlGuard.step fun _ => false)) sampleGuard past guard ∧
      past.map (·.reply) = [.dispatched (.error (.authorization (.unauthorized .readClipboard))),
        .dispatched (.error (.authorization (.nonIncreasingSequence 1 1))),
        .dispatched (.ok (.clipboardReadRequest 1))] ∧
      (consumedSequences past).Pairwise (· < ·) := by
  let granted : AuthorizationStore := (AuthorizationStore.upsert {}
    { sampleHolder 2 with permissions := (∅ : BTreeSet Permission).insert .readClipboard }).1
  have run := Run.of_calls (AuthenticatedControlGuard.step fun _ => false) sampleGuard
    [.dispatch {} (sampleClipboardRead 1) 10, .dispatch granted (sampleClipboardRead 1) 10,
      .dispatch granted (sampleClipboardRead 2) 10]
  exact ⟨_, _, run, by decide +kernel, (commands_exactly_once run).1⟩

end Sample

end ClassMesh
