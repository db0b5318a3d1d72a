/-!
# Types of the authentication module

The enumerations, the configuration and the handle structure of `eventhubauth.h` and
`eventhubauth.c`. A `STRING_HANDLE` is an identifier with the text it holds; the strings a
handle has created are counted in a `StringHeap`, which records every use of a string that is
no longer alive.

## Main definitions

* `EventHubAuthStatus`, `EventHubAuthResult`, `EventHubAuthCredentialType`, `EventHubAuthMode`.
* `EventHubAuthCBSConfig`, `EventHubAuthCBSStruct`.
* `AuthEvent` — what the module shows to the outside: statuses and token puts.
* `AuthModule` — the interface through which the sender and the receiver drive it.
* `AuthOutcome` — what their authentication functions report.
-/

namespace EventHubs

/-- `EVENTHUBAUTH_RESULT`. -/
inductive EventHubAuthResult
  | ok
  | invalidArg
  | notPermited
  | error
  deriving DecidableEq, Repr

/-- `EVENTHUBAUTH_STATUS`. -/
inductive EventHubAuthStatus
  | ok
  | idle
  | inProgress
  | timeout
  | refreshRequired
  | expired
  | failure
  deriving DecidableEq, Repr

/-- `EVENTHUBAUTH_MODE`. -/
inductive EventHubAuthMode
  | unknown
  | sender
  | receiver
  deriving DecidableEq, Repr

/-- `EVENTHUBAUTH_CREDENTIAL_TYPE`. -/
inductive EventHubAuthCredentialType
  | unknown
  | sasTokenExt
  | sasTokenAuto
  deriving DecidableEq, Repr

/-- `EVENTHUBAUTH_OP`. -/
inductive EventHubAuthOp
  | none
  | put
  | delete
  deriving DecidableEq, Repr

/-- `CBS_OPERATION_RESULT` of uAMQP. -/
inductive CBSOperationResult
  | ok
  | cbsError
  | operationFailed
  | instanceClosed
  deriving DecidableEq, Repr

/-- A non-NULL handle to an object created by uAMQP or by the utility library. -/
abbrev Handle := Nat

/-! ### Strings -/

/-- A non-NULL `STRING_HANDLE`: its identity and the text it holds. -/
structure StringHandle where
  id : Nat
  text : String
  deriving DecidableEq, Repr

/-- The strings created so far: the next identity, those alive, and every identity that was
deleted or read when it was no longer alive. -/
structure StringHeap where
  next : Nat := 0
  live : List Nat := []
  faults : List Nat := []
  deriving DecidableEq, Repr

namespace StringHeap

/-- `STRING_construct`, `STRING_clone` or another creating call that succeeds. -/
def create (h : StringHeap) (text : String) : StringHandle × StringHeap :=
  (⟨h.next, text⟩, { h with next := h.next + 1, live := h.next :: h.live })

/-- `STRING_delete`. -/
def delete (h : StringHeap) (s : StringHandle) : StringHeap :=
  if s.id ∈ h.live then { h with live := h.live.erase s.id }
  else { h with faults := s.id :: h.faults }

/-- `STRING_delete` behind a NULL test. -/
def deleteIf (h : StringHeap) : Option StringHandle → StringHeap
  | none => h
  | some s => h.delete s

/-- The look at a string that `STRING_c_str` or `STRING_compare` takes. -/
def touch (h : StringHeap) (s : StringHandle) : StringHeap :=
  if s.id ∈ h.live then h else { h with faults := s.id :: h.faults }

/-- The look at a string field, which does nothing to NULL. -/
def touchIf (h : StringHeap) : Option StringHandle → StringHeap
  | none => h
  | some s => h.touch s

end StringHeap

/-! ### Configuration and handle -/

/-- `EVENTHUBAUTH_CBS_CONFIG`; `none` is a NULL `STRING_HANDLE`. -/
structure EventHubAuthCBSConfig where
  hostName : Option String := none
  eventHubPath : Option String := none
  receiverConsumerGroup : Option String := none
  receiverPartitionId : Option String := none
  senderPublisherId : Option String := none
  sharedAccessKeyName : Option String := none
  sharedAccessKey : Option String := none
  extSASToken : Option String := none
  extSASTokenURI : Option String := none
  extSASTokenExpTSInEpochSec : UInt64 := 0
  sasTokenExpirationTimeInSec : UInt32 := 0
  sasTokenRefreshPeriodInSecs : UInt32 := 0
  sasTokenAuthFailureTimeoutInSecs : UInt32 := 0
  mode : EventHubAuthMode := .unknown
  credential : EventHubAuthCredentialType := .unknown
  deriving DecidableEq

/-- What the environment contributes to `EventHubClient_LL_RefreshSASTokenAsync` or
`EventHubReceiver_LL_RefreshSASTokenAsync`: the result of `EventHubAuthCBS_SASTokenParse` and
whether `STRING_construct` succeeds. -/
structure RefreshEnv where
  parsed : Option EventHubAuthCBSConfig
  constructs : Bool := true

/-- `EVENTHUBAUTH_CBS_STRUCT`, with the strings the handle has created. The defaults are the
zeros that `memset` writes. -/
structure EventHubAuthCBSStruct where
  uri : Option StringHandle := none
  encodedURI : Option StringHandle := none
  sasTokenHandle : Option StringHandle := none
  sharedAccessKeyName : Option StringHandle := none
  encodedSASKeyValue : Option StringHandle := none
  extSASToken : Option StringHandle := none
  extSASTokenURI : Option StringHandle := none
  extSASTokenExpTSInEpochSec : UInt64 := 0
  sasTokenExpirationTimeInSec : UInt32 := 0
  sasTokenRefreshPeriodInSecs : UInt32 := 0
  sasTokenAuthFailureTimeoutInSecs : UInt32 := 0
  cbsAuthCompleteTimestamp : UInt64 := 0
  sasTokenCreateTimestamp : UInt64 := 0
  sasTokenPutTime : UInt64 := 0
  cbsHandle : Option Handle := none
  cbsStatus : EventHubAuthStatus := .ok
  cbOperation : EventHubAuthOp := .none
  credential : EventHubAuthCredentialType := .unknown
  strings : StringHeap := {}
  deriving DecidableEq

/-! ### What the module shows -/

/-- One call of `cbs_put_token_async`: its URI and token texts, the clock reading of the
`EventHubAuthCBS_Authenticate` that makes it, the second at which the token expires, as an exact
integer, and whether the call succeeded. -/
structure PutToken where
  uri : String
  sasToken : String
  now : UInt64
  expiry : Nat
  accepted : Bool
  deriving DecidableEq, Repr

/-- What the module shows, in the order in which it happens. A status comes with the clock
reading it was computed from, `none` when the clock was not read or could not be. -/
inductive AuthEvent
  | status (reading : Option UInt64) (result : EventHubAuthResult) (status : EventHubAuthStatus)
  | put (p : PutToken)
  | putComplete (r : CBSOperationResult)
  deriving DecidableEq, Repr

/-- The accepted puts among some events of the authentication. -/
def acceptedPuts (events : List AuthEvent) : Nat :=
  events.countP fun
    | .put p => p.accepted
    | _ => false

/-- What a call on an auth handle leaves: its return value, the handle, what it showed. -/
structure Answer (σ α : Type) where
  value : α
  handle : σ
  events : List AuthEvent := []

/-- The interface of the module: `σ` is what a handle points to and `ι` what the environment
contributes to a call. `EventHubAuthCBS_Destroy` ends the handle and shows nothing. -/
structure AuthModule (σ ι : Type) where
  create : EventHubAuthCBSConfig → Option Handle → ι → Option σ
  getStatus : σ → ι → Answer σ (EventHubAuthResult × EventHubAuthStatus)
  authenticate : σ → ι → Answer σ EventHubAuthResult
  refresh : σ → Option String → ι → Answer σ EventHubAuthResult
  onCBSPutTokenOperationComplete : σ → CBSOperationResult → ι → Answer σ Unit

/-- What `handle_sas_token_auth` of the sender and `HandleSASTokenAuth` of the receiver tell their
callers: a non-zero result, or zero with the flag for a timeout, or with the one for an
authentication in progress, or with neither. -/
inductive AuthOutcome
  | failed
  | timeout
  | inProgress
  | done
  deriving DecidableEq, Repr

end EventHubs
