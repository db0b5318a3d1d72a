import EventHubs.Library.Attempt
import EventHubs.Auth.Types

/-!
# The functions of `eventhubauth.c`

Creation, authentication, refresh and status of an `EVENTHUBAUTH_CBS_HANDLE`, branch by branch.
Everything outside the file is an input: the clock readings, the success of each call to
uAMQP and to the utility library, and the texts these calls produce. `parse` stands for
`GetURIAndExpirationFromSASToken` on a token text.

## Main definitions

* `AuthCall`, `AuthEnv` — the outside.
* `EventHubAuthCBS.create`, `EventHubAuthCBS.authenticate`, `EventHubAuthCBS.refresh`,
  `EventHubAuthCBS.getStatus`, `EventHubAuthCBS.onCBSPutTokenOperationComplete`,
  `EventHubAuthCBS.destroy`.
* `EventHubAuthCBS.authModule` — these functions as an `AuthModule`.
-/

namespace EventHubs

/-- The calls of `eventhubauth.c` that can fail. -/
inductive AuthCall
  | malloc
  | cloneExtSASToken
  | cloneExtSASTokenURI
  | constructURI
  | concatHostName
  | concatSlash
  | concatEventHubPath
  | concatConsumerGroups
  | concatReceiverConsumerGroup
  | concatPartitions
  | concatReceiverPartitionId
  | concatPublishers
  | concatSenderPublisherId
  | cloneSharedAccessKeyName
  | urlEncode
  | cStrSharedAccessKey
  | bufferCreate
  | base64Encode
  | cbsCreate
  | cbsOpenAsync
  | sasTokenCreate
  | cStrURI
  | cStrSASToken
  | cbsPutTokenAsync
  | cloneRefreshToken
  | newRefreshTokenURI
  | cStrRefreshToken
  | getURIAndExpirationFromSASToken
  deriving DecidableEq, Repr

/-- What the environment contributes to one call on an auth handle. `get_time` may fail at each
of its three uses. -/
structure AuthEnv where
  statusNow : Option UInt64 := none
  putNow : Option UInt64 := none
  completeNow : Option UInt64 := none
  /-- The content of `OnCBSPutTokenOperationComplete`'s local before it is assigned. -/
  uninitialised : UInt64 := 0
  succeeds : AuthCall → Bool := fun _ => true
  urlEncode : String → String := id
  base64Encode : String → String := id
  sasTokenCreate : Option String → Option String → Option String → UInt64 → String :=
    fun _ _ _ _ => ""
  cbsHandle : Handle := 0

namespace EventHubAuthCBSStruct

/-- Create a string and store its handle with `set`. -/
def newString (a : EventHubAuthCBSStruct) (text : String)
    (set : EventHubAuthCBSStruct → StringHandle → EventHubAuthCBSStruct) :
    EventHubAuthCBSStruct :=
  set { a with strings := (a.strings.create text).2 } (a.strings.create text).1

/-- `STRING_concat` on the field `uri`. -/
def concatURI (a : EventHubAuthCBSStruct) (part : String) : EventHubAuthCBSStruct :=
  { a with uri := a.uri.map fun u => { u with text := u.text ++ part } }

/-- The second at which the token an `EventHubAuthCBS_Authenticate` would put expires, as an
exact integer. -/
def tokenExpiry (a : EventHubAuthCBSStruct) : Nat :=
  match a.credential with
  | .sasTokenExt => a.extSASTokenExpTSInEpochSec.toNat
  | .sasTokenAuto => a.sasTokenCreateTimestamp.toNat + a.sasTokenExpirationTimeInSec.toNat
  | .unknown => 0

end EventHubAuthCBSStruct

namespace EventHubAuthCBS

open Attempt

/-! ### Creation -/

/-- The argument checks of `EventHubAuthCBS_Create`. -/
def validArguments (cfg : EventHubAuthCBSConfig) (cbsSessionHandle : Option Handle) : Bool :=
  cbsSessionHandle.isSome && (cfg.mode = .sender || cfg.mode = .receiver) &&
  match cfg.credential with
  | .sasTokenAuto =>
    cfg.sharedAccessKeyName.isSome && cfg.sharedAccessKey.isSome && cfg.hostName.isSome &&
    cfg.eventHubPath.isSome &&
    !(cfg.mode = .receiver &&
      (cfg.receiverConsumerGroup.isNone || cfg.receiverPartitionId.isNone)) &&
    cfg.sasTokenExpirationTimeInSec ≠ 0 && cfg.sasTokenRefreshPeriodInSecs ≠ 0 &&
    !(cfg.sasTokenExpirationTimeInSec ≤ cfg.sasTokenRefreshPeriodInSecs)
  | .sasTokenExt =>
    cfg.extSASToken.isSome && cfg.extSASTokenURI.isSome && cfg.extSASTokenExpTSInEpochSec ≠ 0
  | .unknown => false

/-- The strings of a `SASTOKEN_EXT` handle. -/
def createExtStrings (cfg : EventHubAuthCBSConfig) (env : AuthEnv) :
    Attempt EventHubAuthCBSStruct Unit := do
  update fun a => { a with extSASTokenExpTSInEpochSec := cfg.extSASTokenExpTSInEpochSec }
  check (env.succeeds .cloneExtSASToken)
  update fun a => a.newString (cfg.extSASToken.getD "")
    fun a h => { a with extSASToken := some h }
  check (env.succeeds .cloneExtSASTokenURI)
  update fun a => a.newString (cfg.extSASTokenURI.getD "")
    fun a h => { a with extSASTokenURI := some h }

/-- The URI of a `SASTOKEN_AUTO` handle. -/
def createURI (cfg : EventHubAuthCBSConfig) (env : AuthEnv) :
    Attempt EventHubAuthCBSStruct Unit := do
  check (env.succeeds .constructURI)
  update fun a => a.newString "sb://" fun a h => { a with uri := some h }
  check (env.succeeds .concatHostName)
  update fun a => a.concatURI (cfg.hostName.getD "")
  check (env.succeeds .concatSlash)
  update fun a => a.concatURI "/"
  check (env.succeeds .concatEventHubPath)
  update fun a => a.concatURI (cfg.eventHubPath.getD "")
  if cfg.mode = .receiver then
    check (env.succeeds .concatConsumerGroups)
    update fun a => a.concatURI "/ConsumerGroups/"
    check (env.succeeds .concatReceiverConsumerGroup)
    update fun a => a.concatURI (cfg.receiverConsumerGroup.getD "")
    check (env.succeeds .concatPartitions)
    update fun a => a.concatURI "/Partitions/"
    check (env.succeeds .concatReceiverPartitionId)
    update fun a => a.concatURI (cfg.receiverPartitionId.getD "")
  else
    match cfg.senderPublisherId with
    | none => pure ()
    | some publisher => do
      check (env.succeeds .concatPublishers)
      update fun a => a.concatURI "/publishers/"
      check (env.succeeds .concatSenderPublisherId)
      update fun a => a.concatURI publisher

/-- The strings of a `SASTOKEN_AUTO` handle. -/
def createAutoStrings (cfg : EventHubAuthCBSConfig) (env : AuthEnv) :
    Attempt EventHubAuthCBSStruct Unit := do
  createURI cfg env
  check (env.succeeds .cloneSharedAccessKeyName)
  update fun a => a.newString (cfg.sharedAccessKeyName.getD "")
    fun a h => { a with sharedAccessKeyName := some h }
  check (env.succeeds .urlEncode)
  update fun a => a.newString (env.urlEncode ((a.uri.map (·.text)).getD ""))
    fun a h => { a with encodedURI := some h }
  check (env.succeeds .cStrSharedAccessKey)
  check (env.succeeds .bufferCreate)
  check (env.succeeds .base64Encode)
  update fun a => a.newString (env.base64Encode (cfg.sharedAccessKey.getD ""))
    fun a h => { a with encodedSASKeyValue := some h }

/-- The strings of a handle of either credential type. -/
def createStrings (cfg : EventHubAuthCBSConfig) (env : AuthEnv) :
    Attempt EventHubAuthCBSStruct Unit :=
  if cfg.credential = .sasTokenExt then createExtStrings cfg env
  else createAutoStrings cfg env

/-- The fields that `EventHubAuthCBS_Create` copies last. -/
def initialise (cfg : EventHubAuthCBSConfig) (a : EventHubAuthCBSStruct) :
    EventHubAuthCBSStruct :=
  { a with
    credential := cfg.credential
    sasTokenExpirationTimeInSec := cfg.sasTokenExpirationTimeInSec
    sasTokenRefreshPeriodInSecs := cfg.sasTokenRefreshPeriodInSecs
    sasTokenAuthFailureTimeoutInSecs := cfg.sasTokenAuthFailureTimeoutInSecs
    sasTokenPutTime := 0
    cbsAuthCompleteTimestamp := 0
    sasTokenCreateTimestamp := 0
    cbsStatus := .idle
    cbOperation := .none
    sasTokenHandle := none }

/-- The part of `EventHubAuthCBS_Create` after the allocation. -/
def createFields (cfg : EventHubAuthCBSConfig) (env : AuthEnv) :
    Attempt EventHubAuthCBSStruct Unit := do
  createStrings cfg env
  check (env.succeeds .cbsCreate)
  update fun a => { a with cbsHandle := some env.cbsHandle }
  check (env.succeeds .cbsOpenAsync)
  update (initialise cfg)

/-- The clean-up of a failed `EventHubAuthCBS_Create`. -/
def createCleanUp (a : EventHubAuthCBSStruct) : StringHeap :=
  (((((a.strings.deleteIf a.encodedSASKeyValue).deleteIf a.encodedURI).deleteIf
    a.sharedAccessKeyName).deleteIf a.uri).deleteIf a.extSASToken).deleteIf a.extSASTokenURI

/-- `EventHubAuthCBS_Create`: the handle, or the strings that a failure leaves. -/
def create (cfg : EventHubAuthCBSConfig) (cbsSessionHandle : Option Handle) (env : AuthEnv) :
    Except StringHeap EventHubAuthCBSStruct :=
  if !validArguments cfg cbsSessionHandle then .error {}
  else if !env.succeeds .malloc then .error {}
  else
    match createFields cfg env {} with
    | (some _, a) => .ok a
    | (none, a) => .error (createCleanUp a)

/-- `EventHubAuthCBS_Destroy`: the strings that it leaves. -/
def destroy (a : EventHubAuthCBSStruct) : StringHeap :=
  ((((((a.strings.deleteIf a.sasTokenHandle).deleteIf a.encodedSASKeyValue).deleteIf
    a.encodedURI).deleteIf a.sharedAccessKeyName).deleteIf a.extSASToken).deleteIf
    a.extSASTokenURI).deleteIf a.uri

/-! ### Status -/

/-- `CheckPutTimeoutStatus` on a successful clock reading; the subtraction is unsigned. -/
def checkPutTimeoutStatus (a : EventHubAuthCBSStruct) (secondsSinceEpoch : UInt64) : Bool :=
  if 0 < a.sasTokenAuthFailureTimeoutInSecs then
    a.sasTokenAuthFailureTimeoutInSecs.toUInt64 ≤ secondsSinceEpoch - a.sasTokenPutTime
  else false

/-- `CheckExpirationAndRefreshStatus` on a successful clock reading: `isExpired` and
`isRefreshRequired`. -/
def checkExpirationAndRefreshStatus (a : EventHubAuthCBSStruct) (secondsSinceEpoch : UInt64) :
    Bool × Bool :=
  if a.credential = .sasTokenAuto then
    (a.sasTokenExpirationTimeInSec.toUInt64 ≤ secondsSinceEpoch - a.sasTokenCreateTimestamp,
      a.sasTokenRefreshPeriodInSecs.toUInt64 ≤ secondsSinceEpoch - a.sasTokenCreateTimestamp)
  else (a.extSASTokenExpTSInEpochSec ≤ secondsSinceEpoch, false)

/-- Whether `UpdateEventHubAuthACBSStatus` reads the clock to compare it with the token. -/
def checksToken (a : EventHubAuthCBSStruct) : Bool :=
  a.credential = .sasTokenAuto && (a.cbsStatus = .ok || a.cbsStatus = .refreshRequired)

/-- Whether `UpdateEventHubAuthACBSStatus` reads the clock to compare it with the put. -/
def checksPut (a : EventHubAuthCBSStruct) : Bool :=
  a.cbsStatus = .inProgress && a.cbOperation = .put

/-- `UpdateEventHubAuthACBSStatus`: whether its result is zero, and the handle. -/
def updateEventHubAuthACBSStatus (a : EventHubAuthCBSStruct) (reading : Option UInt64) :
    Bool × EventHubAuthCBSStruct :=
  if checksToken a then
    match reading with
    | none => (false, a)
    | some now =>
      if (checkExpirationAndRefreshStatus a now).1 then
        (true, { a with cbsStatus := .expired })
      else if (checkExpirationAndRefreshStatus a now).2 then
        (true, { a with cbsStatus := .refreshRequired })
      else (true, a)
  else if checksPut a then
    match reading with
    | none => (false, a)
    | some now =>
      if checkPutTimeoutStatus a now then (true, { a with cbsStatus := .timeout })
      else (true, a)
  else (true, a)

/-- `EventHubAuthCBS_GetStatus` with a non-NULL place for the status. -/
def getStatus (a : EventHubAuthCBSStruct) (env : AuthEnv) :
    Answer EventHubAuthCBSStruct (EventHubAuthResult × EventHubAuthStatus) :=
  let u := updateEventHubAuthACBSStatus a env.statusNow
  let result := if u.1 then EventHubAuthResult.ok else .error
  let reading := if checksToken a || checksPut a then env.statusNow else none
  ⟨(result, u.2.cbsStatus), u.2, [.status reading result u.2.cbsStatus]⟩

/-! ### Authentication -/

/-- The tail of `EventHubAuthCBS_Authenticate` that puts the token. -/
def putToken (a : EventHubAuthCBSStruct) (secondsSinceEpoch : UInt64)
    (sasTokenHandle uriHandle : Option StringHandle) (env : AuthEnv) :
    Answer EventHubAuthCBSStruct EventHubAuthResult :=
  let a := { a with
    strings := a.strings.deleteIf a.sasTokenHandle
    sasTokenHandle := sasTokenHandle }
  match uriHandle with
  | none => ⟨.error, a, []⟩
  | some uri =>
    let a := { a with strings := a.strings.touch uri }
    if !env.succeeds .cStrURI then ⟨.error, a, []⟩
    else
      match sasTokenHandle with
      | none => ⟨.error, a, []⟩
      | some sasToken =>
        let a := { a with strings := a.strings.touch sasToken }
        if !env.succeeds .cStrSASToken then ⟨.error, a, []⟩
        else
          let a := { a with sasTokenPutTime := secondsSinceEpoch, cbOperation := .put }
          let p : PutToken :=
            { uri := uri.text
              sasToken := sasToken.text
              now := secondsSinceEpoch
              expiry := a.tokenExpiry
              accepted := env.succeeds .cbsPutTokenAsync }
          if env.succeeds .cbsPutTokenAsync then
            ⟨.ok, { a with cbsStatus := .inProgress }, [.put p]⟩
          else ⟨.error, a, [.put p]⟩

/-- The call of `SASToken_Create` that `EventHubAuthCBS_Authenticate` makes for a
`SASTOKEN_AUTO` handle, when it succeeds. -/
def createSASToken (a : EventHubAuthCBSStruct) (secondsSinceEpoch : UInt64) (env : AuthEnv) :
    StringHandle × StringHeap :=
  a.strings.create (env.sasTokenCreate (a.encodedSASKeyValue.map (·.text))
    (a.encodedURI.map (·.text)) (a.sharedAccessKeyName.map (·.text))
    (secondsSinceEpoch + a.sasTokenExpirationTimeInSec.toUInt64))

/-- `EventHubAuthCBS_Authenticate`. -/
def authenticate (a : EventHubAuthCBSStruct) (env : AuthEnv) :
    Answer EventHubAuthCBSStruct EventHubAuthResult :=
  if a.cbsStatus = .inProgress then ⟨.notPermited, a, []⟩
  else
    match env.putNow with
    | none => ⟨.error, a, []⟩
    | some secondsSinceEpoch =>
      match a.credential with
      | .sasTokenExt =>
        -- the comparison as the source has it: a reading before the expiry is refused
        if secondsSinceEpoch < a.extSASTokenExpTSInEpochSec then ⟨.error, a, []⟩
        else putToken a secondsSinceEpoch a.extSASToken a.extSASTokenURI env
      | .sasTokenAuto =>
        let a := { a with sasTokenCreateTimestamp := secondsSinceEpoch }
        if !env.succeeds .sasTokenCreate then ⟨.error, a, []⟩
        else
          putToken { a with strings := (createSASToken a secondsSinceEpoch env).2 }
            secondsSinceEpoch (some (createSASToken a secondsSinceEpoch env).1) a.uri env
      | .unknown => ⟨.error, a, []⟩

/-! ### Refresh -/

variable (parse : String → Option (String × UInt64))

/-- The `SASTOKEN_EXT` half of `EventHubAuthCBS_Refresh` up to the authentication: the handle,
and whether to authenticate. -/
def installRefreshToken (a : EventHubAuthCBSStruct) (token : String) (env : AuthEnv) :
    Bool × EventHubAuthCBSStruct :=
  if !env.succeeds .cloneRefreshToken then (false, a)
  else
    let (extSASTokenTemp, strings) := a.strings.create token
    if !env.succeeds .newRefreshTokenURI then
      (false, { a with strings := strings.delete extSASTokenTemp })
    else
      let (extSASTokenURITemp, strings) := strings.create ""
      let strings := strings.touch extSASTokenTemp
      let bothDeleted := (strings.delete extSASTokenTemp).delete extSASTokenURITemp
      if !env.succeeds .cStrRefreshToken then (false, { a with strings := bothDeleted })
      else if !env.succeeds .getURIAndExpirationFromSASToken then
        (false, { a with strings := bothDeleted })
      else
        match parse token with
        | none => (false, { a with strings := bothDeleted })
        | some (uri, expirationTimestamp) =>
          let strings := (strings.touchIf a.extSASTokenURI).touch extSASTokenURITemp
          let bothDeleted := (strings.delete extSASTokenTemp).delete extSASTokenURITemp
          if a.extSASTokenURI.map (·.text) ≠ some uri then
            (false, { a with strings := bothDeleted })
          else
            (true, { a with
              strings := (strings.deleteIf a.extSASToken).delete extSASTokenURITemp
              extSASToken := some extSASTokenTemp
              extSASTokenExpTSInEpochSec := expirationTimestamp })

/-- `EventHubAuthCBS_Refresh`. -/
def refresh (a : EventHubAuthCBSStruct) (extSASToken : Option String) (env : AuthEnv) :
    Answer EventHubAuthCBSStruct EventHubAuthResult :=
  match a.credential with
  | .sasTokenExt =>
    match extSASToken with
    | none => ⟨.invalidArg, a, []⟩
    | some token =>
      match installRefreshToken parse a token env with
      | (false, a) => ⟨.error, a, []⟩
      | (true, a) => authenticate a env
  | .sasTokenAuto =>
    let u := updateEventHubAuthACBSStatus a env.statusNow
    if !u.1 then ⟨.error, u.2, []⟩
    else if u.2.cbsStatus ≠ .refreshRequired then ⟨.notPermited, u.2, []⟩
    else authenticate u.2 env
  | .unknown => ⟨.invalidArg, a, []⟩

/-- `OnCBSPutTokenOperationComplete`. -/
def onCBSPutTokenOperationComplete (a : EventHubAuthCBSStruct) (r : CBSOperationResult)
    (env : AuthEnv) : Answer EventHubAuthCBSStruct Unit :=
  match r with
  | .ok =>
    -- the time stamp is stored only when reading the clock failed
    let stamp := match env.completeNow with
      | none => env.uninitialised
      | some _ => a.cbsAuthCompleteTimestamp
    ⟨(), { a with cbsStatus := .ok, cbsAuthCompleteTimestamp := stamp, cbOperation := .none },
      [.putComplete r]⟩
  | _ => ⟨(), { a with cbsStatus := .failure, cbOperation := .none }, [.putComplete r]⟩

/-- The functions of `eventhubauth.c` as the sender and the receiver see them. -/
def authModule : AuthModule EventHubAuthCBSStruct AuthEnv where
  create cfg session env := (create cfg session env).toOption
  getStatus := getStatus
  authenticate := authenticate
  refresh := refresh parse
  onCBSPutTokenOperationComplete := onCBSPutTokenOperationComplete

end EventHubAuthCBS

end EventHubs
