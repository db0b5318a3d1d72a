import EventHubs.Library.Scaffold
import EventHubs.Sender.Creation

/-!
# What a sender owns

The functions of `eventhubclient_ll.c` that create or destroy something that a client points to,
with the objects: `EventHubClient_LL_CreateFromConnectionString` and
`EventHubClient_LL_CreateFromSASToken`, the bring-up and the tear-down of the uAMQP stack, the token
for a refresh, and `EventHubClient_LL_Destroy`. An `EVENTHUBAUTH_CBS_CONFIG` is one object together
with its strings. What a local owns is kept like a field, until the local leaves its scope.

## Main definitions

* `SenderSlot`, `SenderSlot.parts` — what is owned, and from what it is made.
* `SenderHandles` — a sender with its objects.
* `SenderHandles.createFromConnectionString`, `SenderHandles.createFromSASToken`.
* `SenderHandles.initializeUamqpStack`, `SenderHandles.destroyUamqpStack`,
  `SenderHandles.handleSASTokenAuth`, `SenderHandles.doWork`, `SenderHandles.refreshSASTokenAsync`,
  `SenderHandles.drain`.
* `SenderHandles.handlesMachine`.

## Main results

* `SenderHandles.createFromConnectionString_fst`, `SenderHandles.createFromSASToken_fst`,
  `SenderHandles.step_map_fst`, `SenderHandles.run_map_fst` — without its objects it is the sender.
-/

namespace EventHubs

/-- The fields of an `EVENTHUBCLIENT_LL` that own something, the client itself, and the locals that
do. -/
inductive SenderSlot
  | client
  | counter
  | hostName
  | keyName
  | keyValue
  | targetAddress
  | eventHubPath
  | senderPublisherId
  | extSASTokenParseConfig
  | stack (field : StackField)
  | cbsHandle
  | extRefreshSASToken
  | connectionString
  | connectionStringValuesMap
  | refreshSASTokenCfg
  | source
  | target
  deriving DecidableEq, Repr

/-- What the objects are created from: the handles that a creating call is given and keeps. A
message sender also keeps the client, as the context of its callbacks. -/
def SenderSlot.table : List (SenderSlot × SenderSlot) :=
  [(.stack .saslIo, .stack .tlsIo), (.stack .saslIo, .stack .saslMechanismHandle),
    (.stack .connection, .stack .saslIo), (.stack .session, .stack .connection),
    (.cbsHandle, .stack .session), (.stack .link, .stack .session),
    (.stack .messageSender, .stack .link), (.stack .messageSender, .client)]

/-- What the object of a field is created from. -/
def SenderSlot.parts : SenderSlot → List SenderSlot := Scaffold.partsOf SenderSlot.table

/-- A sender with its objects. -/
abbrev SenderHandles (σ : Type) := SenderState σ × Scaffold SenderSlot

namespace SenderHandles

open Attempt EventHubClientLL

/-- A creating call whose result is assigned to a field. -/
def construct {S : Type} (succeeds : Bool) (slot : SenderSlot) :
    Attempt (S × Scaffold SenderSlot) Unit := fun x =>
  (if succeeds then some () else none, x.1, x.2.assign succeeds slot slot.parts)

theorem construct_over {S : Type} (succeeds : Bool) (slot : SenderSlot) :
    Over (construct (S := S) succeeds slot) (check succeeds) := fun _ => ⟨rfl, rfl⟩

/-! ### Creation -/

section Creation

variable {σ : Type}

/-- `eventhub_client_assemble_target_address`. -/
def assembleTargetAddress (env : SenderCreateEnv) (eventHubPath : String)
    (publisherId : Option String) : Attempt (Filling σ × Scaffold SenderSlot) Unit := do
  construct (env.succeeds .constructTargetAddress) .targetAddress
  onFst do
    assign fun c => { c with targetAddress := some "amqps://" }
    let w ← read id
    let hostName ← operand (env.succeeds .concatHostName) w.state.hostName
    assign (concatTargetAddress · hostName)
    check (env.succeeds .concatSlash)
    assign (concatTargetAddress · "/")
    check (env.succeeds .concatEventHubPath)
    assign (concatTargetAddress · eventHubPath)
    match publisherId with
    | none => pure ()
    | some publisherId => do
      check (env.succeeds .concatPublishers)
      assign (concatTargetAddress · "/publishers/")
      check (env.succeeds .concatPublisherId)
      assign (concatTargetAddress · publisherId)

/-- What `EventHubClient_LL_CreateFromConnectionString` does with the new client. -/
def fillFromConnectionString (env : SenderCreateEnv) (values : KVPMap) (eventHubPath : String) :
    Attempt (Filling σ × Scaffold SenderSlot) Unit := do
  construct (env.succeeds .tickcounterCreate) .counter
  let endpoint ← onFst (require (values.getValueFromKey "Endpoint".toList))
  let hostnameLength :=
    if sbStringLength < endpoint.length ∧ endpoint.getLast? = some '/' then endpoint.length - 1
    else endpoint.length
  onFst (check !(hostnameLength ≤ sbStringLength ||
    !strncmpIsZero endpoint sbString sbStringLength))
  construct (env.succeeds .constructHostName) .hostName
  onFst (assign fun c => { c with hostName := some (String.ofList
    ((endpoint.drop sbStringLength).take (hostnameLength - sbStringLength))) })
  let value ← onFst (require (values.getValueFromKey "SharedAccessKeyName".toList))
  onFst (check (value.length ≠ 0))
  construct (env.succeeds .constructKeyName) .keyName
  onFst (assign fun c => { c with keyName := some (String.ofList value) })
  let value ← onFst (require (values.getValueFromKey "SharedAccessKey".toList))
  onFst (check (value.length ≠ 0))
  construct (env.succeeds .constructKeyValue) .keyValue
  onFst (assign fun c => { c with keyValue := some (String.ofList value) })
  assembleTargetAddress env eventHubPath none
  construct (env.succeeds .constructEventHubPath) .eventHubPath
  onFst (assign fun c =>
    { c with
      eventHubPath := some eventHubPath
      senderPublisherId := none
      credential := .sasTokenAuto })

/-- The client, or what a failure leaves after these fields were deleted. -/
def orDispose (x : Option Unit × Filling σ × Scaffold SenderSlot) (slots : List SenderSlot) :
    Option (EventHubClientLL σ) × Scaffold SenderSlot :=
  match x with
  | (some _, w, r) => (some w.state, r)
  | (none, _, r) => (none, r.disposeAll slots)

/-- `EventHubClient_LL_CreateFromConnectionString`; `none` is NULL. -/
def createFromConnectionString (connectionstringparserParse : CString → Option KVPMap)
    (env : SenderCreateEnv) (connectionString : Option CString) (eventHubPath : Option String)
    (r : Scaffold SenderSlot) : Option (EventHubClientLL σ) × Scaffold SenderSlot :=
  match connectionString, eventHubPath with
  | some connectionString, some eventHubPath =>
    let r := r.assign (env.succeeds .constructConnectionString) .connectionString []
    if !env.succeeds .constructConnectionString then (none, r)
    else
      let x :=
        match connectionstringparserParse connectionString with
        | none => (none, r.assign false .connectionStringValuesMap [])
        | some values =>
          let r := r.assign true .connectionStringValuesMap []
          let r := r.assign (env.succeeds .malloc) .client []
          let x :=
            if !env.succeeds .malloc then (none, r)
            else
              orDispose (fillFromConnectionString env values eventHubPath ({ state := {} }, r))
                [.counter, .hostName, .keyName, .keyValue, .targetAddress, .eventHubPath,
                  .senderPublisherId, .client]
          (x.1, x.2.release .connectionStringValuesMap)
      (x.1, x.2.release .connectionString)
  | _, _ => (none, r)

/-- What `EventHubClient_LL_CreateFromSASToken` does with the new client. -/
def fillFromSASToken (env : SenderCreateEnv) (cfg : EventHubAuthCBSConfig) :
    Attempt (Filling σ × Scaffold SenderSlot) Unit := do
  construct (env.succeeds .tickcounterCreate) .counter
  let publisherId ← onFst (operand (env.succeeds .cStrPublisherId) cfg.senderPublisherId)
  let eventHubPath ← onFst (operand (env.succeeds .cStrEventHubPath) cfg.eventHubPath)
  let senderPublisherId ← clone (env.succeeds .clonePublisherId) cfg.senderPublisherId
    .senderPublisherId
  onFst (assign fun c => { c with senderPublisherId := some senderPublisherId })
  let path ← clone (env.succeeds .cloneEventHubPath) cfg.eventHubPath .eventHubPath
  onFst (assign fun c => { c with eventHubPath := some path })
  let hostName ← clone (env.succeeds .cloneHostName) cfg.hostName .hostName
  onFst (assign fun c => { c with hostName := some hostName })
  assembleTargetAddress env eventHubPath (some publisherId)
  onFst (assign fun c =>
    { c with credential := .sasTokenExt, extSASTokenParseConfig := some cfg })
where
  /-- `STRING_clone` of a field of the configuration into a field of the client. -/
  clone (succeeds : Bool) (text : Option String) (slot : SenderSlot) :
      Attempt (Filling σ × Scaffold SenderSlot) String := fun x =>
    let y := operand succeeds text x.1
    (y.1, y.2, x.2.assign y.1.isSome slot slot.parts)

/-- `EventHubClient_LL_CreateFromSASToken`. The configuration that is parsed has its owner in the
field in which the client keeps it. -/
def createFromSASToken (sasTokenParse : CString → Option EventHubAuthCBSConfig)
    (env : SenderCreateEnv) (eventHubSasToken : Option CString) (r : Scaffold SenderSlot) :
    Option (EventHubClientLL σ) × Scaffold SenderSlot :=
  match eventHubSasToken with
  | none => (none, r)
  | some eventHubSasToken =>
    match sasTokenParse eventHubSasToken with
    | none => (none, r.assign false .extSASTokenParseConfig [])
    | some cfg =>
      let r := r.assign true .extSASTokenParseConfig []
      if cfg.mode ≠ .sender then (none, r.dispose .extSASTokenParseConfig)
      else
        let r := r.assign (env.succeeds .malloc) .client []
        if !env.succeeds .malloc then (none, r.dispose .extSASTokenParseConfig)
        else
          orDispose (fillFromSASToken env cfg ({ state := {} }, r))
            [.counter, .senderPublisherId, .eventHubPath, .hostName, .targetAddress, .client,
              .extSASTokenParseConfig]

theorem assembleTargetAddress_over (env : SenderCreateEnv) (eventHubPath : String)
    (publisherId : Option String) :
    Over (assembleTargetAddress (σ := σ) env eventHubPath publisherId)
      (EventHubClientLL.assembleTargetAddress env eventHubPath publisherId) :=
  .bind (construct_over _ _) fun _ => .onFst

theorem fillFromConnectionString_over (env : SenderCreateEnv) (values : KVPMap)
    (eventHubPath : String) :
    Over (fillFromConnectionString (σ := σ) env values eventHubPath)
      (EventHubClientLL.fillFromConnectionString env values eventHubPath) := by
  unfold fillFromConnectionString EventHubClientLL.fillFromConnectionString
  repeat first
    | refine .bind (construct_over _ _) fun _ => ?_
    | refine .bind .onFst fun _ => ?_
  refine .bind (assembleTargetAddress_over _ _ _) fun _ => ?_
  exact .bind (construct_over _ _) fun _ => .onFst

theorem clone_over (succeeds : Bool) (text : Option String) (slot : SenderSlot) :
    Over (fillFromSASToken.clone (σ := σ) succeeds text slot) (operand succeeds text) :=
  fun _ => ⟨rfl, rfl⟩

theorem fillFromSASToken_over (env : SenderCreateEnv) (cfg : EventHubAuthCBSConfig) :
    Over (fillFromSASToken (σ := σ) env cfg) (EventHubClientLL.fillFromSASToken env cfg) := by
  unfold fillFromSASToken EventHubClientLL.fillFromSASToken
  repeat first
    | refine .bind (construct_over _ _) fun _ => ?_
    | refine .bind (clone_over _ _ _) fun _ => ?_
    | refine .bind .onFst fun _ => ?_
  exact .bind (assembleTargetAddress_over _ _ _) fun _ => .onFst

theorem orDispose_fst (x : Option Unit × Filling σ × Scaffold SenderSlot)
    (slots : List SenderSlot) : (orDispose x slots).1 = x.1.map fun _ => x.2.1.state := by
  rcases x with ⟨_ | _, w, r⟩ <;> rfl

theorem createFromConnectionString_fst (parse : CString → Option KVPMap) (env : SenderCreateEnv)
    (connectionString : Option CString) (eventHubPath : Option String)
    (r : Scaffold SenderSlot) :
    (createFromConnectionString (σ := σ) parse env connectionString eventHubPath r).1 =
      EventHubClientLL.createFromConnectionString parse env connectionString eventHubPath := by
  rcases connectionString with _ | connectionString
  · rfl
  rcases eventHubPath with _ | eventHubPath
  · rfl
  simp only [createFromConnectionString, EventHubClientLL.createFromConnectionString]
  by_cases hconstruct : (!env.succeeds .constructConnectionString) = true
  · rw [if_pos hconstruct, if_pos hconstruct]
  rw [if_neg hconstruct, if_neg hconstruct]
  cases parse connectionString with
  | none => rfl
  | some values =>
    dsimp only
    by_cases hmalloc : (!env.succeeds .malloc) = true
    · rw [if_pos hmalloc, if_pos hmalloc]
    rw [if_neg hmalloc, if_neg hmalloc]
    obtain ⟨hfst, hsnd⟩ := fillFromConnectionString_over (σ := σ) env values eventHubPath
      ({ state := {} }, ((r.assign (env.succeeds .constructConnectionString) .connectionString
        []).assign true .connectionStringValuesMap []).assign (env.succeeds .malloc) .client [])
    rw [orDispose_fst, hfst, hsnd]

theorem createFromSASToken_fst (parse : CString → Option EventHubAuthCBSConfig)
    (env : SenderCreateEnv) (eventHubSasToken : Option CString) (r : Scaffold SenderSlot) :
    (createFromSASToken (σ := σ) parse env eventHubSasToken r).1 =
      (EventHubClientLL.createFromSASToken parse env eventHubSasToken).1 := by
  rcases eventHubSasToken with _ | token
  · rfl
  simp only [createFromSASToken, EventHubClientLL.createFromSASToken]
  cases parse token with
  | none => rfl
  | some cfg =>
    dsimp only
    split_ifs with hmode hmalloc
    · rfl
    · rfl
    · obtain ⟨hfst, hsnd⟩ := fillFromSASToken_over (σ := σ) env cfg
        ({ state := {} }, (r.assign true .extSASTokenParseConfig []).assign
          (env.succeeds .malloc) .client [])
      rw [orDispose_fst, hfst, hsnd]

end Creation

variable {σ ι : Type} (auth : AuthModule σ ι)

/-! ### Bring-up -/

/-- A creating call, stored in a field of the stack. -/
def createHandle (env : DoWorkEnv ι) (call : SenderCall) (field : StackField) :
    Attempt (SenderHandles σ) Unit := fun x =>
  let y := EventHubClientLL.createHandle env call field x.1
  (y.1, y.2, x.2.assign (env.succeeds call) (.stack field) (SenderSlot.parts (.stack field)))

/-- `create_sas_token`. -/
def createSASToken (env : DoWorkEnv ι) : Attempt (SenderHandles σ) Unit := do
  onFst (update fun s => { s with client := writeAuthTimeout s.client })
  onFst (passHandle .eventHubAuthCBSCreate .session)
  let s ← onFst (read id)
  let a := (authConfig s.client).bind fun cfg =>
    auth.create cfg (s.client.stack .session) env.create
  onFst (update fun s => s.storeCBS a)
  updateSnd fun r => r.assign a.isSome .cbsHandle SenderSlot.cbsHandle.parts
  onFst (check a.isSome)

/-- `initialize_uamqp_stack_common` without its clean-up. -/
def initializeUamqpStackCommon (env : DoWorkEnv ι) : Attempt (SenderHandles σ) Unit := do
  onFst (check (env.succeeds .cStrHostName))
  onFst (check (env.succeeds .saslmssbcbsGetInterface))
  createHandle env .saslmechanismCreate .saslMechanismHandle
  onFst (check (env.succeeds .platformGetDefaultTlsio))
  createHandle env .xioCreateTLS .tlsIo
  onFst (check (env.succeeds .saslclientioGetInterfaceDescription))
  onFst (passHandle .xioCreateSASL .tlsIo)
  onFst (passHandle .xioCreateSASL .saslMechanismHandle)
  createHandle env .xioCreateSASL .saslIo
  onFst (passHandle .connectionCreate .saslIo)
  createHandle env .connectionCreate .connection
  onFst (passHandle .connectionSetTrace .connection)
  onFst (passHandle .sessionCreate .connection)
  createHandle env .sessionCreate .session
  onFst (passHandle .sessionSetOutgoingWindow .session)
  onFst (check (env.succeeds .sessionSetOutgoingWindow))
  createSASToken auth env

/-- `initialize_uamqp_sender_stack` without the clean-up of a failure. The source and the target are
destroyed in any case. -/
def initializeUamqpSenderStack (env : DoWorkEnv ι) : Attempt (SenderHandles σ) Unit := do
  onFst (check (env.succeeds .cStrTargetAddress))
  afterwards (do
    construct (env.succeeds .messagingCreateSource) .source
    construct (env.succeeds .messagingCreateTarget) .target
    onFst (passHandle .linkCreate .session)
    createHandle env .linkCreate .link
    onFst (passHandle .linkSetSndSettleMode .link)
    onFst (check (env.succeeds .linkSetSndSettleMode))
    onFst (passHandle .linkSetMaxMessageSize .link)
    onFst (check (env.succeeds .linkSetMaxMessageSize))
    onFst (passHandle .messagesenderCreate .link)
    createHandle env .messagesenderCreate .messageSender)
    fun r => r.releaseAll [.source, .target]

/-- `initialize_uamqp_stack` without the clean-up of a failure. -/
def initializeUamqpStack (env : DoWorkEnv ι) : Attempt (SenderHandles σ) Unit := fun x =>
  if x.1.client.amqpState = .uninitialized then
    (do
      onFst (setMessageSenderState .idle)
      initializeUamqpStackCommon auth env
      onFst (setAMQPState .pendingAuthorization) : Attempt (SenderHandles σ) Unit) x
  else
    (do
      initializeUamqpSenderStack env
      onFst (setAMQPState .initialized) : Attempt (SenderHandles σ) Unit) x

/-! ### Tear-down -/

/-- What `destroy_uamqp_stack` destroys, in its order. -/
def stackSlots : List SenderSlot :=
  [.stack .messageSender, .stack .link, .cbsHandle, .stack .session, .stack .connection,
    .stack .saslIo, .stack .tlsIo, .stack .saslMechanismHandle, .extRefreshSASToken]

/-- What `EventHubClient_LL_Destroy` deletes before its loop, in its order. -/
def ownSlots : List SenderSlot :=
  [.targetAddress, .hostName, .eventHubPath, .senderPublisherId, .keyName, .keyValue, .counter]

/-- `destroy_uamqp_stack` from the return of `messagesender_destroy` on. -/
def finishDestroyUamqpStack (x : SenderHandles σ) : SenderHandles σ :=
  (EventHubClientLL.finishDestroyUamqpStack x.1, x.2.releaseAll stackSlots)

/-- What follows on `destroy_uamqp_stack`. -/
def afterDestroyUamqpStack (x : SenderHandles σ) (after : AfterDestroy) : SenderHandles σ :=
  (EventHubClientLL.afterDestroyUamqpStack x.1 after,
    if after = .destroy then x.2.disposeAll ownSlots else x.2)

/-- `destroy_uamqp_stack`, up to `messagesender_destroy` if there is a message sender. -/
def destroyUamqpStack (x : SenderHandles σ) (after : AfterDestroy) : SenderHandles σ :=
  if (x.1.client.stack .messageSender).isSome then
    ({ x.1 with control := .uamqp (.messagesenderDestroy after) }, x.2)
  else afterDestroyUamqpStack (finishDestroyUamqpStack x) after

/-! ### Authentication -/

/-- The branch of `handle_sas_token_auth` for `EVENTHUBAUTH_STATUS_OK`. -/
def refreshExtOrProceed (x : SenderHandles σ) (a : σ) (env : DoWorkEnv ι) :
    SenderHandles σ × AuthOutcome :=
  let y := EventHubClientLL.refreshExtOrProceed auth x.1 a env
  ((y.1,
    if x.1.client.credential = .sasTokenExt ∧ x.1.client.extRefreshSASToken.isSome then
      x.2.release .extRefreshSASToken
    else x.2), y.2)

/-- The branches of `handle_sas_token_auth` on the status. -/
def onStatus (x : SenderHandles σ) (a : σ) (env : DoWorkEnv ι) (status : EventHubAuthStatus) :
    SenderHandles σ × AuthOutcome :=
  if status = .ok then refreshExtOrProceed auth x a env
  else
    let y := EventHubClientLL.onStatus auth x.1 a env status
    ((y.1, x.2), y.2)

/-- `handle_sas_token_auth`. -/
def handleSASTokenAuth (x : SenderHandles σ) (env : DoWorkEnv ι) : SenderHandles σ × AuthOutcome :=
  match x.1.client.cbsHandle with
  | none => ((x.1.passCBS .eventHubAuthCBSGetStatus, x.2), .failed)
  | some a =>
    let y := auth.getStatus a env.status
    let x := ((x.1.passCBS .eventHubAuthCBSGetStatus).answer y, x.2)
    if y.value.1 ≠ .ok then (x, .failed) else onStatus auth x y.handle env y.value.2

/-! ### `EventHubClient_LL_DoWork` -/

/-- The error callback if there is one, then the tear-down. -/
def raise (x : SenderHandles σ) (r : EventHubClientErrorResult) : SenderHandles σ :=
  match x.1.client.onErrorCb with
  | none => destroyUamqpStack x .return
  | some callback =>
    ({ x.1 with control := .errorCb .tearDown, log := x.1.log ++ [.errorRaised callback r] }, x.2)

/-- `EventHubClient_LL_DoWork` after `handle_sas_token_auth`. -/
def afterAuth (x : SenderHandles σ) : AuthOutcome → SenderHandles σ
  | .failed => raise x .sasTokenAuthFailure
  | .timeout => raise x .sasTokenAuthTimeout
  | .inProgress => (connectionDowork x.1, x.2)
  | .done => (EventHubClientLL.afterAuth x.1 .done, x.2)

/-- `EventHubClient_LL_DoWork` after the bring-up. -/
def doWorkInitialized (x : SenderHandles σ) (env : DoWorkEnv ι) : SenderHandles σ :=
  if x.1.client.messageSenderState = .error then destroyUamqpStack x .return
  else
    let y := handleSASTokenAuth auth x env
    afterAuth y.1 y.2

/-- `EventHubClient_LL_DoWork` up to its loop. -/
def doWork (x : SenderHandles σ) (env : DoWorkEnv ι) : SenderHandles σ :=
  let x := (x.1.emit [.doWork], x.2)
  if x.1.client.amqpState = .uninitialized || x.1.client.amqpState = .pendingSenderCreate then
    match initializeUamqpStack auth env x with
    | (none, x) => destroyUamqpStack x .initFailed
    | (some _, x) => doWorkInitialized auth x env
  else doWorkInitialized auth x env

/-! ### The other functions -/

/-- `EventHubClient_LL_RefreshSASTokenAsync`. -/
def refreshSASTokenAsync (x : SenderHandles σ) (token : Option String) (env : RefreshEnv) :
    SenderHandles σ :=
  ((EventHubClientLL.refreshSASTokenAsync x.1 token env).2,
    if token.isNone || x.1.client.credential ≠ .sasTokenExt ||
        x.1.client.amqpState ≠ .initialized || x.1.client.extRefreshSASToken.isSome then x.2
    else
      let r := x.2.assign env.parsed.isSome .refreshSASTokenCfg []
      let r :=
        match env.parsed with
        | none => r
        | some cfg =>
          if cfg.extSASTokenURI ≠ x.1.client.extSASTokenParseConfig.bind (·.extSASTokenURI) then r
          else r.assign env.constructs .extRefreshSASToken []
      r.release .refreshSASTokenCfg)

/-- A call to uAMQP returns. -/
def uamqpReturn (x : SenderHandles σ) (ok : Bool) : UamqpCall → SenderHandles σ
  | .messagesenderDestroy after => afterDestroyUamqpStack (finishDestroyUamqpStack x) after
  | call => (EventHubClientLL.uamqpReturn x.1 ok call, x.2)

/-- The error callback returns. -/
def errorReturn (x : SenderHandles σ) : AfterErrorCb → SenderHandles σ
  | .tearDown => destroyUamqpStack x .return
  | after => (EventHubClientLL.errorReturn x.1 after, x.2)

/-- `EventHubClient_LL_Destroy` up to its loop. -/
def destroy (x : SenderHandles σ) : SenderHandles σ :=
  destroyUamqpStack ({ x.1 with destroying := true, log := x.1.log ++ [.destroying] }, x.2) .destroy

/-- One round of the loop of `EventHubClient_LL_Destroy`, or its end, where the client is freed. -/
def drain (x : SenderHandles σ) : SenderHandles σ :=
  (EventHubClientLL.drain x.1,
    if x.1.client.outgoingEvents = [] then x.2.dispose .client else x.2)

/-- One step of a sender with its objects. -/
def step (x : SenderHandles σ) (i : SenderInput ι) : Option (SenderHandles σ) :=
  match i with
  | .refreshSASTokenAsync token env =>
    if mayCall x.1 then some (refreshSASTokenAsync x token env) else none
  | .doWork env =>
    if x.1.control = .idle && !x.1.destroying then some (doWork auth x env) else none
  | .destroy => if x.1.control = .idle && !x.1.destroying then some (destroy x) else none
  | .uamqpReturn ok =>
    match x.1.control with
    | .uamqp call => some (uamqpReturn x ok call)
    | _ => none
  | .callbackReturn =>
    match x.1.control with
    | .errorCb after => some (errorReturn x after)
    | _ => (EventHubClientLL.step auth x.1 .callbackReturn).map (·, x.2)
  | .drain =>
    match x.1.control with
    | .draining => some (drain x)
    | _ => none
  | i => (EventHubClientLL.step auth x.1 i).map (·, x.2)

/-- The low-level sender with its objects. -/
def handlesMachine : Machine (SenderHandles σ) (SenderInput ι) where
  step := step auth

/-! ### Without its objects it is the sender -/

theorem createHandle_over (env : DoWorkEnv ι) (call : SenderCall) (field : StackField) :
    Over (createHandle (σ := σ) env call field) (EventHubClientLL.createHandle env call field) :=
  fun _ => ⟨rfl, rfl⟩

theorem initializeUamqpStackCommon_over (env : DoWorkEnv ι) :
    Over (initializeUamqpStackCommon auth env)
      (EventHubClientLL.initializeUamqpStackCommon auth env) := by
  unfold initializeUamqpStackCommon EventHubClientLL.initializeUamqpStackCommon
  repeat first
    | refine .bind .onFst fun _ => ?_
    | refine .bind (createHandle_over _ _ _) fun _ => ?_
  -- the end of `create_sas_token`
  exact .updateSnd_bind .onFst

theorem initializeUamqpSenderStack_over (env : DoWorkEnv ι) :
    Over (initializeUamqpSenderStack (σ := σ) env)
      (EventHubClientLL.initializeUamqpSenderStack env) := by
  unfold initializeUamqpSenderStack EventHubClientLL.initializeUamqpSenderStack
  refine .bind .onFst fun _ => .afterwards ?_ _
  repeat first
    | refine .bind (construct_over _ _) fun _ => ?_
    | refine .bind .onFst fun _ => ?_
    | refine .bind (createHandle_over _ _ _) fun _ => ?_
  exact createHandle_over _ _ _

theorem initializeUamqpStack_over (env : DoWorkEnv ι) :
    Over (initializeUamqpStack auth env) (EventHubClientLL.initializeUamqpStack auth env) := by
  intro x
  unfold initializeUamqpStack EventHubClientLL.initializeUamqpStack
  split_ifs
  · have hfirst : Over (do
        onFst (setMessageSenderState .idle)
        initializeUamqpStackCommon auth env
        onFst (setAMQPState .pendingAuthorization) : Attempt (SenderHandles σ) Unit)
        (initializeFirst auth env) :=
      .bind .onFst fun _ => .bind (initializeUamqpStackCommon_over auth env) fun _ => .onFst
    exact hfirst x
  · have hsecond : Over (do
        initializeUamqpSenderStack env
        onFst (setAMQPState .initialized) : Attempt (SenderHandles σ) Unit)
        (initializeSecond env) :=
      .bind (initializeUamqpSenderStack_over env) fun _ => .onFst
    exact hsecond x

section Fst

variable (x : SenderHandles σ)

theorem destroyUamqpStack_fst (after : AfterDestroy) :
    (destroyUamqpStack x after).1 = EventHubClientLL.destroyUamqpStack x.1 after := by
  unfold destroyUamqpStack EventHubClientLL.destroyUamqpStack
  split_ifs <;> rfl

theorem raise_fst (r : EventHubClientErrorResult) :
    (raise x r).1 =
      x.1.raise r .tearDown (EventHubClientLL.destroyUamqpStack · .return) := by
  unfold raise SenderState.raise
  cases x.1.client.onErrorCb with
  | none => exact destroyUamqpStack_fst x .return
  | some callback => rfl

theorem afterAuth_fst (outcome : AuthOutcome) :
    (afterAuth x outcome).1 = EventHubClientLL.afterAuth x.1 outcome := by
  cases outcome with
  | failed | timeout => exact raise_fst x _
  | inProgress | done => rfl

theorem handleSASTokenAuth_fst (env : DoWorkEnv ι) :
    ((handleSASTokenAuth auth x env).1.1, (handleSASTokenAuth auth x env).2) =
      EventHubClientLL.handleSASTokenAuth auth x.1 env := by
  unfold handleSASTokenAuth EventHubClientLL.handleSASTokenAuth
  cases x.1.client.cbsHandle with
  | none => rfl
  | some a =>
    dsimp only
    by_cases hresult : (auth.getStatus a env.status).value.1 ≠ .ok
    · rw [if_pos hresult, if_pos hresult]
    · rw [if_neg hresult, if_neg hresult]
      unfold onStatus
      by_cases hstatus : (auth.getStatus a env.status).value.2 = .ok
      · rw [if_pos hstatus, hstatus]
        rfl
      · rw [if_neg hstatus]

theorem doWorkInitialized_fst (env : DoWorkEnv ι) :
    (doWorkInitialized auth x env).1 = EventHubClientLL.doWorkInitialized auth x.1 env := by
  unfold doWorkInitialized EventHubClientLL.doWorkInitialized
  by_cases herror : x.1.client.messageSenderState = .error
  · rw [if_pos herror, if_pos herror]
    exact destroyUamqpStack_fst x .return
  · rw [if_neg herror, if_neg herror, ← handleSASTokenAuth_fst auth x env]
    exact afterAuth_fst _ _

theorem doWork_fst (env : DoWorkEnv ι) :
    (doWork auth x env).1 = EventHubClientLL.doWork auth x.1 env := by
  unfold doWork EventHubClientLL.doWork
  dsimp only
  by_cases hinit : ((x.1.emit [.doWork]).client.amqpState = .uninitialized ||
      (x.1.emit [.doWork]).client.amqpState = .pendingSenderCreate) = true
  · rw [if_pos hinit, if_pos hinit]
    obtain ⟨hfst, hsnd⟩ := initializeUamqpStack_over auth env (x.1.emit [.doWork], x.2)
    generalize initializeUamqpStack auth env (x.1.emit [.doWork], x.2) = y at hfst hsnd ⊢
    generalize EventHubClientLL.initializeUamqpStack auth env (x.1.emit [.doWork]) = z
      at hfst hsnd ⊢
    obtain ⟨o, y⟩ := y
    obtain ⟨o', z⟩ := z
    obtain rfl : o = o' := hfst
    obtain rfl : y.1 = z := hsnd
    cases o with
    | none => exact destroyUamqpStack_fst y .initFailed
    | some _ => exact doWorkInitialized_fst auth y env
  · rw [if_neg hinit, if_neg hinit]
    exact doWorkInitialized_fst auth _ env

theorem uamqpReturn_fst (ok : Bool) (call : UamqpCall) :
    (uamqpReturn x ok call).1 = EventHubClientLL.uamqpReturn x.1 ok call := by
  cases call <;> rfl

theorem errorReturn_fst (after : AfterErrorCb) :
    (errorReturn x after).1 = EventHubClientLL.errorReturn x.1 after := by
  cases after with
  | tearDown => exact destroyUamqpStack_fst x .return
  | uamqp | done => rfl

/-- Without the objects a step is a step of the sender. -/
theorem step_map_fst (i : SenderInput ι) :
    (step auth x i).map Prod.fst = EventHubClientLL.step auth x.1 i := by
  have hkeep : ∀ o : Option (SenderState σ), (o.map (·, x.2)).map Prod.fst = o := by
    rintro (_ | t) <;> rfl
  cases i with
  | refreshSASTokenAsync token env =>
    simp only [step, EventHubClientLL.step]
    split_ifs <;> rfl
  | doWork env =>
    simp only [step, EventHubClientLL.step]
    split_ifs
    · exact congrArg some (doWork_fst auth x env)
    · rfl
  | destroy =>
    simp only [step, EventHubClientLL.step]
    split_ifs
    · exact congrArg some (destroyUamqpStack_fst _ .destroy)
    · rfl
  | uamqpReturn ok =>
    simp only [step, EventHubClientLL.step]
    cases x.1.control with
    | uamqp call => exact congrArg some (uamqpReturn_fst x ok call)
    | _ => rfl
  | callbackReturn =>
    simp only [step, EventHubClientLL.step]
    cases x.1.control with
    | errorCb after => exact congrArg some (errorReturn_fst x after)
    | _ => rfl
  | drain =>
    simp only [step, EventHubClientLL.step]
    cases x.1.control <;> rfl
  | _ => exact hkeep _

/-- Without the objects a run is a run of the sender. -/
theorem run_map_fst (is : List (SenderInput ι)) :
    ((handlesMachine auth).run x is).map Prod.fst = (senderMachine auth).run x.1 is := by
  induction is generalizing x with
  | nil => rfl
  | cons i is ih =>
    rw [Machine.run_cons, Machine.run_cons]
    have hstep : (senderMachine auth).step x.1 i = ((handlesMachine auth).step x i).map Prod.fst :=
      (step_map_fst auth x i).symm
    rw [hstep]
    cases (handlesMachine auth).step x i with
    | none => rfl
    | some y => exact ih y

end Fst

end SenderHandles

end EventHubs
