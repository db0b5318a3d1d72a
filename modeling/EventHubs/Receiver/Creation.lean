import EventHubs.Endpoint
import EventHubs.Library.Attempt
import EventHubs.Receiver.Machine

/-!
# The creation of a receiver

`EventHubReceiver_LL_Create` and `EventHubReceiver_LL_CreateFromSASToken` with the functions that
fill the connection parameters. As for the sender, the handles that are given to calls on strings
are kept, and `connectionstringparser_parse` and `EventHubAuthCBS_SASTokenParse` are parameters.

## Main definitions

* `ReceiverCreateCall`, `ReceiverCreateEnv` — the outside.
* `EventHubReceiverLL.create`, `EventHubReceiverLL.initializeSASToken`,
  `EventHubReceiverLL.createFromSASToken`.

## Main results

* `EventHubReceiverLL.create_eq_some`.
* `EventHubReceiverLL.initializeSASToken_present`, `EventHubReceiverLL.createFromSASToken_present`.
* `EventHubReceiverLL.created_of_create`, `EventHubReceiverLL.created_of_createFromSASToken`.
-/

namespace EventHubs

/-- The calls of the two functions that can fail. -/
inductive ReceiverCreateCall
  | malloc
  | tickcounterCreate
  | constructConnectionString
  | constructEventHubPath
  | constructHostName
  | constructKeyName
  | constructKey
  | constructConsumerGroup
  | constructPartitionId
  | cloneHostName
  | cloneEventHubPath
  | cloneConsumerGroup
  | clonePartitionId
  | cloneTargetAddress
  | concatConsumerGroups
  | concatConsumerGroup
  | concatPartitions
  | concatPartitionId
  deriving DecidableEq, Repr

/-- What the environment contributes to the creation of a receiver. -/
structure ReceiverCreateEnv where
  succeeds : ReceiverCreateCall → Bool := fun _ => true

namespace EventHubReceiverLL

open Attempt

variable {σ : Type}

/-- The connection parameters while creation fills them, with the strings that were looked at. -/
abbrev Filling := Watched EventHubConnectionParams String

/-- `EventHubConnectionParams_CreateHostName`. -/
def createHostName (env : ReceiverCreateEnv) (connectionStringValuesMap : KVPMap) :
    Attempt Filling Unit := do
  let endpoint ← require (connectionStringValuesMap.getValueFromKey "Endpoint".toList)
  let hostnameLength :=
    if sbStringLength < endpoint.length ∧ endpoint.getLast? = some '/' then endpoint.length - 1
    else endpoint.length
  check !(hostnameLength ≤ sbStringLength || !strncmpIsZero endpoint sbString sbStringLength)
  check (env.succeeds .constructHostName)
  assign fun p => { p with hostName := some (String.ofList
    ((endpoint.drop sbStringLength).take (hostnameLength - sbStringLength))) }

/-- `EventHubConnectionParams_CommonInit`. -/
def commonInit (connectionstringparserParse : CString → Option KVPMap) (env : ReceiverCreateEnv)
    (connectionString : CString) (eventHubPath : String) : Attempt Filling Unit := do
  check (env.succeeds .constructConnectionString)
  let values ← require (connectionstringparserParse connectionString)
  check (env.succeeds .constructEventHubPath)
  assign fun p => { p with eventHubPath := some eventHubPath }
  createHostName env values
  let value ← require (values.getValueFromKey "SharedAccessKeyName".toList)
  check (value.length ≠ 0)
  check (env.succeeds .constructKeyName)
  assign fun p => { p with eventHubSharedAccessKeyName := some (String.ofList value) }
  let value ← require (values.getValueFromKey "SharedAccessKey".toList)
  check (value.length ≠ 0)
  check (env.succeeds .constructKey)
  assign fun p => { p with eventHubSharedAccessKey := some (String.ofList value) }

/-- `STRING_concat` on the target address. -/
def concatTargetAddress (p : EventHubConnectionParams) (part : String) :
    EventHubConnectionParams :=
  { p with targetAddress := p.targetAddress.map (· ++ part) }

/-- `EventHubConnectionParams_InitReceiverPartitionURI`. -/
def initReceiverPartitionURI (env : ReceiverCreateEnv) : Attempt Filling Unit := do
  let w ← read id
  let eventHubPath ← operand (env.succeeds .cloneTargetAddress) w.state.eventHubPath
  assign fun p => { p with targetAddress := some eventHubPath }
  check (env.succeeds .concatConsumerGroups)
  assign (concatTargetAddress · "/ConsumerGroups/")
  let consumerGroup ← operand (env.succeeds .concatConsumerGroup) w.state.consumerGroup
  assign (concatTargetAddress · consumerGroup)
  check (env.succeeds .concatPartitions)
  assign (concatTargetAddress · "/Partitions/")
  let partitionId ← operand (env.succeeds .concatPartitionId) w.state.partitionId
  assign (concatTargetAddress · partitionId)

/-- `EventHubConnectionParams_ReceiverInit`. -/
def receiverInit (env : ReceiverCreateEnv) (consumerGroup partitionId : String) :
    Attempt Filling Unit := do
  check (env.succeeds .constructConsumerGroup)
  assign fun p => { p with consumerGroup := some consumerGroup }
  check (env.succeeds .constructPartitionId)
  assign fun p => { p with partitionId := some partitionId }
  initReceiverPartitionURI env

/-- `EventHubConnectionParams_Initialize` on parameters that are all NULL. -/
def initializeParams (connectionstringparserParse : CString → Option KVPMap)
    (env : ReceiverCreateEnv) (connectionString : CString)
    (eventHubPath consumerGroup partitionId : String) : Attempt Filling Unit := do
  commonInit connectionstringparserParse env connectionString eventHubPath
  receiverInit env consumerGroup partitionId

/-- `EventHubReceiver_LL_Create`; `none` is NULL. -/
def create (connectionstringparserParse : CString → Option KVPMap) (env : ReceiverCreateEnv)
    (connectionString : Option CString) (eventHubPath consumerGroup partitionId : Option String) :
    Option (EventHubReceiverLL σ) :=
  match connectionString, eventHubPath, consumerGroup, partitionId with
  | some connectionString, some eventHubPath, some consumerGroup, some partitionId =>
    if !env.succeeds .malloc then none
    else if !env.succeeds .tickcounterCreate then none
    else
      let x := initializeParams connectionstringparserParse env connectionString eventHubPath
        consumerGroup partitionId { state := { credential := .sasTokenAuto } }
      x.1.map fun _ => { connectionParams := x.2.state }
  | _, _, _, _ => none

/-- `EventHubConnectionParams_InitializeSASToken` on parameters that are all NULL. -/
def initializeSASToken (env : ReceiverCreateEnv) (sasTokenConfig : EventHubAuthCBSConfig) :
    Attempt Filling Unit := do
  let hostName ← operand (env.succeeds .cloneHostName) sasTokenConfig.hostName
  assign fun p => { p with hostName := some hostName }
  let eventHubPath ← operand (env.succeeds .cloneEventHubPath) sasTokenConfig.eventHubPath
  assign fun p => { p with eventHubPath := some eventHubPath }
  let consumerGroup ← operand (env.succeeds .cloneConsumerGroup)
    sasTokenConfig.receiverConsumerGroup
  assign fun p => { p with consumerGroup := some consumerGroup }
  let partitionId ← operand (env.succeeds .clonePartitionId) sasTokenConfig.receiverPartitionId
  assign fun p => { p with partitionId := some partitionId }
  initReceiverPartitionURI env
  assign fun p => { p with extSASTokenConfig := some sasTokenConfig }

/-- `EventHubReceiver_LL_CreateFromSASToken`: the receiver, `none` for NULL, and the strings that
were looked at. -/
def createFromSASToken (sasTokenParse : CString → Option EventHubAuthCBSConfig)
    (env : ReceiverCreateEnv) (eventHubSasToken : Option CString) :
    Option (EventHubReceiverLL σ) × List (Option String) :=
  match eventHubSasToken with
  | none => (none, [])
  | some eventHubSasToken =>
    match sasTokenParse eventHubSasToken with
    | none => (none, [])
    | some cfg =>
      if cfg.mode ≠ .receiver then (none, [])
      else if !env.succeeds .malloc then (none, [])
      else if !env.succeeds .tickcounterCreate then (none, [])
      else
        let x := initializeSASToken env cfg { state := { credential := .sasTokenExt } }
        (x.1.map fun _ => { connectionParams := x.2.state }, x.2.operands)

section TargetAddress

variable {env : ReceiverCreateEnv} {p : EventHubConnectionParams}
  {operands : List (Option String)} {eventHubPath consumerGroup partitionId : String}

/-- `{path}/ConsumerGroups/{group}/Partitions/{partition}`. -/
def targetAddressOf (eventHubPath consumerGroup partitionId : String) : String :=
  eventHubPath ++ "/ConsumerGroups/" ++ consumerGroup ++ "/Partitions/" ++ partitionId

/-- The target address of parameters that have their path, group and partition. -/
theorem initReceiverPartitionURI_eq (hpath : p.eventHubPath = some eventHubPath)
    (hgroup : p.consumerGroup = some consumerGroup)
    (hpartition : p.partitionId = some partitionId) :
    initReceiverPartitionURI {} ⟨p, operands⟩ =
      (some (), ⟨{ p with
        targetAddress := some (targetAddressOf eventHubPath consumerGroup partitionId) },
        operands ++ [some eventHubPath] ++ [some consumerGroup] ++ [some partitionId]⟩) := by
  simp only [initReceiverPartitionURI, run_check_eq_some, run_assign, run_read,
    run_operand_eq_some, id_eq, hpath, hgroup, hpartition, Option.some.injEq, exists_eq_left',
    true_and]
  rfl

/-- When every call succeeds, it makes no difference which could have failed. -/
theorem eq_of_initReceiverPartitionURI {t : Filling} (hpath : p.eventHubPath = some eventHubPath)
    (hgroup : p.consumerGroup = some consumerGroup) (hpartition : p.partitionId = some partitionId)
    (h : initReceiverPartitionURI env ⟨p, operands⟩ = (some (), t)) :
    t.state = { p with
      targetAddress := some (targetAddressOf eventHubPath consumerGroup partitionId) } := by
  cases p
  cases hpath
  cases hgroup
  cases hpartition
  simp only [initReceiverPartitionURI, run_check_eq_some, run_assign, run_read,
    run_operand_eq_some, id_eq, Option.some.injEq, exists_eq_left'] at h
  obtain ⟨-, -, -, -, -, h⟩ := h
  rw [← (Prod.mk.inj h).2]
  rfl

end TargetAddress

/-! ### Creation from a connection string -/

section ConnectionString

variable {env : ReceiverCreateEnv} {parse : CString → Option KVPMap} {values : KVPMap}
  {connectionString : CString} {eventHubPath consumerGroup partitionId : String}

/-- The receiver that the entries describe. -/
def describedReceiver (host keyName key : CString)
    (eventHubPath consumerGroup partitionId : String) : EventHubReceiverLL σ :=
  createdFromConnectionString (String.ofList host) eventHubPath (String.ofList keyName)
    (String.ofList key) consumerGroup partitionId

/-- Entries that describe a connection are stored. -/
theorem initializeParams_describes (eventHubPath consumerGroup partitionId : String)
    {host keyName key : CString} (hparse : parse connectionString = some values)
    (h : DescribesConnection values host keyName key) :
    ∃ t : Filling,
      initializeParams parse {} connectionString eventHubPath consumerGroup partitionId
        { state := { credential := .sasTokenAuto } } = (some (), t) ∧
      ({ connectionParams := t.state } : EventHubReceiverLL σ) =
        describedReceiver host keyName key eventHubPath consumerGroup partitionId := by
  obtain ⟨⟨endpoint, hendpoint, hnames⟩, ⟨hkeyName, hne⟩, hkey, hne'⟩ := h
  obtain ⟨hlt, hprefix, hhost⟩ := namesHost_iff.mp hnames
  refine ⟨⟨(describedReceiver host keyName key eventHubPath consumerGroup partitionId :
    EventHubReceiverLL σ).connectionParams,
    [some eventHubPath, some consumerGroup, some partitionId]⟩, ?_, rfl⟩
  subst hhost
  simp only [initializeParams, commonInit, createHostName, receiverInit, run_bind_assoc,
    run_check_eq_some, run_require_eq_some, run_assign, Bool.not_eq_true', Bool.or_eq_false_iff,
    decide_eq_false_iff_not, not_le, Bool.not_eq_false', decide_eq_true_iff, ne_eq,
    List.length_eq_zero_iff, true_and]
  exact ⟨values, hparse, endpoint, hendpoint, ⟨hlt, hprefix⟩, keyName, hkeyName, hne, key, hkey,
    hne', initReceiverPartitionURI_eq rfl rfl rfl⟩

/-- Only entries that describe a connection are accepted. -/
theorem describes_of_initializeParams {t : Filling}
    (h : initializeParams parse env connectionString eventHubPath consumerGroup partitionId
      { state := { credential := .sasTokenAuto } } = (some (), t)) :
    ∃ values host keyName key, parse connectionString = some values ∧
      DescribesConnection values host keyName key ∧
      ({ connectionParams := t.state } : EventHubReceiverLL σ) =
        describedReceiver host keyName key eventHubPath consumerGroup partitionId := by
  simp only [initializeParams, commonInit, createHostName, receiverInit, run_bind_assoc,
    run_check_eq_some, run_require_eq_some, run_assign, Bool.not_eq_true', Bool.or_eq_false_iff,
    decide_eq_false_iff_not, not_le, Bool.not_eq_false', decide_eq_true_iff, ne_eq,
    List.length_eq_zero_iff] at h
  obtain ⟨-, values, hparse, -, endpoint, hendpoint, ⟨hlt, hprefix⟩, -, keyName, hkeyName, hne, -,
    key, hkey, hne', -, -, -, huri⟩ := h
  have ht := eq_of_initReceiverPartitionURI rfl rfl rfl huri
  refine ⟨values, _, keyName, key, hparse, ⟨⟨endpoint, hendpoint,
    namesHost_iff.mpr ⟨hlt, hprefix, rfl⟩⟩, ⟨hkeyName, hne⟩, ⟨hkey, hne'⟩⟩, ?_⟩
  rw [ht]
  rfl

/-- When every call succeeds, a receiver is created from the connection strings that describe a
connection. -/
theorem create_eq_some {r : EventHubReceiverLL σ} :
    create parse {} (some connectionString) (some eventHubPath) (some consumerGroup)
        (some partitionId) = some r ↔
      ∃ values host keyName key, parse connectionString = some values ∧
        DescribesConnection values host keyName key ∧
        r = describedReceiver host keyName key eventHubPath consumerGroup partitionId := by
  simp only [create]
  rw [if_neg (by simp), if_neg (by simp)]
  constructor
  · intro h
    obtain ⟨⟨⟩, hfill, rfl⟩ := Option.map_eq_some_iff.mp h
    exact describes_of_initializeParams (Prod.ext hfill rfl)
  · rintro ⟨values, host, keyName, key, hparse, hdescribes, rfl⟩
    obtain ⟨t, hfill, hstate⟩ := initializeParams_describes (σ := σ) eventHubPath consumerGroup
      partitionId hparse hdescribes
    rw [hfill]
    exact congrArg some hstate

/-- What is created is a receiver of the machine. -/
theorem created_of_create {r : EventHubReceiverLL σ} {connectionString : Option CString}
    {eventHubPath consumerGroup partitionId : Option String}
    (h : create parse env connectionString eventHubPath consumerGroup partitionId = some r) :
    Created r := by
  rcases connectionString with _ | connectionString
  · cases h
  rcases eventHubPath with _ | eventHubPath
  · cases h
  rcases consumerGroup with _ | consumerGroup
  · cases h
  rcases partitionId with _ | partitionId
  · cases h
  simp only [create, Option.ite_none_left_eq_some] at h
  obtain ⟨⟨⟩, hfill, rfl⟩ := Option.map_eq_some_iff.mp h.2.2
  obtain ⟨values, host, keyName, key, -, -, hstate⟩ :=
    describes_of_initializeParams (σ := σ) (Prod.ext hfill rfl)
  rw [hstate]
  exact .fromConnectionString ..

end ConnectionString

/-! ### Creation from a token -/

section SASToken

variable {env : ReceiverCreateEnv} {cfg : EventHubAuthCBSConfig}

/-- The parameters have their path, group and partition. -/
def HasEntity (p : EventHubConnectionParams) : Prop :=
  p.eventHubPath.isSome = true ∧ p.consumerGroup.isSome = true ∧ p.partitionId.isSome = true

/-- The target address of parameters that are there looks at no NULL. -/
theorem initReceiverPartitionURI_present :
    Spec (fun w => w.Present ∧ HasEntity w.state) (initReceiverPartitionURI env)
      (fun _ => Watched.Present) Watched.Present := by
  unfold initReceiverPartitionURI
  refine .bind (.read (Q := fun x w : Filling => w.Present ∧ HasEntity x.state)
    fun _ h => h) fun x => .fact fun h => ?_
  obtain ⟨hpath, hgroup, hpartition⟩ := h
  refine .bind (.present hpath) fun _ => ?_
  refine .bind (.assign (Q := fun _ => Watched.Present) fun _ h => h) fun _ => ?_
  refine .bind (.keep fun _ h => h) fun _ => ?_
  refine .bind (.assign (Q := fun _ => Watched.Present) fun _ h => h) fun _ => ?_
  refine .bind (.present hgroup) fun _ => ?_
  refine .bind (.assign (Q := fun _ => Watched.Present) fun _ h => h) fun _ => ?_
  refine .bind (.keep fun _ h => h) fun _ => ?_
  refine .bind (.assign (Q := fun _ => Watched.Present) fun _ h => h) fun _ => ?_
  refine .bind (.present hpartition) fun _ => ?_
  exact .assign fun _ h => h

/-- The strings of a configuration for a receiver. -/
structure HasReceiverFields (cfg : EventHubAuthCBSConfig) : Prop where
  host : cfg.hostName.isSome = true
  path : cfg.eventHubPath.isSome = true
  group : cfg.receiverConsumerGroup.isSome = true
  partition : cfg.receiverPartitionId.isSome = true

/-- With the strings of a receiver's token, filling the parameters looks at no NULL. -/
theorem initializeSASToken_present (h : HasReceiverFields cfg) :
    Spec Watched.Present (initializeSASToken env cfg) (fun _ => Watched.Present)
      Watched.Present := by
  obtain ⟨hhost, hpath, hgroup, hpartition⟩ := h
  unfold initializeSASToken
  refine .bind (.present hhost) fun _ => ?_
  refine .bind (.assign (Q := fun _ => Watched.Present) fun _ h => h) fun _ => ?_
  refine .bind (.present hpath) fun path => ?_
  refine .bind (.assign (Q := fun _ w => w.Present ∧ w.state.eventHubPath = some path)
    fun _ h => ⟨h, rfl⟩) fun _ => ?_
  refine .bind (.operand (Q := fun _ w => w.Present ∧ w.state.eventHubPath = some path)
    (fun _ _ h => ⟨h.1.concat hgroup, h.2⟩) fun _ h => h.1.concat hgroup) fun group => ?_
  refine .bind (.assign (Q := fun _ w => w.Present ∧ w.state.eventHubPath = some path ∧
    w.state.consumerGroup = some group) fun _ h => ⟨h.1, h.2, rfl⟩) fun _ => ?_
  refine .bind (.operand (Q := fun _ w => w.Present ∧ w.state.eventHubPath = some path ∧
    w.state.consumerGroup = some group)
    (fun _ _ h => ⟨h.1.concat hpartition, h.2⟩) fun _ h => h.1.concat hpartition)
    fun partition => ?_
  refine .bind (.assign (Q := fun _ w => w.Present ∧ HasEntity w.state) fun _ h =>
    ⟨h.1, by rw [h.2.1]; rfl, by rw [h.2.2]; rfl, rfl⟩) fun _ => ?_
  refine .bind initReceiverPartitionURI_present fun _ => ?_
  exact .assign fun _ h => h

variable {parse : CString → Option EventHubAuthCBSConfig} {eventHubSasToken : Option CString}

/-- Creation from a token whose strings are there looks at no NULL. -/
theorem createFromSASToken_present
    (h : ∀ token cfg, parse token = some cfg → cfg.mode = .receiver → HasReceiverFields cfg) :
    ∀ o ∈ (createFromSASToken (σ := σ) parse env eventHubSasToken).2, o.isSome = true := by
  have hnil : ∀ o ∈ ([] : List (Option String)), o.isSome = true := by simp
  unfold createFromSASToken
  rcases eventHubSasToken with _ | token
  · exact hnil
  cases hparse : parse token with
  | none => simp [hparse]
  | some cfg =>
    simp only [hparse]
    split_ifs with hmode
    · exact hnil
    · exact hnil
    · exact hnil
    · have hfill := @initializeSASToken_present env cfg (h token cfg hparse (not_not.mp hmode))
        { state := { credential := .sasTokenExt } } hnil
      revert hfill
      rcases initializeSASToken env cfg { state := { credential := .sasTokenExt } } with
        ⟨_ | ⟨⟨⟩⟩, w⟩ <;> exact id

/-- The parameters that a token gives. -/
theorem eq_of_initializeSASToken {t : Filling}
    (h : initializeSASToken env cfg { state := { credential := .sasTokenExt } } = (some (), t)) :
    ({ connectionParams := t.state } : EventHubReceiverLL σ) = createdFromSASToken cfg := by
  simp only [initializeSASToken, run_operand_eq_some, run_assign] at h
  obtain ⟨-, hostName, hhost, -, path, hpath, -, group, hgroup, -, partition, hpartition, heq⟩ := h
  obtain ⟨⟨⟩, u, huri, heq⟩ := run_bind_eq_some.mp heq
  have hu := eq_of_initReceiverPartitionURI rfl rfl rfl huri
  rw [← (Prod.mk.inj heq).2]
  dsimp only
  rw [hu, createdFromSASToken, hhost, hpath, hgroup, hpartition]
  rfl

/-- What is created is the receiver that the configuration in the token gives. -/
theorem eq_of_createFromSASToken {r : EventHubReceiverLL σ}
    (h : (createFromSASToken parse env eventHubSasToken).1 = some r) :
    ∃ token cfg, eventHubSasToken = some token ∧ parse token = some cfg ∧
      cfg.mode = .receiver ∧ r = createdFromSASToken cfg := by
  unfold createFromSASToken at h
  rcases eventHubSasToken with _ | token
  · cases h
  cases hparse : parse token with
  | none => simp [hparse] at h
  | some cfg =>
    simp only [hparse] at h
    split_ifs at h with hmode
    obtain ⟨⟨⟩, hfill, rfl⟩ := Option.map_eq_some_iff.mp h
    exact ⟨token, cfg, rfl, hparse, not_not.mp hmode, eq_of_initializeSASToken (Prod.ext hfill rfl)⟩

/-- What is created is a receiver of the machine. -/
theorem created_of_createFromSASToken {r : EventHubReceiverLL σ}
    (h : (createFromSASToken parse env eventHubSasToken).1 = some r) : Created r := by
  obtain ⟨_, cfg, -, -, hmode, rfl⟩ := eq_of_createFromSASToken h
  exact .fromSASToken cfg hmode

end SASToken

end EventHubReceiverLL

end EventHubs
