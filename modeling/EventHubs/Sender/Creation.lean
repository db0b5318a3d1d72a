import EventHubs.Endpoint
import EventHubs.Library.Attempt
import EventHubs.Sender.Machine

/-!
# The creation of a sender

`EventHubClient_LL_CreateFromConnectionString` and `EventHubClient_LL_CreateFromSASToken`. The
handles that are given to `STRING_c_str`, `STRING_clone` and `STRING_concat_with_STRING` are kept;
each of these calls gives NULL, or fails, for NULL. `connectionstringparser_parse` and
`EventHubAuthCBS_SASTokenParse` are parameters.

## Main definitions

* `SenderCreateCall`, `SenderCreateEnv` — the outside.
* `EventHubClientLL.createFromConnectionString`, `EventHubClientLL.createFromSASToken`.

## Main results

* `EventHubClientLL.createFromConnectionString_eq_some`.
* `EventHubClientLL.createFromSASToken_present`.
* `EventHubClientLL.created_of_createFromConnectionString`,
  `EventHubClientLL.created_of_createFromSASToken`.
-/

namespace EventHubs

/-- The calls of the two functions that can fail. -/
inductive SenderCreateCall
  | constructConnectionString
  | malloc
  | tickcounterCreate
  | constructHostName
  | constructKeyName
  | constructKeyValue
  | constructTargetAddress
  | concatHostName
  | concatSlash
  | concatEventHubPath
  | concatPublishers
  | concatPublisherId
  | constructEventHubPath
  | cStrPublisherId
  | cStrEventHubPath
  | clonePublisherId
  | cloneEventHubPath
  | cloneHostName
  deriving DecidableEq, Repr

/-- What the environment contributes to the creation of a sender. -/
structure SenderCreateEnv where
  succeeds : SenderCreateCall → Bool := fun _ => true

namespace EventHubClientLL

open Attempt

variable {σ : Type}

/-- The part of a client that creation fills, with the strings that were looked at. -/
abbrev Filling (σ : Type) := Watched (EventHubClientLL σ) String

/-- `STRING_concat` on the target address. -/
def concatTargetAddress (c : EventHubClientLL σ) (part : String) : EventHubClientLL σ :=
  { c with targetAddress := c.targetAddress.map (· ++ part) }

/-- `eventhub_client_assemble_target_address`. -/
def assembleTargetAddress (env : SenderCreateEnv) (eventHubPath : String)
    (publisherId : Option String) : Attempt (Filling σ) Unit := do
  check (env.succeeds .constructTargetAddress)
  assign fun c => { c with targetAddress := some "amqps://" }
  let w ← read id
  let hostName ← operand (env.succeeds .concatHostName) w.state.hostName
  assign (concatTargetAddress · hostName)
  check (env.succeeds .concatSlash)
  assign (concatTargetAddress · "/")
  check (env.succeeds .concatEventHubPath)
  assign (concatTargetAddress · eventHubPath)
  match publisherId with
  | none => pure ()
  | some publisherId => do
    check (env.succeeds .concatPublishers)
    assign (concatTargetAddress · "/publishers/")
    check (env.succeeds .concatPublisherId)
    assign (concatTargetAddress · publisherId)

/-- What `EventHubClient_LL_CreateFromConnectionString` does with the new client. -/
def fillFromConnectionString (env : SenderCreateEnv) (values : KVPMap) (eventHubPath : String) :
    Attempt (Filling σ) Unit := do
  check (env.succeeds .tickcounterCreate)
  let endpoint ← require (values.getValueFromKey "Endpoint".toList)
  let hostnameLength :=
    if sbStringLength < endpoint.length ∧ endpoint.getLast? = some '/' then endpoint.length - 1
    else endpoint.length
  check !(hostnameLength ≤ sbStringLength || !strncmpIsZero endpoint sbString sbStringLength)
  check (env.succeeds .constructHostName)
  assign fun c => { c with hostName := some (String.ofList
    ((endpoint.drop sbStringLength).take (hostnameLength - sbStringLength))) }
  let value ← require (values.getValueFromKey "SharedAccessKeyName".toList)
  check (value.length ≠ 0)
  check (env.succeeds .constructKeyName)
  assign fun c => { c with keyName := some (String.ofList value) }
  let value ← require (values.getValueFromKey "SharedAccessKey".toList)
  check (value.length ≠ 0)
  check (env.succeeds .constructKeyValue)
  assign fun c => { c with keyValue := some (String.ofList value) }
  assembleTargetAddress env eventHubPath none
  check (env.succeeds .constructEventHubPath)
  assign fun c =>
    { c with
      eventHubPath := some eventHubPath
      senderPublisherId := none
      credential := .sasTokenAuto }

/-- `EventHubClient_LL_CreateFromConnectionString`; `none` is NULL. -/
def createFromConnectionString (connectionstringparserParse : CString → Option KVPMap)
    (env : SenderCreateEnv) (connectionString : Option CString) (eventHubPath : Option String) :
    Option (EventHubClientLL σ) :=
  match connectionString, eventHubPath with
  | some connectionString, some eventHubPath =>
    if !env.succeeds .constructConnectionString then none
    else
      match connectionstringparserParse connectionString with
      | none => none
      | some values =>
        if !env.succeeds .malloc then none
        else
          let x := fillFromConnectionString env values eventHubPath { state := {} }
          x.1.map fun _ => x.2.state
  | _, _ => none

/-- What `EventHubClient_LL_CreateFromSASToken` does with the new client. -/
def fillFromSASToken (env : SenderCreateEnv) (cfg : EventHubAuthCBSConfig) :
    Attempt (Filling σ) Unit := do
  check (env.succeeds .tickcounterCreate)
  let publisherId ← operand (env.succeeds .cStrPublisherId) cfg.senderPublisherId
  let eventHubPath ← operand (env.succeeds .cStrEventHubPath) cfg.eventHubPath
  let senderPublisherId ← operand (env.succeeds .clonePublisherId) cfg.senderPublisherId
  assign fun c => { c with senderPublisherId := some senderPublisherId }
  let path ← operand (env.succeeds .cloneEventHubPath) cfg.eventHubPath
  assign fun c => { c with eventHubPath := some path }
  let hostName ← operand (env.succeeds .cloneHostName) cfg.hostName
  assign fun c => { c with hostName := some hostName }
  assembleTargetAddress env eventHubPath (some publisherId)
  assign fun c => { c with credential := .sasTokenExt, extSASTokenParseConfig := some cfg }

/-- `EventHubClient_LL_CreateFromSASToken`: the client, `none` for NULL, and the strings that were
looked at. -/
def createFromSASToken (sasTokenParse : CString → Option EventHubAuthCBSConfig)
    (env : SenderCreateEnv) (eventHubSasToken : Option CString) :
    Option (EventHubClientLL σ) × List (Option String) :=
  match eventHubSasToken with
  | none => (none, [])
  | some eventHubSasToken =>
    match sasTokenParse eventHubSasToken with
    | none => (none, [])
    | some cfg =>
      if cfg.mode ≠ .sender then (none, [])
      else if !env.succeeds .malloc then (none, [])
      else
        let x := fillFromSASToken env cfg { state := {} }
        (x.1.map fun _ => x.2.state, x.2.operands)

section TargetAddress

variable {env : SenderCreateEnv} {eventHubPath hostName : String} {c : EventHubClientLL σ}
  {operands : List (Option String)}

/-- `amqps://`, the host, the path, and the publisher if there is one. -/
def targetAddressOf (hostName eventHubPath : String) (publisherId : Option String) : String :=
  publisherId.elim ("amqps://" ++ hostName ++ "/" ++ eventHubPath)
    ("amqps://" ++ hostName ++ "/" ++ eventHubPath ++ "/publishers/" ++ ·)

/-- The target address of a client with its host name. -/
theorem assembleTargetAddress_eq (publisherId : Option String)
    (hhost : c.hostName = some hostName) :
    assembleTargetAddress {} eventHubPath publisherId ⟨c, operands⟩ =
      (some (), ⟨{ c with
        targetAddress := some (targetAddressOf hostName eventHubPath publisherId) },
        operands ++ [some hostName]⟩) := by
  simp only [assembleTargetAddress, run_check_eq_some, run_assign, run_read, run_operand_eq_some,
    id_eq, hhost, Option.some.injEq, exists_eq_left', true_and]
  cases publisherId <;> rfl

/-- When every call succeeds, it makes no difference which could have failed. -/
theorem eq_of_assembleTargetAddress {publisherId : Option String} {t : Filling σ}
    (hhost : c.hostName = some hostName)
    (h : assembleTargetAddress env eventHubPath publisherId ⟨c, operands⟩ = (some (), t)) :
    t.state = { c with
      targetAddress := some (targetAddressOf hostName eventHubPath publisherId) } := by
  cases c
  cases hhost
  simp only [assembleTargetAddress, run_check_eq_some, run_assign, run_read, run_operand_eq_some,
    id_eq, Option.some.injEq, exists_eq_left'] at h
  obtain ⟨-, -, -, -, h⟩ := h
  cases publisherId with
  | none => rw [← (Prod.mk.inj h).2]; rfl
  | some publisherId =>
    simp only [run_check_eq_some, run_assign] at h
    obtain ⟨-, -, h⟩ := h
    rw [← (Prod.mk.inj h).2]
    rfl

end TargetAddress

/-! ### Creation from a connection string -/

section ConnectionString

variable {env : SenderCreateEnv} {values : KVPMap} {eventHubPath : String}

/-- The client that the entries describe. -/
def describedClient (host keyName key : CString) (eventHubPath : String) : EventHubClientLL σ :=
  createdFromConnectionString (String.ofList keyName) (String.ofList key) (String.ofList host)
    eventHubPath (targetAddressOf (String.ofList host) eventHubPath none)

/-- Entries that describe a connection are stored. -/
theorem fillFromConnectionString_describes (eventHubPath : String) {host keyName key : CString}
    (h : DescribesConnection values host keyName key) :
    ∃ t : Filling σ,
      fillFromConnectionString {} values eventHubPath { state := {} } = (some (), t) ∧
        t.state = describedClient host keyName key eventHubPath := by
  obtain ⟨⟨endpoint, hendpoint, hnames⟩, ⟨hkeyName, hne⟩, hkey, hne'⟩ := h
  obtain ⟨hlt, hprefix, hhost⟩ := namesHost_iff.mp hnames
  refine ⟨⟨describedClient host keyName key eventHubPath, [some (String.ofList host)]⟩, ?_, rfl⟩
  subst hhost
  simp only [fillFromConnectionString, run_check_eq_some, run_require_eq_some, run_assign,
    true_and, Bool.not_eq_true', Bool.or_eq_false_iff, decide_eq_false_iff_not, not_le,
    Bool.not_eq_false', decide_eq_true_iff, ne_eq, List.length_eq_zero_iff]
  refine ⟨endpoint, hendpoint, ⟨hlt, hprefix⟩, keyName, hkeyName, hne, key, hkey, hne', ?_⟩
  rw [run_bind (assembleTargetAddress_eq none rfl), run_check_eq_some]
  exact ⟨rfl, rfl⟩

/-- Only entries that describe a connection are accepted. -/
theorem describes_of_fillFromConnectionString {t : Filling σ}
    (h : fillFromConnectionString env values eventHubPath { state := {} } = (some (), t)) :
    ∃ host keyName key, DescribesConnection values host keyName key ∧
      t.state = describedClient host keyName key eventHubPath := by
  simp only [fillFromConnectionString, run_check_eq_some, run_require_eq_some, run_assign,
    Bool.not_eq_true', Bool.or_eq_false_iff, decide_eq_false_iff_not, not_le,
    Bool.not_eq_false', decide_eq_true_iff, ne_eq, List.length_eq_zero_iff] at h
  obtain ⟨-, endpoint, hendpoint, ⟨hlt, hprefix⟩, -, keyName, hkeyName, hne, -, key, hkey, hne', -,
    heq⟩ := h
  obtain ⟨⟨⟩, u, hassemble, heq⟩ := run_bind_eq_some.mp heq
  have hu := eq_of_assembleTargetAddress rfl hassemble
  refine ⟨_, keyName, key, ⟨⟨endpoint, hendpoint, namesHost_iff.mpr ⟨hlt, hprefix, rfl⟩⟩,
    ⟨hkeyName, hne⟩, ⟨hkey, hne'⟩⟩, ?_⟩
  rw [run_check_eq_some] at heq
  rw [← (Prod.mk.inj heq.2).2]
  dsimp only
  rw [hu]
  rfl

variable {parse : CString → Option KVPMap} {connectionString : CString}

/-- When every call succeeds, a sender is created from the connection strings that describe a
connection. -/
theorem createFromConnectionString_eq_some {c : EventHubClientLL σ} :
    createFromConnectionString parse {} (some connectionString) (some eventHubPath) = some c ↔
      ∃ values host keyName key, parse connectionString = some values ∧
        DescribesConnection values host keyName key ∧
        c = describedClient host keyName key eventHubPath := by
  simp only [createFromConnectionString]
  cases parse connectionString with
  | none => simp
  | some values =>
    constructor
    · intro h
      obtain ⟨⟨⟩, hfill, rfl⟩ := Option.map_eq_some_iff.mp h
      obtain ⟨host, keyName, key, hdescribes, hstate⟩ :=
        describes_of_fillFromConnectionString (Prod.ext hfill rfl)
      exact ⟨values, host, keyName, key, rfl, hdescribes, hstate⟩
    · rintro ⟨values', host, keyName, key, hvalues, hdescribes, rfl⟩
      obtain rfl := Option.some.inj hvalues
      obtain ⟨t, hfill, hstate⟩ :=
        fillFromConnectionString_describes (σ := σ) eventHubPath hdescribes
      rw [if_neg (by simp)]
      dsimp only
      rw [if_neg (by simp), hfill]
      exact congrArg some hstate

/-- What is created is a client of the machine. -/
theorem created_of_createFromConnectionString {c : EventHubClientLL σ}
    {connectionString : Option CString} {eventHubPath : Option String}
    (h : createFromConnectionString parse env connectionString eventHubPath = some c) :
    Created c := by
  rcases connectionString with _ | connectionString
  · cases h
  rcases eventHubPath with _ | eventHubPath
  · cases h
  simp only [createFromConnectionString, Option.ite_none_left_eq_some] at h
  obtain ⟨-, h⟩ := h
  cases hparse : parse connectionString with
  | none => simp [hparse] at h
  | some values =>
    simp only [hparse, Option.ite_none_left_eq_some] at h
    obtain ⟨⟨⟩, hfill, rfl⟩ := Option.map_eq_some_iff.mp h.2
    obtain ⟨host, keyName, key, -, hstate⟩ :=
      describes_of_fillFromConnectionString (Prod.ext hfill rfl)
    rw [hstate]
    exact .fromConnectionString ..

end ConnectionString

/-! ### Creation from a token -/

section SASToken

variable {env : SenderCreateEnv} {cfg : EventHubAuthCBSConfig} {eventHubPath : String}

/-- No NULL was looked at, and the client has its host name. -/
def HasHostName (w : Filling σ) : Prop := w.Present ∧ w.state.hostName.isSome = true

/-- The target address of a client that has its host name looks at no NULL. -/
theorem assembleTargetAddress_present (publisherId : Option String) :
    Spec (HasHostName (σ := σ)) (assembleTargetAddress env eventHubPath publisherId)
      (fun _ => Watched.Present) Watched.Present := by
  unfold assembleTargetAddress
  refine .bind (.keep fun _ h => h.1) fun _ => ?_
  refine .bind (.assign (Q := fun _ => HasHostName) fun _ h => h) fun _ => ?_
  refine .bind (.read (Q := fun x w : Filling σ => w.Present ∧ x.state.hostName.isSome = true)
    fun _ h => h) fun _ => ?_
  refine .bind (.operand (Q := fun _ => Watched.Present) (fun _ _ h => h.1.concat h.2)
    fun _ h => h.1.concat h.2) fun _ => ?_
  refine .bind (.assign (Q := fun _ => Watched.Present) fun _ h => h) fun _ => ?_
  refine .bind (.keep fun _ h => h) fun _ => ?_
  refine .bind (.assign (Q := fun _ => Watched.Present) fun _ h => h) fun _ => ?_
  refine .bind (.keep fun _ h => h) fun _ => ?_
  refine .bind (.assign (Q := fun _ => Watched.Present) fun _ h => h) fun _ => ?_
  cases publisherId with
  | none => exact .pure fun _ h => h
  | some publisherId =>
    refine .bind (.keep fun _ h => h) fun _ => ?_
    refine .bind (.assign (Q := fun _ => Watched.Present) fun _ h => h) fun _ => ?_
    refine .bind (.keep fun _ h => h) fun _ => ?_
    exact .assign fun _ h => h

/-- With the strings of a sender's token, creation looks at no NULL. -/
theorem fillFromSASToken_present (hpublisher : cfg.senderPublisherId.isSome = true)
    (hpath : cfg.eventHubPath.isSome = true) (hhost : cfg.hostName.isSome = true) :
    Spec Watched.Present (fillFromSASToken (σ := σ) env cfg) (fun _ => Watched.Present)
      Watched.Present := by
  unfold fillFromSASToken
  refine .bind (.keep fun _ h => h) fun _ => ?_
  refine .bind (.present hpublisher) fun _ => ?_
  refine .bind (.present hpath) fun _ => ?_
  refine .bind (.present hpublisher) fun _ => ?_
  refine .bind (.assign (Q := fun _ => Watched.Present) fun _ h => h) fun _ => ?_
  refine .bind (.present hpath) fun _ => ?_
  refine .bind (.assign (Q := fun _ => Watched.Present) fun _ h => h) fun _ => ?_
  refine .bind (.present hhost) fun _ => ?_
  refine .bind (.assign (Q := fun _ => HasHostName) fun _ h => ⟨h, rfl⟩) fun _ => ?_
  refine .bind (assembleTargetAddress_present _) fun _ => ?_
  exact .assign fun _ h => h

variable {parse : CString → Option EventHubAuthCBSConfig} {eventHubSasToken : Option CString}

/-- Creation from a token whose strings are there looks at no NULL. -/
theorem createFromSASToken_present
    (h : ∀ token cfg, parse token = some cfg → cfg.mode = .sender →
      cfg.senderPublisherId.isSome = true ∧ cfg.eventHubPath.isSome = true ∧
        cfg.hostName.isSome = true) :
    ∀ o ∈ (createFromSASToken (σ := σ) parse env eventHubSasToken).2, o.isSome = true := by
  have hnil : ∀ o ∈ ([] : List (Option String)), o.isSome = true := by simp
  unfold createFromSASToken
  rcases eventHubSasToken with _ | token
  · exact hnil
  cases hparse : parse token with
  | none => simp [hparse]
  | some cfg =>
    simp only [hparse]
    split_ifs with hmode
    · exact hnil
    · exact hnil
    · obtain ⟨hpublisher, hpath, hhost⟩ := h token cfg hparse (not_not.mp hmode)
      have hfill := @fillFromSASToken_present σ env cfg hpublisher hpath hhost { state := {} } hnil
      revert hfill
      rcases fillFromSASToken env cfg ({ state := {} } : Filling σ) with ⟨_ | ⟨⟨⟩⟩, w⟩ <;> exact id

/-- The client that a token gives. -/
theorem eq_of_fillFromSASToken {t : Filling σ}
    (h : fillFromSASToken env cfg { state := {} } = (some (), t)) :
    ∃ targetAddress, t.state = createdFromSASToken cfg targetAddress := by
  simp only [fillFromSASToken, run_check_eq_some, run_operand_eq_some, run_assign] at h
  obtain ⟨-, -, publisherId, hpublisher, -, path, hpath, -, _, hpublisher', -, _, hpath', -,
    hostName, hhost, heq⟩ := h
  obtain rfl := Option.some.inj (hpublisher.symm.trans hpublisher')
  obtain rfl := Option.some.inj (hpath.symm.trans hpath')
  obtain ⟨⟨⟩, u, hassemble, heq⟩ := run_bind_eq_some.mp heq
  have hu := eq_of_assembleTargetAddress rfl hassemble
  refine ⟨targetAddressOf hostName path (some publisherId), ?_⟩
  rw [← (Prod.mk.inj heq).2]
  dsimp only
  rw [hu, createdFromSASToken, hpublisher, hpath, hhost]

/-- What is created is the client that the configuration in the token gives. -/
theorem eq_of_createFromSASToken {c : EventHubClientLL σ}
    (h : (createFromSASToken parse env eventHubSasToken).1 = some c) :
    ∃ token cfg targetAddress, eventHubSasToken = some token ∧ parse token = some cfg ∧
      cfg.mode = .sender ∧ c = createdFromSASToken cfg targetAddress := by
  unfold createFromSASToken at h
  rcases eventHubSasToken with _ | token
  · cases h
  cases hparse : parse token with
  | none => simp [hparse] at h
  | some cfg =>
    simp only [hparse] at h
    split_ifs at h with hmode
    obtain ⟨⟨⟩, hfill, rfl⟩ := Option.map_eq_some_iff.mp h
    obtain ⟨targetAddress, hstate⟩ := eq_of_fillFromSASToken (Prod.ext hfill rfl)
    exact ⟨token, cfg, targetAddress, rfl, hparse, not_not.mp hmode, hstate⟩

/-- What is created is a client of the machine. -/
theorem created_of_createFromSASToken {c : EventHubClientLL σ}
    (h : (createFromSASToken parse env eventHubSasToken).1 = some c) : Created c := by
  obtain ⟨_, cfg, targetAddress, -, -, hmode, rfl⟩ := eq_of_createFromSASToken h
  exact .fromSASToken cfg targetAddress hmode

end SASToken

end EventHubClientLL

end EventHubs
