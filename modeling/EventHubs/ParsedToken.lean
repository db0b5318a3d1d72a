import EventHubs.Auth.Handle
import EventHubs.Receiver.Creation
import EventHubs.SASToken.ParseHandles
import EventHubs.Sender.Creation

/-!
# A parsed token and those who use it

`EventHubClient_LL_CreateFromSASToken`, `EventHubConnectionParams_InitializeSASToken` and
`EventHubAuthCBS_Create` take fields of the configuration that `EventHubAuthCBS_SASTokenParse`
returns without a look at the rest of it. Whatever calls of the parser fail, what it returns has
all of them.

## Main definitions

* `EventHubAuthCBS.Complete` — the fields of a parsed token.
* `EventHubAuthCBS.parsedToken` — the parser as its users see it.

## Main results

* `EventHubAuthCBS.complete_of_parsedToken`.
* `EventHubAuthCBS.create_ext_iff` — when a handle is created for an external token.
* `EventHubAuthCBS.parsedToken_serves_consumers`.
-/

namespace EventHubs.EventHubAuthCBS

open Attempt

/-- What is there and what is not in the configuration of a parsed token. -/
structure Complete (cfg : EventHubAuthCBSConfig) : Prop where
  credential : cfg.credential = .sasTokenExt
  mode : cfg.mode = .sender ∨ cfg.mode = .receiver
  hostName : ∃ hostName, cfg.hostName = some hostName ∧ hostName ≠ ""
  eventHubPath : ∃ eventHubPath, cfg.eventHubPath = some eventHubPath ∧ eventHubPath ≠ ""
  extSASToken : cfg.extSASToken.isSome = true
  extSASTokenURI : cfg.extSASTokenURI.isSome = true
  sender : cfg.mode = .sender → cfg.senderPublisherId.isSome = true ∧
    cfg.receiverConsumerGroup = none ∧ cfg.receiverPartitionId = none
  receiver : cfg.mode = .receiver → cfg.receiverConsumerGroup.isSome = true ∧
    cfg.receiverPartitionId.isSome = true ∧ cfg.senderPublisherId = none
  noKey : cfg.sharedAccessKeyName = none ∧ cfg.sharedAccessKey = none

/-- `EventHubAuthCBS_SASTokenParse` as its users see it. -/
def parsedToken (kvpParse : CString → Option KVPMap) (tokenize : CString → List CString)
    (env : SASTokenParseEnv) (l : Ledger SASTokenObject) (extSASToken : CString) :
    Option EventHubAuthCBSConfig :=
  (sasTokenParseOn kvpParse tokenize env (some extSASToken) l).1.map Prod.snd

section Parser

variable {kvpParse : CString → Option KVPMap} {tokenize : CString → List CString}
  {env : SASTokenParseEnv} {l : Ledger SASTokenObject} {extSASToken uriData : CString}
  {expirationTimestamp : UInt64} {cfg : EventHubAuthCBSConfig}

theorem ofList_ne_empty {text : CString} (h : text ≠ []) : String.ofList text ≠ "" :=
  fun heq => h (by simpa using congrArg String.toList heq)

/-- A configuration that names a resource, with its token. -/
theorem Resource.Named.complete {r : Resource} (hr : r.Named) (extSASToken uriData : CString)
    (expirationTimestamp : UInt64) :
    Complete { r.config with
      extSASTokenExpTSInEpochSec := expirationTimestamp
      extSASTokenURI := some (String.ofList uriData)
      extSASToken := some (String.ofList extSASToken)
      credential := .sasTokenExt } := by
  cases r with
  | sender host path publisher =>
    obtain ⟨hhost, hpath, -⟩ := hr
    exact
      { credential := rfl
        mode := .inl rfl
        hostName := ⟨_, rfl, ofList_ne_empty hhost⟩
        eventHubPath := ⟨_, rfl, ofList_ne_empty hpath⟩
        extSASToken := rfl
        extSASTokenURI := rfl
        sender := fun _ => ⟨rfl, rfl, rfl⟩
        receiver := fun h => by cases h
        noKey := ⟨rfl, rfl⟩ }
  | receiver host path group partition =>
    obtain ⟨hhost, hpath, -, -⟩ := hr
    exact
      { credential := rfl
        mode := .inr rfl
        hostName := ⟨_, rfl, ofList_ne_empty hhost⟩
        eventHubPath := ⟨_, rfl, ofList_ne_empty hpath⟩
        extSASToken := rfl
        extSASTokenURI := rfl
        sender := fun h => by cases h
        receiver := fun _ => ⟨rfl, rfl, rfl⟩
        noKey := ⟨rfl, rfl⟩ }

/-- What is returned from the creation of the tokenizer on. -/
theorem complete_of_fillConfigOn {sasTokenHandle uriHandle config : ℕ}
    (h : (fillConfigOn tokenize env extSASToken uriData expirationTimestamp sasTokenHandle uriHandle
      config l).1.map Prod.snd = some cfg) : Complete cfg := by
  rw [fillConfigOn_fst] at h
  simp only [Option.ite_none_left_eq_some] at h
  obtain ⟨-, -, hstop, hcfg⟩ := h
  obtain rfl := Option.some.inj hcfg
  have hsound : SASTokenURIState.Sound (SASTokenURIState.segments env (tokenize uriData) {}) :=
    SASTokenURIState.segments_sound _ (.filled rfl .hostName)
  cases hsound with
  | error herror => simp [herror] at hstop
  | filled hdone => simp [hdone] at hstop
  | done _ r hr hresult =>
    rw [hresult]
    exact hr.complete ..

/-- Whatever calls fail, what is returned is complete. -/
theorem complete_of_parsedToken (h : parsedToken kvpParse tokenize env l extSASToken = some cfg) :
    Complete cfg := by
  simp only [parsedToken, sasTokenParseOn] at h
  cases hconstruct : env.succeeds .constructToken with
  | false => simp [hconstruct] at h
  | true =>
    cases huri : env.succeeds .newURI with
    | false => simp [hconstruct, huri] at h
    | true =>
      cases hread : (getURIAndExpirationOn kvpParse env extSASToken
        ((l.create .string).create .string)).1 with
      | none => simp [hconstruct, huri, hread] at h
      | some found =>
        cases hmalloc : env.succeeds .malloc with
        | false => simp [hconstruct, huri, hread, hmalloc] at h
        | true =>
          simp only [hconstruct, huri, hread, hmalloc] at h
          exact complete_of_fillConfigOn h

end Parser

/-! ### Those who use it -/

section Consumers

variable {cfg : EventHubAuthCBSConfig} {env : AuthEnv}

theorem Complete.hasReceiverFields (h : Complete cfg) (hmode : cfg.mode = .receiver) :
    EventHubReceiverLL.HasReceiverFields cfg := by
  obtain ⟨_, hhost, -⟩ := h.hostName
  obtain ⟨_, hpath, -⟩ := h.eventHubPath
  obtain ⟨hgroup, hpartition, -⟩ := h.receiver hmode
  exact ⟨by rw [hhost]; rfl, by rw [hpath]; rfl, hgroup, hpartition⟩

theorem createFields_succeeds (hcred : cfg.credential = .sasTokenExt)
    (hall : ∀ call, env.succeeds call = true) : Succeeds (createFields cfg env) := by
  have hstrings : Succeeds (createStrings cfg env) := by
    rw [createStrings, if_pos hcred]
    exact .bind .update fun _ => .bind (.check (hall _)) fun _ => .bind .update fun _ =>
      .bind (.check (hall _)) fun _ => .update
  exact .bind hstrings fun _ => .bind (.check (hall _)) fun _ => .bind .update fun _ =>
    .bind (.check (hall _)) fun _ => .update

/-- When every call succeeds, a handle for an external token is created if its arguments pass. -/
theorem create_ext_iff {session : Option Handle} (hcred : cfg.credential = .sasTokenExt)
    (hall : ∀ call, env.succeeds call = true) :
    (∃ a, create cfg session env = .ok a) ↔ validArguments cfg session = true := by
  unfold create
  rw [hall .malloc]
  cases validArguments cfg session with
  | false => simp
  | true =>
    obtain ⟨_, a, ha⟩ := createFields_succeeds hcred hall {}
    simp [ha]

/-- The arguments of a parsed token pass if it has an expiry. -/
theorem Complete.validArguments_iff (h : Complete cfg) (session : Handle) :
    validArguments cfg (some session) = true ↔ cfg.extSASTokenExpTSInEpochSec ≠ 0 := by
  have hmode : (decide (cfg.mode = .sender) || decide (cfg.mode = .receiver)) = true := by
    simpa using h.mode
  simp only [validArguments, hmode, h.credential, h.extSASToken, h.extSASTokenURI,
    Option.isSome_some, Bool.true_and, decide_eq_true_iff]

end Consumers

/-- Whatever calls of the parser fail, what it returns is complete; creation from the token, of a
sender and of a receiver, looks at no NULL, whatever calls of it fail; and when every call succeeds,
a handle is created for it if and only if it has an expiry. -/
theorem parsedToken_serves_consumers (σ τ : Type) {kvpParse : CString → Option KVPMap}
    {tokenize : CString → List CString} {env : SASTokenParseEnv} {l : Ledger SASTokenObject}
    {extSASToken : CString} {cfg : EventHubAuthCBSConfig}
    (h : parsedToken kvpParse tokenize env l extSASToken = some cfg) :
    Complete cfg ∧
      (∀ senderEnv, ∀ o ∈ (EventHubClientLL.createFromSASToken (σ := σ)
        (parsedToken kvpParse tokenize env l) senderEnv (some extSASToken)).2, o.isSome = true) ∧
      (∀ receiverEnv, ∀ o ∈ (EventHubReceiverLL.createFromSASToken (σ := τ)
        (parsedToken kvpParse tokenize env l) receiverEnv (some extSASToken)).2,
          o.isSome = true) ∧
      ∀ (session : Handle) (authEnv : AuthEnv), (∀ call, authEnv.succeeds call = true) →
        ((∃ a, create cfg (some session) authEnv = .ok a) ↔
          cfg.extSASTokenExpTSInEpochSec ≠ 0) := by
  have hcomplete := complete_of_parsedToken h
  refine ⟨hcomplete, fun senderEnv => ?_, fun receiverEnv => ?_, fun session authEnv hall => ?_⟩
  · refine EventHubClientLL.createFromSASToken_present fun token cfg hparse hmode => ?_
    have hparsed := complete_of_parsedToken hparse
    obtain ⟨_, hhost, -⟩ := hparsed.hostName
    obtain ⟨_, hpath, -⟩ := hparsed.eventHubPath
    exact ⟨(hparsed.sender hmode).1, by rw [hpath]; rfl, by rw [hhost]; rfl⟩
  · exact EventHubReceiverLL.createFromSASToken_present fun token cfg hparse hmode =>
      (complete_of_parsedToken hparse).hasReceiverFields hmode
  · rw [create_ext_iff hcomplete.credential hall, hcomplete.validArguments_iff]

/-- The token of a publisher gives a complete configuration, for which a handle is created. -/
theorem parsedToken_serves_publisher :
    ∃ cfg, parsedToken (parseTokenMap {}) uriSegments {} {}
        "SharedAccessSignature sr=sb%3a%2f%2fh%2fe%2fpublishers%2fp&sig=s&se=1&skn=k".toList =
          some cfg ∧
      Complete cfg ∧
      ∀ (session : Handle) (authEnv : AuthEnv), (∀ call, authEnv.succeeds call = true) →
        ((∃ a, create cfg (some session) authEnv = .ok a) ↔
          cfg.extSASTokenExpTSInEpochSec ≠ 0) := by
  obtain ⟨cfg, hparsed⟩ := Option.isSome_iff_exists.mp (show (parsedToken (parseTokenMap {})
    uriSegments {} {}
    "SharedAccessSignature sr=sb%3a%2f%2fh%2fe%2fpublishers%2fp&sig=s&se=1&skn=k".toList).isSome =
      true by decide +kernel)
  obtain ⟨hcomplete, -, -, hcreate⟩ := parsedToken_serves_consumers Unit Unit hparsed
  exact ⟨cfg, hparsed, hcomplete, hcreate⟩

end EventHubs.EventHubAuthCBS
