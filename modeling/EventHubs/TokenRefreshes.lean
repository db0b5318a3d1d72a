import EventHubs.Receiver.Creation
import EventHubs.Receiver.Waiting
import EventHubs.SASToken.Reading
import EventHubs.Sender.Creation
import EventHubs.Sender.Waiting
import EventHubs.TokenPuts

/-!
# Accepted refresh tokens

A refresh token is validated twice, by the low-level client against the parsed configuration when it
is accepted, and by `EventHubAuthCBS_Refresh` against the auth handle when it is applied. Through
all refreshes and all rebuilds of the stack the two have one URI, so that the second validation
finds nothing that the first one did not find.

## Main definitions

* `EventHubAuthCBS.ParsesToken` — the first validation reads the token itself.
* `EventHubAuthCBS.UpholdsAcceptance` — the second validation agrees.

## Main results

* `run_upholds_acceptance`.
-/

namespace EventHubs

namespace EventHubAuthCBS

/-- `EventHubAuthCBS_SASTokenParse` parses this refresh token with this conversion of the expiry,
and no search for a key fails. -/
def ParsesToken (tokenize : CString → List CString) (convert : CString → Errno → UInt64 × Errno)
    (token : Option String) (env : RefreshEnv) : Prop :=
  ∃ parseEnv : SASTokenParseEnv, parseEnv.kvpParser.FindsKeys ∧ parseEnv.strtoullS = convert ∧
    env.parsed = sasTokenParse tokenize parseEnv (token.map String.toList)

/-- The handle has the URI of the parsed configuration. When no call fails, the refresh token that
waits passes `GetURIAndExpirationFromSASToken` and the comparison of the URIs on the handle that
`EventHubAuthCBS_GetStatus` leaves, whatever `errno` is by then. -/
structure UpholdsAcceptance (convert : CString → Errno → UInt64 × Errno)
    (config : Option EventHubAuthCBSConfig) (handle : Option EventHubAuthCBSStruct)
    (waiting : Option String) : Prop where
  sameURI : ∃ base, config = some base ∧
    ∀ a, handle = some a → a.extSASTokenURI.map (·.text) = base.extSASTokenURI
  applies : ∀ a token, handle = some a → waiting = some token →
    ∀ (errno : Errno) (statusEnv env : AuthEnv), (∀ call, env.succeeds call = true) →
      (installRefreshToken (readSASToken convert errno) (getStatus a statusEnv).handle token
        env).1 = true

/-- The token reads with this URI. -/
def ReadsWith (convert : CString → Errno → UInt64 × Errno) (uri : Option String) (token : String) :
    Prop :=
  ∃ found, uri = some found ∧ ∀ errno, ∃ e, readSASToken convert errno token = some (found, e)

variable {tokenize : CString → List CString} {convert : CString → Errno → UInt64 × Errno}
  {uri : Option String}

/-- What a parsed refresh token with this URI is. -/
theorem ParsesToken.readsWith (hconvert : ReportsOverflow convert) {token : String}
    {env : RefreshEnv} (h : ParsesToken tokenize convert (some token) env) :
    ∀ cfg, env.parsed = some cfg → cfg.extSASTokenURI = uri → ReadsWith convert uri token := by
  obtain ⟨parseEnv, hkeys, rfl, hparsed⟩ := h
  rintro cfg hcfg rfl
  exact readSASToken_of_sasTokenParse hkeys hconvert (hparsed.symm.trans hcfg)

/-- A refresh token that reads with the URI of the handle is taken. -/
theorem ReadsWith.installs {token : String} (h : ReadsWith convert uri token)
    {a : EventHubAuthCBSStruct} (ha : a.extSASTokenURI.map (·.text) = uri) (errno : Errno)
    (statusEnv : AuthEnv) {env : AuthEnv} (hall : ∀ call, env.succeeds call = true) :
    (installRefreshToken (readSASToken convert errno) (getStatus a statusEnv).handle token
      env).1 = true := by
  obtain ⟨found, rfl, hread⟩ := h
  obtain ⟨e, hread⟩ := hread errno
  have huri := (congrArg (Option.map (·.text)) (getStatus_sameConfig a statusEnv).extURI).trans ha
  exact (installRefreshToken_iff _ hall token).mpr ⟨found, e, hread, huri⟩

theorem sasTokenParse_credential {env : SASTokenParseEnv} {token : Option CString}
    {cfg : EventHubAuthCBSConfig} (h : sasTokenParse tokenize env token = some cfg) :
    cfg.credential = .sasTokenExt := by
  rcases token with _ | token
  · cases h
  simp only [sasTokenParse, Option.ite_none_left_eq_some] at h
  obtain ⟨-, -, h⟩ := h
  cases hread : getURIAndExpirationFromSASToken env token with
  | none => simp [hread] at h
  | some found =>
    simp only [hread, Option.ite_none_left_eq_some] at h
    obtain ⟨-, -, -, -, h⟩ := h
    obtain rfl := Option.some.inj h
    rfl

end EventHubAuthCBS

open EventHubAuthCBS

/-- The refresh tokens given to a sender are parsed. -/
def EventHubClientLL.ParsesTokens (tokenize : CString → List CString)
    (convert : CString → Errno → UInt64 × Errno) : SenderInput AuthEnv → Prop
  | .refreshSASTokenAsync token env => ParsesToken tokenize convert token env
  | _ => True

/-- The refresh tokens given to a receiver are parsed. -/
def EventHubReceiverLL.ParsesTokens (tokenize : CString → List CString)
    (convert : CString → Errno → UInt64 × Errno) : ReceiverInput AuthEnv → Prop
  | .refreshSASTokenAsync token env => ParsesToken tokenize convert token env
  | _ => True

theorem EventHubClientLL.ParsesTokens.admits {tokenize : CString → List CString}
    {convert : CString → Errno → UInt64 × Errno} (hconvert : ReportsOverflow convert)
    {uri : Option String} {i : SenderInput AuthEnv} (h : ParsesTokens tokenize convert i) :
    Admits (ReadsWith convert uri) uri i := by
  unfold Admits
  split
  · exact ParsesToken.readsWith hconvert h
  · trivial

theorem EventHubReceiverLL.ParsesTokens.admits {tokenize : CString → List CString}
    {convert : CString → Errno → UInt64 × Errno} (hconvert : ReportsOverflow convert)
    {uri : Option String} {i : ReceiverInput AuthEnv} (h : ParsesTokens tokenize convert i) :
    Admits (ReadsWith convert uri) uri i := by
  unfold Admits
  split
  · exact ParsesToken.readsWith hconvert h
  · trivial

/-- In every run of a sender or a receiver that was created from a SAS token, whatever the earlier
refreshes read, the auth handle has the URI of the parsed configuration, and a refresh token that
was accepted is not rejected when it is applied. Of the conversion of the expiry it is assumed that
it reports an overflow for the numbers that do not fit and for no other. -/
theorem run_upholds_acceptance (parse : String → Option (String × UInt64))
    (tokenize : CString → List CString) {convert : CString → Errno → UInt64 × Errno}
    (hconvert : ReportsOverflow convert) (parseEnv : SASTokenParseEnv) (token : Option CString) :
    (∀ (createEnv : SenderCreateEnv) (c : EventHubClientLL EventHubAuthCBSStruct)
        (is : List (SenderInput AuthEnv)) (s : SenderState EventHubAuthCBSStruct),
      (EventHubClientLL.createFromSASToken
        (fun text => sasTokenParse tokenize parseEnv (some text)) createEnv token).1 = some c →
      (∀ i ∈ is, EventHubClientLL.ParsesTokens tokenize convert i) →
      (EventHubClientLL.senderMachine (authModule parse)).run { client := c } is = some s →
      UpholdsAcceptance convert s.client.extSASTokenParseConfig s.client.cbsHandle
        s.client.extRefreshSASToken) ∧
    (∀ (createEnv : ReceiverCreateEnv) (c : EventHubReceiverLL EventHubAuthCBSStruct)
        (is : List (ReceiverInput AuthEnv)) (s : ReceiverState EventHubAuthCBSStruct),
      (EventHubReceiverLL.createFromSASToken
        (fun text => sasTokenParse tokenize parseEnv (some text)) createEnv token).1 = some c →
      (∀ i ∈ is, EventHubReceiverLL.ParsesTokens tokenize convert i) →
      (EventHubReceiverLL.receiverMachine (authModule parse)).run { client := c } is = some s →
      UpholdsAcceptance convert s.client.connectionParams.extSASTokenConfig s.client.cbsHandle
        s.client.extRefreshSASToken) := by
  refine ⟨fun createEnv c is s hcreate hparses hrun => ?_,
    fun createEnv c is s hcreate hparses hrun => ?_⟩
  · obtain ⟨_, cfg, targetAddress, -, hcfg, hmode, rfl⟩ :=
      EventHubClientLL.eq_of_createFromSASToken hcreate
    have hcred := sasTokenParse_credential hcfg
    obtain ⟨⟨hbase, hwaits⟩, huri⟩ := EventHubClientLL.run_waiting
      (.fromSASToken cfg targetAddress hmode)
      (.inr ⟨rfl, cfg, rfl, fun _ => ⟨hcred, rfl⟩⟩) rfl
      (fun i hi => (hparses i hi).admits hconvert) hrun
    obtain ⟨base, hconfig, hsame⟩ := hbase
    exact ⟨⟨base, hconfig, fun a ha => (huri a ha).trans hsame.symm⟩,
      fun a text ha htext errno statusEnv env hall =>
        (hwaits text htext).installs (huri a ha) errno statusEnv hall⟩
  · obtain ⟨_, cfg, -, hcfg, hmode, rfl⟩ := EventHubReceiverLL.eq_of_createFromSASToken hcreate
    have hcred := sasTokenParse_credential hcfg
    obtain ⟨⟨hbase, hwaits⟩, huri⟩ := EventHubReceiverLL.run_waiting
      (.fromSASToken cfg hmode)
      (.inr ⟨cfg, rfl, fun _ => ⟨hcred, rfl⟩⟩)
      (fun i hi => (hparses i hi).admits hconvert) hrun
    obtain ⟨base, hconfig, hsame⟩ := hbase
    exact ⟨⟨base, hconfig, fun a ha => (huri a ha).trans hsame.symm⟩,
      fun a text ha htext errno statusEnv env hall =>
        (hwaits text htext).installs (huri a ha) errno statusEnv hall⟩

/-- A token for a partition. -/
def consumerToken : String :=
  "SharedAccessSignature sr=sb%3a%2f%2fh%2fe%2fConsumerGroups%2fg%2fPartitions%2f0&sig=s&se=1&skn=k"

/-- The configuration in this token. -/
def consumerConfig : EventHubAuthCBSConfig where
  hostName := some "h"
  eventHubPath := some "e"
  receiverConsumerGroup := some "g"
  receiverPartitionId := some "0"
  extSASToken := some consumerToken
  extSASTokenURI := some "h%2fe%2fConsumerGroups%2fg%2fPartitions%2f0"
  extSASTokenExpTSInEpochSec := 1
  mode := .receiver
  credential := .sasTokenExt

theorem sasTokenParse_consumerToken :
    sasTokenParse uriSegments { strtoullS := clearedStrtoull } (some consumerToken.toList) =
      some consumerConfig := by
  decide +kernel

/-- A receiver is created from a token of a consumer. -/
theorem createFromSASToken_consumerToken :
    (EventHubReceiverLL.createFromSASToken (σ := EventHubAuthCBSStruct)
      (fun text => sasTokenParse uriSegments { strtoullS := clearedStrtoull } (some text)) {}
      (some consumerToken.toList)).1 =
        some (EventHubReceiverLL.createdFromSASToken consumerConfig) := by
  unfold EventHubReceiverLL.createFromSASToken
  dsimp only
  rw [sasTokenParse_consumerToken]
  rfl

/-- A reception is started, a refresh token is accepted, and the stack is authorised. -/
def refreshing : List (ReceiverInput AuthEnv) :=
  [.receiveFromStartTimestampAsync (some ⟨1, none⟩) (some ⟨2, none⟩) 0 {},
    .refreshSASTokenAsync (some consumerToken) { parsed := some consumerConfig },
    .doWork (EventHubReceiverLL.workAt 1), .onCBSPutTokenOperationComplete .ok {},
    .uamqpReturn true (EventHubReceiverLL.workAt 1)]

/-- The token is accepted, and it waits. -/
theorem run_upholds_acceptance_refreshing :
    ∃ s, (EventHubReceiverLL.receiverMachine (authModule (readSASToken clearedStrtoull 0))).run
        { client := .createdFromSASToken consumerConfig } refreshing = some s ∧
      s.client.extRefreshSASToken = some consumerToken ∧
      UpholdsAcceptance clearedStrtoull s.client.connectionParams.extSASTokenConfig
        s.client.cbsHandle s.client.extRefreshSASToken := by
  have hparses : ∀ i ∈ refreshing,
      EventHubReceiverLL.ParsesTokens uriSegments clearedStrtoull i := by
    simp only [refreshing, List.forall_mem_cons, EventHubReceiverLL.ParsesTokens, true_and]
    exact ⟨⟨{ strtoullS := clearedStrtoull }, fun _ => rfl, rfl,
      sasTokenParse_consumerToken.symm⟩, by simp⟩
  refine ⟨_, rfl, rfl, ?_⟩
  exact (run_upholds_acceptance (readSASToken clearedStrtoull 0) uriSegments
    clearedStrtoull_reportsOverflow { strtoullS := clearedStrtoull }
    (some consumerToken.toList)).2 {} _ refreshing _ createFromSASToken_consumerToken hparses rfl

end EventHubs
