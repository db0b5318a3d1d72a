import EventHubs.Auth.Handle

/-!
# What the functions of `eventhubauth.c` can do

One statement for each function, so that no later proof unfolds one: which fields a call keeps,
when it puts a token and what that put carries, and what a status is computed from.

## Main definitions

* `EventHubAuthCBSStruct.SameConfig`, `EventHubAuthCBSStruct.SameToken` — the fields a call keeps.
* `EventHubAuthCBS.Authenticated`, `EventHubAuthCBS.Refreshed` — the outcomes of a call.

## Main results

* `EventHubAuthCBS.authenticate_spec`, `EventHubAuthCBS.refresh_spec`,
  `EventHubAuthCBS.create_spec`.
* `EventHubAuthCBS.updateEventHubAuthACBSStatus_status`.
-/

namespace EventHubs

open Attempt

namespace EventHubAuthCBSStruct

/-- The fields that only `EventHubAuthCBS_Create` writes. -/
structure SameConfig (a b : EventHubAuthCBSStruct) : Prop where
  credential : b.credential = a.credential
  expirationTime : b.sasTokenExpirationTimeInSec = a.sasTokenExpirationTimeInSec
  refreshPeriod : b.sasTokenRefreshPeriodInSecs = a.sasTokenRefreshPeriodInSecs
  timeout : b.sasTokenAuthFailureTimeoutInSecs = a.sasTokenAuthFailureTimeoutInSecs
  extURI : b.extSASTokenURI = a.extSASTokenURI

/-- The external token and its expiry. -/
structure SameToken (a b : EventHubAuthCBSStruct) : Prop where
  extSASToken : b.extSASToken = a.extSASToken
  expiry : b.extSASTokenExpTSInEpochSec = a.extSASTokenExpTSInEpochSec

theorem SameConfig.refl (a : EventHubAuthCBSStruct) : SameConfig a a := ⟨rfl, rfl, rfl, rfl, rfl⟩

theorem SameConfig.trans {a b c : EventHubAuthCBSStruct} (h : SameConfig a b)
    (h' : SameConfig b c) : SameConfig a c :=
  ⟨h'.1.trans h.1, h'.2.trans h.2, h'.3.trans h.3, h'.4.trans h.4, h'.5.trans h.5⟩

theorem SameToken.refl (a : EventHubAuthCBSStruct) : SameToken a a := ⟨rfl, rfl⟩

end EventHubAuthCBSStruct

namespace EventHubAuthCBS

open EventHubAuthCBSStruct

/-! ### Status -/

theorem updateEventHubAuthACBSStatus_sameConfig (a : EventHubAuthCBSStruct)
    (reading : Option UInt64) :
    SameConfig a (updateEventHubAuthACBSStatus a reading).2 := by
  unfold updateEventHubAuthACBSStatus
  cases reading <;> dsimp only <;> split_ifs <;> exact ⟨rfl, rfl, rfl, rfl, rfl⟩

theorem updateEventHubAuthACBSStatus_sameToken (a : EventHubAuthCBSStruct)
    (reading : Option UInt64) :
    SameToken a (updateEventHubAuthACBSStatus a reading).2 := by
  unfold updateEventHubAuthACBSStatus
  cases reading <;> dsimp only <;> split_ifs <;> exact ⟨rfl, rfl⟩

/-- Everything but the status survives an update. -/
theorem updateEventHubAuthACBSStatus_eq (a : EventHubAuthCBSStruct) (reading : Option UInt64) :
    (updateEventHubAuthACBSStatus a reading).2 =
      { a with cbsStatus := (updateEventHubAuthACBSStatus a reading).2.cbsStatus } := by
  unfold updateEventHubAuthACBSStatus
  cases reading <;> dsimp only <;> split_ifs <;> rfl

/-- Without a reading nothing is updated. -/
theorem updateEventHubAuthACBSStatus_none (a : EventHubAuthCBSStruct) :
    (updateEventHubAuthACBSStatus a none).2 = a := by
  unfold updateEventHubAuthACBSStatus
  split_ifs <;> rfl

/-- The statuses an update can turn into another one. -/
theorem updateEventHubAuthACBSStatus_status (a : EventHubAuthCBSStruct)
    (reading : Option UInt64) :
    (updateEventHubAuthACBSStatus a reading).2.cbsStatus = a.cbsStatus ∨
    (a.cbsStatus = .inProgress ∧
      (updateEventHubAuthACBSStatus a reading).2.cbsStatus = .timeout) ∨
    (a.credential = .sasTokenAuto ∧ (a.cbsStatus = .ok ∨ a.cbsStatus = .refreshRequired) ∧
      ((updateEventHubAuthACBSStatus a reading).2.cbsStatus = .expired ∨
        (updateEventHubAuthACBSStatus a reading).2.cbsStatus = .refreshRequired)) := by
  by_cases htoken : checksToken a = true
  · have hsource : a.credential = .sasTokenAuto ∧
        (a.cbsStatus = .ok ∨ a.cbsStatus = .refreshRequired) := by
      simpa [checksToken] using htoken
    cases reading with
    | none => exact Or.inl (by simp [updateEventHubAuthACBSStatus, htoken])
    | some now =>
      simp only [updateEventHubAuthACBSStatus, htoken, if_true]
      split_ifs
      · exact Or.inr (Or.inr ⟨hsource.1, hsource.2, Or.inl rfl⟩)
      · exact Or.inr (Or.inr ⟨hsource.1, hsource.2, Or.inr rfl⟩)
      · exact Or.inl rfl
  · by_cases hput : checksPut a = true
    · have hsource : a.cbsStatus = .inProgress ∧ a.cbOperation = .put := by
        simpa [checksPut] using hput
      cases reading with
      | none => exact Or.inl (by simp [updateEventHubAuthACBSStatus, htoken, hput])
      | some now =>
        simp only [updateEventHubAuthACBSStatus, htoken, hput, if_true, if_false,
          Bool.false_eq_true]
        split_ifs
        · exact Or.inr (Or.inl ⟨hsource.1, rfl⟩)
        · exact Or.inl rfl
    · exact Or.inl (by simp [updateEventHubAuthACBSStatus, htoken, hput])

/-! ### Authentication -/

/-- The outcomes of `EventHubAuthCBS_Authenticate`: a refusal that shows nothing, or one put. -/
inductive Authenticated (a : EventHubAuthCBSStruct) (env : AuthEnv) :
    Answer EventHubAuthCBSStruct EventHubAuthResult → Prop
  | refused {r : EventHubAuthResult} {b : EventHubAuthCBSStruct} (hr : r ≠ .ok)
      (hstatus : b.cbsStatus = a.cbsStatus) (hop : a.cbOperation = b.cbOperation) :
      Authenticated a env ⟨r, b, []⟩
  | putMade {p : PutToken} {b : EventHubAuthCBSStruct} (hidle : a.cbsStatus ≠ .inProgress)
      (hnow : env.putNow = some p.now)
      (hext : a.credential = .sasTokenExt →
        a.extSASToken.map (·.text) = some p.sasToken ∧
        p.expiry = a.extSASTokenExpTSInEpochSec.toNat ∧
        a.extSASTokenExpTSInEpochSec ≤ p.now)
      (hauto : a.credential = .sasTokenAuto →
        b.sasTokenCreateTimestamp = p.now ∧
        p.expiry = p.now.toNat + a.sasTokenExpirationTimeInSec.toNat)
      (hcredential : a.credential ≠ .unknown)
      (hstatus : b.cbsStatus = if p.accepted then .inProgress else a.cbsStatus)
      (hop : b.cbOperation = .put) (htime : b.sasTokenPutTime = p.now) :
      Authenticated a env ⟨if p.accepted then .ok else .error, b, [.put p]⟩

/-- The tail that puts the token either stops before the put or makes it. -/
theorem putToken_cases (a : EventHubAuthCBSStruct) (now : UInt64)
    (token uri : Option StringHandle) (env : AuthEnv) :
    (∃ b, putToken a now token uri env = ⟨.error, b, []⟩ ∧ b.cbsStatus = a.cbsStatus ∧
      b.cbOperation = a.cbOperation) ∨
    ∃ b p, putToken a now token uri env = ⟨if p.accepted then .ok else .error, b, [.put p]⟩ ∧
      p.now = now ∧ token.map (·.text) = some p.sasToken ∧ p.expiry = a.tokenExpiry ∧
      b.sasTokenCreateTimestamp = a.sasTokenCreateTimestamp ∧
      b.cbsStatus = (if p.accepted then .inProgress else a.cbsStatus) ∧
      b.cbOperation = .put ∧ b.sasTokenPutTime = now := by
  unfold putToken
  cases uri with
  | none =>
    refine Or.inl ⟨_, rfl, ?_⟩
    exact ⟨rfl, rfl⟩
  | some u =>
    cases env.succeeds .cStrURI with
    | false =>
      refine Or.inl ⟨_, rfl, ?_⟩
      exact ⟨rfl, rfl⟩
    | true =>
      cases token with
      | none =>
        refine Or.inl ⟨_, rfl, ?_⟩
        exact ⟨rfl, rfl⟩
      | some t =>
        cases env.succeeds .cStrSASToken with
        | false =>
          refine Or.inl ⟨_, rfl, ?_⟩
          exact ⟨rfl, rfl⟩
        | true =>
          cases env.succeeds .cbsPutTokenAsync with
          | false =>
            refine Or.inr ⟨_, ⟨u.text, t.text, now, a.tokenExpiry, false⟩, rfl, ?_⟩
            exact ⟨rfl, rfl, rfl, rfl, rfl, rfl, rfl⟩
          | true =>
            refine Or.inr ⟨_, ⟨u.text, t.text, now, a.tokenExpiry, true⟩, rfl, ?_⟩
            exact ⟨rfl, rfl, rfl, rfl, rfl, rfl, rfl⟩

theorem putToken_keeps (a : EventHubAuthCBSStruct) (now : UInt64)
    (token uri : Option StringHandle) (env : AuthEnv) :
    SameConfig a (putToken a now token uri env).handle ∧
      SameToken a (putToken a now token uri env).handle := by
  unfold putToken
  cases uri with
  | none => exact ⟨⟨rfl, rfl, rfl, rfl, rfl⟩, rfl, rfl⟩
  | some u =>
    cases token with
    | none => dsimp only; split_ifs <;> exact ⟨⟨rfl, rfl, rfl, rfl, rfl⟩, rfl, rfl⟩
    | some t => dsimp only; split_ifs <;> exact ⟨⟨rfl, rfl, rfl, rfl, rfl⟩, rfl, rfl⟩

theorem authenticate_inProgress {a : EventHubAuthCBSStruct} (h : a.cbsStatus = .inProgress)
    (env : AuthEnv) : authenticate a env = ⟨.notPermited, a, []⟩ := by
  simp only [authenticate, h, if_true]

theorem authenticate_noReading {a : EventHubAuthCBSStruct} (h : a.cbsStatus ≠ .inProgress)
    {env : AuthEnv} (hnow : env.putNow = none) : authenticate a env = ⟨.error, a, []⟩ := by
  simp only [authenticate, if_neg h, hnow]

theorem authenticate_ext {a : EventHubAuthCBSStruct} (h : a.cbsStatus ≠ .inProgress)
    (hcred : a.credential = .sasTokenExt) {env : AuthEnv} {now : UInt64}
    (hnow : env.putNow = some now) :
    authenticate a env = if now < a.extSASTokenExpTSInEpochSec then ⟨.error, a, []⟩
      else putToken a now a.extSASToken a.extSASTokenURI env := by
  simp only [authenticate, if_neg h, hnow, hcred]

theorem authenticate_auto_eq {a : EventHubAuthCBSStruct} (h : a.cbsStatus ≠ .inProgress)
    (hcred : a.credential = .sasTokenAuto) {env : AuthEnv} {now : UInt64}
    (hnow : env.putNow = some now) :
    authenticate a env =
      if !env.succeeds .sasTokenCreate then ⟨.error, { a with sasTokenCreateTimestamp := now }, []⟩
      else putToken
        { a with
          sasTokenCreateTimestamp := now
          strings := (createSASToken { a with sasTokenCreateTimestamp := now } now env).2 }
        now (some (createSASToken { a with sasTokenCreateTimestamp := now } now env).1) a.uri
        env := by
  simp only [authenticate, if_neg h, hnow, hcred]

theorem authenticate_auto {a : EventHubAuthCBSStruct} (h : a.cbsStatus ≠ .inProgress)
    (hcred : a.credential = .sasTokenAuto) {env : AuthEnv} {now : UInt64}
    (hnow : env.putNow = some now) :
    ∃ token strings, authenticate a env =
      if !env.succeeds .sasTokenCreate then ⟨.error, { a with sasTokenCreateTimestamp := now }, []⟩
      else putToken { a with sasTokenCreateTimestamp := now, strings := strings } now (some token)
        a.uri env :=
  ⟨_, _, authenticate_auto_eq h hcred hnow⟩

theorem authenticate_unknown {a : EventHubAuthCBSStruct} (h : a.cbsStatus ≠ .inProgress)
    (hcred : a.credential = .unknown) {env : AuthEnv} {now : UInt64}
    (hnow : env.putNow = some now) : authenticate a env = ⟨.error, a, []⟩ := by
  simp only [authenticate, if_neg h, hnow, hcred]

/-- `EventHubAuthCBS_Authenticate` keeps the configuration and the external token. -/
theorem authenticate_keeps (a : EventHubAuthCBSStruct) (env : AuthEnv) :
    SameConfig a (authenticate a env).handle ∧ SameToken a (authenticate a env).handle := by
  by_cases hprogress : a.cbsStatus = .inProgress
  · rw [authenticate_inProgress hprogress]
    exact ⟨.refl a, .refl a⟩
  cases hnow : env.putNow with
  | none =>
    rw [authenticate_noReading hprogress hnow]
    exact ⟨.refl a, .refl a⟩
  | some now =>
    cases hcred : a.credential with
    | unknown =>
      rw [authenticate_unknown hprogress hcred hnow]
      exact ⟨.refl a, .refl a⟩
    | sasTokenExt =>
      rw [authenticate_ext hprogress hcred hnow]
      split_ifs
      · exact ⟨.refl a, .refl a⟩
      · exact putToken_keeps ..
    | sasTokenAuto =>
      obtain ⟨token, strings, heq⟩ := authenticate_auto hprogress hcred hnow
      rw [heq]
      split_ifs
      · exact ⟨⟨rfl, rfl, rfl, rfl, rfl⟩, rfl, rfl⟩
      · have h := putToken_keeps
          { a with sasTokenCreateTimestamp := now, strings := strings } now (some token) a.uri env
        exact ⟨⟨h.1.1, h.1.2, h.1.3, h.1.4, h.1.5⟩, h.2.1, h.2.2⟩

/-- `EventHubAuthCBS_Authenticate` refuses or makes exactly one put, of the token the handle
holds and at the reading it took. -/
theorem authenticate_spec (a : EventHubAuthCBSStruct) (env : AuthEnv) :
    Authenticated a env (authenticate a env) := by
  by_cases hprogress : a.cbsStatus = .inProgress
  · rw [authenticate_inProgress hprogress]
    exact .refused (by decide) rfl rfl
  cases hnow : env.putNow with
  | none =>
    rw [authenticate_noReading hprogress hnow]
    exact .refused (by decide) rfl rfl
  | some now =>
    cases hcred : a.credential with
    | unknown =>
      rw [authenticate_unknown hprogress hcred hnow]
      exact .refused (by decide) rfl rfl
    | sasTokenExt =>
      rw [authenticate_ext hprogress hcred hnow]
      split_ifs with hexp
      · exact .refused (by decide) rfl rfl
      rcases putToken_cases a now a.extSASToken a.extSASTokenURI env with
        ⟨b, heq, hb, hbop⟩ | ⟨b, p, heq, hp, htoken, hexpiry, -, hb, hbop, hbtime⟩
      · rw [heq]
        exact .refused (by decide) hb hbop.symm
      · rw [heq]
        refine .putMade hprogress (by rw [hnow, hp]) (fun _ ↦ ⟨htoken, ?_, ?_⟩)
          (fun h ↦ by simp [hcred] at h) (by simp [hcred]) hb hbop (hp ▸ hbtime)
        · simpa only [tokenExpiry, hcred] using hexpiry
        · rw [hp]
          exact UInt64.not_lt.mp hexp
    | sasTokenAuto =>
      obtain ⟨token, strings, heq⟩ := authenticate_auto hprogress hcred hnow
      rw [heq]
      split_ifs with hcreate
      · exact .refused (by decide) rfl rfl
      rcases putToken_cases { a with sasTokenCreateTimestamp := now, strings := strings } now
          (some token) a.uri env with
        ⟨b, heq, hb, hbop⟩ | ⟨b, p, heq, hp, -, hexpiry, hcreated, hb, hbop, hbtime⟩
      · rw [heq]
        exact .refused (by decide) hb hbop.symm
      · rw [heq]
        refine .putMade hprogress (by rw [hnow, hp]) (fun h ↦ by simp [hcred] at h)
          (fun _ ↦ ⟨hcreated.trans hp.symm, ?_⟩) (by simp [hcred]) hb hbop (hp ▸ hbtime)
        simpa only [tokenExpiry, hcred, hp] using hexpiry

/-- What is known of a token that `EventHubAuthCBS_Authenticate` puts. -/
theorem authenticate_put {a : EventHubAuthCBSStruct} {env : AuthEnv} {p : PutToken}
    (hp : AuthEvent.put p ∈ (authenticate a env).events) :
    a.cbsStatus ≠ .inProgress ∧ env.putNow = some p.now ∧
      (a.credential = .sasTokenExt → a.extSASToken.map (·.text) = some p.sasToken ∧
        p.expiry = a.extSASTokenExpTSInEpochSec.toNat ∧
        a.extSASTokenExpTSInEpochSec ≤ p.now) ∧
      (a.credential = .sasTokenAuto →
        p.expiry = p.now.toNat + a.sasTokenExpirationTimeInSec.toNat) := by
  have hspec := authenticate_spec a env
  generalize authenticate a env = x at hspec hp
  cases hspec with
  | refused hr hstatus hop => simp at hp
  | putMade hidle hnow hext hauto hcredential hstatus hop htime =>
    obtain rfl : p = _ := by simpa using hp
    exact ⟨hidle, hnow, hext, fun hcred ↦ (hauto hcred).2⟩

/-! ### Refresh -/

/-- The outcomes of `EventHubAuthCBS_Refresh`: a refusal that keeps the external token, or an
authentication. An external token is replaced before its authentication starts, whatever comes
of that. -/
inductive Refreshed (parse : String → Option (String × UInt64)) (a : EventHubAuthCBSStruct)
    (token : Option String) (env : AuthEnv) :
    Answer EventHubAuthCBSStruct EventHubAuthResult → Prop
  | refused {r : EventHubAuthResult} {b : EventHubAuthCBSStruct} (hr : r ≠ .ok)
      (hconfig : SameConfig a b) (htoken : SameToken a b)
      (hother : b.sasTokenCreateTimestamp = a.sasTokenCreateTimestamp ∧
        b.cbOperation = a.cbOperation)
      (hstatus : b.cbsStatus = a.cbsStatus ∨ a.credential = .sasTokenAuto ∧
        b.cbsStatus = (updateEventHubAuthACBSStatus a env.statusNow).2.cbsStatus) :
      Refreshed parse a token env ⟨r, b, []⟩
  | external {b : EventHubAuthCBSStruct} {text uri : String} {expiry : UInt64}
      (hcredential : a.credential = .sasTokenExt) (htoken : token = some text)
      (hparse : parse text = some (uri, expiry)) (hconfig : SameConfig a b)
      (htext : b.extSASToken.map (·.text) = some text)
      (hexpiry : b.extSASTokenExpTSInEpochSec = expiry)
      (hother : b.sasTokenCreateTimestamp = a.sasTokenCreateTimestamp ∧
        b.cbsStatus = a.cbsStatus ∧ b.cbOperation = a.cbOperation)
      {x : Answer EventHubAuthCBSStruct EventHubAuthResult} (heq : x = authenticate b env) :
      Refreshed parse a token env x
  | automatic (hcredential : a.credential = .sasTokenAuto)
      (hrequired : (updateEventHubAuthACBSStatus a env.statusNow).2.cbsStatus = .refreshRequired)
      {x : Answer EventHubAuthCBSStruct EventHubAuthResult}
      (heq : x = authenticate (updateEventHubAuthACBSStatus a env.statusNow).2 env) :
      Refreshed parse a token env x

section Refresh

variable (parse : String → Option (String × UInt64))

/-- Installing an external token fails and leaves all but the strings, or succeeds and changes
the token and its expiry only. -/
theorem installRefreshToken_cases (a : EventHubAuthCBSStruct) (token : String) (env : AuthEnv) :
    (∃ strings, installRefreshToken parse a token env = (false, { a with strings := strings })) ∨
    ∃ strings handle uri expiry, parse token = some (uri, expiry) ∧
      handle.text = token ∧
      installRefreshToken parse a token env = (true, { a with
        strings := strings
        extSASToken := some handle
        extSASTokenExpTSInEpochSec := expiry }) := by
  unfold installRefreshToken
  split_ifs
  · exact Or.inl ⟨a.strings, rfl⟩
  · exact Or.inl ⟨_, rfl⟩
  · exact Or.inl ⟨_, rfl⟩
  · exact Or.inl ⟨_, rfl⟩
  · cases hparse : parse token with
    | none => exact Or.inl ⟨_, rfl⟩
    | some found =>
      dsimp only
      split_ifs
      · exact Or.inl ⟨_, rfl⟩
      · exact Or.inr ⟨_, _, found.1, found.2, rfl, rfl, rfl⟩

theorem refresh_spec (a : EventHubAuthCBSStruct) (token : Option String) (env : AuthEnv) :
    Refreshed parse a token env (refresh parse a token env) := by
  have hkeep := updateEventHubAuthACBSStatus_eq a env.statusNow
  have hconfig := updateEventHubAuthACBSStatus_sameConfig a env.statusNow
  have htoken := updateEventHubAuthACBSStatus_sameToken a env.statusNow
  have hother : (updateEventHubAuthACBSStatus a env.statusNow).2.sasTokenCreateTimestamp =
      a.sasTokenCreateTimestamp ∧
      (updateEventHubAuthACBSStatus a env.statusNow).2.cbOperation = a.cbOperation := by
    rw [hkeep]
    exact ⟨rfl, rfl⟩
  unfold refresh
  cases hcred : a.credential with
  | unknown => exact .refused (by decide) (.refl a) (.refl a) ⟨rfl, rfl⟩ (Or.inl rfl)
  | sasTokenAuto =>
    dsimp only
    split_ifs with hread hrequired
    · exact .refused (by decide) hconfig htoken hother (Or.inr ⟨hcred, rfl⟩)
    · exact .refused (by decide) hconfig htoken hother (Or.inr ⟨hcred, rfl⟩)
    · exact .automatic hcred (not_not.mp hrequired) rfl
  | sasTokenExt =>
    cases token with
    | none => exact .refused (by decide) (.refl a) (.refl a) ⟨rfl, rfl⟩ (Or.inl rfl)
    | some text =>
      rcases installRefreshToken_cases parse a text env with
        ⟨strings, heq⟩ | ⟨strings, handle, uri, expiry, hparse, htext, heq⟩
      · simp only [heq]
        exact .refused (by decide) ⟨rfl, rfl, rfl, rfl, rfl⟩ ⟨rfl, rfl⟩ ⟨rfl, rfl⟩ (Or.inl rfl)
      · simp only [heq]
        exact .external (b := { a with
            strings := strings
            extSASToken := some handle
            extSASTokenExpTSInEpochSec := expiry }) hcred rfl hparse ⟨rfl, rfl, rfl, rfl, rfl⟩
              (congrArg some htext) rfl
          ⟨rfl, rfl, rfl⟩ rfl

end Refresh

/-! ### Creation -/

/-- What a successful `EventHubAuthCBS_Create` establishes. -/
structure Created (cfg : EventHubAuthCBSConfig) (a : EventHubAuthCBSStruct) : Prop where
  credential : a.credential = cfg.credential
  known : a.credential ≠ .unknown
  expirationTime : a.sasTokenExpirationTimeInSec = cfg.sasTokenExpirationTimeInSec
  refreshPeriod : a.sasTokenRefreshPeriodInSecs = cfg.sasTokenRefreshPeriodInSecs
  timeout : a.sasTokenAuthFailureTimeoutInSecs = cfg.sasTokenAuthFailureTimeoutInSecs
  status : a.cbsStatus = .idle
  operation : a.cbOperation = .none
  auto : a.credential = .sasTokenAuto →
    cfg.sasTokenExpirationTimeInSec ≠ 0 ∧
      cfg.sasTokenRefreshPeriodInSecs < cfg.sasTokenExpirationTimeInSec
  ext : a.credential = .sasTokenExt →
    ∃ token uri, cfg.extSASToken = some token ∧ cfg.extSASTokenURI = some uri ∧
      a.extSASToken.map (·.text) = some token ∧ a.extSASTokenURI.map (·.text) = some uri ∧
      a.extSASTokenExpTSInEpochSec = cfg.extSASTokenExpTSInEpochSec ∧
      cfg.extSASTokenExpTSInEpochSec ≠ 0

/-- The external token, its URI and its expiry are those of the configuration. -/
def HoldsExt (cfg : EventHubAuthCBSConfig) (a : EventHubAuthCBSStruct) : Prop :=
  a.extSASToken.map (·.text) = some (cfg.extSASToken.getD "") ∧
    a.extSASTokenURI.map (·.text) = some (cfg.extSASTokenURI.getD "") ∧
    a.extSASTokenExpTSInEpochSec = cfg.extSASTokenExpTSInEpochSec

theorem createExtStrings_spec (cfg : EventHubAuthCBSConfig) (env : AuthEnv) :
    Spec (fun _ ↦ True) (createExtStrings cfg env) (fun _ a ↦ HoldsExt cfg a) (fun _ ↦ True) := by
  refine Spec.bind (Q := fun _ a ↦ a.extSASTokenExpTSInEpochSec = cfg.extSASTokenExpTSInEpochSec)
    (Spec.update fun _ _ ↦ rfl) fun _ ↦ ?_
  refine Spec.bind (Spec.keep fun _ _ ↦ True.intro) fun _ ↦ ?_
  refine Spec.bind (Q := fun _ a ↦ a.extSASToken.map (·.text) = some (cfg.extSASToken.getD "") ∧
      a.extSASTokenExpTSInEpochSec = cfg.extSASTokenExpTSInEpochSec)
    (Spec.update fun _ h ↦ ⟨rfl, h⟩) fun _ ↦ ?_
  refine Spec.bind (Spec.keep fun _ _ ↦ True.intro) fun _ ↦ ?_
  exact Spec.update fun _ h ↦ ⟨h.1, rfl, h.2⟩

/-- The fields after a successful creation, before the argument checks are used. -/
theorem createFields_spec (cfg : EventHubAuthCBSConfig) (env : AuthEnv) :
    Spec (fun _ ↦ True) (createFields cfg env)
      (fun _ a ↦ (∃ b, a = initialise cfg b ∧ (cfg.credential = .sasTokenExt → HoldsExt cfg b)))
      (fun _ ↦ True) := by
  have hstrings : Spec (fun _ ↦ True) (createStrings cfg env)
      (fun _ a ↦ cfg.credential = .sasTokenExt → HoldsExt cfg a) (fun _ ↦ True) := by
    unfold createStrings
    split_ifs with hcred
    · exact (createExtStrings_spec cfg env).mono (fun _ h ↦ h) (fun _ _ h _ ↦ h) fun _ h ↦ h
    · exact Spec.trivial.mono (fun _ h ↦ h) (fun _ _ _ h ↦ absurd h hcred) fun _ h ↦ h
  refine Spec.bind hstrings fun _ ↦ ?_
  refine Spec.bind (Spec.keep fun _ _ ↦ True.intro) fun _ ↦ ?_
  refine Spec.bind (Spec.update (Q := fun _ a ↦ cfg.credential = .sasTokenExt → HoldsExt cfg a)
    fun _ h ↦ h) fun _ ↦ ?_
  refine Spec.bind (Spec.keep fun _ _ ↦ True.intro) fun _ ↦ ?_
  exact Spec.update fun a h ↦ ⟨a, rfl, h⟩

theorem create_spec {cfg : EventHubAuthCBSConfig} {session : Option Handle} {env : AuthEnv}
    {a : EventHubAuthCBSStruct} (h : create cfg session env = .ok a) : Created cfg a := by
  unfold create at h
  split_ifs at h with hvalid hmalloc
  rcases hfields : createFields cfg env {} with ⟨_ | _, b⟩
  · simp [hfields] at h
  · simp only [hfields, Except.ok.injEq] at h
    obtain ⟨c, rfl, hext⟩ := (createFields_spec cfg env).of_eq_some True.intro hfields
    subst h
    have hargs := Bool.not_eq_true _ ▸ hvalid
    simp only [Bool.not_eq_eq_eq_not, validArguments] at hargs
    refine ⟨rfl, ?_, rfl, rfl, rfl, rfl, rfl, ?_, ?_⟩
    · intro hcred
      have hcred' : cfg.credential = .unknown := hcred
      simp [hcred'] at hargs
    · intro hcred
      have hcred' : cfg.credential = .sasTokenAuto := hcred
      simp only [hcred'] at hargs
      simp at hargs
      exact ⟨hargs.2.1.1.2, by simpa using hargs.2.2⟩
    · intro hcred
      have hcred' : cfg.credential = .sasTokenExt := hcred
      obtain ⟨htoken, huri, hexp⟩ := hext hcred'
      simp only [hcred'] at hargs
      simp [Option.isSome_iff_exists] at hargs
      obtain ⟨-, ⟨⟨token, ht⟩, uri, hu⟩, hne⟩ := hargs
      rw [ht] at htoken
      rw [hu] at huri
      exact ⟨token, uri, ht, hu, htoken, huri, hexp, hne⟩

theorem authModule_create {parse : String → Option (String × UInt64)}
    {cfg : EventHubAuthCBSConfig} {session : Option Handle} {env : AuthEnv}
    {a : EventHubAuthCBSStruct}
    (h : (authModule parse).create cfg session env = some a) :
    create cfg session env = .ok a := by
  simp only [authModule] at h
  cases hx : create cfg session env with
  | ok b => rw [hx] at h; exact congrArg Except.ok (Option.some.inj h)
  | error strings => rw [hx] at h; cases h

end EventHubAuthCBS

end EventHubs
