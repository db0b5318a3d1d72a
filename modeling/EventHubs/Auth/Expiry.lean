import EventHubs.Auth.Run

/-!
# Expiry of the tokens

What the module makes of the expiry of a token. A token made from a shared access key is put in
the second of its creation, well before it expires. For an external token the comparison in
`EventHubAuthCBS_Authenticate` is the wrong way round, so it is refused while it is valid and put
once it has expired, and after a successful put its expiry is not looked at again.

## Main definitions

* `EventHubAuthCBS.ValidAccepted`, `EventHubAuthCBS.StopsBeforePut`.
* `authorized` — a put has completed well and no later one is outstanding or has failed.
* `EventHubAuthCBS.ReportsExpiry`.

## Main results

* `EventHubAuthCBS.authenticate_expiry_iff` — one authentication.
* `EventHubAuthCBS.run_presents_unexpired_iff` — a run.
* `EventHubAuthCBS.run_authorized` — the status of an external token along a run.
-/

namespace EventHubs

open EventHubAuthCBSStruct

/-- The calls that `EventHubAuthCBS_Authenticate` makes for an external token before the put. -/
def AuthEnv.readsStrings (env : AuthEnv) : Bool :=
  env.succeeds .cStrURI && env.succeeds .cStrSASToken

namespace EventHubAuthCBS

/-- An external token that is valid is accepted: with the clock read, no put in progress, the
expiry ahead and every call succeeding, the authentication puts the token and succeeds. -/
def ValidAccepted (a : EventHubAuthCBSStruct) (env : AuthEnv) : Prop :=
  ∀ now, a.credential = .sasTokenExt → a.cbsStatus ≠ .inProgress → env.putNow = some now →
    now < a.extSASTokenExpTSInEpochSec → env.readsStrings = true →
    env.succeeds .cbsPutTokenAsync = true →
    (authenticate a env).value = .ok ∧ ∃ p, AuthEvent.put p ∈ (authenticate a env).events

/-- The tokens that an authentication puts expire later than its clock reading. -/
def PutsUnexpired (a : EventHubAuthCBSStruct) (env : AuthEnv) : Prop :=
  ∀ p, AuthEvent.put p ∈ (authenticate a env).events → p.now.toNat < p.expiry

/-- On a handle with an external token, a put in progress, a failing clock or a failing call
stops the authentication. Before the expiry the put counts among these calls. -/
def StopsBeforePut (a : EventHubAuthCBSStruct) (env : AuthEnv) : Prop :=
  ∀ now, a.credential = .sasTokenExt → a.cbsStatus ≠ .inProgress → env.putNow = some now →
    env.readsStrings = true →
    now < a.extSASTokenExpTSInEpochSec ∧ env.succeeds .cbsPutTokenAsync = false

/-- The put of a handle with both strings present is made when both can be read. -/
theorem putToken_puts (a : EventHubAuthCBSStruct) (now : UInt64) (token uri : StringHandle)
    {env : AuthEnv} (hread : env.readsStrings = true) :
    ∃ p, AuthEvent.put p ∈ (putToken a now (some token) (some uri) env).events := by
  have hboth : env.succeeds .cStrURI = true ∧ env.succeeds .cStrSASToken = true := by
    simpa only [AuthEnv.readsStrings, Bool.and_eq_true] using hread
  cases hput : env.succeeds .cbsPutTokenAsync <;>
    simp [putToken, hboth.1, hboth.2, hput]

theorem putToken_shows {a : EventHubAuthCBSStruct} {now : UInt64}
    {token uri : Option StringHandle} {env : AuthEnv} (hread : env.readsStrings = false) :
    (putToken a now token uri env).events = [] := by
  have hfail : env.succeeds .cStrURI = false ∨ env.succeeds .cStrSASToken = false := by
    simpa only [AuthEnv.readsStrings, Bool.and_eq_false_iff] using hread
  cases uri with
  | none => rfl
  | some u =>
    cases token with
    | none => rcases hfail with h | h <;> simp [putToken, h]
    | some t =>
      rcases hfail with h | h
      · simp [putToken, h]
      · cases hc : env.succeeds .cStrURI <;> simp [putToken, h, hc]

/-- One authentication: the tokens it puts are unexpired and a valid external token is accepted
exactly when an external token is stopped before the put. -/
theorem authenticate_expiry_iff {a : EventHubAuthCBSStruct} (h : WellFormed a) (env : AuthEnv) :
    PutsUnexpired a env ∧ ValidAccepted a env ↔ StopsBeforePut a env := by
  cases hcred : a.credential with
  | unknown => exact absurd hcred h.known
  | sasTokenAuto =>
    have hputs : PutsUnexpired a env := by
      intro p hp
      have hne : a.sasTokenExpirationTimeInSec.toNat ≠ 0 := fun h0 ↦
        h.auto hcred (UInt32.toNat_inj.mp h0)
      have hexpiry := (authenticate_put hp).2.2.2 hcred
      omega
    exact ⟨fun _ now hext ↦ by simp [hcred] at hext,
      fun _ ↦ ⟨hputs, fun now hext ↦ by simp [hcred] at hext⟩⟩
  | sasTokenExt =>
    have hlate : ∀ p, AuthEvent.put p ∈ (authenticate a env).events → ¬ p.now.toNat < p.expiry := by
      intro p hp
      obtain ⟨-, -, hext, -⟩ := authenticate_put hp
      rw [(hext hcred).2.1]
      exact Nat.not_lt.mpr (UInt64.le_iff_toNat_le.mp (hext hcred).2.2)
    constructor
    · rintro ⟨hputs, hvalid⟩ now - hidle hnow hread
      have heq := authenticate_ext hidle hcred hnow
      by_cases hexp : now < a.extSASTokenExpTSInEpochSec
      · refine ⟨hexp, Bool.not_eq_true _ ▸ fun hput ↦ ?_⟩
        have hrefused := (hvalid now hcred hidle hnow hexp hread hput).1
        simp [heq, hexp] at hrefused
      · obtain ⟨token, htoken⟩ := Option.isSome_iff_exists.mp (h.token hcred)
        obtain ⟨uri, huri⟩ := Option.isSome_iff_exists.mp (h.uri hcred)
        rw [if_neg hexp, htoken, huri] at heq
        obtain ⟨p, hp⟩ := putToken_puts a now token uri hread
        exact absurd (hputs p (heq ▸ hp)) (hlate p (heq ▸ hp))
    · intro hstops
      refine ⟨fun p hp ↦ ?_, fun now _ hidle hnow hexp hread hput ↦ ?_⟩
      · obtain ⟨hidle, hnow, hext, -⟩ := authenticate_put hp
        have hread : env.readsStrings = true := by
          by_contra hread
          rw [authenticate_ext hidle hcred hnow, if_neg (UInt64.not_lt.mpr (hext hcred).2.2),
            putToken_shows (Bool.not_eq_true _ ▸ hread)] at hp
          simp at hp
        exact absurd (hstops p.now hcred hidle hnow hread).1
          (UInt64.not_lt.mpr (hext hcred).2.2)
      · have := (hstops now hcred hidle hnow hread).2
        simp [hput] at this

/-! ### A run -/

variable (parse : String → Option (String × UInt64))

/-- A condition on the authentication that an input makes, if it makes one. -/
def OnAuthenticate (C : EventHubAuthCBSStruct → AuthEnv → Prop) (s : AuthState) (i : AuthInput) :
    Prop :=
  ∀ a env, authenticateCall parse s.handle i = some (a, env) → C a env

/-- Every token in the log expires later than the clock reading of its put. -/
def NoExpiredPut (log : List AuthEvent) : Prop :=
  ∀ p, AuthEvent.put p ∈ log → p.now.toNat < p.expiry

variable {parse}

/-- The log of a run has no expired put exactly when no authentication of the run makes one. -/
theorem run_noExpiredPut_iff {h : EventHubAuthCBSStruct} {is : List AuthInput} {t : AuthState}
    (hrun : (authMachine parse).run ⟨h, []⟩ is = some t) :
    NoExpiredPut t.log ↔ (authMachine parse).Meets (OnAuthenticate parse PutsUnexpired) ⟨h, []⟩ is
    := by
  have hlog := Machine.forall_log_iff AuthState.log (fun s i ↦ (respond parse s.handle i).2)
    (G := fun e ↦ ∀ p, e = AuthEvent.put p → p.now.toNat < p.expiry)
    (fun s i u hstep ↦ by rw [step_eq hstep]) hrun
  have hstep : ∀ (s : AuthState) (i : AuthInput), True →
      ((∀ e ∈ (respond parse s.handle i).2, ∀ p, e = AuthEvent.put p → p.now.toNat < p.expiry) ↔
        OnAuthenticate parse PutsUnexpired s i) := by
    intro s i _
    constructor
    · intro hall a env hcall p hp
      exact hall _ ((respond_put s.handle i p).mpr ⟨a, env, hcall, hp⟩) p rfl
    · rintro hcall e he p rfl
      obtain ⟨a, env, ha, hp⟩ := (respond_put s.handle i p).mp he
      exact hcall a env ha p hp
  rw [← Machine.meets_congr (P := fun _ ↦ True) (fun _ _ _ _ _ ↦ trivial) hstep trivial]
  simp only [List.not_mem_nil, false_imp_iff, implies_true, true_and] at hlog
  rw [← hlog]
  exact ⟨fun hlog' e he p heq ↦ hlog' p (heq ▸ he), fun hlog' p hp ↦ hlog' _ hp p rfl⟩

/-- In a run of a created handle no expired token is presented and no valid external token is
refused exactly when each authentication on an external token stops before the put. -/
theorem run_presents_unexpired_iff {cfg : EventHubAuthCBSConfig} {session : Option Handle}
    {env : AuthEnv} {h : EventHubAuthCBSStruct} (hcreate : create cfg session env = .ok h)
    {is : List AuthInput} {t : AuthState}
    (hrun : (authMachine parse).run ⟨h, []⟩ is = some t) :
    NoExpiredPut t.log ∧ (authMachine parse).Meets (OnAuthenticate parse ValidAccepted) ⟨h, []⟩ is ↔
      (authMachine parse).Meets (OnAuthenticate parse StopsBeforePut) ⟨h, []⟩ is := by
  rw [run_noExpiredPut_iff hrun, ← Machine.meets_and]
  refine Machine.meets_congr (P := fun s ↦ WellFormed s.handle)
    (fun s i u hs hstep ↦ step_eq hstep ▸ respond_wellFormed hs i) (fun s i hs ↦ ?_)
    (create_wellFormed hcreate)
  constructor
  · rintro ⟨hputs, hvalid⟩ a env' hcall
    exact (authenticate_expiry_iff (authenticateCall_wellFormed hs hcall).1 env').mp
      ⟨hputs a env' hcall, hvalid a env' hcall⟩
  · intro hstops
    have hboth := fun a env' hcall ↦
      (authenticate_expiry_iff (authenticateCall_wellFormed hs hcall).1 env').mpr
        (hstops a env' hcall)
    exact ⟨fun a env' hcall ↦ (hboth a env' hcall).1, fun a env' hcall ↦ (hboth a env' hcall).2⟩

/-- A handle of the sender with a token that expires at second 1000. -/
def extConfig : EventHubAuthCBSConfig :=
  { extSASToken := some "token"
    extSASTokenURI := some "uri"
    extSASTokenExpTSInEpochSec := 1000
    sasTokenAuthFailureTimeoutInSecs := 30
    mode := .sender
    credential := .sasTokenExt }

/-- A handle of the sender with a shared access key and the periods that the sender uses. -/
def autoConfig : EventHubAuthCBSConfig :=
  { hostName := some "host"
    eventHubPath := some "path"
    sharedAccessKeyName := some "name"
    sharedAccessKey := some "key"
    sasTokenExpirationTimeInSec := 3600
    sasTokenRefreshPeriodInSecs := 2880
    mode := .sender
    credential := .sasTokenAuto }

/-- Second 500: the valid token is refused. Second 2000: the expired token is put. -/
theorem run_presents_expired :
    ∃ h t u, create extConfig (some 0) {} = .ok h ∧
      (authMachine fun _ ↦ none).run ⟨h, []⟩ [.authenticate { putNow := some 500 }] = some t ∧
      t.handle = h ∧ ¬ ValidAccepted h { putNow := some 500 } ∧
      (authMachine fun _ ↦ none).run ⟨h, []⟩ [.authenticate { putNow := some 2000 }] = some u ∧
      ¬ NoExpiredPut u.log := by
  refine ⟨_, _, _, rfl, rfl, rfl, ?_, rfl, ?_⟩
  · intro h
    have := (h 500 rfl (by decide) rfl (by decide) rfl rfl).1
    revert this
    decide
  · intro h
    have := h ⟨"uri", "token", 2000, 1000, true⟩ (by decide)
    revert this
    decide

/-- A handle with a shared access key authenticates at second 2000. -/
theorem run_presents_unexpired_auto :
    ∃ h t, create autoConfig (some 0) {} = .ok h ∧
      (authMachine fun _ ↦ none).run ⟨h, []⟩ [.authenticate { putNow := some 2000 }] = some t ∧
      NoExpiredPut t.log ∧ (authMachine fun _ ↦ none).Meets
        (OnAuthenticate (fun _ ↦ none) ValidAccepted) ⟨h, []⟩
        [.authenticate { putNow := some 2000 }] := by
  have hcreate : create autoConfig (some 0) {} = .ok _ := rfl
  refine ⟨_, _, hcreate, rfl,
    (run_presents_unexpired_iff hcreate rfl).mpr ⟨?_, fun _ _ ↦ trivial⟩⟩
  intro a env hcall now hcred
  obtain ⟨rfl, rfl⟩ := Prod.mk.inj (Option.some.inj hcall)
  exact absurd hcred (by decide)

/-! ### The status of an external token -/

/-- What an event means for the question whether a put has completed well and no later one is
outstanding or has failed. -/
def authorizedBy (authorized : Bool) : AuthEvent → Bool
  | .put p => authorized && !p.accepted
  | .putComplete r => r = .ok
  | .status _ _ _ => authorized

/-- Whether a put has completed well and no later one is outstanding or has failed. -/
def authorized (log : List AuthEvent) : Bool := log.foldl authorizedBy false

/-- `EventHubAuthCBS_GetStatus` on an external token at second `now`: it reports the token as
authorised and valid only before the expiry, and as expired once it was authorised and has
reached the expiry. -/
def ReportsExpiry (t : AuthState) (now : UInt64) : Prop :=
  ∀ env : AuthEnv, env.statusNow = some now →
    ((getStatus t.handle env).value = (.ok, .ok) → now < t.handle.extSASTokenExpTSInEpochSec) ∧
    (authorized t.log = true → t.handle.extSASTokenExpTSInEpochSec ≤ now →
      (getStatus t.handle env).value = (.ok, .expired))

/-- On an external token the status is `EVENTHUBAUTH_STATUS_OK` exactly when it is authorised. -/
def StatusAuthorized (s : AuthState) : Prop :=
  s.handle.credential = .sasTokenExt ∧ (s.handle.cbsStatus = .ok ↔ authorized s.log = true)

theorem authorized_append (log events : List AuthEvent) :
    authorized (log ++ events) = events.foldl authorizedBy (authorized log) :=
  List.foldl_append ..

/-- An authentication keeps the relation between status and log. -/
theorem authenticate_authorized {a : EventHubAuthCBSStruct} {log : List AuthEvent}
    (h : a.cbsStatus = .ok ↔ authorized log = true) (env : AuthEnv) :
    (authenticate a env).handle.cbsStatus = .ok ↔
      authorized (log ++ (authenticate a env).events) = true := by
  have hspec := authenticate_spec a env
  rw [authorized_append]
  generalize authenticate a env = x at hspec
  cases hspec with
  | refused hr hstatus hop =>
    simp only [List.foldl_nil, hstatus]
    exact h
  | @putMade p b hidle hnow hext hauto hcredential hstatus hop htime =>
    simp only [List.foldl_cons, List.foldl_nil, authorizedBy, hstatus]
    cases p.accepted with
    | false => simpa using h
    | true => simp

/-- On an external token an update changes the status of a put in progress only. -/
theorem update_ext_status {a : EventHubAuthCBSStruct} (hcred : a.credential = .sasTokenExt)
    (reading : Option UInt64) :
    (updateEventHubAuthACBSStatus a reading).2.cbsStatus = .ok ↔ a.cbsStatus = .ok := by
  rcases updateEventHubAuthACBSStatus_status a reading with h | ⟨h, h'⟩ | ⟨h, -⟩
  · rw [h]
  · simp [h, h']
  · simp [hcred] at h

theorem respond_statusAuthorized {s : AuthState} (h : StatusAuthorized s) (i : AuthInput) :
    StatusAuthorized ⟨(respond parse s.handle i).1, s.log ++ (respond parse s.handle i).2⟩ := by
  obtain ⟨hcred, hstatus⟩ := h
  cases i with
  | authenticate env =>
    exact ⟨(authenticate_keeps s.handle env).1.credential.trans hcred,
      authenticate_authorized hstatus env⟩
  | getStatus env =>
    refine ⟨(updateEventHubAuthACBSStatus_sameConfig s.handle env.statusNow).credential.trans hcred,
      ?_⟩
    rw [authorized_append]
    exact (update_ext_status hcred env.statusNow).trans hstatus
  | onCBSPutTokenOperationComplete r env =>
    refine ⟨?_, ?_⟩
    · cases r <;> exact hcred
    · rw [authorized_append]
      cases r <;> simp [respond, onCBSPutTokenOperationComplete, authorizedBy]
  | refresh token env =>
    have hspec := refresh_spec parse s.handle token env
    simp only [respond]
    generalize refresh parse s.handle token env = x at hspec
    cases hspec with
    | refused hr hconfig htoken hother hst =>
      refine ⟨hconfig.credential.trans hcred, ?_⟩
      rcases hst with hst | ⟨hauto, -⟩
      · simpa only [List.append_nil, hst] using hstatus
      · simp [hcred] at hauto
    | external _ htoken hparse hconfig htext hexpiry hother heq =>
      rw [heq]
      exact ⟨((authenticate_keeps _ env).1.credential.trans hconfig.credential).trans hcred,
        authenticate_authorized (by rw [hother.2.1]; exact hstatus) env⟩
    | automatic hauto => simp [hcred] at hauto

/-- Along every run of a handle with an external token the status says whether it is
authorised. -/
theorem run_authorized {cfg : EventHubAuthCBSConfig} {session : Option Handle} {env : AuthEnv}
    {h : EventHubAuthCBSStruct} (hcreate : create cfg session env = .ok h)
    (hext : h.credential = .sasTokenExt) {is : List AuthInput} {t : AuthState}
    (hrun : (authMachine parse).run ⟨h, []⟩ is = some t) : StatusAuthorized t := by
  refine Machine.run_invariant (P := StatusAuthorized)
    (fun s i u hs hstep ↦ step_eq hstep ▸ respond_statusAuthorized hs i) ⟨hext, ?_⟩ hrun
  simp [(create_spec hcreate).status, authorized]

/-- `EventHubAuthCBS_GetStatus` says what it should of the expiry of an external token exactly
while the token is not authorised or has not reached its expiry. -/
theorem getStatus_reports_expiry_iff {cfg : EventHubAuthCBSConfig} {session : Option Handle}
    {env : AuthEnv} {h : EventHubAuthCBSStruct} (hcreate : create cfg session env = .ok h)
    (hext : h.credential = .sasTokenExt) {is : List AuthInput} {t : AuthState}
    (hrun : (authMachine parse).run ⟨h, []⟩ is = some t) (now : UInt64) :
    ReportsExpiry t now ↔
      authorized t.log = false ∨ now < t.handle.extSASTokenExpTSInEpochSec := by
  obtain ⟨hcred, hstatus⟩ := run_authorized hcreate hext hrun
  have hvalue : ∀ e : AuthEnv, (getStatus t.handle e).value.2 = .ok ↔ t.handle.cbsStatus = .ok :=
    fun e ↦ update_ext_status hcred e.statusNow
  constructor
  · intro hreports
    rcases Bool.eq_false_or_eq_true (authorized t.log) with htrue | hfalse
    · refine Or.inr (UInt64.not_le.mp fun hle ↦ ?_)
      have hexpired := (hreports { statusNow := some now } rfl).2 htrue hle
      have hok := (hvalue { statusNow := some now }).mpr (hstatus.mpr htrue)
      rw [hexpired] at hok
      simp at hok
    · exact Or.inl hfalse
  · rintro hcond e -
    refine ⟨fun hok ↦ ?_, fun htrue hle ↦ ?_⟩
    · have hauth := hstatus.mp ((hvalue e).mp (congrArg Prod.snd hok))
      exact hcond.resolve_left (by simp [hauth])
    · rcases hcond with hfalse | hlt
      · simp [hfalse] at htrue
      · exact absurd hle (UInt64.not_le.mpr hlt)

/-- The token that expires at second 1000 is put at second 1500, the put completes, and at second
2000 the status still reads authorised and valid. -/
theorem getStatus_hides_expiry :
    ∃ h t, create extConfig (some 0) {} = .ok h ∧ h.credential = .sasTokenExt ∧
      (authMachine fun _ ↦ none).run ⟨h, []⟩
        [.authenticate { putNow := some 1500 }, .onCBSPutTokenOperationComplete .ok {}] = some t ∧
      ¬ ReportsExpiry t 2000 := by
  refine ⟨_, _, rfl, rfl, rfl, fun h ↦ ?_⟩
  have := (h { statusNow := some 2000 } rfl).1 rfl
  revert this
  decide

/-- When the put fails instead, the status says what it should. -/
theorem getStatus_reports_expiry_failed :
    ∃ h t, create extConfig (some 0) {} = .ok h ∧ h.credential = .sasTokenExt ∧
      (authMachine fun _ ↦ none).run ⟨h, []⟩
        [.authenticate { putNow := some 1500 },
          .onCBSPutTokenOperationComplete .operationFailed {}] = some t ∧
      ReportsExpiry t 2000 := by
  refine ⟨_, _, rfl, rfl, rfl, ?_⟩
  exact (@getStatus_reports_expiry_iff (fun _ ↦ none) extConfig (some 0) {} _ rfl rfl
    [.authenticate { putNow := some 1500 }, .onCBSPutTokenOperationComplete .operationFailed {}]
    _ rfl 2000).mpr (Or.inl (by decide))

end EventHubAuthCBS

end EventHubs
