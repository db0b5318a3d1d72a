import EventHubs.Auth.Spec
import EventHubs.Library.Machine

/-!
# Runs of an authentication handle

One `EVENTHUBAUTH_CBS_HANDLE` after its creation: any sequence of calls of
`EventHubAuthCBS_Authenticate`, `EventHubAuthCBS_Refresh`, `EventHubAuthCBS_GetStatus` and of
completions of its puts, with arbitrary clock readings and outcomes. The state keeps the handle
and the list of everything it has shown.

## Main definitions

* `AuthInput`, `AuthState`, `EventHubAuthCBS.authMachine`.
* `EventHubAuthCBS.authenticateCall` — the authentication that a call makes.
* `EventHubAuthCBS.WellFormed` — what holds of a handle from its creation on.

## Main results

* `EventHubAuthCBS.respond_put` — puts come from that authentication only.
* `EventHubAuthCBS.run_wellFormed`.
-/

namespace EventHubs

open EventHubAuthCBSStruct

/-- The calls on a handle and the completions that reach it. -/
inductive AuthInput
  | authenticate (env : AuthEnv)
  | refresh (extSASToken : Option String) (env : AuthEnv)
  | getStatus (env : AuthEnv)
  | onCBSPutTokenOperationComplete (r : CBSOperationResult) (env : AuthEnv)

/-- A handle and what it has shown so far, oldest first. -/
structure AuthState where
  handle : EventHubAuthCBSStruct
  log : List AuthEvent := []
  deriving DecidableEq

namespace EventHubAuthCBS

variable (parse : String → Option (String × UInt64))

/-- What an input does to the handle and what it shows. -/
def respond (a : EventHubAuthCBSStruct) :
    AuthInput → EventHubAuthCBSStruct × List AuthEvent
  | .authenticate env => ((authenticate a env).handle, (authenticate a env).events)
  | .refresh token env => ((refresh parse a token env).handle, (refresh parse a token env).events)
  | .getStatus env => ((getStatus a env).handle, (getStatus a env).events)
  | .onCBSPutTokenOperationComplete r env =>
    ((onCBSPutTokenOperationComplete a r env).handle,
      (onCBSPutTokenOperationComplete a r env).events)

/-- One handle under calls and completions in any order. -/
def authMachine : Machine AuthState AuthInput where
  step s i := some ⟨(respond parse s.handle i).1, s.log ++ (respond parse s.handle i).2⟩

/-- The call of `EventHubAuthCBS_Authenticate` that an input makes: the handle it is made on and
its environment. -/
def authenticateCall (a : EventHubAuthCBSStruct) :
    AuthInput → Option (EventHubAuthCBSStruct × AuthEnv)
  | .authenticate env => some (a, env)
  | .refresh token env =>
    match a.credential, token with
    | .sasTokenExt, some text =>
      if (installRefreshToken parse a text env).1 then
        some ((installRefreshToken parse a text env).2, env)
      else none
    | .sasTokenAuto, _ =>
      if (updateEventHubAuthACBSStatus a env.statusNow).1 &&
          (updateEventHubAuthACBSStatus a env.statusNow).2.cbsStatus = .refreshRequired then
        some ((updateEventHubAuthACBSStatus a env.statusNow).2, env)
      else none
    | _, _ => none
  | .getStatus _ => none
  | .onCBSPutTokenOperationComplete _ _ => none

variable {parse}

theorem step_eq {s t : AuthState} {i : AuthInput} (h : (authMachine parse).step s i = some t) :
    t = ⟨(respond parse s.handle i).1, s.log ++ (respond parse s.handle i).2⟩ :=
  (Option.some.inj h).symm

/-- `EventHubAuthCBS_Refresh` ends with an authentication or shows nothing. -/
theorem refresh_eq (parse : String → Option (String × UInt64)) (a : EventHubAuthCBSStruct)
    (token : Option String) (env : AuthEnv) :
    (∃ b, authenticateCall parse a (.refresh token env) = some (b, env) ∧
      refresh parse a token env = authenticate b env) ∨
    authenticateCall parse a (.refresh token env) = none ∧
      (refresh parse a token env).events = [] := by
  simp only [refresh, authenticateCall]
  cases a.credential with
  | unknown => exact Or.inr ⟨rfl, rfl⟩
  | sasTokenExt =>
    cases token with
    | none => exact Or.inr ⟨rfl, rfl⟩
    | some text =>
      rcases hinstall : installRefreshToken parse a text env with ⟨_ | _, b⟩
      · exact Or.inr ⟨by simp [hinstall], by simp [hinstall]⟩
      · exact Or.inl ⟨b, by simp [hinstall], by simp [hinstall]⟩
  | sasTokenAuto =>
    rcases updateEventHubAuthACBSStatus a env.statusNow with ⟨_ | _, b⟩
    · exact Or.inr ⟨rfl, rfl⟩
    · by_cases hrequired : b.cbsStatus = .refreshRequired
      · exact Or.inl ⟨b, by simp [hrequired], by simp [hrequired]⟩
      · exact Or.inr ⟨by simp [hrequired], by simp [hrequired]⟩

/-- An input puts exactly the tokens of the authentication it makes. -/
theorem respond_put (a : EventHubAuthCBSStruct) (i : AuthInput) (p : PutToken) :
    AuthEvent.put p ∈ (respond parse a i).2 ↔
      ∃ b env, authenticateCall parse a i = some (b, env) ∧
        AuthEvent.put p ∈ (authenticate b env).events := by
  cases i with
  | authenticate env =>
    constructor
    · exact fun h ↦ ⟨a, env, rfl, h⟩
    · rintro ⟨b, env', heq, h⟩
      obtain ⟨rfl, rfl⟩ := Prod.mk.inj (Option.some.inj heq)
      exact h
  | refresh token env =>
    rcases refresh_eq parse a token env with ⟨b, hcall, heq⟩ | ⟨hcall, heq⟩
    · simp only [respond, heq, hcall, Option.some.injEq, Prod.mk.injEq]
      exact ⟨fun h ↦ ⟨b, env, ⟨rfl, rfl⟩, h⟩, fun ⟨c, e, ⟨hc, he⟩, h⟩ ↦ hc ▸ he ▸ h⟩
    · simp only [respond, heq, hcall, List.not_mem_nil, false_iff]
      rintro ⟨b, e, hb, -⟩
      exact absurd hb (by simp)
  | getStatus env => simp [respond, getStatus, authenticateCall]
  | onCBSPutTokenOperationComplete r env =>
    cases r <;> simp [respond, onCBSPutTokenOperationComplete, authenticateCall]

/-- What holds of a handle from its creation on. -/
structure WellFormed (a : EventHubAuthCBSStruct) : Prop where
  known : a.credential ≠ .unknown
  auto : a.credential = .sasTokenAuto → a.sasTokenExpirationTimeInSec ≠ 0
  token : a.credential = .sasTokenExt → a.extSASToken.isSome
  uri : a.credential = .sasTokenExt → a.extSASTokenURI.isSome

theorem WellFormed.of_same {a b : EventHubAuthCBSStruct} (h : WellFormed a)
    (hconfig : SameConfig a b) (htoken : SameToken a b) : WellFormed b :=
  ⟨hconfig.credential ▸ h.known, fun hb ↦ hconfig.expirationTime ▸ h.auto (hconfig.credential ▸ hb),
    fun hb ↦ htoken.extSASToken ▸ h.token (hconfig.credential ▸ hb),
    fun hb ↦ hconfig.extURI ▸ h.uri (hconfig.credential ▸ hb)⟩

theorem WellFormed.of_newToken {a b : EventHubAuthCBSStruct} (h : WellFormed a)
    (hconfig : SameConfig a b) (htoken : b.extSASToken.isSome) : WellFormed b :=
  ⟨hconfig.credential ▸ h.known, fun hb ↦ hconfig.expirationTime ▸ h.auto (hconfig.credential ▸ hb),
    fun _ ↦ htoken, fun hb ↦ hconfig.extURI ▸ h.uri (hconfig.credential ▸ hb)⟩

theorem authenticate_wellFormed {a : EventHubAuthCBSStruct} (h : WellFormed a) (env : AuthEnv) :
    WellFormed (authenticate a env).handle :=
  h.of_same (authenticate_keeps a env).1 (authenticate_keeps a env).2

/-- The handle on which an input authenticates is still well formed. -/
theorem authenticateCall_wellFormed {a b : EventHubAuthCBSStruct} {i : AuthInput} {env : AuthEnv}
    (h : WellFormed a) (hcall : authenticateCall parse a i = some (b, env)) :
    WellFormed b ∧ b.credential = a.credential := by
  cases i with
  | authenticate env' =>
    obtain ⟨rfl, rfl⟩ := Prod.mk.inj (Option.some.inj hcall)
    exact ⟨h, rfl⟩
  | getStatus _ => simp [authenticateCall] at hcall
  | onCBSPutTokenOperationComplete _ _ => simp [authenticateCall] at hcall
  | refresh token env' =>
    simp only [authenticateCall] at hcall
    cases hcred : a.credential with
    | unknown => simp [hcred] at hcall
    | sasTokenAuto =>
      simp only [hcred] at hcall
      split_ifs at hcall
      obtain ⟨rfl, rfl⟩ := Prod.mk.inj (Option.some.inj hcall)
      have hconfig := updateEventHubAuthACBSStatus_sameConfig a env'.statusNow
      exact ⟨h.of_same hconfig (updateEventHubAuthACBSStatus_sameToken a env'.statusNow),
        hconfig.credential.trans hcred⟩
    | sasTokenExt =>
      cases token with
      | none => simp [hcred] at hcall
      | some text =>
        simp only [hcred] at hcall
        split_ifs at hcall with hinstall
        obtain ⟨rfl, rfl⟩ := Prod.mk.inj (Option.some.inj hcall)
        rcases installRefreshToken_cases parse a text env' with
          ⟨strings, heq⟩ | ⟨strings, handle, uri, expiry, hparse, htext, heq⟩
        · simp [heq] at hinstall
        · rw [heq]
          exact ⟨h.of_newToken ⟨rfl, rfl, rfl, rfl, rfl⟩ rfl, hcred⟩

theorem refresh_wellFormed {a : EventHubAuthCBSStruct} (h : WellFormed a) (token : Option String)
    (env : AuthEnv) : WellFormed (refresh parse a token env).handle := by
  have hspec := refresh_spec parse a token env
  generalize refresh parse a token env = x at hspec
  cases hspec with
  | refused hr hconfig htoken hother hstatus => exact h.of_same hconfig htoken
  | external hcred htoken hparse hconfig htext hexpiry hother heq =>
    rw [heq]
    obtain ⟨t, ht, -⟩ := Option.map_eq_some_iff.mp htext
    exact authenticate_wellFormed (h.of_newToken hconfig (by rw [ht]; rfl)) env
  | automatic hcred hrequired heq =>
    rw [heq]
    exact authenticate_wellFormed (h.of_same
      (updateEventHubAuthACBSStatus_sameConfig a env.statusNow)
      (updateEventHubAuthACBSStatus_sameToken a env.statusNow)) env

theorem respond_wellFormed {a : EventHubAuthCBSStruct} (h : WellFormed a) (i : AuthInput) :
    WellFormed (respond parse a i).1 := by
  cases i with
  | authenticate env => exact authenticate_wellFormed h env
  | refresh token env => exact refresh_wellFormed h token env
  | getStatus env =>
    exact h.of_same (updateEventHubAuthACBSStatus_sameConfig a env.statusNow)
      (updateEventHubAuthACBSStatus_sameToken a env.statusNow)
  | onCBSPutTokenOperationComplete r env =>
    cases r <;> exact h.of_same ⟨rfl, rfl, rfl, rfl, rfl⟩ ⟨rfl, rfl⟩

theorem create_wellFormed {cfg : EventHubAuthCBSConfig} {session : Option Handle} {env : AuthEnv}
    {a : EventHubAuthCBSStruct} (h : create cfg session env = .ok a) : WellFormed a := by
  have hnew := create_spec h
  refine ⟨hnew.known, fun hcred ↦ hnew.expirationTime ▸ (hnew.auto hcred).1, fun hcred ↦ ?_,
    fun hcred ↦ ?_⟩
  · obtain ⟨token, uri, -, -, htoken, -⟩ := hnew.ext hcred
    obtain ⟨t, ht, -⟩ := Option.map_eq_some_iff.mp htoken
    simp only [ht, Option.isSome_some]
  · obtain ⟨token, uri, -, -, -, huri, -⟩ := hnew.ext hcred
    obtain ⟨u, hu, -⟩ := Option.map_eq_some_iff.mp huri
    simp only [hu, Option.isSome_some]

/-- Every handle of every run is well formed. -/
theorem run_wellFormed {s t : AuthState} {is : List AuthInput} (hs : WellFormed s.handle)
    (hrun : (authMachine parse).run s is = some t) : WellFormed t.handle :=
  Machine.run_invariant (P := fun s ↦ WellFormed s.handle)
    (fun _ i _ h hstep ↦ step_eq hstep ▸ respond_wellFormed h i) hs hrun

end EventHubAuthCBS

end EventHubs
