import EventHubs.Auth.Spec
import EventHubs.Library.Chronicle
import EventHubs.Sender.StackInvariant

/-!
# No message leaves unauthenticated

A sender made from a connection string runs together with the authentication module that it
drives. `AuthView` reads off its log what is known of the tokens on the present connection, and
`Tracks` ties that to the state of the auth handle.

## Main definitions

* `AuthView`, `authView` — puts, installed tokens and the last status on the present connection.
* `AuthView.Authorizes` — the condition under which a message may be handed over.
* `EventHubClientLL.Tracks`, `EventHubClientLL.AuthInv`.

## Main results

* `EventHubClientLL.run_hands_over_authorized`.
-/

namespace EventHubs

/-- What is known of the tokens on the present connection: when the token was created whose put
is under way, when the one was created whose put completed well most recently, whether anything
has failed, and what `EventHubAuthCBS_GetStatus` said in the present `EventHubClient_LL_DoWork`. -/
structure AuthView where
  pending : Option UInt64 := none
  installed : Option UInt64 := none
  troubled : Bool := false
  status : Option (Option UInt64 × EventHubAuthResult × EventHubAuthStatus) := none
  deriving DecidableEq, Repr

namespace AuthView

/-- The statuses that end a connection. -/
def ends : EventHubAuthStatus → Bool
  | .failure => true
  | .expired => true
  | .timeout => true
  | _ => false

/-- What an event adds. A new auth handle and a tear-down start from nothing. -/
def see (v : AuthView) : SenderEvent → AuthView
  | .authCreated => {}
  | .stackDestroyed => {}
  | .doWork => { v with status := none }
  | .auth (.put p) => if p.accepted then { v with pending := some p.now } else v
  | .auth (.putComplete r) =>
    { v with
      pending := none
      installed := if r = .ok then v.pending else v.installed
      troubled := v.troubled || r ≠ .ok }
  | .auth (.status reading result status) =>
    { v with
      status := some (reading, result, status)
      troubled := v.troubled || result ≠ .ok || ends status }
  | _ => v

/-- In the present `EventHubClient_LL_DoWork`, `EventHubAuthCBS_GetStatus` succeeded, a put on the
present connection has completed well, nothing has failed on it, and the token installed last was
created less than `AUTH_EXPIRATION_SECS` before the clock reading of that status. -/
def Authorizes (v : AuthView) : Prop :=
  ∃ now status created, v.status = some (some now, .ok, status) ∧
    (status = .ok ∨ status = .refreshRequired) ∧ v.installed = some created ∧
    v.troubled = false ∧
      (now.toNat : Int) - created.toNat < EventHubClientLL.authExpirationSecs.toNat

end AuthView

/-- What a log says about the present connection. -/
def authView (log : List SenderEvent) : AuthView := log.foldl AuthView.see {}

/-- A hand-over is authorised by what came before it. -/
def AuthorizedHandOver (past : List SenderEvent) : SenderEvent → Prop
  | .handedOver _ _ _ => (authView past).Authorizes
  | _ => True

@[simp]
theorem authView_append (l m : List SenderEvent) :
    authView (l ++ m) = m.foldl AuthView.see (authView l) := List.foldl_append

theorem see_of_blind {e : SenderEvent} (h : e.blind = true) (v : AuthView) : v.see e = v := by
  cases e <;> first | rfl | cases h

theorem foldl_see_of_blind {m : List SenderEvent} (h : ∀ e ∈ m, e.blind = true) (v : AuthView) :
    m.foldl AuthView.see v = v := by
  induction m with
  | nil => rfl
  | cons e m ih =>
    rw [List.foldl_cons, see_of_blind (h e List.mem_cons_self)]
    exact ih fun a ha ↦ h a (List.mem_cons_of_mem e ha)

theorem authorizedHandOver_of_blind {e : SenderEvent} (h : e.blind = true)
    (past : List SenderEvent) : AuthorizedHandOver past e := by
  cases e <;> trivial

/-! ### The age of a token -/

/-- A difference of unsigned seconds that is small is the age, or the clock went back. -/
theorem age_lt {now created limit : UInt64} (h : now - created < limit) :
    (now.toNat : Int) - created.toNat < limit.toNat := by
  rw [UInt64.lt_iff_toNat_lt] at h
  by_cases hle : created ≤ now
  · rw [UInt64.toNat_sub_of_le _ _ hle] at h
    have := UInt64.le_iff_toNat_le.mp hle
    omega
  · have hlt := UInt64.lt_iff_toNat_lt.mp (UInt64.not_le.mp hle)
    omega

namespace EventHubClientLL

open EventHubAuthCBS SenderState

/-- What the auth handle of a sender made from a connection string says about the present
connection. -/
structure Tracks (a : EventHubAuthCBSStruct) (puts : Nat) (v : AuthView) : Prop where
  credential : a.credential = .sasTokenAuto
  expirationTime : a.sasTokenExpirationTimeInSec = authExpirationSecs
  idle : a.cbsStatus = .idle → puts = 0 ∧ v.troubled = false
  inProgress : a.cbsStatus = .inProgress →
    puts = 1 ∧ v.troubled = false ∧ v.pending = some a.sasTokenCreateTimestamp
  good : a.cbsStatus = .ok ∨ a.cbsStatus = .refreshRequired →
    puts = 0 ∧ v.troubled = false ∧ v.installed = some a.sasTokenCreateTimestamp
  failure : a.cbsStatus = .failure → puts = 0
  lasting : a.cbsStatus ≠ .expired ∧ a.cbsStatus ≠ .timeout

/-- The same, also before there is an auth handle. -/
def Related (a : Option EventHubAuthCBSStruct) (puts : Nat) (v : AuthView) : Prop :=
  match a with
  | none => puts = 0
  | some a => Tracks a puts v

/-- `EventHubAuthCBS_GetStatus` on a handle with a shared access key. -/
theorem getStatus_good {a : EventHubAuthCBSStruct} (hcred : a.credential = .sasTokenAuto)
    (hexp : a.sasTokenExpirationTimeInSec = authExpirationSecs) {env : AuthEnv}
    (hresult : (getStatus a env).value.1 = .ok)
    (hstatus : (getStatus a env).value.2 = .ok ∨ (getStatus a env).value.2 = .refreshRequired) :
    (a.cbsStatus = .ok ∨ a.cbsStatus = .refreshRequired) ∧
    ∃ now, (getStatus a env).events = [.status (some now) .ok (getStatus a env).value.2] ∧
      now - a.sasTokenCreateTimestamp < authExpirationSecs.toUInt64 := by
  have hsource : a.cbsStatus = .ok ∨ a.cbsStatus = .refreshRequired := by
    rcases updateEventHubAuthACBSStatus_status a env.statusNow with h | ⟨-, h⟩ | ⟨-, h, -⟩
    · simp only [getStatus, h] at hstatus
      exact hstatus
    · simp [getStatus, h] at hstatus
    · exact h
  have htoken : checksToken a = true := by simp [checksToken, hcred, hsource]
  cases hnow : env.statusNow with
  | none => simp [getStatus, updateEventHubAuthACBSStatus, htoken, hnow] at hresult
  | some now =>
    refine ⟨hsource, now, ?_, ?_⟩
    · simp only [getStatus, htoken, hnow, Bool.true_or, if_true]
      simp only [getStatus, hnow] at hresult
      rw [hresult]
    · by_contra hle
      have hexpired : (checkExpirationAndRefreshStatus a now).1 = true := by
        simpa [checkExpirationAndRefreshStatus, hcred, hexp] using UInt64.not_lt.mp hle
      simp [getStatus, updateEventHubAuthACBSStatus, htoken, hnow, hexpired] at hstatus

/-! ### Authentication in `EventHubClient_LL_DoWork` -/

/-- The auth handle and the log agree, and every hand-over was authorised. -/
structure Attending (s : SenderState EventHubAuthCBSStruct) : Prop where
  credential : s.client.credential = .sasTokenAuto
  related : Related s.client.cbsHandle s.outstandingPuts (authView s.log)
  handOvers : Chronicle AuthorizedHandOver s.log

variable {s : SenderState EventHubAuthCBSStruct}

theorem Attending.unseen {t : SenderState EventHubAuthCBSStruct} (hs : Attending s)
    (h : Unseen s t) : Attending t := by
  obtain ⟨events, hlog, hevents⟩ := h.log
  refine ⟨h.credential.trans hs.credential, ?_, ?_⟩
  · rw [h.cbsHandle, h.outstandingPuts, hlog, authView_append, foldl_see_of_blind hevents]
    exact hs.related
  · rw [hlog]
    exact hs.handOvers.append_of_forall fun e he past ↦
      authorizedHandOver_of_blind (hevents e he) past

/-- Events of the authentication are no hand-overs. -/
theorem handOvers_answer {α : Type} {x : Answer EventHubAuthCBSStruct α}
    (h : Chronicle AuthorizedHandOver s.log) : Chronicle AuthorizedHandOver (s.answer x).log := by
  refine h.append_of_forall fun e he past ↦ ?_
  obtain ⟨b, -, rfl⟩ := List.mem_map.mp he
  trivial

variable (parse : String → Option (String × UInt64))

/-- `EventHubAuthCBS_Authenticate` on a handle that tracks its connection and has no put under
way: when it succeeds, the handle tracks the put. -/
theorem authenticate_tracks {a : EventHubAuthCBSStruct} {v : AuthView} (env : AuthEnv)
    (hcred : a.credential = .sasTokenAuto)
    (hexp : a.sasTokenExpirationTimeInSec = authExpirationSecs)
    (htroubled : v.troubled = false) (hok : (authenticate a env).value = .ok) :
    Tracks (authenticate a env).handle (acceptedPuts (authenticate a env).events)
      (((authenticate a env).events.map SenderEvent.auth).foldl AuthView.see v) ∧
    ((authenticate a env).events.map SenderEvent.auth).foldl AuthView.see v =
      { v with pending := some (authenticate a env).handle.sasTokenCreateTimestamp } := by
  have hspec := authenticate_spec a env
  have hkeeps := (authenticate_keeps a env).1
  generalize authenticate a env = x at hspec hkeeps hok
  cases hspec with
  | refused hr => exact absurd hok hr
  | @putMade p b hidle hnow hext hauto hcredential hstatus hop htime =>
    have haccepted : p.accepted = true := by
      by_contra hne
      simp [hne] at hok
    have hview : ([AuthEvent.put p].map SenderEvent.auth).foldl AuthView.see v =
        { v with pending := some b.sasTokenCreateTimestamp } := by
      simp [AuthView.see, haccepted, (hauto hcred).1]
    have hb : b.cbsStatus = .inProgress := by simpa [haccepted] using hstatus
    refine ⟨?_, hview⟩
    rw [hview]
    refine ⟨hkeeps.credential.trans hcred, hkeeps.expirationTime.trans hexp, ?_, fun _ ↦ ?_,
      ?_, ?_, ?_⟩
    · simp [hb]
    · exact ⟨by simp [acceptedPuts, haccepted], htroubled, rfl⟩
    all_goals simp [hb]

/-- A successful `EventHubAuthCBS_GetStatus` that ends nothing leaves the handle tracking. -/
theorem getStatus_tracks {a : EventHubAuthCBSStruct} {puts : Nat} {v : AuthView}
    (h : Tracks a puts v) (env : AuthEnv) (hresult : (getStatus a env).value.1 = .ok)
    (hends : AuthView.ends (getStatus a env).value.2 = false) :
    Tracks (getStatus a env).handle (puts + acceptedPuts (getStatus a env).events)
      (((getStatus a env).events.map SenderEvent.auth).foldl AuthView.see v) := by
  have hkeep := updateEventHubAuthACBSStatus_eq a env.statusNow
  have hview : ∀ reading, v.see (.auth (.status reading (getStatus a env).value.1
      (getStatus a env).value.2)) =
      { v with
        status := some (reading, (getStatus a env).value.1, (getStatus a env).value.2) } := by
    intro reading
    simp [AuthView.see, hresult, hends]
  have hends' : AuthView.ends (updateEventHubAuthACBSStatus a env.statusNow).2.cbsStatus = false :=
    hends
  change Tracks (updateEventHubAuthACBSStatus a env.statusNow).2 puts
    (v.see (.auth (.status _ (getStatus a env).value.1 (getStatus a env).value.2)))
  rw [hview, hkeep]
  rcases updateEventHubAuthACBSStatus_status a env.statusNow with heq | ⟨-, heq⟩ | ⟨-, hgood, heq⟩
  · rw [heq]
    exact ⟨h.credential, h.expirationTime, h.idle, h.inProgress, h.good, h.failure, h.lasting⟩
  · simp [heq, AuthView.ends] at hends'
  · rcases heq with heq | heq
    · simp [heq, AuthView.ends] at hends'
    · rw [heq]
      exact ⟨h.credential, h.expirationTime, by simp, by simp, fun _ ↦ h.good hgood, by simp,
        by simp⟩

/-- What `handle_sas_token_auth` leaves, by its outcome. -/
structure Handled (x : SenderState EventHubAuthCBSStruct × AuthOutcome) : Prop where
  credential : x.1.client.credential = .sasTokenAuto
  handOvers : Chronicle AuthorizedHandOver x.1.log
  related : x.2 = .inProgress ∨ x.2 = .done →
    Related x.1.client.cbsHandle x.1.outstandingPuts (authView x.1.log)
  authorizes : x.2 = .done → (authView x.1.log).Authorizes

theorem Handled.of_failed {t : SenderState EventHubAuthCBSStruct} {outcome : AuthOutcome}
    (hcred : t.client.credential = .sasTokenAuto) (hover : Chronicle AuthorizedHandOver t.log)
    (hfailed : outcome = .failed ∨ outcome = .timeout) : Handled (t, outcome) := by
  refine ⟨hcred, hover, fun h ↦ ?_, fun h ↦ ?_⟩ <;> rcases hfailed with rfl | rfl <;> simp at h

theorem authenticateFirst_handled {t : SenderState EventHubAuthCBSStruct}
    {a : EventHubAuthCBSStruct} (ht : Attending t) (ha : t.client.cbsHandle = some a)
    (hidle : a.cbsStatus = .idle) (env : DoWorkEnv AuthEnv) :
    Handled (authenticateFirst (authModule parse) t a env) := by
  have htracks : Tracks a t.outstandingPuts (authView t.log) := by
    have h := ht.related
    rwa [ha] at h
  have hpassed : Attending (t.passCBS .eventHubAuthCBSAuthenticate) :=
    ht.unseen (.passCBS ..)
  unfold authenticateFirst
  dsimp only
  split_ifs with hok
  · refine ⟨hpassed.credential, handOvers_answer hpassed.handOvers, fun _ ↦ ?_, by simp⟩
    have h := (authenticate_tracks env.put htracks.credential htracks.expirationTime
      (htracks.idle hidle).2 hok).1
    have hview : authView (t.passCBS .eventHubAuthCBSAuthenticate).log = authView t.log := by
      simp [SenderState.passCBS, SenderState.emit, AuthView.see]
    change Tracks _ (t.outstandingPuts + _) (authView (_ ++ _))
    rw [(htracks.idle hidle).1, Nat.zero_add, authView_append, hview]
    exact h
  · exact .of_failed hpassed.credential (handOvers_answer hpassed.handOvers) (Or.inl rfl)

/-- A successful `EventHubAuthCBS_Refresh` of a handle with a shared access key authenticates. -/
theorem refresh_auto_ok {a : EventHubAuthCBSStruct} (hcred : a.credential = .sasTokenAuto)
    {token : Option String} {env : AuthEnv} (hok : (refresh parse a token env).value = .ok) :
    ∃ b, b.credential = a.credential ∧
      b.sasTokenExpirationTimeInSec = a.sasTokenExpirationTimeInSec ∧
      refresh parse a token env = authenticate b env := by
  have hspec := refresh_spec parse a token env
  generalize refresh parse a token env = x at hspec hok
  cases hspec with
  | refused hr => exact absurd hok hr
  | external hext => simp [hcred] at hext
  | automatic _ _ heq =>
    have hconfig := updateEventHubAuthACBSStatus_sameConfig a env.statusNow
    exact ⟨_, hconfig.credential, hconfig.expirationTime, heq⟩

theorem refreshAuto_handled {t : SenderState EventHubAuthCBSStruct} {a : EventHubAuthCBSStruct}
    (ht : Attending t) (ha : t.client.cbsHandle = some a) (hstatus : a.cbsStatus = .refreshRequired)
    (hauthorizes : (authView t.log).Authorizes) (env : DoWorkEnv AuthEnv) :
    Handled (refreshAuto (authModule parse) t a env) := by
  have htracks : Tracks a t.outstandingPuts (authView t.log) := by
    have h := ht.related
    rwa [ha] at h
  obtain ⟨hputs, htroubled, -⟩ := htracks.good (Or.inr hstatus)
  have hpassed : Attending (t.passCBS .eventHubAuthCBSRefresh) :=
    ht.unseen (.passCBS ..)
  have hview : authView (t.passCBS .eventHubAuthCBSRefresh).log = authView t.log := by
    simp [SenderState.passCBS, SenderState.emit, AuthView.see]
  unfold refreshAuto
  dsimp only
  split_ifs with hok
  · obtain ⟨b, hcred, hexp, heq⟩ := refresh_auto_ok parse htracks.credential hok
    have heq' : (authModule parse).refresh a none env.put = authenticate b env.put := heq
    rw [heq'] at hok ⊢
    obtain ⟨htracks', hview'⟩ := authenticate_tracks env.put (hcred.trans htracks.credential)
      (hexp.trans htracks.expirationTime) htroubled hok
    refine ⟨hpassed.credential, handOvers_answer hpassed.handOvers, fun _ ↦ ?_, fun _ ↦ ?_⟩
    · change Tracks _ (t.outstandingPuts + _) (authView (_ ++ _))
      rw [hputs, Nat.zero_add, authView_append, hview]
      exact htracks'
    · change (authView (_ ++ _)).Authorizes
      rw [authView_append, hview, hview']
      exact hauthorizes
  · exact .of_failed hpassed.credential (handOvers_answer hpassed.handOvers) (Or.inl rfl)

/-- A sender with a shared access key goes on when its token is valid. -/
theorem refreshExtOrProceed_auto {t : SenderState EventHubAuthCBSStruct}
    (hcred : t.client.credential = .sasTokenAuto) (a : EventHubAuthCBSStruct)
    (env : DoWorkEnv AuthEnv) :
    refreshExtOrProceed (authModule parse) t a env = (refreshExtOrProceed.proceed t, .done) := by
  unfold refreshExtOrProceed
  cases t.client.extRefreshSASToken with
  | none => rfl
  | some token => simp [hcred]

theorem proceed_attending {t : SenderState EventHubAuthCBSStruct} (ht : Attending t) :
    Attending (refreshExtOrProceed.proceed t) ∧ (refreshExtOrProceed.proceed t).log = t.log := by
  unfold refreshExtOrProceed.proceed
  split_ifs <;> exact ⟨⟨ht.1, ht.2, ht.3⟩, rfl⟩

theorem onStatus_handled {u : SenderState EventHubAuthCBSStruct} {b : EventHubAuthCBSStruct}
    {status : EventHubAuthStatus} (hcred : u.client.credential = .sasTokenAuto)
    (hover : Chronicle AuthorizedHandOver u.log) (hcbs : u.client.cbsHandle = some b)
    (hstatus : b.cbsStatus = status) (hu : AuthView.ends status = false → Attending u)
    (hauthorizes : status = .ok ∨ status = .refreshRequired → (authView u.log).Authorizes)
    (env : DoWorkEnv AuthEnv) : Handled (onStatus (authModule parse) u b env status) := by
  cases status with
  | failure => exact .of_failed hcred hover (Or.inl rfl)
  | expired => exact .of_failed hcred hover (Or.inl rfl)
  | timeout => exact .of_failed hcred hover (Or.inr rfl)
  | inProgress => exact ⟨hcred, hover, fun _ ↦ (hu rfl).related, by simp [onStatus]⟩
  | refreshRequired =>
    exact refreshAuto_handled parse (hu rfl) hcbs hstatus (hauthorizes (Or.inr rfl)) env
  | idle => exact authenticateFirst_handled parse (hu rfl) hcbs hstatus env
  | ok =>
    simp only [onStatus, refreshExtOrProceed_auto parse hcred]
    obtain ⟨hproceed, hlog⟩ := proceed_attending (hu rfl)
    exact ⟨hproceed.credential, hproceed.handOvers, fun _ ↦ hproceed.related,
      fun _ ↦ hlog ▸ hauthorizes (Or.inl rfl)⟩

theorem handleSASTokenAuth_handled (hs : Attending s) (env : DoWorkEnv AuthEnv) :
    Handled (handleSASTokenAuth (authModule parse) s env) := by
  have hpassed : Attending (s.passCBS .eventHubAuthCBSGetStatus) :=
    hs.unseen (.passCBS ..)
  have hview : authView (s.passCBS .eventHubAuthCBSGetStatus).log = authView s.log := by
    simp [SenderState.passCBS, SenderState.emit, AuthView.see]
  unfold handleSASTokenAuth
  cases ha : s.client.cbsHandle with
  | none => exact .of_failed hpassed.credential hpassed.handOvers (Or.inl rfl)
  | some a =>
    have htracks : Tracks a s.outstandingPuts (authView s.log) := by
      have h := hs.related
      rwa [ha] at h
    have hover := handOvers_answer (x := getStatus a env.status) hpassed.handOvers
    have hcred : ((s.passCBS .eventHubAuthCBSGetStatus).answer
        (getStatus a env.status)).client.credential = .sasTokenAuto := hpassed.credential
    change Handled (if (getStatus a env.status).value.1 ≠ .ok then _ else
      onStatus (authModule parse) _ (getStatus a env.status).handle env
        (getStatus a env.status).value.2)
    by_cases hok : (getStatus a env.status).value.1 = .ok
    · rw [if_neg (not_not.mpr hok)]
      have hcbs : ((s.passCBS .eventHubAuthCBSGetStatus).answer
        (getStatus a env.status)).client.cbsHandle = some (getStatus a env.status).handle := rfl
      have hattending : AuthView.ends (getStatus a env.status).value.2 = false →
          Attending ((s.passCBS .eventHubAuthCBSGetStatus).answer (getStatus a env.status)) := by
        intro hends
        refine ⟨hcred, ?_, hover⟩
        change Tracks _ (s.outstandingPuts + _) (authView (_ ++ _))
        rw [authView_append, hview]
        exact getStatus_tracks htracks env.status hok hends
      have hauthorizes : (getStatus a env.status).value.2 = .ok ∨
          (getStatus a env.status).value.2 = .refreshRequired →
          (authView ((s.passCBS .eventHubAuthCBSGetStatus).answer
            (getStatus a env.status)).log).Authorizes := by
        intro hst
        obtain ⟨hgood, now, hevents, hage⟩ :=
          getStatus_good htracks.credential htracks.expirationTime hok hst
        obtain ⟨-, htroubled, hinstalled⟩ := htracks.good hgood
        have hends : AuthView.ends (getStatus a env.status).value.2 = false := by
          rcases hst with hst | hst <;> rw [hst] <;> rfl
        change (authView (_ ++ List.map SenderEvent.auth _)).Authorizes
        rw [authView_append, hview, hevents]
        exact ⟨now, _, _, rfl, hst, hinstalled, by simp [AuthView.see, htroubled, hends],
          age_lt hage⟩
      exact onStatus_handled parse hcred hover hcbs rfl hattending hauthorizes env
    · rw [if_pos hok]
      exact .of_failed hcred hover (Or.inl rfl)

/-! ### Bring-up -/

/-- There is no auth handle yet. -/
structure Unborn (s : SenderState EventHubAuthCBSStruct) : Prop extends Attending s where
  none : s.client.cbsHandle = none

theorem Unborn.unseen {t : SenderState EventHubAuthCBSStruct} (hs : Unborn s) (h : Unseen s t) :
    Unborn t := ⟨hs.toAttending.unseen h, h.cbsHandle.trans hs.none⟩

/-- A new auth handle tracks its connection, on which nothing has happened. -/
theorem create_tracks {c : EventHubClientLL EventHubAuthCBSStruct}
    (hcred : c.credential = .sasTokenAuto) {session : Option Handle} {env : AuthEnv}
    {a : EventHubAuthCBSStruct}
    (h : ((authConfig c).bind fun cfg ↦ (authModule parse).create cfg session env) = some a) :
    Tracks a 0 {} := by
  obtain ⟨cfg, hcfg, ha⟩ := Option.bind_eq_some_iff.mp h
  rw [authConfig, if_pos hcred, Option.some.injEq] at hcfg
  have hspec := create_spec (authModule_create ha)
  refine ⟨hspec.credential.trans ?_, hspec.expirationTime.trans ?_, fun _ ↦ ⟨rfl, rfl⟩, ?_, ?_, ?_,
    ?_⟩
  · rw [← hcfg]
    exact hcred
  · rw [← hcfg]
  all_goals simp [hspec.status]

theorem createSASToken_attending (env : DoWorkEnv AuthEnv) :
    Attempt.Spec Unborn (createSASToken (authModule parse) env) (fun _ ↦ Attending) Attending := by
  have hwrite : ∀ s, Unborn s → Unborn { s with client := writeAuthTimeout s.client } := by
    intro s hs
    have hcred : (writeAuthTimeout s.client) = s.client := by
      rw [writeAuthTimeout, if_pos hs.credential]
    rw [hcred]
    exact hs
  unfold createSASToken
  refine .bind (Q := fun _ ↦ Unborn) (.update hwrite) fun _ ↦ ?_
  refine .bind (((passHandle_unseen _ _).spec fun _ _ hs h ↦ hs.unseen h).mono (fun _ h ↦ h)
    (fun _ _ h ↦ h) fun _ h ↦ h.toAttending) fun _ ↦ ?_
  refine .bind (Q := fun s t ↦ Unborn t ∧ s = t) (.read fun _ hs ↦ ⟨hs, rfl⟩) fun s ↦ ?_
  refine .bind (Q := fun _ ↦ Attending) (.update ?_) fun _ ↦ .keep fun _ hs ↦ hs
  rintro t ⟨ht, rfl⟩
  have hputs : s.outstandingPuts = 0 := by
    have h := ht.related
    rwa [ht.none] at h
  cases ha : (authConfig s.client).bind
      fun cfg ↦ (authModule parse).create cfg (s.client.stack .session) env.create with
  | none =>
    refine ⟨ht.credential, hputs, ht.handOvers.append_of_forall fun e he past ↦ ?_⟩
    obtain rfl : e = _ := by simpa using he
    trivial
  | some a =>
    refine ⟨ht.credential, ?_, ht.handOvers.append_of_forall fun e he past ↦ ?_⟩
    · change Tracks a s.outstandingPuts (authView (_ ++ _))
      rw [hputs, authView_append]
      exact create_tracks parse ht.credential ha
    · rcases List.mem_cons.mp he with rfl | he
      · trivial
      · obtain rfl : e = _ := by simpa using he
        trivial

theorem initializeUamqpStack_attending (env : DoWorkEnv AuthEnv) :
    Attempt.Spec (fun s ↦ Attending s ∧
        (s.client.amqpState = .uninitialized → s.client.cbsHandle = none))
      (initializeUamqpStack (authModule parse) env) (fun _ ↦ Attending) Attending := by
  have hset : ∀ state, Attempt.Spec Attending (setAMQPState state) (fun _ ↦ Attending) Attending :=
    fun state ↦ .update fun s hs ↦ ⟨hs.1, hs.2, hs.3⟩
  rintro s ⟨hs, hnone⟩
  unfold initializeUamqpStack
  split_ifs with hstate
  · refine Attempt.Spec.bind (P := Unborn) (Q := fun _ ↦ Unborn) (.update fun s hs ↦ ?_)
      (fun _ ↦ .bind ?_ fun _ ↦ hset _) s ⟨hs, hnone hstate⟩
    · exact ⟨⟨hs.1.1, hs.1.2, hs.1.3⟩, hs.2⟩
    · unfold initializeUamqpStackCommon
      repeat first
        | refine .bind (.keep fun _ h ↦ h.toAttending) fun _ ↦ ?_
        | refine .bind (((passHandle_unseen _ _).spec fun _ _ hs h ↦ hs.unseen h).mono
            (fun _ h ↦ h) (fun _ _ h ↦ h) fun _ h ↦ Unborn.toAttending h) fun _ ↦ ?_
        | refine .bind (((createHandle_unseen env _ _).spec fun _ _ hs h ↦ hs.unseen h).mono
            (fun _ h ↦ h) (fun _ _ h ↦ h) fun _ h ↦ Unborn.toAttending h) fun _ ↦ ?_
      exact createSASToken_attending parse env
  · exact Attempt.Spec.bind
      ((initializeUamqpSenderStack_unseen env).spec fun _ _ hs h ↦ hs.unseen h)
      (fun _ ↦ hset _) s hs

/-! ### The invariant -/

/-- Outside a tear-down the auth handle and the log agree, and in the sending branch of
`EventHubClient_LL_DoWork` the present connection is authorised. -/
structure AuthInv (s : SenderState EventHubAuthCBSStruct) : Prop where
  credential : s.client.credential = .sasTokenAuto
  handOvers : Chronicle AuthorizedHandOver s.log
  related : s.control.steady = true →
    Related s.client.cbsHandle s.outstandingPuts (authView s.log)
  authorizes : s.control.sending = true → (authView s.log).Authorizes

theorem Attending.authInv (h : Attending s) (hquiet : s.control.sending = false) : AuthInv s :=
  ⟨h.credential, h.handOvers, fun _ ↦ h.related, fun hc ↦ by simp [hquiet] at hc⟩

theorem AuthInv.attending (h : AuthInv s) (hsteady : s.control.steady = true) : Attending s :=
  ⟨h.credential, h.related hsteady, h.handOvers⟩

theorem AuthInv.unseen {t : SenderState EventHubAuthCBSStruct} (hs : AuthInv s) (h : Unseen s t)
    (hsteady : t.control.steady = true → s.control.steady = true)
    (hsending : t.control.sending = true → s.control.sending = true) : AuthInv t := by
  obtain ⟨events, hlog, hevents⟩ := h.log
  have hview : authView t.log = authView s.log := by
    rw [hlog, authView_append, foldl_see_of_blind hevents]
  refine ⟨h.credential.trans hs.credential, ?_, fun hc ↦ ?_, fun hc ↦ ?_⟩
  · rw [hlog]
    exact hs.handOvers.append_of_forall fun e he past ↦
      authorizedHandOver_of_blind (hevents e he) past
  · rw [h.cbsHandle, h.outstandingPuts, hview]
    exact hs.related (hsteady hc)
  · rw [hview]
    exact hs.authorizes (hsending hc)

/-- Whatever the auth handle was like, it is gone after `destroy_uamqp_stack`. -/
theorem finish_authInv (hcred : s.client.credential = .sasTokenAuto)
    (hover : Chronicle AuthorizedHandOver s.log) (after : AfterDestroy) :
    AuthInv (afterDestroyUamqpStack (finishDestroyUamqpStack s) after) := by
  have hfinish : Attending (finishDestroyUamqpStack s) :=
    ⟨hcred, rfl, hover.concat trivial⟩
  cases after with
  | initFailed =>
    unfold afterDestroyUamqpStack SenderState.raise
    dsimp only
    split
    · exact Attending.authInv ⟨hfinish.1, hfinish.2, hfinish.3⟩ rfl
    · refine Attending.authInv (hfinish.unseen ⟨rfl, rfl, rfl, rfl, rfl, _, rfl, ?_⟩) rfl
      simp [SenderEvent.blind]
  | «return» => exact Attending.authInv ⟨hfinish.1, hfinish.2, hfinish.3⟩ rfl
  | destroy => exact Attending.authInv ⟨hfinish.1, hfinish.2, hfinish.3⟩ rfl

theorem destroyUamqpStack_authInv (hcred : s.client.credential = .sasTokenAuto)
    (hover : Chronicle AuthorizedHandOver s.log) (after : AfterDestroy) :
    AuthInv (destroyUamqpStack s after) := by
  unfold destroyUamqpStack
  split_ifs
  · exact ⟨hcred, hover, by rintro ⟨⟩, by rintro ⟨⟩⟩
  · exact finish_authInv hcred hover after

theorem raise_authInv (hcred : s.client.credential = .sasTokenAuto)
    (hover : Chronicle AuthorizedHandOver s.log) (r : EventHubClientErrorResult) :
    AuthInv (s.raise r .tearDown (destroyUamqpStack · .return)) := by
  unfold SenderState.raise
  cases s.client.onErrorCb with
  | none => exact destroyUamqpStack_authInv hcred hover _
  | some callback => exact ⟨hcred, hover.concat trivial, by rintro ⟨⟩, by rintro ⟨⟩⟩

theorem connectionDowork_authInv (hs : Attending s) : AuthInv (connectionDowork s) := by
  have h := hs.unseen (.pass s .connectionDowork .connection)
  exact Attending.authInv ⟨h.1, h.2, h.3⟩ rfl

theorem afterAuth_authInv {x : SenderState EventHubAuthCBSStruct × AuthOutcome} (h : Handled x) :
    AuthInv (afterAuth x.1 x.2) := by
  obtain ⟨t, outcome⟩ := x
  cases outcome with
  | failed => exact raise_authInv h.credential h.handOvers _
  | timeout => exact raise_authInv h.credential h.handOvers _
  | inProgress =>
    exact connectionDowork_authInv ⟨h.credential, h.related (Or.inl rfl), h.handOvers⟩
  | done =>
    have ht : Attending t := ⟨h.credential, h.related (Or.inr rfl), h.handOvers⟩
    unfold afterAuth openAndSend
    dsimp only
    split_ifs
    · have h' := ht.unseen (.pass t .messagesenderOpen .messageSender)
      refine ⟨h'.1, h'.3, fun _ ↦ h'.2, fun _ ↦ ?_⟩
      have hview : authView (t.pass .messagesenderOpen .messageSender).log = authView t.log := by
        simp [SenderState.pass, SenderState.emit, AuthView.see]
      rw [hview]
      exact h.authorizes rfl
    · exact ⟨ht.1, ht.3, fun _ ↦ ht.2, fun _ ↦ h.authorizes rfl⟩
    · exact Attending.authInv ⟨ht.1, ht.2, ht.3⟩ rfl

theorem doWorkInitialized_authInv (hs : Attending s) (env : DoWorkEnv AuthEnv) :
    AuthInv (doWorkInitialized (authModule parse) s env) := by
  unfold doWorkInitialized
  split_ifs
  · exact destroyUamqpStack_authInv hs.credential hs.handOvers _
  · exact afterAuth_authInv (handleSASTokenAuth_handled parse hs env)

theorem doWork_authInv (hs : AuthInv s) (hstack : StackInv s) (hidle : s.control = .idle)
    (env : DoWorkEnv AuthEnv) : AuthInv (doWork (authModule parse) s env) := by
  have hattending := hs.attending (by rw [hidle]; rfl)
  have hstart : Attending (s.emit [.doWork]) := by
    refine ⟨hattending.credential, ?_, hattending.handOvers.concat trivial⟩
    have hrelated := hattending.related
    change Related s.client.cbsHandle s.outstandingPuts (authView (s.log ++ [.doWork]))
    rw [authView_append]
    cases ha : s.client.cbsHandle with
    | none => rwa [ha] at hrelated
    | some a =>
      rw [ha] at hrelated
      exact ⟨hrelated.1, hrelated.2, hrelated.3, hrelated.4, hrelated.5, hrelated.6, hrelated.7⟩
  have hnone : (s.emit [.doWork]).client.amqpState = .uninitialized →
      (s.emit [.doWork]).client.cbsHandle = none := fun hstate ↦ by
    have hconsistent := hstack.consistent
    have hstate' : s.client.amqpState = .uninitialized := hstate
    simp only [StackConsistent, hstate'] at hconsistent
    exact hconsistent.2.1
  unfold doWork
  dsimp only
  generalize s.emit [.doWork] = s' at hstart hnone ⊢
  split_ifs
  · have hinit := initializeUamqpStack_attending parse env s' ⟨hstart, hnone⟩
    generalize initializeUamqpStack (authModule parse) env s' = x at hinit ⊢
    rcases x with ⟨_ | _, t⟩
    · have ht : Attending t := hinit
      exact destroyUamqpStack_authInv ht.credential ht.handOvers _
    · exact doWorkInitialized_authInv parse hinit env
  · exact doWorkInitialized_authInv parse hstart env

/-- The completion of the put that is under way. -/
theorem putComplete_authInv (hs : AuthInv s) {a : EventHubAuthCBSStruct} (r : CBSOperationResult)
    (env : AuthEnv) (hcall : s.control = .uamqp .connectionDowork)
    (ha : s.client.cbsHandle = some a) (hputs : 0 < s.outstandingPuts) :
    AuthInv (EventHubClientLL.onCBSPutTokenOperationComplete (authModule parse) s a r env) := by
  have htracks : Tracks a s.outstandingPuts (authView s.log) := by
    have h := hs.related (by rw [hcall]; rfl)
    rwa [ha] at h
  have hprogress : a.cbsStatus = .inProgress := by
    cases hstatus : a.cbsStatus with
    | inProgress => rfl
    | idle => exact absurd (htracks.idle hstatus).1 (Nat.ne_of_gt hputs)
    | ok => exact absurd (htracks.good (Or.inl hstatus)).1 (Nat.ne_of_gt hputs)
    | refreshRequired => exact absurd (htracks.good (Or.inr hstatus)).1 (Nat.ne_of_gt hputs)
    | failure => exact absurd (htracks.failure hstatus) (Nat.ne_of_gt hputs)
    | expired => exact absurd hstatus htracks.lasting.1
    | timeout => exact absurd hstatus htracks.lasting.2
  obtain ⟨hone, htroubled, hpending⟩ := htracks.inProgress hprogress
  have hover : Chronicle AuthorizedHandOver
      (s.answer ((authModule parse).onCBSPutTokenOperationComplete a r env)).log :=
    handOvers_answer hs.handOvers
  have hquiet : s.control.sending = false := by rw [hcall]; rfl
  refine ⟨hs.credential, hover, fun _ ↦ ?_, fun hc ↦ by
    have hc' : s.control.sending = true := hc
    simp [hquiet] at hc'⟩
  by_cases hr : r = .ok
  · subst hr
    change Tracks _ (s.outstandingPuts + 0 - 1) (authView (s.log ++ [.auth (.putComplete .ok)]))
    rw [hone, authView_append]
    refine ⟨htracks.credential, htracks.expirationTime, ?_, ?_, fun _ ↦ ⟨rfl, ?_, ?_⟩, ?_, ?_⟩
    · simp [EventHubAuthCBS.onCBSPutTokenOperationComplete, authModule]
    · simp [EventHubAuthCBS.onCBSPutTokenOperationComplete, authModule]
    · simp [AuthView.see, htroubled]
    · simp [AuthView.see, hpending, EventHubAuthCBS.onCBSPutTokenOperationComplete, authModule]
    · simp [EventHubAuthCBS.onCBSPutTokenOperationComplete, authModule]
    · simp [EventHubAuthCBS.onCBSPutTokenOperationComplete, authModule]
  · have hfail : (authModule parse).onCBSPutTokenOperationComplete a r env =
        ⟨(), { a with cbsStatus := .failure, cbOperation := .none }, [.putComplete r]⟩ := by
      cases r <;> first | rfl | exact absurd rfl hr
    have hrelated : Related (s.answer ((authModule parse).onCBSPutTokenOperationComplete a r
        env)).client.cbsHandle (s.outstandingPuts - 1)
        (authView (s.answer ((authModule parse).onCBSPutTokenOperationComplete a r env)).log) := by
      rw [hfail, hone]
      exact ⟨htracks.credential, htracks.expirationTime, by simp, by simp, by simp, fun _ ↦ rfl,
        by simp⟩
    have hputs' : (s.answer ((authModule parse).onCBSPutTokenOperationComplete a r
        env)).outstandingPuts = s.outstandingPuts := by
      rw [hfail]
      rfl
    change Related _ ((s.answer _).outstandingPuts - 1) _
    rw [hputs']
    exact hrelated

/-! ### Steps and runs -/

theorem step_authInv {t : SenderState EventHubAuthCBSStruct} {i : SenderInput AuthEnv}
    (hs : AuthInv s) (hstack : StackInv s) (hstep : step (authModule parse) s i = some t) :
    AuthInv t := by
  cases step_act (authModule parse) hstep with
  | offstage h => exact hs.unseen h.unseen h.steady h.sending
  | refresh text hcred _ _ => simp [hs.credential] at hcred
  | doWork env hidle => exact doWork_authInv parse hs hstack hidle env
  | connectionDowork hloop => exact connectionDowork_authInv (hs.attending (by rw [hloop]; rfl))
  | @handOver u e message taken h hsending =>
    have hu := (hs.attending (SenderControl.steady_of_sending hsending)).unseen h.unseen
    have hmarked : Attending (u.waitForAck e.number) := ⟨hu.1, hu.2, hu.3⟩
    have hpassed := hmarked.unseen (.pass _ .messagesenderSendAsync .messageSender)
    have hview : authView ((u.waitForAck e.number).pass .messagesenderSendAsync
        .messageSender).log = authView s.log := by
      obtain ⟨events, hlog, hevents⟩ := h.unseen.log
      have hsame : authView u.log = authView s.log := by
        rw [hlog, authView_append, foldl_see_of_blind hevents]
      simpa [SenderState.pass, SenderState.emit, SenderState.waitForAck, AuthView.see] using hsame
    have hauthorizes : (authView ((u.waitForAck e.number).pass .messagesenderSendAsync
        .messageSender).log).Authorizes := hview ▸ hs.authorizes hsending
    refine ⟨hpassed.credential, hpassed.handOvers.concat hauthorizes, fun _ ↦ ?_, fun _ ↦ ?_⟩
    · change Related _ _ (authView (_ ++ [SenderEvent.handedOver e.number message taken]))
      rw [authView_append]
      exact hpassed.related
    · change (authView (_ ++ [SenderEvent.handedOver e.number message taken])).Authorizes
      rw [authView_append]
      exact hauthorizes
  | putComplete r env hcall ha hputs => exact putComplete_authInv parse hs r env hcall ha hputs
  | dismantle after h =>
    have hu := hs.unseen h.unseen h.steady h.sending
    exact destroyUamqpStack_authInv hu.credential hu.handOvers after
  | finish after _ => exact finish_authInv hs.credential hs.handOvers after

/-- In every run of a sender made from a connection string, whenever `messagesender_send_async` is
called, `EventHubAuthCBS_GetStatus` has succeeded in the same `EventHubClient_LL_DoWork`, a put on
the present connection has completed well, none has failed on it, and the token installed last was
less than an hour old at the clock reading of that status. -/
theorem run_hands_over_authorized (keyName keyValue hostName eventHubPath targetAddress : String)
    {is : List (SenderInput AuthEnv)} {t : SenderState EventHubAuthCBSStruct}
    (hrun : (senderMachine (authModule parse)).run
      { client := (createdFromConnectionString keyName keyValue hostName eventHubPath
          targetAddress) } is = some t) {past : List SenderEvent} {n : Nat} {message : AMQPMessage}
    {taken : Bool} (hover : past ++ [.handedOver n message taken] <+: t.log) :
    (authView past).Authorizes := by
  have hstep : ∀ s i t, StackInv s ∧ AuthInv s →
      (senderMachine (authModule parse)).step s i = some t → StackInv t ∧ AuthInv t :=
    fun _ _ _ hs h ↦ ⟨step_stackInv _ hs.1 h, step_authInv parse hs.2 hs.1 h⟩
  have hcreated := created_stackInv (σ := EventHubAuthCBSStruct)
    (.fromConnectionString keyName keyValue hostName eventHubPath targetAddress)
  have hinit : AuthInv { client := (createdFromConnectionString keyName keyValue hostName
      eventHubPath targetAddress) } := Attending.authInv ⟨rfl, rfl, .nil⟩ rfl
  exact (Machine.run_invariant hstep ⟨hcreated, hinit⟩ hrun).2.handOvers past _ hover

/-- A message that is handed over on an authorised connection. -/
theorem run_hands_over_authorized_sendOne :
    ∃ t, (senderMachine (authModule fun _ ↦ none)).run
        { client := createdFromConnectionString "name" "key" "host" "hub" "target" }
        (sendOne.take 9) = some t ∧
      t.log.dropLast ++ [.handedOver 0 { bodyData := [[7]] } true] = t.log ∧
      (authView t.log.dropLast).Authorizes := by
  refine ⟨_, rfl, by decide, ?_⟩
  exact @run_hands_over_authorized (fun _ ↦ none) "name" "key" "host" "hub" "target"
    (sendOne.take 9) _ rfl _ 0 { bodyData := [[7]] } true ⟨[], by decide⟩

end EventHubClientLL

end EventHubs
