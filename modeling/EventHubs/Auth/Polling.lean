import EventHubs.Auth.Expiry
import EventHubs.Library.Clock

/-!
# Status and time

For a handle with a shared access key the status that `EventHubAuthCBS_GetStatus` reports is a
function of the latest put, of its completion and of the second at which it is asked, although
`UpdateEventHubAuthACBSStatus` stores each answer and starts the next one from it. A stored status
is the answer for some second between the put and now; time only moves it forward, so it cannot
stand in the way of a later answer.

## Main definitions

* `LatestPut`, `latestPut` — what the log says of the latest put.
* `LatestPut.statusAt` — the status at a second, from the periods of the configuration alone.
* `EventHubAuthCBS.Orderly` — the calls and completions of a well-behaved caller.
* `EventHubAuthCBS.Stored` — the invariant on what is stored.

## Main results

* `EventHubAuthCBS.update_statusAt`, `EventHubAuthCBS.run_stored`.
* `EventHubAuthCBS.getStatus_determined`.
-/

namespace EventHubs

/-- What has become of the latest put: the second at which it was issued and its result. -/
inductive LatestPut
  | never
  | outstanding (issued : UInt64)
  | completed (issued : UInt64) (r : CBSOperationResult)
  deriving DecidableEq, Repr

namespace LatestPut

/-- What an event says of the latest put. -/
def observe (l : LatestPut) : AuthEvent → LatestPut
  | .put p => if p.accepted then .outstanding p.now else l
  | .putComplete r =>
    match l with
    | .outstanding issued => .completed issued r
    | _ => l
  | .status _ _ _ => l

/-- The second at which the latest put was issued and its token created. -/
def issued : LatestPut → UInt64
  | .never => 0
  | .outstanding issued => issued
  | .completed issued _ => issued

/-- The latest put was issued and is not complete. -/
def isOutstanding : LatestPut → Bool
  | .outstanding _ => true
  | _ => false

/-- The status at the second `now`. -/
def statusAt (cfg : EventHubAuthCBSConfig) (now : UInt64) : LatestPut → EventHubAuthStatus
  | .never => .idle
  | .outstanding issued =>
    if cfg.sasTokenAuthFailureTimeoutInSecs = 0 ∨
        now.toNat - issued.toNat < cfg.sasTokenAuthFailureTimeoutInSecs.toNat then .inProgress
    else .timeout
  | .completed issued .ok =>
    if now.toNat - issued.toNat < cfg.sasTokenRefreshPeriodInSecs.toNat then .ok
    else if now.toNat - issued.toNat < cfg.sasTokenExpirationTimeInSec.toNat then .refreshRequired
    else .expired
  | .completed _ _ => .failure

end LatestPut

/-- What the log of a handle says of its latest put. -/
def latestPut (log : List AuthEvent) : LatestPut := log.foldl LatestPut.observe .never

theorem latestPut_append (log events : List AuthEvent) :
    latestPut (log ++ events) = events.foldl LatestPut.observe (latestPut log) :=
  List.foldl_append

/-- The clock at an input, `none` where it cannot be read. An input that needs no reading shows the
clock all the same. -/
def AuthInput.readings : AuthInput → List (Option UInt64)
  | .authenticate env => [env.putNow]
  | .refresh _ env => [env.statusNow, env.putNow]
  | .getStatus env => [env.statusNow]
  | .onCBSPutTokenOperationComplete _ env => [env.completeNow]

/-- Whether an input only asks for the status. -/
def AuthInput.polls : AuthInput → Bool
  | .getStatus _ => true
  | _ => false

namespace EventHubAuthCBS

open EventHubAuthCBSStruct Attempt

/-- The caller authenticates only when no put is outstanding, no call it leads to fails, and a put
completes once. -/
def Orderly (s : AuthState) (i : AuthInput) : Prop :=
  (∀ r ∈ i.readings, r.isSome) ∧
  match i with
  | .authenticate env => (latestPut s.log).isOutstanding = false ∧ ∀ c, env.succeeds c = true
  | .refresh _ env => (latestPut s.log).isOutstanding = false ∧ ∀ c, env.succeeds c = true
  | .getStatus _ => True
  | .onCBSPutTokenOperationComplete _ _ => (latestPut s.log).isOutstanding = true

/-- What a handle stores when the clock was last at `last` and its latest put is `l`: the fields of
the configuration, the second of the put, and the status at some second since. -/
structure Stored (cfg : EventHubAuthCBSConfig) (last : UInt64) (l : LatestPut)
    (a : EventHubAuthCBSStruct) : Prop where
  credential : a.credential = .sasTokenAuto
  expirationTime : a.sasTokenExpirationTimeInSec = cfg.sasTokenExpirationTimeInSec
  refreshPeriod : a.sasTokenRefreshPeriodInSecs = cfg.sasTokenRefreshPeriodInSecs
  timeout : a.sasTokenAuthFailureTimeoutInSecs = cfg.sasTokenAuthFailureTimeoutInSecs
  uri : a.uri.isSome
  created : a.sasTokenCreateTimestamp = l.issued
  put : l.isOutstanding = true → a.cbOperation = .put ∧ a.sasTokenPutTime = l.issued
  status : ∃ since, l.issued ≤ since ∧ since ≤ last ∧ a.cbsStatus = l.statusAt cfg since

/-- The periods that `EventHubAuthCBS_Create` accepts. -/
structure Periods (cfg : EventHubAuthCBSConfig) : Prop where
  refreshPeriod : 0 < cfg.sasTokenRefreshPeriodInSecs.toNat
  expirationTime :
    cfg.sasTokenRefreshPeriodInSecs.toNat < cfg.sasTokenExpirationTimeInSec.toNat

variable {cfg : EventHubAuthCBSConfig} {a : EventHubAuthCBSStruct} {l : LatestPut}
  {last now : UInt64}

/-! ### One status -/

/-- `CheckPutTimeoutStatus` on the latest put. -/
theorem checkPutTimeoutStatus_iff (h : Stored cfg last l a) (hput : l.isOutstanding = true)
    (hle : l.issued ≤ now) :
    checkPutTimeoutStatus a now = true ↔
      cfg.sasTokenAuthFailureTimeoutInSecs ≠ 0 ∧
        cfg.sasTokenAuthFailureTimeoutInSecs.toNat ≤ now.toNat - l.issued.toNat := by
  rw [checkPutTimeoutStatus, h.timeout, (h.put hput).2]
  by_cases hzero : cfg.sasTokenAuthFailureTimeoutInSecs = 0
  · simp [hzero]
  · have hpos : 0 < cfg.sasTokenAuthFailureTimeoutInSecs := UInt32.pos_iff_ne_zero.mpr hzero
    rw [if_pos hpos, decide_eq_true_iff, Clock.period_le_sub_iff hle]
    exact (and_iff_right hzero).symm

/-- `CheckExpirationAndRefreshStatus` on the latest token. -/
theorem checkExpirationAndRefreshStatus_eq (h : Stored cfg last l a) (hle : l.issued ≤ now) :
    checkExpirationAndRefreshStatus a now =
      (decide (cfg.sasTokenExpirationTimeInSec.toNat ≤ now.toNat - l.issued.toNat),
        decide (cfg.sasTokenRefreshPeriodInSecs.toNat ≤ now.toNat - l.issued.toNat)) := by
  rw [checkExpirationAndRefreshStatus, if_pos h.credential, h.expirationTime, h.refreshPeriod,
    h.created]
  simp only [Clock.period_le_sub_iff hle]

theorem update_of_checksToken (htoken : checksToken a = true) :
    updateEventHubAuthACBSStatus a (some now) = (true,
      if (checkExpirationAndRefreshStatus a now).1 then { a with cbsStatus := .expired }
      else if (checkExpirationAndRefreshStatus a now).2 then
        { a with cbsStatus := .refreshRequired }
      else a) := by
  rw [updateEventHubAuthACBSStatus, if_pos htoken]
  split_ifs <;> rfl

/-- An update takes the stored status to the one for `now`. -/
theorem update_statusAt (hperiods : Periods cfg) (h : Stored cfg last l a) (hnow : last ≤ now) :
    (updateEventHubAuthACBSStatus a (some now)).1 = true ∧
      (updateEventHubAuthACBSStatus a (some now)).2.cbsStatus = l.statusAt cfg now := by
  obtain ⟨since, hissued, hlast, hstatus⟩ := h.status
  have hsince : since.toNat ≤ now.toNat :=
    UInt64.le_iff_toNat_le.mp (UInt64.le_trans hlast hnow)
  have hle : l.issued ≤ now := UInt64.le_trans hissued (UInt64.le_trans hlast hnow)
  cases l with
  | never =>
    replace hstatus : a.cbsStatus = .idle := hstatus
    simp [updateEventHubAuthACBSStatus, checksToken, checksPut, hstatus, LatestPut.statusAt]
  | outstanding issued =>
    have hcheck := checkPutTimeoutStatus_iff h rfl hle
    have hop := (h.put rfl).1
    simp only [LatestPut.statusAt, LatestPut.issued] at hstatus hcheck ⊢
    split_ifs at hstatus with hwaits
    · -- the put may time out now
      by_cases htimeout : checkPutTimeoutStatus a now = true
      · obtain ⟨hpos, hlong⟩ := hcheck.mp htimeout
        rw [if_neg (not_or.mpr ⟨hpos, Nat.not_lt.mpr hlong⟩)]
        simp [updateEventHubAuthACBSStatus, checksToken, checksPut, hstatus, hop, htimeout]
      · have hwaiting := htimeout
        rw [hcheck, not_and_or, not_not, Nat.not_le] at hwaiting
        rw [if_pos hwaiting]
        simp [updateEventHubAuthACBSStatus, checksToken, checksPut, hstatus, hop, htimeout]
    · -- a put that has timed out stays so
      obtain ⟨hpos, hlong⟩ := not_or.mp hwaits
      rw [if_neg (not_or.mpr ⟨hpos, by omega⟩)]
      simp [updateEventHubAuthACBSStatus, checksToken, checksPut, hstatus]
  | completed issued r =>
    cases r with
    | ok =>
      have hlt := hperiods.expirationTime
      have hsource : a.cbsStatus = .ok ∨ a.cbsStatus = .refreshRequired ∧
            cfg.sasTokenRefreshPeriodInSecs.toNat ≤ now.toNat - issued.toNat ∨
          a.cbsStatus = .expired ∧
            cfg.sasTokenExpirationTimeInSec.toNat ≤ now.toNat - issued.toNat := by
        simp only [LatestPut.statusAt] at hstatus
        split_ifs at hstatus with hfresh hvalid
        · exact .inl hstatus
        · exact .inr (.inl ⟨hstatus, by omega⟩)
        · exact .inr (.inr ⟨hstatus, by omega⟩)
      have hcheck := checkExpirationAndRefreshStatus_eq h hle
      simp only [LatestPut.statusAt, LatestPut.issued] at hcheck ⊢
      rcases hsource with hok | ⟨hdue, hlong⟩ | ⟨hexpired, hlong⟩
      · rw [update_of_checksToken (by simp [checksToken, h.credential, hok]), hcheck]
        refine ⟨rfl, ?_⟩
        by_cases hold : cfg.sasTokenExpirationTimeInSec.toNat ≤ now.toNat - issued.toNat
        · have hdue : ¬ now.toNat - issued.toNat < cfg.sasTokenRefreshPeriodInSecs.toNat := by omega
          simp [hold, hdue, Nat.not_lt.mpr hold]
        · by_cases hlong : cfg.sasTokenRefreshPeriodInSecs.toNat ≤ now.toNat - issued.toNat
          · simp [hold, hlong, Nat.not_lt.mpr hlong, Nat.not_le.mp hold]
          · simp [hold, hlong, Nat.not_le.mp hlong, hok]
      · rw [update_of_checksToken (by simp [checksToken, h.credential, hdue]), hcheck]
        refine ⟨rfl, ?_⟩
        by_cases hold : cfg.sasTokenExpirationTimeInSec.toNat ≤ now.toNat - issued.toNat
        · simp [hold, Nat.not_lt.mpr hold, Nat.not_lt.mpr hlong]
        · simp [hold, hlong, Nat.not_lt.mpr hlong, Nat.not_le.mp hold]
      · have hdue : ¬ now.toNat - issued.toNat < cfg.sasTokenRefreshPeriodInSecs.toNat := by omega
        rw [if_neg hdue, if_neg (Nat.not_lt.mpr hlong)]
        simp [updateEventHubAuthACBSStatus, checksToken, checksPut, hexpired]
    | cbsError =>
      replace hstatus : a.cbsStatus = .failure := hstatus
      simp [updateEventHubAuthACBSStatus, checksToken, checksPut, hstatus, LatestPut.statusAt]
    | operationFailed =>
      replace hstatus : a.cbsStatus = .failure := hstatus
      simp [updateEventHubAuthACBSStatus, checksToken, checksPut, hstatus, LatestPut.statusAt]
    | instanceClosed =>
      replace hstatus : a.cbsStatus = .failure := hstatus
      simp [updateEventHubAuthACBSStatus, checksToken, checksPut, hstatus, LatestPut.statusAt]

/-! ### One step -/

theorem Stored.mono (h : Stored cfg last l a) (hle : last ≤ now) : Stored cfg now l a := by
  obtain ⟨since, hissued, hlast, hstatus⟩ := h.status
  exact { h with status := ⟨since, hissued, UInt64.le_trans hlast hle, hstatus⟩ }

theorem Stored.issued_le (h : Stored cfg last l a) : l.issued ≤ last := by
  obtain ⟨since, hissued, hlast, -⟩ := h.status
  exact UInt64.le_trans hissued hlast

theorem Stored.update (hperiods : Periods cfg) (h : Stored cfg last l a) (hnow : last ≤ now) :
    Stored cfg now l (updateEventHubAuthACBSStatus a (some now)).2 := by
  have hstatus := (update_statusAt hperiods h hnow).2
  rw [updateEventHubAuthACBSStatus_eq, hstatus]
  exact { h with
    status := ⟨now, UInt64.le_trans h.issued_le hnow, UInt64.le_refl _, rfl⟩ }

theorem LatestPut.statusAt_ne_inProgress (h : l.isOutstanding = false) :
    l.statusAt cfg now ≠ .inProgress := by
  cases l with
  | never => nofun
  | outstanding issued => cases h
  | completed issued r =>
    cases r with
    | ok =>
      simp only [LatestPut.statusAt]
      split_ifs <;> nofun
    | cbsError => nofun
    | operationFailed => nofun
    | instanceClosed => nofun

/-- An authentication issues a put. -/
theorem authenticate_stored (h : Stored cfg last l a) (hidle : l.isOutstanding = false)
    {env : AuthEnv} (hsucceeds : ∀ c, env.succeeds c = true) (hnow : env.putNow = some now) :
    (authenticate a env).events.foldl LatestPut.observe l = .outstanding now ∧
      Stored cfg now (.outstanding now) (authenticate a env).handle := by
  have hprogress : a.cbsStatus ≠ .inProgress := by
    obtain ⟨since, -, -, hstatus⟩ := h.status
    exact hstatus ▸ LatestPut.statusAt_ne_inProgress hidle
  obtain ⟨u, hu⟩ := Option.isSome_iff_exists.mp h.uri
  have hwaits : LatestPut.statusAt cfg now (.outstanding now) = .inProgress := by
    by_cases hzero : cfg.sasTokenAuthFailureTimeoutInSecs = 0
    · exact if_pos (.inl hzero)
    · refine if_pos (.inr ?_)
      rw [Nat.sub_self]
      exact UInt32.lt_iff_toNat_lt.mp (UInt32.pos_iff_ne_zero.mpr hzero)
  rw [authenticate_auto_eq hprogress h.credential hnow]
  simp only [hsucceeds, putToken, hu, Bool.not_true, Bool.false_eq_true, if_false, if_true]
  refine ⟨rfl, ?_⟩
  exact {
    credential := h.credential
    expirationTime := h.expirationTime
    refreshPeriod := h.refreshPeriod
    timeout := h.timeout
    uri := rfl
    created := rfl
    put := fun _ ↦ ⟨rfl, rfl⟩
    status := ⟨now, UInt64.le_refl _, UInt64.le_refl _, hwaits.symm⟩ }

/-- A completion ends the outstanding put. -/
theorem onCBSPutTokenOperationComplete_stored (hperiods : Periods cfg) (h : Stored cfg last l a)
    (hput : l.isOutstanding = true) (r : CBSOperationResult) (env : AuthEnv) :
    (onCBSPutTokenOperationComplete a r env).events.foldl LatestPut.observe l =
        .completed l.issued r ∧
      Stored cfg last (.completed l.issued r) (onCBSPutTokenOperationComplete a r env).handle := by
  have hissued := h.issued_le
  cases l with
  | never => cases hput
  | completed issued r => cases hput
  | outstanding issued =>
    have hstored : ∀ (s : EventHubAuthStatus) (stamp : UInt64),
        s = LatestPut.statusAt cfg issued (.completed issued r) →
        Stored cfg last (.completed issued r) { a with
          cbsStatus := s
          cbsAuthCompleteTimestamp := stamp
          cbOperation := .none } := fun s stamp hs ↦
      { h with
        put := nofun
        status := ⟨issued, UInt64.le_refl _, hissued, hs⟩ }
    cases r with
    | ok =>
      refine ⟨rfl, hstored _ _ ?_⟩
      refine (if_pos ?_).symm
      rw [Nat.sub_self]
      exact hperiods.refreshPeriod
    | cbsError => exact ⟨rfl, hstored _ _ rfl⟩
    | operationFailed => exact ⟨rfl, hstored _ _ rfl⟩
    | instanceClosed => exact ⟨rfl, hstored _ _ rfl⟩

/-- A refresh issues a put when the status is that one is required. -/
theorem refresh_stored (hperiods : Periods cfg) (h : Stored cfg last l a)
    (hidle : l.isOutstanding = false) (parse : String → Option (String × UInt64))
    (token : Option String) {env : AuthEnv} (hsucceeds : ∀ c, env.succeeds c = true)
    {asked : UInt64} (hasked : env.statusNow = some asked) (hnow : env.putNow = some now)
    (hle : last ≤ asked) (hle' : asked ≤ now) :
    let next := if l.statusAt cfg asked = .refreshRequired then .outstanding now else l
    (refresh parse a token env).events.foldl LatestPut.observe l = next ∧
      Stored cfg now next (refresh parse a token env).handle := by
  obtain ⟨hread, hstatus⟩ := update_statusAt hperiods h hle
  have hupdated := h.update hperiods hle
  have hrefresh : refresh parse a token env =
      if l.statusAt cfg asked = .refreshRequired then
        authenticate (updateEventHubAuthACBSStatus a (some asked)).2 env
      else ⟨.notPermited, (updateEventHubAuthACBSStatus a (some asked)).2, []⟩ := by
    simp only [refresh, h.credential, hasked, hread, hstatus]
    by_cases hrequired : l.statusAt cfg asked = .refreshRequired <;> simp [hrequired]
  dsimp only
  rw [hrefresh]
  split_ifs
  · exact authenticate_stored hupdated hidle hsucceeds hnow
  · exact ⟨rfl, hupdated.mono hle'⟩

/-! ### Runs -/

/-- The latest put after an input, from the clock and the latest put alone. A question for the
status plays no part. -/
def LatestPut.next (cfg : EventHubAuthCBSConfig) (l : LatestPut) : AuthInput → LatestPut
  | .authenticate env => .outstanding (env.putNow.getD 0)
  | .refresh _ env =>
    if l.statusAt cfg (env.statusNow.getD 0) = .refreshRequired then
      .outstanding (env.putNow.getD 0)
    else l
  | .getStatus _ => l
  | .onCBSPutTokenOperationComplete r _ =>
    if l.isOutstanding then .completed l.issued r else l

theorem LatestPut.foldl_next_filter (is : List AuthInput) :
    (is.filter fun i ↦ !i.polls).foldl (LatestPut.next cfg) l =
      is.foldl (LatestPut.next cfg) l := by
  induction is generalizing l with
  | nil => rfl
  | cons i is ih =>
    cases i with
    | authenticate env => exact ih
    | refresh token env => exact ih
    | getStatus env => exact ih
    | onCBSPutTokenOperationComplete r env => exact ih

variable {parse : String → Option (String × UInt64)}

theorem respond_stored (hperiods : Periods cfg) {s : AuthState} {i : AuthInput}
    (h : Stored cfg last (latestPut s.log) s.handle) (hi : Orderly s i)
    (hclock : Clock.Forward last i.readings) :
    latestPut (s.log ++ (respond parse s.handle i).2) = LatestPut.next cfg (latestPut s.log) i ∧
      Stored cfg (Clock.latest last i.readings) (LatestPut.next cfg (latestPut s.log) i)
        (respond parse s.handle i).1 := by
  obtain ⟨hreads, hi⟩ := hi
  rw [latestPut_append]
  generalize latestPut s.log = l at h hi
  cases i with
  | authenticate env =>
    obtain ⟨now, hnow⟩ :=
      Option.isSome_iff_exists.mp (hreads env.putNow (by simp [AuthInput.readings]))
    have hstored := authenticate_stored h hi.1 hi.2 hnow
    simpa [respond, LatestPut.next, AuthInput.readings, hnow] using hstored
  | refresh token env =>
    obtain ⟨asked, hasked⟩ :=
      Option.isSome_iff_exists.mp (hreads env.statusNow (by simp [AuthInput.readings]))
    obtain ⟨now, hnow⟩ :=
      Option.isSome_iff_exists.mp (hreads env.putNow (by simp [AuthInput.readings]))
    simp only [AuthInput.readings, hasked, hnow, Clock.forward_some] at hclock
    have hstored := refresh_stored hperiods h hi.1 parse token hi.2 hasked hnow hclock.1 hclock.2.1
    simpa [respond, LatestPut.next, AuthInput.readings, hasked, hnow] using hstored
  | getStatus env =>
    obtain ⟨now, hnow⟩ :=
      Option.isSome_iff_exists.mp (hreads env.statusNow (by simp [AuthInput.readings]))
    simp only [AuthInput.readings, hnow, Clock.forward_some] at hclock
    refine ⟨rfl, ?_⟩
    simpa [respond, getStatus, LatestPut.next, AuthInput.readings, hnow] using
      h.update hperiods hclock.1
  | onCBSPutTokenOperationComplete r env =>
    obtain ⟨now, hnow⟩ :=
      Option.isSome_iff_exists.mp (hreads env.completeNow (by simp [AuthInput.readings]))
    simp only [AuthInput.readings, hnow, Clock.forward_some] at hclock
    obtain ⟨hlog, hstored⟩ := onCBSPutTokenOperationComplete_stored hperiods h hi r env
    simp only [respond, LatestPut.next, AuthInput.readings, hnow, if_pos hi]
    exact ⟨hlog, hstored.mono hclock.1⟩

/-- In an orderly run against a forward clock the latest put is a matter of the calls and
completions, and what is stored is a status at some second since. -/
theorem run_stored (hperiods : Periods cfg) {h : EventHubAuthCBSStruct}
    (hcreated : Stored cfg 0 .never h) {is : List AuthInput} {t : AuthState}
    (hclock : Clock.Forward 0 (is.flatMap AuthInput.readings))
    (hmeets : (authMachine parse).Meets Orderly ⟨h, []⟩ is)
    (hrun : (authMachine parse).run ⟨h, []⟩ is = some t) :
    latestPut t.log = is.foldl (LatestPut.next cfg) .never ∧
      Stored cfg (Clock.latest 0 (is.flatMap AuthInput.readings)) (latestPut t.log) t.handle := by
  refine Clock.run_invariant (P := fun is (s : AuthState) ↦
      latestPut s.log = is.foldl (LatestPut.next cfg) .never ∧
      Stored cfg (Clock.latest 0 (is.flatMap AuthInput.readings)) (latestPut s.log) s.handle)
    (s := ⟨h, []⟩) ?_ ⟨rfl, hcreated⟩ hclock hmeets hrun
  rintro js s i u ⟨hlog, hstored⟩ hi hforward hstep
  obtain rfl := step_eq hstep
  obtain ⟨hnext, hstored'⟩ := respond_stored hperiods hstored hi hforward
  rw [hnext, List.flatMap_append, Clock.latest_append, List.foldl_append, ← hlog]
  refine ⟨rfl, ?_⟩
  simpa using hstored'

/-! ### Creation -/

/-- `EventHubAuthCBS_Create` accepts only these periods. -/
theorem create_periods {session : Option Handle} {env : AuthEnv}
    (hcreate : create cfg session env = .ok a) (hcred : cfg.credential = .sasTokenAuto) :
    Periods cfg := by
  have hspec := create_spec hcreate
  obtain ⟨-, hlt⟩ := hspec.auto (hspec.credential.trans hcred)
  refine ⟨?_, UInt32.lt_iff_toNat_lt.mp hlt⟩
  unfold create at hcreate
  split_ifs at hcreate with hvalid
  simp only [validArguments, hcred] at hvalid
  have hpos : cfg.sasTokenRefreshPeriodInSecs ≠ 0 := by
    intro hzero
    simp [hzero] at hvalid
  exact UInt32.lt_iff_toNat_lt.mp (UInt32.pos_iff_ne_zero.mpr hpos)

/-- The `uri` is not taken away again. -/
def KeepsURI (a b : EventHubAuthCBSStruct) : Prop := a.uri.isSome → b.uri.isSome

theorem concatURI_keepsURI (a : EventHubAuthCBSStruct) (part : String) :
    KeepsURI a (a.concatURI part) := by
  intro h
  simpa [concatURI] using h

theorem concat_keepsURI (b : Bool) (part : String) :
    Frame KeepsURI (do check b; update fun a ↦ a.concatURI part) :=
  Frame.bind (fun h h' ha ↦ h' (h ha)) (Frame.check fun _ h ↦ h) fun _ ↦
    Frame.update fun a ↦ concatURI_keepsURI a part

theorem concat_bind_keepsURI {b : Bool} {part : String} {m : Attempt EventHubAuthCBSStruct Unit}
    (hm : Frame KeepsURI m) : Frame KeepsURI (do check b; update fun a ↦ a.concatURI part; m) :=
  Frame.bind (fun h h' ha ↦ h' (h ha)) (Frame.check fun _ h ↦ h) fun _ ↦
    Frame.bind (fun h h' ha ↦ h' (h ha)) (Frame.update fun a ↦ concatURI_keepsURI a part)
      fun _ ↦ hm

theorem createURI_uri (cfg : EventHubAuthCBSConfig) (env : AuthEnv) :
    Spec (fun _ ↦ True) (createURI cfg env) (fun _ a ↦ a.uri.isSome) (fun _ ↦ True) := by
  refine Spec.bind (Spec.keep fun _ h ↦ h) fun _ ↦ ?_
  refine Spec.bind (Q := fun _ a ↦ a.uri.isSome) (Spec.update fun _ _ ↦ rfl) fun _ ↦ ?_
  refine Spec.mono (Frame.spec (P := fun a ↦ a.uri.isSome) (R := KeepsURI) ?_ fun _ _ h hR ↦ hR h)
    (fun _ h ↦ h) (fun _ _ h ↦ h) fun _ _ ↦ True.intro
  refine concat_bind_keepsURI (concat_bind_keepsURI (concat_bind_keepsURI ?_))
  split_ifs
  · exact concat_bind_keepsURI (concat_bind_keepsURI (concat_bind_keepsURI (concat_keepsURI _ _)))
  · cases cfg.senderPublisherId with
    | none => exact fun _ h ↦ h
    | some publisher => exact concat_bind_keepsURI (concat_keepsURI _ _)

theorem create_uri {session : Option Handle} {env : AuthEnv}
    (hcreate : create cfg session env = .ok a) (hcred : cfg.credential = .sasTokenAuto) :
    a.uri.isSome := by
  have hstrings : Spec (fun _ ↦ True) (createStrings cfg env) (fun _ a ↦ a.uri.isSome)
      (fun _ ↦ True) := by
    rw [createStrings, if_neg (by simp [hcred])]
    refine Spec.bind (createURI_uri cfg env) fun _ ↦ ?_
    refine Spec.bind (Spec.keep fun _ _ ↦ True.intro) fun _ ↦ ?_
    refine Spec.bind (Q := fun _ a ↦ a.uri.isSome) (Spec.update fun _ h ↦ h) fun _ ↦ ?_
    refine Spec.bind (Spec.keep fun _ _ ↦ True.intro) fun _ ↦ ?_
    refine Spec.bind (Q := fun _ a ↦ a.uri.isSome) (Spec.update fun _ h ↦ h) fun _ ↦ ?_
    refine Spec.bind (Spec.keep fun _ _ ↦ True.intro) fun _ ↦ ?_
    refine Spec.bind (Spec.keep fun _ _ ↦ True.intro) fun _ ↦ ?_
    refine Spec.bind (Spec.keep fun _ _ ↦ True.intro) fun _ ↦ ?_
    exact Spec.update fun _ h ↦ h
  have hfields : Spec (fun _ ↦ True) (createFields cfg env) (fun _ a ↦ a.uri.isSome)
      (fun _ ↦ True) := by
    refine Spec.bind hstrings fun _ ↦ ?_
    refine Spec.bind (Spec.keep fun _ _ ↦ True.intro) fun _ ↦ ?_
    refine Spec.bind (Q := fun _ a ↦ a.uri.isSome) (Spec.update fun _ h ↦ h) fun _ ↦ ?_
    refine Spec.bind (Spec.keep fun _ _ ↦ True.intro) fun _ ↦ ?_
    exact Spec.update fun _ h ↦ h
  unfold create at hcreate
  split_ifs at hcreate
  rcases hcreated : createFields cfg env {} with ⟨_ | _, b⟩
  · simp [hcreated] at hcreate
  · simp only [hcreated, Except.ok.injEq] at hcreate
    exact hcreate ▸ hfields.of_eq_some True.intro hcreated

theorem create_stored {session : Option Handle} {env : AuthEnv}
    (hcreate : create cfg session env = .ok a) (hcred : cfg.credential = .sasTokenAuto) :
    Stored cfg 0 .never a := by
  have hspec := create_spec hcreate
  have hstamp : a.sasTokenCreateTimestamp = 0 := by
    unfold create at hcreate
    split_ifs at hcreate
    rcases hcreated : createFields cfg env {} with ⟨_ | _, b⟩
    · simp [hcreated] at hcreate
    · simp only [hcreated, Except.ok.injEq] at hcreate
      obtain ⟨c, rfl, -⟩ := (createFields_spec cfg env).of_eq_some True.intro hcreated
      exact hcreate ▸ rfl
  exact {
    credential := hspec.credential.trans hcred
    expirationTime := hspec.expirationTime
    refreshPeriod := hspec.refreshPeriod
    timeout := hspec.timeout
    uri := create_uri hcreate hcred
    created := hstamp
    put := nofun
    status := ⟨0, UInt64.le_refl _, UInt64.le_refl _, hspec.status⟩ }

/-- In an orderly run of a handle with a shared access key against a clock that does not go back,
`EventHubAuthCBS_GetStatus` reports the status that the periods of the configuration give for the
latest put at this second, and the same as in any such run with the same calls and completions,
whenever these ask for the status. -/
theorem getStatus_determined {session : Option Handle} {env : AuthEnv} {h : EventHubAuthCBSStruct}
    (hcreate : create cfg session env = .ok h) (hcred : cfg.credential = .sasTokenAuto)
    {is : List AuthInput} {t : AuthState} (hrun : (authMachine parse).run ⟨h, []⟩ is = some t)
    (hmeets : (authMachine parse).Meets Orderly ⟨h, []⟩ is) {call : AuthEnv}
    (hcall : call.statusNow = some now)
    (hclock : Clock.Forward 0 (is.flatMap AuthInput.readings ++ [some now])) :
    (getStatus t.handle call).value = (.ok, (latestPut t.log).statusAt cfg now) ∧
    (latestPut t.log).issued ≤ now ∧
    ∀ js u, js.filter (fun i ↦ !i.polls) = is.filter (fun i ↦ !i.polls) →
      (authMachine parse).run ⟨h, []⟩ js = some u →
      (authMachine parse).Meets Orderly ⟨h, []⟩ js →
      Clock.Forward 0 (js.flatMap AuthInput.readings ++ [some now]) →
      (getStatus u.handle call).value = (getStatus t.handle call).value := by
  have hperiods := create_periods hcreate hcred
  have hcreated := create_stored hcreate hcred
  have hreports : ∀ js u, (authMachine parse).run ⟨h, []⟩ js = some u →
      (authMachine parse).Meets Orderly ⟨h, []⟩ js →
      Clock.Forward 0 (js.flatMap AuthInput.readings ++ [some now]) →
      (getStatus u.handle call).value = (.ok, (latestPut u.log).statusAt cfg now) ∧
        (latestPut u.log).issued ≤ now ∧
        latestPut u.log = js.foldl (LatestPut.next cfg) .never := by
    intro js u hjs hmeetsjs hclockjs
    obtain ⟨hforward, hlast, -⟩ := Clock.forward_append.mp hclockjs
    obtain ⟨hlog, hstored⟩ := run_stored hperiods hcreated hforward hmeetsjs hjs
    obtain ⟨hread, hstatus⟩ := update_statusAt hperiods hstored hlast
    refine ⟨?_, UInt64.le_trans hstored.issued_le hlast, hlog⟩
    simp only [getStatus, hcall, hread, if_true, hstatus]
  obtain ⟨hvalue, hissued, hlog⟩ := hreports is t hrun hmeets hclock
  refine ⟨hvalue, hissued, fun js u hsame hjs hmeetsjs hclockjs ↦ ?_⟩
  obtain ⟨hvalue', -, hlog'⟩ := hreports js u hjs hmeetsjs hclockjs
  have hput : latestPut u.log = latestPut t.log := by
    rw [hlog, hlog', ← LatestPut.foldl_next_filter js, hsame, LatestPut.foldl_next_filter]
  rw [hvalue, hvalue', hput]

/-- The put of second 1000 completes after a question for its status; 2880 seconds after it was
issued a refresh is required. -/
theorem getStatus_determined_due :
    ∃ h t, create autoConfig (some 0) {} = .ok h ∧
      (authMachine fun _ ↦ none).run ⟨h, []⟩ [.authenticate { putNow := some 1000 },
        .getStatus { statusNow := some 1010 },
        .onCBSPutTokenOperationComplete .ok { completeNow := some 1020 }] = some t ∧
      latestPut t.log = .completed 1000 .ok ∧
      (getStatus t.handle { statusNow := some 3880 }).value = (.ok, .refreshRequired) := by
  have hcreate : create autoConfig (some 0) {} = .ok _ := rfl
  refine ⟨_, ⟨_, _⟩, hcreate, rfl, rfl, ?_⟩
  have hreports := @getStatus_determined autoConfig 3880 (fun _ ↦ none) _ _ _ hcreate rfl
    [.authenticate { putNow := some 1000 }, .getStatus { statusNow := some 1010 },
      .onCBSPutTokenOperationComplete .ok { completeNow := some 1020 }] ⟨_, _⟩ rfl ?_
    { statusNow := some 3880 } rfl ?_
  · exact hreports.1
  · refine ⟨⟨by simp [AuthInput.readings], rfl, fun _ ↦ rfl⟩, fun _ hs ↦ Option.some.inj hs ▸
      ⟨⟨by simp [AuthInput.readings], trivial⟩, fun _ ht ↦ Option.some.inj ht ▸
        ⟨⟨by simp [AuthInput.readings], rfl⟩, fun _ _ ↦ trivial⟩⟩⟩
  · simp [AuthInput.readings]

end EventHubAuthCBS

end EventHubs
