import EventHubs.Auth.Expiry
import EventHubs.Library.Clock

/-!
# A clock that is set back

`CheckPutTimeoutStatus` and `CheckExpirationAndRefreshStatus` subtract a stored second from the
present one without a sign. When the wall clock was set back in between, the difference wraps, and a
put that has just been issued or a token that has just been made passes for an old one. What a
reading seems to show stays: `EventHubAuthCBS_Refresh` computes the status too, and a put that once
seemed to have timed out, or a token that once seemed old, is reported as such at any later reading.

## Main definitions

* `EventHubAuthCBS.Ready` — what holds of a handle with a shared access key all along.
* `EventHubAuthCBS.Justified` — what a status says of the two readings.
* `EventHubAuthCBS.looks` — the readings with which a status was computed.
* `EventHubAuthCBS.BearsOutTimeout`, `EventHubAuthCBS.BearsOutAge` — the last reading bears out what
  the readings so far seem to show.

## Main results

* `EventHubAuthCBS.respond_asked` — the status and the seconds that a put and its completion store.
* `EventHubAuthCBS.Ready.respond_status` — the status that an input computes.
* `EventHubAuthCBS.getStatus_justified_iff`.
* `EventHubAuthCBS.getStatus_expires_fresh` — a token that expires one second before it was made.
-/

namespace EventHubs.EventHubAuthCBS

open EventHubAuthCBSStruct

/-- A handle with a shared access key whose token is refreshed before it expires, and which knows
that it waits for a put. -/
structure Ready (a : EventHubAuthCBSStruct) : Prop where
  credential : a.credential = .sasTokenAuto
  periods : a.sasTokenRefreshPeriodInSecs < a.sasTokenExpirationTimeInSec
  armed : a.cbsStatus = .inProgress → a.cbOperation = .put

variable {parse : String → Option (String × UInt64)} {a b : EventHubAuthCBSStruct} {now : UInt64}

theorem Ready.of_same (h : Ready a) (hsame : SameConfig a b)
    (harmed : b.cbsStatus = .inProgress → b.cbOperation = .put) : Ready b :=
  ⟨hsame.credential.trans h.credential,
    by rw [hsame.refreshPeriod, hsame.expirationTime]; exact h.periods, harmed⟩

theorem Ready.update (h : Ready a) (reading : Option UInt64) :
    Ready (updateEventHubAuthACBSStatus a reading).2 := by
  refine h.of_same (updateEventHubAuthACBSStatus_sameConfig a reading) fun hprogress => ?_
  rw [updateEventHubAuthACBSStatus_eq]
  refine h.armed ?_
  rcases updateEventHubAuthACBSStatus_status a reading with hsame | ⟨-, hnew⟩ | ⟨-, -, hnew⟩
  · rw [← hsame, hprogress]
  · simp [hnew] at hprogress
  · rcases hnew with hnew | hnew <;> simp [hnew] at hprogress

theorem Ready.authenticate (h : Ready a) (env : AuthEnv) :
    Ready (EventHubAuthCBS.authenticate a env).handle := by
  refine h.of_same (authenticate_keeps a env).1 ?_
  have hspec := authenticate_spec a env
  generalize EventHubAuthCBS.authenticate a env = x at hspec
  cases hspec with
  | refused _ hstatus hop => exact fun hprogress => hop ▸ h.armed (hstatus.symm.trans hprogress)
  | putMade _ _ _ _ _ _ hop => exact fun _ => hop

theorem respond_ready (h : Ready a) (i : AuthInput) : Ready (respond parse a i).1 := by
  cases i with
  | authenticate env => exact h.authenticate env
  | getStatus env => exact h.update env.statusNow
  | onCBSPutTokenOperationComplete r env =>
    refine h.of_same (by cases r <;> exact ⟨rfl, rfl, rfl, rfl, rfl⟩) fun hprogress => ?_
    cases r <;> cases hprogress
  | refresh token env =>
    have hspec := refresh_spec parse a token env
    simp only [respond]
    generalize refresh parse a token env = x at hspec
    cases hspec with
    | refused _ hconfig _ hother hstatus =>
      refine h.of_same hconfig fun hprogress => ?_
      rw [hother.2]
      rcases hstatus with hsame | ⟨-, hnew⟩
      · exact h.armed (hsame.symm.trans hprogress)
      · have harmed := (h.update env.statusNow).armed (hnew.symm.trans hprogress)
        rwa [updateEventHubAuthACBSStatus_eq] at harmed
    | external hext => simp [h.credential] at hext
    | automatic _ _ heq =>
      rw [heq]
      exact (h.update env.statusNow).authenticate env

/-- The handle in every run. -/
theorem run_ready {cfg : EventHubAuthCBSConfig} {session : Option Handle} {env : AuthEnv}
    (hcreate : create cfg session env = .ok a) (hcred : cfg.credential = .sasTokenAuto)
    {is : List AuthInput} {t : AuthState}
    (hrun : (authMachine parse).run ⟨a, []⟩ is = some t) : Ready t.handle := by
  have hspec := create_spec hcreate
  have hauto := hspec.credential.trans hcred
  have hready : Ready a := by
    refine ⟨hauto, ?_, fun hprogress => ?_⟩
    · rw [hspec.refreshPeriod, hspec.expirationTime]
      exact (hspec.auto hauto).2
    · simp [hspec.status] at hprogress
  exact Machine.run_invariant (P := fun s => Ready s.handle)
    (fun _ i _ hs hstep => step_eq hstep ▸ respond_ready hs i) hready hrun

/-! ### What a put and its completion store -/

/-- An accepted put leaves the handle waiting, with its second in both time stamps. -/
theorem authenticate_asked (h : Ready a) (env : AuthEnv) {p : PutToken}
    (hp : AuthEvent.put p ∈ (authenticate a env).events) (haccepted : p.accepted = true) :
    (authenticate a env).handle.cbsStatus = .inProgress ∧
      (authenticate a env).handle.sasTokenPutTime = p.now ∧
      (authenticate a env).handle.sasTokenCreateTimestamp = p.now := by
  have hspec := authenticate_spec a env
  generalize authenticate a env = x at hspec hp ⊢
  cases hspec with
  | refused => cases hp
  | putMade _ _ _ hauto _ hstatus _ htime =>
    obtain rfl := AuthEvent.put.inj (List.mem_singleton.mp hp)
    exact ⟨by rw [hstatus, if_pos haccepted], htime, (hauto h.credential).1⟩

theorem authenticate_completes_nothing (a : EventHubAuthCBSStruct) (env : AuthEnv)
    (r : CBSOperationResult) : AuthEvent.putComplete r ∉ (authenticate a env).events := by
  have hspec := authenticate_spec a env
  generalize authenticate a env = x at hspec
  cases hspec <;> simp

/-- After an accepted put the stored status is that it is in progress, with the reading of the
authentication in both time stamps; after a completion the stored status is `OK`. -/
theorem respond_asked (h : Ready a) (i : AuthInput) :
    (∀ p, AuthEvent.put p ∈ (respond parse a i).2 → p.accepted = true →
      (respond parse a i).1.cbsStatus = .inProgress ∧
        (respond parse a i).1.sasTokenPutTime = p.now ∧
        (respond parse a i).1.sasTokenCreateTimestamp = p.now) ∧
    (AuthEvent.putComplete .ok ∈ (respond parse a i).2 →
      (respond parse a i).1.cbsStatus = .ok) := by
  cases i with
  | authenticate env =>
    refine ⟨fun p hp => authenticate_asked h env hp, fun hcomplete => ?_⟩
    exact absurd hcomplete (authenticate_completes_nothing a env _)
  | getStatus env => exact ⟨by simp [respond, getStatus], by simp [respond, getStatus]⟩
  | onCBSPutTokenOperationComplete r env =>
    cases r <;> simp [respond, onCBSPutTokenOperationComplete]
  | refresh token env =>
    rcases refresh_eq parse a token env with ⟨b, hcall, heq⟩ | ⟨-, hnone⟩
    · simp only [respond, heq]
      have hb : Ready b := by
        simp only [authenticateCall, h.credential] at hcall
        obtain ⟨-, hb⟩ := Option.ite_none_right_eq_some.mp hcall
        obtain ⟨rfl, -⟩ := Prod.mk.inj (Option.some.inj hb)
        exact h.update env.statusNow
      exact ⟨fun p hp => authenticate_asked hb env hp,
        fun hcomplete => absurd hcomplete (authenticate_completes_nothing b env _)⟩
    · simp [respond, hnone]

/-! ### The readings -/

/-- Whether a status may be reported at the second `now`: a timeout only if there is one and it has
passed since the put, the other two only if the refresh period or the expiration time has passed
since the token was made. -/
structure Justified (a : EventHubAuthCBSStruct) (now : UInt64) (status : EventHubAuthStatus) :
    Prop where
  timeout : status = .timeout → 0 < a.sasTokenAuthFailureTimeoutInSecs ∧
    Clock.Elapsed a.sasTokenAuthFailureTimeoutInSecs a.sasTokenPutTime now
  refreshRequired : status = .refreshRequired →
    Clock.Elapsed a.sasTokenRefreshPeriodInSecs a.sasTokenCreateTimestamp now
  expired : status = .expired →
    Clock.Elapsed a.sasTokenExpirationTimeInSec a.sasTokenCreateTimestamp now

/-- A handle and the second at which its status is computed. -/
structure Look where
  handle : EventHubAuthCBSStruct
  now : UInt64

namespace Look

/-- The unsigned difference reaches the put timeout. -/
def SeemsTimedOut (look : Look) : Prop :=
  0 < look.handle.sasTokenAuthFailureTimeoutInSecs ∧
    Clock.Seems look.handle.sasTokenAuthFailureTimeoutInSecs look.handle.sasTokenPutTime look.now

/-- The unsigned difference reaches the refresh period. -/
def SeemsDue (look : Look) : Prop :=
  Clock.Seems look.handle.sasTokenRefreshPeriodInSecs look.handle.sasTokenCreateTimestamp look.now

/-- The unsigned difference reaches the expiration time. -/
def SeemsExpired (look : Look) : Prop :=
  Clock.Seems look.handle.sasTokenExpirationTimeInSec look.handle.sasTokenCreateTimestamp look.now

end Look

/-- The reading with which an input has the status computed. -/
def statusReading : AuthInput → Option UInt64
  | .authenticate _ => none
  | .refresh _ env => env.statusNow
  | .getStatus env => env.statusNow
  | .onCBSPutTokenOperationComplete _ _ => none

variable (parse) in
/-- The handles and the seconds at which a run has the status computed. -/
def looks : EventHubAuthCBSStruct → List AuthInput → List Look
  | _, [] => []
  | a, i :: is => ((statusReading i).map (Look.mk a)).toList ++ looks (respond parse a i).1 is

/-- Where the put seemed to have timed out at the last look or before, it has at the last look. -/
def BearsOutTimeout (before : List Look) (last : Look) : Prop :=
  ∀ look ∈ before ++ [last], look.SeemsTimedOut →
    0 < last.handle.sasTokenAuthFailureTimeoutInSecs ∧
      Clock.Elapsed last.handle.sasTokenAuthFailureTimeoutInSecs last.handle.sasTokenPutTime
        last.now

/-- Where the token seemed to be due or expired at the last look or before, it is at the last
look. -/
def BearsOutAge (before : List Look) (last : Look) : Prop :=
  ∀ look ∈ before ++ [last],
    (look.SeemsDue → Clock.Elapsed last.handle.sasTokenRefreshPeriodInSecs
      last.handle.sasTokenCreateTimestamp last.now) ∧
    (look.SeemsExpired → Clock.Elapsed last.handle.sasTokenExpirationTimeInSec
      last.handle.sasTokenCreateTimestamp last.now)

/-! ### The status in a run -/

variable (parse) in
/-- What is shown is no completion and no put that was accepted. -/
def KeepsLatest (s : AuthState) (i : AuthInput) : Prop :=
  ∀ e ∈ (respond parse s.handle i).2,
    (∀ p, e = .put p → p.accepted = false) ∧ ∀ r, e ≠ .putComplete r

/-- An authentication whose put is not accepted keeps the status. -/
theorem authenticate_refused_status (a : EventHubAuthCBSStruct) (env : AuthEnv)
    (hrefused : ∀ p, AuthEvent.put p ∈ (authenticate a env).events → p.accepted = false) :
    (authenticate a env).handle.cbsStatus = a.cbsStatus := by
  have hspec := authenticate_spec a env
  generalize authenticate a env = x at hspec hrefused ⊢
  cases hspec with
  | refused _ hstatus => exact hstatus
  | @putMade p _ _ _ _ _ _ hstatus =>
    rw [hstatus, if_neg (by simp [hrefused p (List.mem_singleton.mpr rfl)])]

/-- The status after an input that shows no completion and no accepted put is the one that it has
computed. -/
theorem Ready.respond_status (h : Ready a) {i : AuthInput} {s : AuthState} (hs : s.handle = a)
    (hkeeps : KeepsLatest parse s i) :
    (respond parse a i).1.cbsStatus =
      (updateEventHubAuthACBSStatus a (statusReading i)).2.cbsStatus := by
  subst hs
  have hrefused : ∀ p, AuthEvent.put p ∈ (respond parse s.handle i).2 → p.accepted = false :=
    fun p hp => (hkeeps _ hp).1 p rfl
  cases i with
  | authenticate env =>
    rw [statusReading, updateEventHubAuthACBSStatus_none]
    exact authenticate_refused_status _ env hrefused
  | getStatus env => rfl
  | onCBSPutTokenOperationComplete r env =>
    have hcomplete : AuthEvent.putComplete r ∈
        (respond parse s.handle (.onCBSPutTokenOperationComplete r env)).2 := by
      cases r <;> exact List.mem_singleton.mpr rfl
    exact absurd rfl ((hkeeps _ hcomplete).2 r)
  | refresh token env =>
    simp only [respond, statusReading] at hrefused ⊢
    unfold refresh at hrefused ⊢
    simp only [h.credential] at hrefused ⊢
    split_ifs at hrefused ⊢
    · rfl
    · rfl
    · exact authenticate_refused_status _ env hrefused

/-- What the computation of the status keeps, from one look to the next, holds of the status in the
end and of all looks. -/
theorem run_looks {P : EventHubAuthStatus → List Look → Prop}
    (hstep : ∀ a before now, Ready a → P a.cbsStatus before →
      P (updateEventHubAuthACBSStatus a (some now)).2.cbsStatus (before ++ [⟨a, now⟩]))
    {u t : AuthState} {js : List AuthInput} (hready : Ready u.handle)
    (hmeets : (authMachine parse).Meets (KeepsLatest parse) u js)
    (hrun : (authMachine parse).run u js = some t) {before : List Look}
    (hu : P u.handle.cbsStatus before) :
    Ready t.handle ∧ P t.handle.cbsStatus (before ++ looks parse u.handle js) := by
  induction js generalizing u before with
  | nil =>
    obtain rfl := Option.some.inj hrun
    exact ⟨hready, by simpa [looks] using hu⟩
  | cons i js ih =>
    rw [Machine.run_cons] at hrun
    obtain ⟨v, hv, hvt⟩ := Option.bind_eq_some_iff.mp hrun
    have hmeetsv := hmeets.2 v hv
    obtain rfl := step_eq hv
    have hstatus := hready.respond_status rfl hmeets.1
    rw [looks, ← List.append_assoc]
    refine ih (respond_ready hready i) hmeetsv hvt ?_
    dsimp only
    rw [hstatus]
    cases statusReading i with
    | none =>
      rw [updateEventHubAuthACBSStatus_none]
      simpa using hu
    | some now => exact hstep u.handle before now hready hu

/-- The status of an outstanding put: it has timed out when it seemed so at some look. -/
def PutStatus (status : EventHubAuthStatus) (before : List Look) : Prop :=
  (status = .inProgress ∧ ∀ look ∈ before, ¬ look.SeemsTimedOut) ∨
    status = .timeout ∧ ∃ look ∈ before, look.SeemsTimedOut

theorem Ready.putStatus (h : Ready a) {before : List Look} (hput : PutStatus a.cbsStatus before)
    (now : UInt64) :
    PutStatus (updateEventHubAuthACBSStatus a (some now)).2.cbsStatus
      (before ++ [⟨a, now⟩]) := by
  have htoken : checksToken a = false := by
    rcases hput with ⟨hstatus, -⟩ | ⟨hstatus, -⟩ <;> simp [checksToken, hstatus]
  simp only [updateEventHubAuthACBSStatus, htoken, Bool.false_eq_true, if_false]
  rcases hput with ⟨hstatus, hnone⟩ | ⟨hstatus, look, hlook, hseems⟩
  · have hchecks : checksPut a = true := by simp [checksPut, hstatus, h.armed hstatus]
    have hlong : checkPutTimeoutStatus a now = true ↔ Look.SeemsTimedOut ⟨a, now⟩ := by
      rw [checkPutTimeoutStatus, Look.SeemsTimedOut, ← Clock.period_le_sub_iff_seems]
      split_ifs with hpos <;> simp [hpos]
    rw [if_pos hchecks]
    split_ifs with htimeout
    · exact .inr ⟨rfl, ⟨a, now⟩, by simp, hlong.mp htimeout⟩
    · refine .inl ⟨hstatus, fun look hlook => ?_⟩
      rcases List.mem_append.mp hlook with hlook | hlook
      · exact hnone look hlook
      · obtain rfl := List.mem_singleton.mp hlook
        exact fun hseems => htimeout (hlong.mpr hseems)
  · have hchecks : checksPut a = false := by simp [checksPut, hstatus]
    rw [if_neg (by simp [hchecks])]
    exact .inr ⟨hstatus, look, List.mem_append_left _ hlook, hseems⟩

/-- The status of a completed put: its token has expired or is due when it seemed so at some
look. -/
def TokenStatus (status : EventHubAuthStatus) (before : List Look) : Prop :=
  (status = .ok ∧ ∀ look ∈ before, ¬ look.SeemsDue ∧ ¬ look.SeemsExpired) ∨
    (status = .refreshRequired ∧ (∃ look ∈ before, look.SeemsDue) ∧
      ∀ look ∈ before, ¬ look.SeemsExpired) ∨
    status = .expired ∧ ∃ look ∈ before, look.SeemsExpired

theorem Ready.tokenStatus (h : Ready a) {before : List Look}
    (htoken : TokenStatus a.cbsStatus before) (now : UInt64) :
    TokenStatus (updateEventHubAuthACBSStatus a (some now)).2.cbsStatus
      (before ++ [⟨a, now⟩]) := by
  have hold : (checkExpirationAndRefreshStatus a now).1 = true ↔ Look.SeemsExpired ⟨a, now⟩ := by
    rw [checkExpirationAndRefreshStatus, if_pos h.credential, decide_eq_true_iff]
    exact Clock.period_le_sub_iff_seems
  have hdue : (checkExpirationAndRefreshStatus a now).2 = true ↔ Look.SeemsDue ⟨a, now⟩ := by
    rw [checkExpirationAndRefreshStatus, if_pos h.credential, decide_eq_true_iff]
    exact Clock.period_le_sub_iff_seems
  have hlast : (⟨a, now⟩ : Look) ∈ before ++ [⟨a, now⟩] := by simp
  have hall : ∀ {p : Look → Prop}, (∀ look ∈ before, p look) → p ⟨a, now⟩ →
      ∀ look ∈ before ++ [⟨a, now⟩], p look := by
    intro p hbefore hnow look hlook
    rcases List.mem_append.mp hlook with hlook | hlook
    · exact hbefore look hlook
    · exact List.mem_singleton.mp hlook ▸ hnow
  rcases htoken with ⟨hstatus, hnone⟩ | ⟨hstatus, ⟨look, hlook, hseems⟩, hnone⟩ |
    ⟨hstatus, look, hlook, hseems⟩
  · have hchecks : checksToken a = true := by simp [checksToken, h.credential, hstatus]
    simp only [updateEventHubAuthACBSStatus, hchecks, if_true]
    split_ifs with hexpired hrequired
    · exact .inr (.inr ⟨rfl, _, hlast, hold.mp hexpired⟩)
    · exact .inr (.inl ⟨rfl, ⟨_, hlast, hdue.mp hrequired⟩,
        hall (fun look hlook => (hnone look hlook).2) fun hseems => hexpired (hold.mpr hseems)⟩)
    · exact .inl ⟨hstatus, hall hnone
        ⟨fun hseems => hrequired (hdue.mpr hseems), fun hseems => hexpired (hold.mpr hseems)⟩⟩
  · have hchecks : checksToken a = true := by simp [checksToken, h.credential, hstatus]
    have hearlier : ∃ look ∈ before ++ [⟨a, now⟩], look.SeemsDue :=
      ⟨look, List.mem_append_left _ hlook, hseems⟩
    simp only [updateEventHubAuthACBSStatus, hchecks, if_true]
    split_ifs with hexpired hrequired
    · exact .inr (.inr ⟨rfl, _, hlast, hold.mp hexpired⟩)
    · exact .inr (.inl ⟨rfl, hearlier, hall hnone fun hseems => hexpired (hold.mpr hseems)⟩)
    · exact .inr (.inl ⟨hstatus, hearlier, hall hnone fun hseems => hexpired (hold.mpr hseems)⟩)
  · have hchecks : checksToken a = false := by simp [checksToken, hstatus]
    have hput : checksPut a = false := by simp [checksPut, hstatus]
    simp only [updateEventHubAuthACBSStatus, hchecks, hput, Bool.false_eq_true, if_false]
    exact .inr (.inr ⟨hstatus, look, List.mem_append_left _ hlook, hseems⟩)

variable {status : EventHubAuthStatus} {before : List Look}

/-- The status of an outstanding put is justified when the last look bears out a timeout. -/
theorem PutStatus.justified_iff (h : PutStatus status (before ++ [⟨a, now⟩])) :
    Justified a now status ↔ BearsOutTimeout before ⟨a, now⟩ := by
  rcases h with ⟨rfl, hnone⟩ | ⟨rfl, look, hlook, hseems⟩
  · exact iff_of_true ⟨nofun, nofun, nofun⟩ fun look hlook hseems =>
      absurd hseems (hnone look hlook)
  · constructor
    · exact fun hjustified _ _ _ => hjustified.timeout rfl
    · exact fun hbears => ⟨fun _ => hbears look hlook hseems, nofun, nofun⟩

/-- The status of a completed put is justified when the last look bears out the age of the token. -/
theorem TokenStatus.justified_iff (hready : Ready a)
    (h : TokenStatus status (before ++ [⟨a, now⟩])) :
    Justified a now status ↔ BearsOutAge before ⟨a, now⟩ := by
  rcases h with ⟨rfl, hnone⟩ | ⟨rfl, ⟨look, hlook, hseems⟩, hnone⟩ | ⟨rfl, look, hlook, hseems⟩
  · exact iff_of_true ⟨nofun, nofun, nofun⟩ fun look hlook =>
      ⟨fun hseems => absurd hseems (hnone look hlook).1,
        fun hseems => absurd hseems (hnone look hlook).2⟩
  · constructor
    · exact fun hjustified other hother =>
        ⟨fun _ => hjustified.refreshRequired rfl, fun hold => absurd hold (hnone other hother)⟩
    · exact fun hbears => ⟨nofun, fun _ => (hbears look hlook).1 hseems, nofun⟩
  · constructor
    · -- an expired token is due as well
      intro hjustified other hother
      have hexpired := hjustified.expired rfl
      exact ⟨fun _ => hexpired.anti (UInt32.le_iff_toNat_le.mp (UInt32.le_of_lt hready.periods)),
        fun _ => hexpired⟩
    · exact fun hbears => ⟨nofun, nofun, fun _ => (hbears look hlook).2 hseems⟩

/-- In every run of a handle with a shared access key, whatever the readings: a status asked for
while a put is outstanding, or after it has completed, is justified by the exact differences of the
readings exactly when its own reading bears out what it and the readings since seem to show. The put
has stored its second in both time stamps. -/
theorem getStatus_justified_iff {cfg : EventHubAuthCBSConfig} {session : Option Handle}
    {env : AuthEnv} (hcreate : create cfg session env = .ok a)
    (hcred : cfg.credential = .sasTokenAuto) {is js : List AuthInput} {i : AuthInput}
    {s u t : AuthState} (hrun : (authMachine parse).run ⟨a, []⟩ is = some s)
    (hstep : (authMachine parse).step s i = some u)
    (hafter : (authMachine parse).run u js = some t)
    (hlatest : (authMachine parse).Meets (KeepsLatest parse) u js) {call : AuthEnv}
    (hcall : call.statusNow = some now) :
    (∀ p, AuthEvent.put p ∈ (respond parse s.handle i).2 → p.accepted = true →
      (u.handle.sasTokenPutTime = p.now ∧ u.handle.sasTokenCreateTimestamp = p.now) ∧
      (Justified t.handle now (getStatus t.handle call).value.2 ↔
        BearsOutTimeout (looks parse u.handle js) ⟨t.handle, now⟩)) ∧
    (AuthEvent.putComplete .ok ∈ (respond parse s.handle i).2 →
      (Justified t.handle now (getStatus t.handle call).value.2 ↔
        BearsOutAge (looks parse u.handle js) ⟨t.handle, now⟩)) := by
  have hready := run_ready hcreate hcred hrun
  obtain ⟨hasked, hcompleted⟩ := respond_asked hready i
  obtain rfl := step_eq hstep
  have hnext : Ready (respond parse s.handle i).1 := respond_ready hready i
  have hvalue : (getStatus t.handle call).value.2 =
      (updateEventHubAuthACBSStatus t.handle (some now)).2.cbsStatus := by
    rw [getStatus, hcall]
  rw [hvalue]
  constructor
  · intro p hp haccepted
    obtain ⟨hstatus, hstamps⟩ := hasked p hp haccepted
    have hissued : PutStatus (respond parse s.handle i).1.cbsStatus [] := .inl ⟨hstatus, by simp⟩
    obtain ⟨ht, hput⟩ := run_looks (fun _ _ now ha hput => ha.putStatus hput now) hnext hlatest
      hafter hissued
    exact ⟨hstamps, (ht.putStatus hput now).justified_iff⟩
  · intro hcomplete
    have hdone : TokenStatus (respond parse s.handle i).1.cbsStatus [] :=
      .inl ⟨hcompleted hcomplete, by simp⟩
    obtain ⟨ht, htoken⟩ := run_looks (fun _ _ now ha htoken => ha.tokenStatus htoken now) hnext
      hlatest hafter hdone
    exact (ht.tokenStatus htoken now).justified_iff ht

/-- The token of second 1000 is found expired by an `EventHubAuthCBS_Refresh` at second 5000, and at
second 6000 it is reported as such. -/
theorem getStatus_justified_expired :
    ∃ h s u t, create autoConfig (some 0) {} = .ok h ∧
      (authMachine fun _ => none).run ⟨h, []⟩ [.authenticate { putNow := some 1000 }] = some s ∧
      (authMachine fun _ => none).step s (.onCBSPutTokenOperationComplete .ok {}) = some u ∧
      (authMachine fun _ => none).run u [.refresh none { statusNow := some 5000 }] = some t ∧
      (getStatus t.handle { statusNow := some 6000 }).value.2 = .expired ∧
      Justified t.handle 6000 (getStatus t.handle { statusNow := some 6000 }).value.2 := by
  have hcreate : create autoConfig (some 0) {} = .ok _ := rfl
  refine ⟨_, ⟨_, _⟩, ⟨_, _⟩, ⟨_, _⟩, hcreate, rfl, rfl, rfl, rfl, ?_⟩
  refine ((@getStatus_justified_iff (fun _ => none) _ 6000 autoConfig _ _ hcreate rfl
    [.authenticate { putNow := some 1000 }] [.refresh none { statusNow := some 5000 }]
    (.onCBSPutTokenOperationComplete .ok {}) _ _ _ rfl rfl rfl
    ⟨fun _ he => (List.not_mem_nil he).elim, fun _ _ => trivial⟩ { statusNow := some 6000 }
    rfl).2 (List.mem_singleton.mpr rfl)).mpr fun look hlook => ?_
  unfold Clock.Elapsed
  exact ⟨fun _ => by decide, fun _ => by decide⟩

/-- The clock is set back by one second after the put has completed, and the token is reported as
expired. -/
theorem getStatus_expires_fresh :
    ∃ h t, create autoConfig (some 0) {} = .ok h ∧
      (authMachine fun _ => none).run ⟨h, []⟩ [.authenticate { putNow := some 1000 },
        .onCBSPutTokenOperationComplete .ok {}] = some t ∧
      t.handle.cbsStatus = .ok ∧
      (getStatus t.handle { statusNow := some 999 }).value.2 = .expired ∧
      ¬ Justified t.handle 999 (getStatus t.handle { statusNow := some 999 }).value.2 := by
  refine ⟨_, _, rfl, rfl, rfl, rfl, fun h => ?_⟩
  have helapsed := h.expired rfl
  revert helapsed
  unfold Clock.Elapsed
  decide

end EventHubs.EventHubAuthCBS
