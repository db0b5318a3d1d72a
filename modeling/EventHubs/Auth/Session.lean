import EventHubs.Auth.Ownership
import EventHubs.Library.Chronicle

/-!
# Token sessions

What the sender and the receiver have in common where tokens are concerned: an auth handle that is
created, driven and destroyed, a refresh token that is waiting, and a tear-down that may be under
way. `TokenSession.Step` lists what a client does to these, and everything below is proved of the
steps once and holds of every client that takes no others.

Along the steps at most one put is outstanding on a handle, and every put after the first on a
handle presents the refresh token that was accepted last.

## Main definitions

* `TokenEvent`, `TokenView` — what a client shows of its tokens, and what is known from it.
* `TokenSession`, `TokenSession.Step`.
* `TokenSession.Exclusive`, `TokenSession.Presenting` — the two invariants.

## Main results

* `TokenSession.Step.exclusive`, `TokenSession.Steps.exclusive`.
* `TokenSession.Step.presenting`, `TokenSession.Steps.presenting`.
-/

namespace EventHubs

/-- The outcomes of an authentication after which the stack is taken down. -/
def AuthOutcome.ends : AuthOutcome → Bool
  | .failed => true
  | .timeout => true
  | _ => false

/-- When a call on the auth handle decides the outcome, and the stack stays, the call succeeded. -/
theorem AuthOutcome.eq_ok_of_ends {r : EventHubAuthResult} {good : AuthOutcome} :
    (if r = .ok then good else .failed).ends = false → r = .ok := by
  split_ifs with hr
  · exact fun _ ↦ hr
  · exact nofun

/-- What concerns the tokens of a client. -/
inductive TokenEvent
  /-- A refresh token was accepted. -/
  | refreshAccepted (token : String)
  /-- `EventHubAuthCBS_Create` succeeded. -/
  | created
  | auth (e : AuthEvent)
  /-- `EventHubAuthCBS_Destroy` was called unless there was no handle. -/
  | destroyed
  /-- The refresh token that was waiting, if any, was deleted. -/
  | dropped
  deriving DecidableEq, Repr

/-- What is known of the tokens on the present auth handle, and the refresh token in force: the
last one accepted since one was deleted unused. -/
structure TokenView where
  outstanding : Option PutToken := none
  timedOut : Bool := false
  puts : Nat := 0
  inForce : Option String := none
  deriving DecidableEq, Repr

/-- What an event adds. -/
def TokenView.see (v : TokenView) : TokenEvent → TokenView
  | .refreshAccepted token => { v with inForce := some token }
  | .created => { v with outstanding := none, timedOut := false, puts := 0 }
  | .auth (.put p) =>
    { v with outstanding := if p.accepted then some p else v.outstanding, puts := v.puts + 1 }
  | .auth (.putComplete _) => { v with outstanding := none }
  | .auth (.status _ _ status) => { v with timedOut := v.timedOut || status = .timeout }
  | .destroyed => { v with outstanding := none, timedOut := false, puts := 0 }
  | .dropped => { v with inForce := none }

/-- What is known after some events. -/
def tokenView (log : List TokenEvent) : TokenView := log.foldl TokenView.see {}

@[simp]
theorem tokenView_append (l m : List TokenEvent) :
    tokenView (l ++ m) = m.foldl TokenView.see (tokenView l) := List.foldl_append

/-- What a handle shows takes no put back and accepts no token. -/
theorem TokenView.foldl_auth (events : List AuthEvent) (v : TokenView) :
    v.puts ≤ ((events.map TokenEvent.auth).foldl TokenView.see v).puts ∧
      ((events.map TokenEvent.auth).foldl TokenView.see v).inForce = v.inForce := by
  induction events generalizing v with
  | nil => exact ⟨Nat.le_refl _, rfl⟩
  | cons e events ih =>
    obtain ⟨hputs, hforce⟩ := ih (v.see (.auth e))
    have hone : v.puts ≤ (v.see (.auth e)).puts ∧ (v.see (.auth e)).inForce = v.inForce := by
      cases e <;> simp [TokenView.see]
    exact ⟨Nat.le_trans hone.1 hputs, hforce.trans hone.2⟩

/-- The part of a client that concerns its tokens. `closing` says that a tear-down of the stack is
under way. -/
structure TokenSession where
  handle : Option EventHubAuthCBSStruct := none
  extRefreshSASToken : Option String := none
  outstandingPuts : Nat := 0
  closing : Bool := false
  log : List TokenEvent := []

namespace TokenSession

/-- Take over what a call on the handle leaves. -/
def answer {α : Type} (s : TokenSession) (x : Answer EventHubAuthCBSStruct α) : TokenSession :=
  { s with
    handle := some x.handle
    outstandingPuts := s.outstandingPuts + acceptedPuts x.events
    log := s.log ++ x.events.map .auth }

open EventHubAuthCBS EventHubAuthCBSStruct

section Step

variable (parse : String → Option (String × UInt64))

/-- What a client does to its tokens. `fits` says which configurations it creates handles from.
`guarded` says that it accepts a refresh token only on a handle that has put one, and deletes the
waiting one together with the handle. -/
inductive Step (fits : EventHubAuthCBSConfig → Prop) (guarded : Prop) (s : TokenSession) :
    TokenSession → Prop
  | refreshAccepted (token : String) (hnone : s.extRefreshSASToken = none)
      (hguard : guarded → (tokenView s.log).puts ≠ 0) :
    Step fits guarded s { s with
      extRefreshSASToken := some token
      log := s.log ++ [.refreshAccepted token] }
  | create {cfg : EventHubAuthCBSConfig} {session : Option Handle} {env : AuthEnv}
      {a : EventHubAuthCBSStruct} (hcreate : create cfg session env = .ok a) (hfits : fits cfg)
      (hnone : s.handle = none) (hopen : s.closing = false)
      (hwaits : ¬guarded → (tokenView s.log).inForce = s.extRefreshSASToken) :
    Step fits guarded s { s with handle := some a, log := s.log ++ [.created] }
  | getStatus {a : EventHubAuthCBSStruct} (env : AuthEnv) (closing : Bool)
      (ha : s.handle = some a) (hopen : s.closing = false)
      (hgood : closing = false → (getStatus a env).value.1 = .ok ∧
        (getStatus a env).value.2 ≠ .failure ∧ (getStatus a env).value.2 ≠ .expired ∧
        (getStatus a env).value.2 ≠ .timeout) :
    Step fits guarded s { s.answer (getStatus a env) with closing := closing }
  | authenticate {a : EventHubAuthCBSStruct} (env : AuthEnv) (closing : Bool)
      (ha : s.handle = some a) (hopen : s.closing = false) (hidle : a.cbsStatus = .idle)
      (hgood : closing = false → (authenticate a env).value = .ok) :
    Step fits guarded s { s.answer (authenticate a env) with closing := closing }
  | refreshAuto {a : EventHubAuthCBSStruct} (env : AuthEnv) (closing : Bool)
      (ha : s.handle = some a) (hopen : s.closing = false)
      (hrequired : a.cbsStatus = .refreshRequired)
      (hgood : closing = false → (refresh parse a none env).value = .ok) :
    Step fits guarded s { s.answer (refresh parse a none env) with closing := closing }
  | refreshExt {a : EventHubAuthCBSStruct} {token : String} (env : AuthEnv) (closing : Bool)
      (ha : s.handle = some a) (hopen : s.closing = false) (hok : a.cbsStatus = .ok)
      (htoken : s.extRefreshSASToken = some token)
      (hgood : closing = false → (refresh parse a (some token) env).value = .ok) :
    Step fits guarded s { s.answer (refresh parse a (some token) env) with
      extRefreshSASToken := none
      closing := closing }
  | putComplete {a : EventHubAuthCBSStruct} (r : CBSOperationResult) (env : AuthEnv)
      (ha : s.handle = some a) (hopen : s.closing = false) (hputs : 0 < s.outstandingPuts) :
    Step fits guarded s { s.answer (onCBSPutTokenOperationComplete a r env) with
      outstandingPuts := s.outstandingPuts - 1 }
  | close : Step fits guarded s { s with closing := true }
  | destroy (hguard : ¬guarded) :
    Step fits guarded s { s with
      handle := none, outstandingPuts := 0, closing := false, log := s.log ++ [.destroyed] }
  | drop (hnone : s.handle = none) :
    Step fits guarded s { s with
      extRefreshSASToken := none, closing := false, log := s.log ++ [.dropped] }
  | destroyAndDrop :
    Step fits guarded s { s with
      handle := none
      extRefreshSASToken := none
      outstandingPuts := 0
      closing := false
      log := s.log ++ [.destroyed, .dropped] }

/-- Any number of such steps. -/
abbrev Steps (fits : EventHubAuthCBSConfig → Prop) (guarded : Prop) :
    TokenSession → TokenSession → Prop :=
  Relation.ReflTransGen (Step parse fits guarded)

end Step

/-! ### What a call on a handle puts -/

/-- The token that `EventHubAuthCBS_Authenticate` puts is the one that the handle records. -/
theorem authenticate_records {a : EventHubAuthCBSStruct} {env : AuthEnv} {p : PutToken}
    (hp : AuthEvent.put p ∈ (authenticate a env).events) :
    (authenticate a env).handle.sasTokenHandle.map (·.text) = some p.sasToken := by
  have hput : ∀ (b : EventHubAuthCBSStruct) (now : UInt64) (token uri : Option StringHandle),
      AuthEvent.put p ∈ (putToken b now token uri env).events →
      (putToken b now token uri env).handle.sasTokenHandle.map (·.text) = some p.sasToken := by
    intro b now token uri hp
    rw [(putToken_fields b now token uri env).2.1]
    rcases putToken_cases b now token uri env with ⟨c, heq, -⟩ | ⟨c, q, heq, -, htoken, -⟩
    · rw [heq] at hp
      simp at hp
    · rw [heq] at hp
      obtain rfl : p = q := by simpa using hp
      exact htoken
  obtain ⟨hidle, hnow, -⟩ := authenticate_put hp
  cases hcred : a.credential with
  | unknown =>
    rw [authenticate_unknown hidle hcred hnow] at hp
    simp at hp
  | sasTokenExt =>
    rw [authenticate_ext hidle hcred hnow] at hp ⊢
    split_ifs at hp ⊢
    · simp at hp
    · exact hput _ _ _ _ hp
  | sasTokenAuto =>
    rw [authenticate_auto_eq hidle hcred hnow] at hp ⊢
    split_ifs at hp ⊢
    · simp at hp
    · exact hput _ _ _ _ hp

/-- A call on a handle without an outstanding put either fails and shows nothing, or makes one put,
which the handle then records. -/
inductive Putting : Answer EventHubAuthCBSStruct EventHubAuthResult → Prop
  | refused {r : EventHubAuthResult} {b : EventHubAuthCBSStruct} (hr : r ≠ .ok)
      (hquiet : b.cbsStatus ≠ .inProgress) : Putting ⟨r, b, []⟩
  | made {r : EventHubAuthResult} {b : EventHubAuthCBSStruct} {p : PutToken}
      (hr : r = .ok → p.accepted = true) (hoperation : b.cbOperation = .put)
      (hstatus : p.accepted = true → b.cbsStatus = .inProgress)
      (hrecorded : b.sasTokenHandle.map (·.text) = some p.sasToken) : Putting ⟨r, b, [.put p]⟩

theorem authenticate_putting {a : EventHubAuthCBSStruct} (hquiet : a.cbsStatus ≠ .inProgress)
    (env : AuthEnv) : Putting (authenticate a env) := by
  have hspec := authenticate_spec a env
  have hrecorded := @authenticate_records a env
  generalize authenticate a env = x at hspec hrecorded
  cases hspec with
  | refused hr hstatus => exact .refused hr (hstatus ▸ hquiet)
  | @putMade p b hidle hnow hext hauto hcredential hstatus hop =>
    refine .made (fun hr ↦ ?_) hop (fun hp ↦ ?_) (hrecorded (by simp))
    · by_contra hp
      simp [hp] at hr
    · rw [hstatus, if_pos hp]

/-- An update does not start a put. -/
theorem update_quiet {a : EventHubAuthCBSStruct} (hquiet : a.cbsStatus ≠ .inProgress)
    (reading : Option UInt64) :
    (updateEventHubAuthACBSStatus a reading).2.cbsStatus ≠ .inProgress := by
  rcases updateEventHubAuthACBSStatus_status a reading with h | ⟨h, -⟩ | ⟨-, -, h | h⟩
  · rwa [h]
  · exact absurd h hquiet
  · simp [h]
  · simp [h]

variable {parse : String → Option (String × UInt64)}

theorem refresh_putting {a : EventHubAuthCBSStruct} (hquiet : a.cbsStatus ≠ .inProgress)
    (token : Option String) (env : AuthEnv) : Putting (refresh parse a token env) := by
  have hspec := refresh_spec parse a token env
  generalize refresh parse a token env = x at hspec
  cases hspec with
  | refused hr hconfig htoken hother hstatus =>
    refine .refused hr ?_
    rcases hstatus with h | ⟨-, h⟩
    · rwa [h]
    · exact h ▸ update_quiet hquiet env.statusNow
  | external _ _ _ _ _ _ hother heq =>
    rw [heq]
    exact authenticate_putting (by rwa [hother.2.1]) env
  | automatic _ hrequired heq =>
    rw [heq]
    exact authenticate_putting (by simp [hrequired]) env

/-- A completion decides the status and changes nothing that is configured. -/
theorem putComplete_answer (a : EventHubAuthCBSStruct) (r : CBSOperationResult) (env : AuthEnv) :
    ∃ b, onCBSPutTokenOperationComplete a r env = ⟨(), b, [.putComplete r]⟩ ∧
      (b.cbsStatus = .ok ∨ b.cbsStatus = .failure) ∧ SameConfig a b ∧ SameToken a b := by
  cases r with
  | ok => exact ⟨_, rfl, Or.inl rfl, ⟨rfl, rfl, rfl, rfl, rfl⟩, rfl, rfl⟩
  | _ => exact ⟨_, rfl, Or.inr rfl, ⟨rfl, rfl, rfl, rfl, rfl⟩, rfl, rfl⟩

/-! ### At most one put is outstanding -/

/-- A put is made when none is outstanding on the handle, and a put completes that is outstanding
on the handle and was not found to have timed out. -/
def AtMostOne (past : List TokenEvent) : TokenEvent → Prop
  | .auth (.put _) => (tokenView past).outstanding = none
  | .auth (.putComplete _) =>
    (tokenView past).outstanding.isSome ∧ (tokenView past).timedOut = false
  | _ => True

/-- What a handle and the log say about its puts, unless it is about to be destroyed. -/
structure Settled (a : EventHubAuthCBSStruct) (puts : Nat) (v : TokenView) : Prop where
  lasting : a.cbsStatus ≠ .expired ∧ a.cbsStatus ≠ .timeout
  timedOut : v.timedOut = false
  quiet : a.cbsStatus ≠ .inProgress → puts = 0 ∧ v.outstanding = none
  busy : a.cbsStatus = .inProgress → puts = 1 ∧
    ∃ p, v.outstanding = some p ∧ a.sasTokenHandle.map (·.text) = some p.sasToken
  fresh : a.cbsStatus = .idle ↔ v.puts = 0

/-- At most one put is outstanding, and the handle knows it. -/
structure Exclusive (s : TokenSession) : Prop where
  log : Chronicle AtMostOne s.log
  armed : ∀ a, s.handle = some a → a.cbsStatus = .inProgress → a.cbOperation = .put
  empty : s.handle = none → s.outstandingPuts = 0
  settled : s.closing = false → ∀ a, s.handle = some a →
    Settled a s.outstandingPuts (tokenView s.log)

variable {s : TokenSession}

theorem Exclusive.of_none {t : TokenSession} (hlog : Chronicle AtMostOne t.log)
    (hnone : t.handle = none) (hputs : t.outstandingPuts = 0) : Exclusive t :=
  ⟨hlog, fun a ha ↦ by simp [hnone] at ha, fun _ ↦ hputs, fun _ a ha ↦ by simp [hnone] at ha⟩

/-- A call that makes at most one put, on a handle without an outstanding one. -/
theorem Exclusive.answer {a : EventHubAuthCBSStruct} (hs : Exclusive s) (ha : s.handle = some a)
    (hopen : s.closing = false) (hquiet : a.cbsStatus ≠ .inProgress)
    {x : Answer EventHubAuthCBSStruct EventHubAuthResult} (hx : Putting x) {closing : Bool}
    (hgood : closing = false → x.value = .ok) (waiting : Option String) :
    Exclusive { s.answer x with extRefreshSASToken := waiting, closing := closing } := by
  have hsettled := hs.settled hopen a ha
  obtain ⟨hputs, hnone⟩ := hsettled.quiet hquiet
  cases hx with
  | @refused r b hr hb =>
    refine ⟨by simpa [TokenSession.answer] using hs.log, fun c hc hprogress ↦ ?_, nofun,
      fun hclosing ↦ absurd (hgood hclosing) hr⟩
    obtain rfl := Option.some.inj hc
    exact absurd hprogress hb
  | @made r b p hr hoperation hstatus hrecorded =>
    refine ⟨hs.log.concat hnone, fun c hc _ ↦ ?_, nofun, fun hclosing c hc ↦ ?_⟩
    · obtain rfl := Option.some.inj hc
      exact hoperation
    · obtain rfl := Option.some.inj hc
      have haccepted := hr (hgood hclosing)
      have hprogress := hstatus haccepted
      change Settled b (s.outstandingPuts + acceptedPuts [.put p])
        (tokenView (s.log ++ [.auth (.put p)]))
      simp only [tokenView_append, List.foldl_cons, List.foldl_nil, TokenView.see, haccepted, hputs]
      refine ⟨by simp [hprogress], hsettled.timedOut, fun h ↦ absurd hprogress h, fun _ ↦ ?_, ?_⟩
      · exact ⟨by simp [acceptedPuts, haccepted], p, rfl, hrecorded⟩
      · simp [hprogress]

/-- `EventHubAuthCBS_GetStatus`. -/
theorem Exclusive.getStatus {a : EventHubAuthCBSStruct} (hs : Exclusive s)
    (ha : s.handle = some a) (hopen : s.closing = false) {env : AuthEnv} {closing : Bool}
    (hgood : closing = false → (getStatus a env).value.1 = .ok ∧
      (getStatus a env).value.2 ≠ .failure ∧ (getStatus a env).value.2 ≠ .expired ∧
      (getStatus a env).value.2 ≠ .timeout) :
    Exclusive { s.answer (EventHubAuthCBS.getStatus a env) with closing := closing } := by
  have hkeep := updateEventHubAuthACBSStatus_eq a env.statusNow
  have hcases := updateEventHubAuthACBSStatus_status a env.statusNow
  have hsettled := hs.settled hopen a ha
  refine ⟨hs.log.concat trivial, fun c hc hprogress ↦ ?_, nofun, fun hclosing c hc ↦ ?_⟩
  · obtain rfl := Option.some.inj hc
    rcases hcases with h | ⟨-, h⟩ | ⟨-, -, h | h⟩
    · rw [EventHubAuthCBS.getStatus, hkeep]
      exact hs.armed a ha (h.symm.trans hprogress)
    all_goals
      rw [EventHubAuthCBS.getStatus, h] at hprogress
      cases hprogress
  · obtain rfl := Option.some.inj hc
    obtain ⟨-, -, hexpired, htimeout⟩ := hgood hclosing
    simp only [EventHubAuthCBS.getStatus] at hexpired htimeout
    change Settled (updateEventHubAuthACBSStatus a env.statusNow).2 (s.outstandingPuts + 0)
      (tokenView (s.log ++ [.auth (.status _ _ (updateEventHubAuthACBSStatus a
        env.statusNow).2.cbsStatus)]))
    simp only [tokenView_append, List.foldl_cons, List.foldl_nil, TokenView.see, htimeout,
      decide_false, Bool.or_false]
    rw [hkeep]
    rcases hcases with h | ⟨-, h⟩ | ⟨-, hold, h⟩
    · rw [h]
      exact ⟨hsettled.1, hsettled.2, hsettled.3, hsettled.4, hsettled.5⟩
    · exact absurd h htimeout
    · have hrequired := h.resolve_left hexpired
      have hquiet : a.cbsStatus ≠ .inProgress := by rcases hold with h | h <;> simp [h]
      have hnotIdle : a.cbsStatus ≠ .idle := by rcases hold with h | h <;> simp [h]
      rw [hrequired]
      exact ⟨by simp, hsettled.timedOut, fun _ ↦ hsettled.quiet hquiet, by simp,
        by simpa using fun h ↦ hnotIdle (hsettled.fresh.mpr h)⟩

/-- `OnCBSPutTokenOperationComplete`. -/
theorem Exclusive.putComplete {a : EventHubAuthCBSStruct} (hs : Exclusive s)
    (ha : s.handle = some a) (hopen : s.closing = false) (hputs : 0 < s.outstandingPuts)
    (r : CBSOperationResult) (env : AuthEnv) :
    Exclusive { s.answer (onCBSPutTokenOperationComplete a r env) with
      outstandingPuts := s.outstandingPuts - 1 } := by
  have hsettled := hs.settled hopen a ha
  have hprogress : a.cbsStatus = .inProgress := by
    by_contra hquiet
    exact absurd (hsettled.quiet hquiet).1 (Nat.ne_of_gt hputs)
  obtain ⟨hone, p, hp, -⟩ := hsettled.busy hprogress
  have hmade : (tokenView s.log).puts ≠ 0 := fun h ↦ by
    simpa [hprogress] using hsettled.fresh.mpr h
  obtain ⟨b, heq, hb, -⟩ := putComplete_answer a r env
  rw [heq]
  refine ⟨hs.log.concat ⟨by simp [hp], hsettled.timedOut⟩, fun c hc hprogress' ↦ ?_, nofun,
    fun _ c hc ↦ ?_⟩
  · obtain rfl := Option.some.inj hc
    rcases hb with h | h <;> simp [h] at hprogress'
  · obtain rfl := Option.some.inj hc
    change Settled b (s.outstandingPuts - 1) (tokenView (s.log ++ [.auth (.putComplete r)]))
    simp only [tokenView_append, List.foldl_cons, List.foldl_nil, TokenView.see, hone]
    refine ⟨?_, hsettled.timedOut, fun _ ↦ ⟨rfl, rfl⟩, fun h ↦ ?_, ?_⟩
    · rcases hb with h | h <;> simp [h]
    · rcases hb with h' | h' <;> simp [h'] at h
    · rcases hb with h | h <;> simp [h, hmade]

variable {fits : EventHubAuthCBSConfig → Prop} {guarded : Prop} {t : TokenSession}

theorem Step.exclusive (hs : Exclusive s) (h : Step parse fits guarded s t) : Exclusive t := by
  cases h with
  | refreshAccepted token hnone hguard =>
    refine ⟨hs.log.concat trivial, hs.armed, hs.empty, fun hopen a ha ↦ ?_⟩
    obtain ⟨h₁, h₂, h₃, h₄, h₅⟩ := hs.settled hopen a ha
    exact ⟨h₁, by simpa [TokenView.see] using h₂, by simpa [TokenView.see] using h₃,
      by simpa [TokenView.see] using h₄, by simpa [TokenView.see] using h₅⟩
  | @create cfg session env a hcreate hfits hnone hopen hwaits =>
    have hidle := (create_spec hcreate).status
    refine ⟨hs.log.concat trivial, fun b hb hprogress ↦ ?_, nofun, fun _ b hb ↦ ?_⟩
    · obtain rfl := Option.some.inj hb
      simp [hidle] at hprogress
    · obtain rfl := Option.some.inj hb
      refine ⟨by simp [hidle], by simp [TokenView.see], fun _ ↦ ⟨hs.empty hnone, ?_⟩,
        by simp [hidle], by simp [hidle, TokenView.see]⟩
      simp [TokenView.see]
  | getStatus env closing ha hopen hgood => exact hs.getStatus ha hopen hgood
  | authenticate env closing ha hopen hidle hgood =>
    exact hs.answer ha hopen (by simp [hidle]) (authenticate_putting (by simp [hidle]) env) hgood _
  | refreshAuto env closing ha hopen hrequired hgood =>
    exact hs.answer ha hopen (by simp [hrequired]) (refresh_putting (by simp [hrequired]) _ env)
      hgood _
  | refreshExt env closing ha hopen hok htoken hgood =>
    exact hs.answer ha hopen (by simp [hok]) (refresh_putting (by simp [hok]) _ env) hgood _
  | putComplete r env ha hopen hputs => exact hs.putComplete ha hopen hputs r env
  | close => exact ⟨hs.log, hs.armed, hs.empty, nofun⟩
  | destroy _ => exact .of_none (hs.log.concat trivial) rfl rfl
  | drop hnone => exact .of_none (hs.log.concat trivial) hnone (hs.empty hnone)
  | destroyAndDrop =>
    exact .of_none (hs.log.append_of_forall fun e he past ↦ by
      rcases List.mem_pair.mp he with rfl | rfl <;> trivial) rfl rfl

theorem Steps.exclusive (hs : Exclusive s) (h : Steps parse fits guarded s t) : Exclusive t := by
  induction h with
  | refl => exact hs
  | tail _ hstep ih => exact hstep.exclusive ih

/-- A session that starts without a handle. -/
theorem exclusive_of_empty : Exclusive {} := .of_none .nil rfl rfl

/-! ### The token in force is presented -/

/-- The handle holds the refresh token `text` with its own expiry. -/
def Holds (parse : String → Option (String × UInt64)) (a : EventHubAuthCBSStruct)
    (text : String) : Prop :=
  a.extSASToken.map (·.text) = some text ∧
    ∃ uri, parse text = some (uri, a.extSASTokenExpTSInEpochSec)

/-- The first put on a handle presents the token of the configuration `base` with its expiry, and
every later put presents the refresh token in force with the expiry found in it. On a guarded client
a put that presents the token of `base` is made only while no refresh token is in force. -/
def Presents (parse : String → Option (String × UInt64)) (base : EventHubAuthCBSConfig)
    (guarded : Prop) (past : List TokenEvent) : TokenEvent → Prop
  | .auth (.put p) =>
    ((tokenView past).puts = 0 → base.extSASToken = some p.sasToken ∧
      p.expiry = base.extSASTokenExpTSInEpochSec.toNat) ∧
    ((tokenView past).puts ≠ 0 → (tokenView past).inForce = some p.sasToken ∧
      ∃ uri expiry, parse p.sasToken = some (uri, expiry) ∧ p.expiry = expiry.toNat) ∧
    (guarded → (tokenView past).puts = 0 → (tokenView past).inForce = none)
  | _ => True

/-- The handles of a client that was made from a SAS token are made from the configuration that
was parsed from it, with a timeout of its own. -/
def FitsToken (base cfg : EventHubAuthCBSConfig) : Prop :=
  cfg.credential = .sasTokenExt ∧ cfg.extSASToken = base.extSASToken ∧
    cfg.extSASTokenExpTSInEpochSec = base.extSASTokenExpTSInEpochSec

/-- What a handle with an external token holds, unless it is about to be destroyed. -/
structure Keeping (parse : String → Option (String × UInt64)) (base : EventHubAuthCBSConfig)
    (a : EventHubAuthCBSStruct) (waiting : Option String) (v : TokenView) : Prop where
  credential : a.credential = .sasTokenExt
  first : a.cbsStatus = .idle → a.extSASToken.map (·.text) = base.extSASToken ∧
    a.extSASTokenExpTSInEpochSec = base.extSASTokenExpTSInEpochSec
  later : waiting = none → ∀ text, v.inForce = some text → Holds parse a text

/-- The refresh token in force is waiting or held by the handle, and was presented by every put but
the first ones. -/
structure Presenting (parse : String → Option (String × UInt64)) (base : EventHubAuthCBSConfig)
    (guarded : Prop) (s : TokenSession) : Prop where
  log : Chronicle (Presents parse base guarded) s.log
  waiting : ∀ text, s.extRefreshSASToken = some text → (tokenView s.log).inForce = some text
  keeping : s.closing = false → ∀ a, s.handle = some a →
    Keeping parse base a s.extRefreshSASToken (tokenView s.log)
  guard : guarded → (tokenView s.log).inForce ≠ none → (tokenView s.log).puts ≠ 0
  empty : s.handle = none → (tokenView s.log).puts = 0

theorem Presenting.of_none {base : EventHubAuthCBSConfig}
    (hlog : Chronicle (Presents parse base guarded) t.log) (hnone : t.handle = none)
    (hputs : (tokenView t.log).puts = 0)
    (hwaiting : ∀ text, t.extRefreshSASToken = some text →
      (tokenView t.log).inForce = some text)
    (hguard : guarded → (tokenView t.log).inForce = none) : Presenting parse base guarded t :=
  ⟨hlog, hwaiting, fun _ a ha ↦ by simp [hnone] at ha, fun hg hne ↦ absurd (hguard hg) hne,
    fun _ ↦ hputs⟩

/-- The handle changes in its status only, and nothing is put. -/
theorem Keeping.of_same {base : EventHubAuthCBSConfig} {a b : EventHubAuthCBSStruct}
    {waiting : Option String} {v w : TokenView} (h : Keeping parse base a waiting v)
    (hconfig : SameConfig a b) (htoken : SameToken a b)
    (hidle : b.cbsStatus = .idle → a.cbsStatus = .idle) (hforce : w.inForce = v.inForce) :
    Keeping parse base b waiting w := by
  refine ⟨hconfig.credential.trans h.credential, fun hb ↦ ?_, fun hnone text htext ↦ ?_⟩
  · rw [htoken.extSASToken, htoken.expiry]
    exact h.first (hidle hb)
  · rw [Holds, htoken.extSASToken, htoken.expiry]
    exact h.later hnone text (hforce ▸ htext)

variable {base : EventHubAuthCBSConfig}

theorem Presenting.create {cfg : EventHubAuthCBSConfig} {session : Option Handle} {env : AuthEnv}
    {a : EventHubAuthCBSStruct} (hs : Presenting parse base guarded s)
    (hcreate : create cfg session env = .ok a) (hfits : FitsToken base cfg)
    (hnone : s.handle = none)
    (hwaits : ¬guarded → (tokenView s.log).inForce = s.extRefreshSASToken) :
    Presenting parse base guarded { s with handle := some a, log := s.log ++ [.created] } := by
  have hnew := create_spec hcreate
  have hforce : guarded → (tokenView s.log).inForce = none := fun hg ↦ by
    by_contra hne
    exact hs.guard hg hne (hs.empty hnone)
  have hcred : a.credential = .sasTokenExt := hnew.credential.trans hfits.1
  obtain ⟨token, uri, htoken, -, hatoken, -, hexpiry, -⟩ := hnew.ext hcred
  refine ⟨hs.log.concat trivial, fun text htext ↦ ?_, fun _ b hb ↦ ?_, fun hg hne ↦ ?_, nofun⟩
  · simpa [TokenView.see] using hs.waiting text htext
  · obtain rfl := Option.some.inj hb
    refine ⟨hcred, fun _ ↦ ⟨?_, hexpiry.trans hfits.2.2⟩, fun hwaiting text htext ↦ ?_⟩
    · rw [hatoken, ← hfits.2.1, htoken]
    · have htext' : (tokenView s.log).inForce = some text := by simpa [TokenView.see] using htext
      by_cases hg : guarded
      · simp [hforce hg] at htext'
      · have hwaiting' : s.extRefreshSASToken = none := hwaiting
        rw [hwaits hg, hwaiting'] at htext'
        cases htext'
  · simp [TokenView.see, hforce hg] at hne

/-- `EventHubAuthCBS_Authenticate` on a handle that has not put a token yet. -/
theorem Presenting.authenticate {a : EventHubAuthCBSStruct} (hs : Presenting parse base guarded s)
    (hexclusive : Exclusive s) (ha : s.handle = some a) (hopen : s.closing = false)
    (hidle : a.cbsStatus = .idle) (env : AuthEnv) {closing : Bool}
    (hgood : closing = false → (authenticate a env).value = .ok) :
    Presenting parse base guarded
      { s.answer (EventHubAuthCBS.authenticate a env) with closing := closing } := by
  have hkeeping := hs.keeping hopen a ha
  have hnoPut : (tokenView s.log).puts = 0 := (hexclusive.settled hopen a ha).fresh.mp hidle
  have hput := @authenticate_put a env
  have hkeeps := authenticate_keeps a env
  have hspec := authenticate_spec a env
  generalize EventHubAuthCBS.authenticate a env = x at hput hkeeps hspec hgood
  cases hspec with
  | @refused r b hr hstatus hop =>
    have hlog : s.log ++ ([] : List AuthEvent).map TokenEvent.auth = s.log := by simp
    refine ⟨?_, ?_, fun hclosing ↦ absurd (hgood hclosing) hr, ?_, nofun⟩
    all_goals
      simp only [TokenSession.answer, hlog]
    exacts [hs.log, hs.waiting, hs.guard]
  | @putMade p b hidle' hnow hext hauto hcredential hstatus hop htime =>
    obtain ⟨htoken, hexpiry, -⟩ := hext hkeeping.credential
    obtain ⟨hfirst, hfirstExpiry⟩ := hkeeping.first hidle
    have hunforced : guarded → (tokenView s.log).inForce = none := fun hg ↦ by
      by_contra hne
      exact hs.guard hg hne hnoPut
    refine ⟨hs.log.concat ⟨fun _ ↦ ⟨?_, ?_⟩, fun hne ↦ absurd hnoPut hne, fun hg _ ↦ hunforced hg⟩,
      fun text htext ↦ ?_, fun hclosing c hc ↦ ?_, fun hg hne ↦ ?_, nofun⟩
    · rw [← hfirst, htoken]
    · rw [hexpiry, hfirstExpiry]
    · simpa [TokenSession.answer, TokenView.see] using hs.waiting text htext
    · obtain rfl := Option.some.inj hc
      have haccepted : p.accepted = true := by
        have := hgood hclosing
        by_contra hne
        simp [hne] at this
      have hprogress : b.cbsStatus = .inProgress := by rw [hstatus, if_pos haccepted]
      exact hkeeping.of_same hkeeps.1 hkeeps.2 (by simp [hprogress])
        (by simp [TokenSession.answer, TokenView.see])
    · simp [TokenSession.answer, TokenView.see]

/-- A call that shows nothing before a tear-down. -/
theorem Presenting.refused {r : EventHubAuthResult} {b : EventHubAuthCBSStruct}
    (hs : Presenting parse base guarded s) {closing : Bool} (hclosing : closing = true)
    {waiting : Option String}
    (hwaiting : ∀ text, waiting = some text → s.extRefreshSASToken = some text) :
    Presenting parse base guarded
      { s.answer (⟨r, b, []⟩ : Answer EventHubAuthCBSStruct EventHubAuthResult) with
        extRefreshSASToken := waiting
        closing := closing } := by
  have hlog : s.log ++ ([] : List AuthEvent).map TokenEvent.auth = s.log := by simp
  refine ⟨?_, fun text htext ↦ ?_, fun hopen ↦ by simp [hclosing] at hopen, ?_, nofun⟩
  all_goals
    simp only [TokenSession.answer, hlog]
  exacts [hs.log, hs.waiting text (hwaiting text htext), hs.guard]

/-- `EventHubAuthCBS_Refresh` with the refresh token that was waiting. -/
theorem Presenting.refreshExt {a : EventHubAuthCBSStruct} {text : String}
    (hs : Presenting parse base guarded s) (hexclusive : Exclusive s) (ha : s.handle = some a)
    (hopen : s.closing = false) (hok : a.cbsStatus = .ok)
    (htext : s.extRefreshSASToken = some text) (env : AuthEnv) {closing : Bool}
    (hgood : closing = false → (refresh parse a (some text) env).value = .ok) :
    Presenting parse base guarded { s.answer (refresh parse a (some text) env) with
      extRefreshSASToken := none
      closing := closing } := by
  have hkeeping := hs.keeping hopen a ha
  have hforce := hs.waiting text htext
  have hmade : (tokenView s.log).puts ≠ 0 := fun h ↦ by
    simpa [hok] using (hexclusive.settled hopen a ha).fresh.mpr h
  have hclosed : ∀ {r : EventHubAuthResult}, r ≠ .ok → (closing = false → r = .ok) →
      closing = true := fun hr hgood ↦ by
    by_contra hne
    exact hr (hgood (Bool.not_eq_true _ ▸ hne))
  have hspec := refresh_spec parse a (some text) env
  generalize refresh parse a (some text) env = x at hspec hgood
  cases hspec with
  | refused hr => exact hs.refused (hclosed hr hgood) nofun
  | automatic hauto => simp [hkeeping.credential] at hauto
  | @external b text' uri expiry _ heqText hparse hconfig hb hexpiry hother x heq =>
    obtain rfl := Option.some.inj heqText
    subst heq
    have hput := @authenticate_put b env
    have hkeeps := authenticate_keeps b env
    have hauthenticated := authenticate_spec b env
    have hcred : b.credential = .sasTokenExt := hconfig.credential.trans hkeeping.credential
    generalize EventHubAuthCBS.authenticate b env = y at hput hkeeps hauthenticated hgood ⊢
    cases hauthenticated with
    | refused hr => exact hs.refused (hclosed hr hgood) nofun
    | @putMade p c hidle hnow hext hauto hcredential hstatus hop htime =>
      obtain ⟨htoken, hputExpiry, -⟩ := hext hcred
      obtain rfl : text = p.sasToken := Option.some.inj (hb.symm.trans htoken)
      refine ⟨hs.log.concat ⟨fun h ↦ absurd h hmade, fun _ ↦ ⟨hforce, uri, expiry, hparse, ?_⟩,
        fun _ h ↦ absurd h hmade⟩, nofun, fun hclosing d hd ↦ ?_, fun _ _ ↦ ?_, nofun⟩
      · rw [hputExpiry, hexpiry]
      · obtain rfl := Option.some.inj hd
        refine ⟨hkeeps.1.credential.trans hcred, fun hidle' ↦ ?_, fun _ text' htext' ↦ ?_⟩
        · have haccepted : p.accepted = true := by
            have := hgood hclosing
            by_contra hne
            simp [hne] at this
          simp [hstatus, haccepted] at hidle'
        · obtain rfl : text' = p.sasToken := by
            simpa [TokenSession.answer, TokenView.see, hforce] using htext'.symm
          rw [Holds, hkeeps.2.extSASToken, hkeeps.2.expiry, hexpiry]
          exact ⟨hb, uri, hparse⟩
      · simp [TokenSession.answer, TokenView.see]

theorem Step.presenting (hs : Presenting parse base guarded s) (hexclusive : Exclusive s)
    (h : Step parse (FitsToken base) guarded s t) : Presenting parse base guarded t := by
  cases h with
  | refreshAccepted token hnone hguard =>
    refine ⟨hs.log.concat trivial, fun text htext ↦ ?_, fun hopen a ha ↦ ?_, fun hg _ ↦ ?_,
      fun hempty ↦ ?_⟩
    · simpa [TokenView.see] using htext
    · have hkeeping := hs.keeping hopen a ha
      exact ⟨hkeeping.credential, hkeeping.first, (by rintro ⟨⟩)⟩
    · simpa [TokenView.see] using hguard hg
    · simpa [TokenView.see] using hs.empty hempty
  | create hcreate hfits hnone hopen hwaits => exact hs.create hcreate hfits hnone hwaits
  | @getStatus a env closing ha hopen hgood =>
    refine ⟨hs.log.concat trivial, fun text htext ↦ ?_, fun hclosing b hb ↦ ?_, fun hg hne ↦ ?_,
      (by rintro ⟨⟩)⟩
    · simpa [TokenSession.answer, TokenView.see, EventHubAuthCBS.getStatus] using
        hs.waiting text htext
    · obtain rfl := Option.some.inj hb
      refine (hs.keeping hopen a ha).of_same
        (updateEventHubAuthACBSStatus_sameConfig a env.statusNow)
        (updateEventHubAuthACBSStatus_sameToken a env.statusNow) (fun hidle ↦ ?_) ?_
      · have hidle' : (updateEventHubAuthACBSStatus a env.statusNow).2.cbsStatus = .idle := hidle
        rcases updateEventHubAuthACBSStatus_status a env.statusNow with h | ⟨-, h⟩ | ⟨-, -, h | h⟩
        · rw [← h, hidle']
        all_goals simp [h] at hidle'
      · simp [TokenSession.answer, TokenView.see, EventHubAuthCBS.getStatus]
    · have hne' : (tokenView s.log).inForce ≠ none := by
        simpa [TokenSession.answer, TokenView.see, EventHubAuthCBS.getStatus] using hne
      simpa [TokenSession.answer, TokenView.see, EventHubAuthCBS.getStatus] using hs.guard hg hne'
  | authenticate env closing ha hopen hidle hgood =>
    exact hs.authenticate hexclusive ha hopen hidle env hgood
  | @refreshAuto a env closing ha hopen hrequired hgood =>
    have hcred := (hs.keeping hopen a ha).credential
    have heq : refresh parse a none env = ⟨.invalidArg, a, []⟩ := by
      simp only [refresh, hcred]
    have hclosing : closing = true := by
      by_contra hne
      have := hgood (Bool.not_eq_true _ ▸ hne)
      simp [heq] at this
    rw [heq]
    exact hs.refused hclosing fun _ h ↦ h
  | refreshExt env closing ha hopen hok htoken hgood =>
    exact hs.refreshExt hexclusive ha hopen hok htoken env hgood
  | @putComplete a r env ha hopen hputs =>
    obtain ⟨b, heq, hstatus, hconfig, htoken⟩ := putComplete_answer a r env
    have hb : b.cbsStatus ≠ .idle := by rcases hstatus with h | h <;> simp [h]
    rw [heq]
    refine ⟨hs.log.concat trivial, fun text htext ↦ ?_, fun _ c hc ↦ ?_, fun hg hne ↦ ?_,
      (by rintro ⟨⟩)⟩
    · simpa [TokenSession.answer, TokenView.see] using hs.waiting text htext
    · obtain rfl := Option.some.inj hc
      exact (hs.keeping hopen a ha).of_same hconfig htoken (fun h ↦ absurd h hb)
        (by simp [TokenSession.answer, TokenView.see])
    · have hne' : (tokenView s.log).inForce ≠ none := by
        simpa [TokenSession.answer, TokenView.see] using hne
      simpa [TokenSession.answer, TokenView.see] using hs.guard hg hne'
  | close => exact ⟨hs.log, hs.waiting, (by rintro ⟨⟩), hs.guard, hs.empty⟩
  | destroy hguard =>
    refine .of_none (hs.log.concat trivial) rfl (by simp [TokenView.see]) (fun text htext ↦ ?_)
      fun hg ↦ absurd hg hguard
    simpa [TokenView.see] using hs.waiting text htext
  | drop hnone =>
    refine .of_none (hs.log.concat trivial) hnone ?_ (by simp) fun _ ↦ ?_
    · simpa [TokenView.see] using hs.empty hnone
    · simp [TokenView.see]
  | destroyAndDrop =>
    refine .of_none (hs.log.append_of_forall fun e he past ↦ ?_) rfl (by simp [TokenView.see])
      (by simp) fun _ ↦ by simp [TokenView.see]
    rcases List.mem_pair.mp he with rfl | rfl <;> trivial

theorem Steps.presenting (hs : Presenting parse base guarded s) (hexclusive : Exclusive s)
    (h : Steps parse (FitsToken base) guarded s t) : Presenting parse base guarded t := by
  induction h with
  | refl => exact hs
  | tail hsteps hstep ih => exact hstep.presenting ih (Steps.exclusive hexclusive hsteps)

theorem presenting_of_empty : Presenting parse base guarded {} :=
  .of_none .nil rfl rfl nofun fun _ ↦ rfl

end TokenSession

end EventHubs
