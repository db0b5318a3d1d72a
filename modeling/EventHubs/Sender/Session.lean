import EventHubs.Auth.Session
import EventHubs.Sender.StackInvariant

/-!
# The token session of a sender

A sender does nothing to its tokens but what `TokenSession.Step` lists: it simulates a guarded token
session, in which the tear-down is under way while control is not steady. What holds of token
sessions therefore holds of every sender.

## Main definitions

* `SenderEvent.tokens`, `SenderState.tokenLog`, `SenderState.session`.
* `EventHubClientLL.Follows` — the simulation.

## Main results

* `EventHubClientLL.step_follows`, `EventHubClientLL.run_follows`.
-/

namespace EventHubs

/-- What an event says about tokens. `destroy_uamqp_stack` deletes the refresh token that waits. -/
def SenderEvent.tokens : SenderEvent → List TokenEvent
  | .refreshAccepted token => [.refreshAccepted token]
  | .authCreated => [.created]
  | .auth e => [.auth e]
  | .stackDestroyed => [.destroyed, .dropped]
  | _ => []

theorem SenderEvent.tokens_of_blind {e : SenderEvent} (h : e.blind = true) : e.tokens = [] := by
  cases e <;> first | rfl | cases h

theorem SenderEvent.tokens_of_forall {events : List SenderEvent}
    (h : ∀ e ∈ events, e.blind = true) : events.flatMap SenderEvent.tokens = [] :=
  List.flatMap_eq_nil_iff.mpr fun e he ↦ SenderEvent.tokens_of_blind (h e he)

theorem SenderEvent.tokens_auth (events : List AuthEvent) :
    (events.map SenderEvent.auth).flatMap SenderEvent.tokens = events.map TokenEvent.auth := by
  induction events with
  | nil => rfl
  | cons e events ih => exact congrArg (TokenEvent.auth e :: ·) ih

namespace SenderState

/-- What the log says about tokens. -/
def tokenLog {σ : Type} (s : SenderState σ) : List TokenEvent := s.log.flatMap SenderEvent.tokens

/-- The part of a sender that concerns tokens. -/
def session (s : SenderState EventHubAuthCBSStruct) (closing : Bool) : TokenSession where
  handle := s.client.cbsHandle
  extRefreshSASToken := s.client.extRefreshSASToken
  outstandingPuts := s.outstandingPuts
  closing := closing
  log := s.tokenLog

/-- What concerns tokens and the state of the stack are left alone. -/
structure Aside {σ : Type} (s t : SenderState σ) : Prop extends Unseen s t where
  amqpState : t.client.amqpState = s.client.amqpState

namespace Aside

variable {σ : Type} {s t u : SenderState σ}

theorem refl (s : SenderState σ) : Aside s s := ⟨.refl s, rfl⟩

theorem trans (h : Aside s t) (h' : Aside t u) : Aside s u :=
  ⟨h.toUnseen.trans h'.toUnseen, h'.amqpState.trans h.amqpState⟩

theorem of_control (s : SenderState σ) (c : SenderControl) : Aside s { s with control := c } :=
  ⟨⟨rfl, rfl, rfl, rfl, rfl, [], by simp, by simp⟩, rfl⟩

theorem tokenLog (h : Aside s t) : t.tokenLog = s.tokenLog := by
  obtain ⟨events, hlog, hblind⟩ := h.log
  rw [SenderState.tokenLog, hlog, List.flatMap_append, SenderEvent.tokens_of_forall hblind,
    List.append_nil, SenderState.tokenLog]

end Aside

theorem Offstage.aside {σ : Type} {s t : SenderState σ} (h : Offstage s t) : Aside s t :=
  ⟨h.unseen, h.amqpState⟩

theorem tokenLog_answer {σ α : Type} (s : SenderState σ) (x : Answer σ α) :
    (s.answer x).tokenLog = s.tokenLog ++ x.events.map .auth := by
  rw [tokenLog, answer, List.flatMap_append, SenderEvent.tokens_auth, tokenLog]

theorem Aside.session {s t : SenderState EventHubAuthCBSStruct} (h : Aside s t) (closing : Bool) :
    t.session closing = s.session closing := by
  rw [SenderState.session, h.cbsHandle, h.extRefreshSASToken, h.outstandingPuts, h.tokenLog,
    SenderState.session]

end SenderState

namespace EventHubClientLL

open SenderState EventHubAuthCBS

/-- The configurations from which a sender creates auth handles fit: all do, or those that have the
tokens of the one that was parsed from its SAS token. -/
def Based (fits : EventHubAuthCBSConfig → Prop) {σ : Type} (c : EventHubClientLL σ) : Prop :=
  (∀ cfg, fits cfg) ∨ c.credential = .sasTokenExt ∧ ∃ base, c.extSASTokenParseConfig = some base ∧
    ∀ timeout, fits { base with sasTokenAuthFailureTimeoutInSecs := timeout }

variable (parse : String → Option (String × UInt64)) (fits : EventHubAuthCBSConfig → Prop)

/-- The sender has come to its tokens by the steps of a guarded token session, and its state has
left `SENDER_AMQP_PENDING_AUTHORIZATION` behind only if a token was put on the present handle. -/
structure Follows (closing : Bool) (s : SenderState EventHubAuthCBSStruct) : Prop where
  based : Based fits s.client
  steps : TokenSession.Steps parse fits True {} (s.session closing)
  advanced : s.client.amqpState = .pendingSenderCreate ∨ s.client.amqpState = .initialized →
    (tokenView s.tokenLog).puts ≠ 0

variable {parse fits} {s t : SenderState EventHubAuthCBSStruct} {closing : Bool}

theorem Follows.aside (h : Follows parse fits closing s) (ha : Aside s t) :
    Follows parse fits closing t := by
  refine ⟨?_, ha.session closing ▸ h.steps, ?_⟩
  · rw [Based, ha.credential, ha.extSASTokenParseConfig]
    exact h.based
  · rw [ha.amqpState, ha.tokenLog]
    exact h.advanced

/-- A tear-down can begin at any time. -/
theorem Follows.close (h : Follows parse fits closing s) : Follows parse fits true s :=
  ⟨h.based, h.steps.tail .close, h.advanced⟩

theorem Follows.closing_of (h : Follows parse fits closing s) {c : Bool}
    (hc : c = false → closing = false) : Follows parse fits c s := by
  cases c with
  | true => exact h.close
  | false => exact hc rfl ▸ h

/-- What the steps of a session keep holds of the sender. -/
theorem Follows.exclusive (h : Follows parse fits closing s) :
    TokenSession.Exclusive (s.session closing) :=
  TokenSession.Steps.exclusive TokenSession.exclusive_of_empty h.steps

/-! ### Tear-down -/

theorem finish_follows (h : Follows parse fits closing s) (after : AfterDestroy) :
    Follows parse fits (!(afterDestroyUamqpStack (finishDestroyUamqpStack s) after).control.steady)
      (afterDestroyUamqpStack (finishDestroyUamqpStack s) after) := by
  have hlog : (finishDestroyUamqpStack s).tokenLog = s.tokenLog ++ [.destroyed, .dropped] := by
    rw [tokenLog, finishDestroyUamqpStack, List.flatMap_append, tokenLog]
    rfl
  have hfinish : Follows parse fits false (finishDestroyUamqpStack s) := by
    refine ⟨h.based, ?_, by simp [finishDestroyUamqpStack]⟩
    rw [session, hlog]
    exact h.steps.tail .destroyAndDrop
  cases after with
  | initFailed =>
    unfold afterDestroyUamqpStack SenderState.raise
    dsimp only
    split
    · exact hfinish.aside (.of_control _ _)
    · exact hfinish.aside ⟨⟨rfl, rfl, rfl, rfl, rfl, _, rfl, by simp [SenderEvent.blind]⟩, rfl⟩
  | «return» => exact hfinish.aside (.of_control _ _)
  | destroy => exact hfinish.aside (.of_control _ _)

theorem destroyUamqpStack_follows (h : Follows parse fits closing s) (after : AfterDestroy) :
    Follows parse fits (!(destroyUamqpStack s after).control.steady)
      (destroyUamqpStack s after) := by
  unfold destroyUamqpStack
  split_ifs
  · exact h.close.aside (.of_control _ _)
  · exact finish_follows h after

theorem raise_follows (h : Follows parse fits closing s) (r : EventHubClientErrorResult) :
    Follows parse fits (!(s.raise r .tearDown (destroyUamqpStack · .return)).control.steady)
      (s.raise r .tearDown (destroyUamqpStack · .return)) := by
  unfold SenderState.raise
  cases s.client.onErrorCb with
  | none => exact destroyUamqpStack_follows h _
  | some callback =>
    exact h.close.aside ⟨⟨rfl, rfl, rfl, rfl, rfl, _, rfl, by simp [SenderEvent.blind]⟩, rfl⟩

/-! ### Bring-up -/

theorem createHandle_aside (env : DoWorkEnv AuthEnv) (call : SenderCall) (field : StackField) :
    Attempt.Frame Aside (createHandle (σ := EventHubAuthCBSStruct) env call field) := by
  intro s
  refine ⟨createHandle_unseen env call field s, ?_⟩
  unfold createHandle
  split_ifs <;> rfl

theorem passHandle_aside (call : StackCall) (field : StackField) :
    Attempt.Frame Aside (passHandle (σ := EventHubAuthCBSStruct) call field) := fun s ↦
  ⟨.pass s call field, rfl⟩

theorem initializeUamqpSenderStack_aside (env : DoWorkEnv AuthEnv) :
    Attempt.Frame (Aside (σ := EventHubAuthCBSStruct)) (initializeUamqpSenderStack env) := by
  unfold initializeUamqpSenderStack
  repeat' first
    | exact .check .refl
    | exact passHandle_aside _ _
    | exact createHandle_aside env _ _
    | refine .bind .trans ?_ fun _ ↦ ?_

variable (parse fits) in
/-- A sender whose bring-up has not come to its auth handle. -/
structure Bare (s : SenderState EventHubAuthCBSStruct) : Prop extends Follows parse fits false s
    where
  none : s.client.cbsHandle = none
  amqpState : s.client.amqpState = .uninitialized

theorem Bare.aside (h : Bare parse fits s) (ha : Aside s t) : Bare parse fits t :=
  ⟨h.toFollows.aside ha, ha.cbsHandle.trans h.none, ha.amqpState.trans h.amqpState⟩

theorem Based.writeAuthTimeout {c : EventHubClientLL EventHubAuthCBSStruct} (h : Based fits c) :
    Based fits (writeAuthTimeout c) := by
  refine h.imp_right fun ⟨hcred, base, hbase, hfits⟩ ↦ ?_
  rw [EventHubClientLL.writeAuthTimeout, if_neg (by simp [hcred]), authConfig,
    if_neg (by simp [hcred]), hbase]
  exact ⟨hcred, _, rfl, hfits⟩

theorem Based.authConfig {c : EventHubClientLL EventHubAuthCBSStruct} (h : Based fits c)
    {cfg : EventHubAuthCBSConfig} (hcfg : authConfig c = some cfg) : fits cfg := by
  rcases h with hall | ⟨hcred, base, hbase, hfits⟩
  · exact hall cfg
  · rw [EventHubClientLL.authConfig, if_neg (by simp [hcred]), hbase, Option.map_some,
      Option.some.injEq] at hcfg
    exact hcfg ▸ hfits _

theorem createSASToken_follows (env : DoWorkEnv AuthEnv) :
    Attempt.Spec (Bare parse fits) (createSASToken (authModule parse) env)
      (fun _ ↦ Follows parse fits false) (Follows parse fits false) := by
  unfold createSASToken
  have hwrite : ∀ s, Bare parse fits s →
      Bare parse fits { s with client := writeAuthTimeout s.client } := by
    intro s hs
    have hbased := hs.based.writeAuthTimeout
    unfold writeAuthTimeout at hbased ⊢
    split_ifs at hbased ⊢
    · exact hs
    · exact ⟨⟨hbased, hs.steps, hs.advanced⟩, hs.none, hs.amqpState⟩
  refine .bind (Q := fun _ ↦ Bare parse fits) (.update hwrite) fun _ ↦ ?_
  refine .bind (((passHandle_aside _ _).spec fun _ _ hs h ↦ hs.aside h).mono (fun _ h ↦ h)
    (fun _ _ h ↦ h) fun _ h ↦ h.toFollows) fun _ ↦ ?_
  refine .bind (Q := fun s t ↦ Bare parse fits t ∧ s = t) (.read fun _ hs ↦ ⟨hs, rfl⟩) fun s ↦ ?_
  refine .bind (Q := fun _ ↦ Follows parse fits false) (.update ?_) fun _ ↦ .keep fun _ hs ↦ hs
  rintro t ⟨ht, rfl⟩
  cases ha : (authConfig s.client).bind
      fun cfg ↦ (authModule parse).create cfg (s.client.stack .session) env.create with
  | none =>
    refine ht.toFollows.aside ⟨⟨ht.none.symm, rfl, rfl, rfl, rfl, _, rfl, ?_⟩, rfl⟩
    simp [SenderEvent.blind]
  | some a =>
    obtain ⟨cfg, hcfg, hcreate⟩ := Option.bind_eq_some_iff.mp ha
    have hlog : (s.storeCBS (some a)).tokenLog = s.tokenLog ++ [.created] := by
      rw [tokenLog, storeCBS, List.flatMap_append, tokenLog]
      rfl
    refine ⟨ht.based, ?_, fun hstate ↦ ?_⟩
    · rw [session, hlog]
      exact ht.steps.tail
        (.create (authModule_create hcreate) (ht.based.authConfig hcfg) ht.none rfl
        fun h ↦ absurd trivial h)
    · have hstate' : s.client.amqpState = .pendingSenderCreate ∨
          s.client.amqpState = .initialized := hstate
      simp [ht.amqpState] at hstate'

theorem initializeFirst_follows (env : DoWorkEnv AuthEnv) :
    Attempt.Spec (Bare parse fits) (initializeFirst (authModule parse) env)
      (fun _ ↦ Follows parse fits false) (Follows parse fits false) := by
  unfold initializeFirst
  refine .bind (Q := fun _ ↦ Bare parse fits)
    (.update fun s hs ↦ ⟨⟨hs.1.1, hs.1.2, hs.1.3⟩, hs.none, hs.amqpState⟩) fun _ ↦ ?_
  refine .bind (Q := fun _ ↦ Follows parse fits false) ?_ fun _ ↦
    .update fun s hs ↦ ⟨hs.1, hs.2, by simp⟩
  unfold initializeUamqpStackCommon
  repeat first
    | refine .bind (.keep fun _ h ↦ h.toFollows) fun _ ↦ ?_
    | refine .bind (((passHandle_aside _ _).spec fun _ _ hs h ↦ hs.aside h).mono
        (fun _ h ↦ h) (fun _ _ h ↦ h) fun _ h ↦ Bare.toFollows h) fun _ ↦ ?_
    | refine .bind (((createHandle_aside env _ _).spec fun _ _ hs h ↦ hs.aside h).mono
        (fun _ h ↦ h) (fun _ _ h ↦ h) fun _ h ↦ Bare.toFollows h) fun _ ↦ ?_
  exact createSASToken_follows env

theorem initializeSecond_follows (env : DoWorkEnv AuthEnv) :
    Attempt.Spec (fun s ↦ Follows parse fits false s ∧ s.client.amqpState = .pendingSenderCreate)
      (initializeSecond env) (fun _ ↦ Follows parse fits false) (Follows parse fits false) := by
  refine .bind (((initializeUamqpSenderStack_aside env).spec
    (P := fun s ↦ Follows parse fits false s ∧ s.client.amqpState = .pendingSenderCreate)
    fun _ _ hs h ↦ ⟨hs.1.aside h, h.amqpState.trans hs.2⟩).mono (fun _ h ↦ h)
    (fun _ _ h ↦ h) fun _ h ↦ h.1) fun _ ↦ ?_
  exact .update fun s hs ↦ ⟨hs.1.1, hs.1.2, fun _ ↦ hs.1.3 (Or.inl hs.2)⟩

theorem initializeUamqpStack_follows (env : DoWorkEnv AuthEnv) :
    Attempt.Spec (fun s ↦ Follows parse fits false s ∧
        (s.client.amqpState = .uninitialized → s.client.cbsHandle = none) ∧
        (s.client.amqpState = .uninitialized ∨ s.client.amqpState = .pendingSenderCreate))
      (initializeUamqpStack (authModule parse) env) (fun _ ↦ Follows parse fits false)
      (Follows parse fits false) := by
  rintro s ⟨hs, hnone, hstate⟩
  unfold initializeUamqpStack
  by_cases huninit : s.client.amqpState = .uninitialized
  · rw [if_pos huninit]
    exact initializeFirst_follows env s ⟨hs, hnone huninit, huninit⟩
  · rw [if_neg huninit]
    exact initializeSecond_follows env s ⟨hs, hstate.resolve_left huninit⟩

/-! ### Authentication -/

/-- A call on the auth handle, which may take the waiting refresh token, is a step of the
session. -/
theorem Follows.answer {α : Type} {call : StackCall} {x : Answer EventHubAuthCBSStruct α}
    {c : Bool} {waiting : Option String} (h : Follows parse fits false s)
    (hstep : TokenSession.Step parse fits True (s.session false)
      { (s.session false).answer x with extRefreshSASToken := waiting, closing := c }) :
    Follows parse fits c { (s.passCBS call).answer x with
      client := { ((s.passCBS call).answer x).client with extRefreshSASToken := waiting } } := by
  have hpassed : Aside s (s.passCBS call) := ⟨.passCBS s call, rfl⟩
  have hlog : ((s.passCBS call).answer x).tokenLog = s.tokenLog ++ x.events.map .auth := by
    rw [tokenLog_answer, hpassed.tokenLog]
  refine ⟨h.based, ?_, fun hstate ↦ ?_⟩
  · have hsame : ({ (s.passCBS call).answer x with
        client := { ((s.passCBS call).answer x).client with extRefreshSASToken := waiting } } :
        SenderState EventHubAuthCBSStruct).session c =
        { (s.session false).answer x with extRefreshSASToken := waiting, closing := c } := by
      change TokenSession.mk _ _ _ _ ((s.passCBS call).answer x).tokenLog = _
      rw [hlog]
      rfl
    exact hsame ▸ h.steps.tail hstep
  · have hmade := h.advanced hstate
    change (tokenView ((s.passCBS call).answer x).tokenLog).puts ≠ 0
    rw [hlog, tokenView_append]
    have := (TokenView.foldl_auth x.events (tokenView s.tokenLog)).1
    omega

/-- An authorised sender may create its link. -/
theorem proceed_follows {a : EventHubAuthCBSStruct} (h : Follows parse fits false s)
    (ha : s.client.cbsHandle = some a) (hok : a.cbsStatus = .ok) :
    Follows parse fits false (refreshExtOrProceed.proceed s) := by
  have hmade : (tokenView s.tokenLog).puts ≠ 0 := fun hnone ↦ by
    simpa [hok] using (h.exclusive.settled rfl a ha).fresh.mpr hnone
  unfold refreshExtOrProceed.proceed
  split_ifs
  · exact ⟨h.based, h.steps, fun _ ↦ hmade⟩
  · exact h

theorem onStatus_follows {a : EventHubAuthCBSStruct} {status : EventHubAuthStatus} {c : Bool}
    (h : Follows parse fits c s) (ha : s.client.cbsHandle = some a) (hstatus : a.cbsStatus = status)
    (hc : status ≠ .failure → status ≠ .expired → status ≠ .timeout → c = false)
    (env : DoWorkEnv AuthEnv) :
    Follows parse fits (onStatus (authModule parse) s a env status).2.ends
      (onStatus (authModule parse) s a env status).1 := by
  cases status with
  | failure => exact h.close
  | expired => exact h.close
  | timeout => exact h.close
  | inProgress =>
    obtain rfl := hc (by simp) (by simp) (by simp)
    exact h
  | refreshRequired =>
    obtain rfl := hc (by simp) (by simp) (by simp)
    exact h.answer (.refreshAuto env.put _ ha rfl hstatus AuthOutcome.eq_ok_of_ends)
  | idle =>
    obtain rfl := hc (by simp) (by simp) (by simp)
    exact h.answer (.authenticate env.put _ ha rfl hstatus AuthOutcome.eq_ok_of_ends)
  | ok =>
    obtain rfl := hc (by simp) (by simp) (by simp)
    have hproceed := proceed_follows h ha hstatus
    unfold onStatus refreshExtOrProceed
    cases htoken : s.client.extRefreshSASToken with
    | none => exact hproceed
    | some token =>
      dsimp only
      by_cases hcred : s.client.credential = .sasTokenExt
      · rw [if_pos hcred]
        exact h.answer (.refreshExt env.put _ ha rfl hstatus htoken AuthOutcome.eq_ok_of_ends)
      · rw [if_neg hcred]
        exact hproceed

theorem handleSASTokenAuth_follows (h : Follows parse fits false s) (env : DoWorkEnv AuthEnv) :
    Follows parse fits (handleSASTokenAuth (authModule parse) s env).2.ends
      (handleSASTokenAuth (authModule parse) s env).1 := by
  unfold handleSASTokenAuth
  cases ha : s.client.cbsHandle with
  | none => exact (h.aside ⟨.passCBS s _, rfl⟩).close
  | some a =>
    dsimp only
    have hstep : ∀ c, (c = false → (getStatus a env.status).value.1 = .ok ∧
        (getStatus a env.status).value.2 ≠ .failure ∧
        (getStatus a env.status).value.2 ≠ .expired ∧
        (getStatus a env.status).value.2 ≠ .timeout) →
        Follows parse fits c ((s.passCBS .eventHubAuthCBSGetStatus).answer
          (getStatus a env.status)) := fun c hc ↦ h.answer (.getStatus env.status c ha rfl hc)
    split_ifs with hok
    · exact hstep true nofun
    · by_cases hends : (getStatus a env.status).value.2 = .failure ∨
          (getStatus a env.status).value.2 = .expired ∨
          (getStatus a env.status).value.2 = .timeout
      · refine onStatus_follows (hstep true nofun) rfl rfl (fun h₁ h₂ h₃ ↦ ?_) env
        exact absurd hends (not_or.mpr ⟨h₁, not_or.mpr ⟨h₂, h₃⟩⟩)
      · simp only [not_or] at hends
        exact onStatus_follows (hstep false fun _ ↦ ⟨not_not.mp hok, hends⟩) rfl rfl
          (fun _ _ _ ↦ rfl) env

/-! ### `EventHubClient_LL_DoWork` -/

theorem afterAuth_follows {outcome : AuthOutcome} (h : Follows parse fits outcome.ends s) :
    Follows parse fits (!(afterAuth s outcome).control.steady) (afterAuth s outcome) := by
  cases outcome with
  | failed => exact raise_follows h _
  | timeout => exact raise_follows h _
  | inProgress =>
    exact h.aside ⟨⟨rfl, rfl, rfl, rfl, rfl, _, rfl, by simp [SenderEvent.blind]⟩, rfl⟩
  | done =>
    unfold afterAuth openAndSend
    dsimp only
    split_ifs
    · exact h.aside ⟨⟨rfl, rfl, rfl, rfl, rfl, _, rfl, by simp [SenderEvent.blind]⟩, rfl⟩
    · exact h.aside (.of_control _ _)
    · exact h.aside (.of_control _ _)

theorem doWorkInitialized_follows (h : Follows parse fits false s) (env : DoWorkEnv AuthEnv) :
    Follows parse fits (!(doWorkInitialized (authModule parse) s env).control.steady)
      (doWorkInitialized (authModule parse) s env) := by
  unfold doWorkInitialized
  split_ifs
  · exact destroyUamqpStack_follows h _
  · exact afterAuth_follows (handleSASTokenAuth_follows h env)

theorem doWork_follows (h : Follows parse fits false s)
    (hnone : s.client.amqpState = .uninitialized → s.client.cbsHandle = none)
    (env : DoWorkEnv AuthEnv) :
    Follows parse fits (!(doWork (authModule parse) s env).control.steady)
      (doWork (authModule parse) s env) := by
  have hstart : Follows parse fits false (s.emit [.doWork]) := by
    refine ⟨h.based, ?_, ?_⟩
    · have hsame : (s.emit [.doWork]).session false = s.session false := by
        simp [session, tokenLog, SenderState.emit, SenderEvent.tokens]
      exact hsame ▸ h.steps
    · have hsame : (s.emit [.doWork]).tokenLog = s.tokenLog := by
        simp [tokenLog, SenderState.emit, SenderEvent.tokens]
      rw [hsame]
      exact h.advanced
  have hnone' : (s.emit [.doWork]).client.amqpState = .uninitialized →
      (s.emit [.doWork]).client.cbsHandle = none := hnone
  unfold doWork
  dsimp only
  generalize s.emit [.doWork] = u at hstart hnone' ⊢
  split_ifs with hstate
  · have hinit := initializeUamqpStack_follows env u ⟨hstart, hnone', by simpa using hstate⟩
    generalize initializeUamqpStack (authModule parse) env u = x at hinit ⊢
    rcases x with ⟨_ | _, t⟩
    · exact destroyUamqpStack_follows hinit _
    · exact doWorkInitialized_follows hinit env
  · exact doWorkInitialized_follows hstart env

/-! ### Steps and runs -/

theorem step_follows {i : SenderInput AuthEnv} (h : Follows parse fits (!s.control.steady) s)
    (hstack : StackInv s) (hstep : step (authModule parse) s i = some t) :
    Follows parse fits (!t.control.steady) t := by
  have hclosing : ∀ {u : SenderState EventHubAuthCBSStruct}, Offstage s u →
      Follows parse fits (!u.control.steady) u := fun {u} hu ↦ by
    refine (h.aside hu.aside).closing_of fun hc ↦ ?_
    have hsteady := hu.steady (by simpa using hc)
    simp [hsteady]
  have hopen : s.control.steady = true → Follows parse fits false s := fun hsteady ↦ by
    rwa [hsteady] at h
  cases step_act (authModule parse) hstep with
  | offstage hu => exact hclosing hu
  | refresh text hcred hstate hpending =>
    have hlog : ({ s with
        client := { s.client with extRefreshSASToken := some text }
        log := s.log ++ [.refreshAccepted text] } : SenderState EventHubAuthCBSStruct).tokenLog =
        s.tokenLog ++ [.refreshAccepted text] := by
      rw [tokenLog, List.flatMap_append, tokenLog]
      rfl
    have hmade := h.advanced (Or.inr hstate)
    refine ⟨h.based, ?_, fun _ ↦ ?_⟩
    · rw [session, hlog]
      exact h.steps.tail (.refreshAccepted text hpending fun _ ↦ hmade)
    · rw [hlog]
      simpa [TokenView.see] using hmade
  | doWork env hidle =>
    refine doWork_follows (hopen (by rw [hidle]; rfl)) (fun hstate ↦ ?_) env
    have hconsistent := hstack.consistent
    simp only [StackConsistent, hstate] at hconsistent
    exact hconsistent.2.1
  | connectionDowork hloop =>
    exact (hopen (by rw [hloop]; rfl)).aside
      ⟨⟨rfl, rfl, rfl, rfl, rfl, _, rfl, by simp [SenderEvent.blind]⟩, rfl⟩
  | @handOver u e message taken hu hsending =>
    have hsteady := SenderControl.steady_of_sending hsending
    have hfollows := (hopen hsteady).aside hu.aside
    have hlog : (handOver u e message taken).tokenLog = u.tokenLog := by
      simp [tokenLog, handOver, SenderState.pass, SenderState.emit, SenderState.waitForAck,
        SenderEvent.tokens]
    refine ⟨hfollows.based, ?_, ?_⟩
    · rw [session, hlog]
      exact hfollows.steps
    · rw [hlog]
      exact hfollows.advanced
  | @putComplete a r env hcall ha hputs =>
    have hfollows := hopen (by rw [hcall]; rfl)
    have hlog : (EventHubClientLL.onCBSPutTokenOperationComplete (authModule parse) s a r
        env).tokenLog = s.tokenLog ++
          ((authModule parse).onCBSPutTokenOperationComplete a r env).events.map .auth :=
      tokenLog_answer s _
    have hsteady : (EventHubClientLL.onCBSPutTokenOperationComplete (authModule parse) s a r
        env).control.steady = true := by
      change s.control.steady = true
      rw [hcall]
      rfl
    rw [hsteady]
    refine ⟨h.based, ?_, fun hstate ↦ ?_⟩
    · rw [session, hlog]
      have hnext := hfollows.steps.tail (.putComplete r env ha rfl hputs)
      cases r <;> exact hnext
    · have hmade := h.advanced hstate
      rw [hlog, tokenView_append]
      have := (TokenView.foldl_auth ((authModule parse).onCBSPutTokenOperationComplete a r
        env).events (tokenView s.tokenLog)).1
      omega
  | dismantle after hu => exact destroyUamqpStack_follows (hclosing hu) after
  | finish after _ => exact finish_follows h after

theorem created_follows {c : EventHubClientLL EventHubAuthCBSStruct} (hc : Created c)
    (hbased : Based fits c) : Follows parse fits false { client := c } := by
  have hsession : ({ client := c } : SenderState EventHubAuthCBSStruct).session false = {} := by
    cases hc <;> rfl
  refine ⟨hbased, hsession ▸ .refl, ?_⟩
  cases hc <;> simp [createdFromConnectionString, createdFromSASToken]

/-- Every run of a sender is a run of a guarded token session. -/
theorem run_follows {c : EventHubClientLL EventHubAuthCBSStruct} (hc : Created c)
    (hbased : Based fits c) {is : List (SenderInput AuthEnv)}
    (hrun : (senderMachine (authModule parse)).run { client := c } is = some t) :
    Follows parse fits (!t.control.steady) t := by
  have hstep : ∀ s i t, StackInv s ∧ Follows parse fits (!s.control.steady) s →
      (senderMachine (authModule parse)).step s i = some t →
      StackInv t ∧ Follows parse fits (!t.control.steady) t :=
    fun _ _ _ hs h ↦ ⟨step_stackInv _ hs.1 h, step_follows hs.2 hs.1 h⟩
  exact (Machine.run_invariant hstep ⟨created_stackInv hc, created_follows hc hbased⟩ hrun).2

end EventHubClientLL

end EventHubs
