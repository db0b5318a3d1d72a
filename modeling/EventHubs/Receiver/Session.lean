import EventHubs.Auth.Session
import EventHubs.Receiver.Spec

/-!
# The token session of a receiver

A receiver does nothing to its tokens but what `TokenSession.Step` lists. Unlike a sender it accepts
a refresh token whenever a reception is active, also before the stack is up, and keeps it when a
bring-up fails: its token session is not guarded.

## Main definitions

* `ReceiverEvent.tokens`, `ReceiverState.tokenLog`, `ReceiverState.session`.
* `ReceiverControl.steady` — no tear-down of the stack is under way.
* `EventHubReceiverLL.Follows` — the simulation.

## Main results

* `EventHubReceiverLL.step_follows`, `EventHubReceiverLL.run_follows`.
-/

namespace EventHubs

/-- What an event says about tokens. `TeardownReceiverStack` deletes the refresh token that
waits. -/
def ReceiverEvent.tokens : ReceiverEvent → List TokenEvent
  | .refreshAccepted token => [.refreshAccepted token]
  | .authCreated => [.created]
  | .auth e => [.auth e]
  | .stackDestroyed => [.destroyed]
  | .tornDown => [.dropped]
  | _ => []

theorem ReceiverEvent.tokens_auth (events : List AuthEvent) :
    (events.map ReceiverEvent.auth).flatMap ReceiverEvent.tokens = events.map TokenEvent.auth := by
  induction events with
  | nil => rfl
  | cons e events ih => exact congrArg (TokenEvent.auth e :: ·) ih

namespace ReceiverControl

/-- The call is `messagereceiver_close` or `messagereceiver_destroy`. -/
def destroys : ReceiverUamqpCall → Bool
  | .messagereceiverDestroy _ => true
  | _ => false

/-- No tear-down of the stack is under way. -/
def steady : ReceiverControl → Bool
  | .undefinedBehaviour => false
  | .errorCb .teardown => false
  | c => !(c.call.any destroys)

end ReceiverControl

namespace ReceiverState

/-- What the log says about tokens. -/
def tokenLog {σ : Type} (s : ReceiverState σ) : List TokenEvent :=
  s.log.flatMap ReceiverEvent.tokens

/-- The part of a receiver that concerns tokens. -/
def session (s : ReceiverState EventHubAuthCBSStruct) (closing : Bool) : TokenSession where
  handle := s.client.cbsHandle
  extRefreshSASToken := s.client.extRefreshSASToken
  outstandingPuts := s.outstandingPuts
  closing := closing
  log := s.tokenLog

/-- What concerns tokens and the state of the stack are left alone. -/
structure Aside {σ : Type} (s t : ReceiverState σ) : Prop where
  cbsHandle : t.client.cbsHandle = s.client.cbsHandle
  extRefreshSASToken : t.client.extRefreshSASToken = s.client.extRefreshSASToken
  connectionParams : t.client.connectionParams = s.client.connectionParams
  outstandingPuts : t.outstandingPuts = s.outstandingPuts
  amqpState : t.client.receiverAMQPConnectionState = s.client.receiverAMQPConnectionState
  tokenLog : t.tokenLog = s.tokenLog

namespace Aside

variable {σ : Type} {s t u : ReceiverState σ}

theorem refl (s : ReceiverState σ) : Aside s s := ⟨rfl, rfl, rfl, rfl, rfl, rfl⟩

theorem trans (h : Aside s t) (h' : Aside t u) : Aside s u :=
  ⟨h'.1.trans h.1, h'.2.trans h.2, h'.3.trans h.3, h'.4.trans h.4, h'.5.trans h.5,
    h'.6.trans h.6⟩

/-- Control changes, and fields of the client that do not concern tokens. -/
theorem of_client (hclient : t.client.cbsHandle = s.client.cbsHandle ∧
      t.client.extRefreshSASToken = s.client.extRefreshSASToken ∧
      t.client.connectionParams = s.client.connectionParams ∧
      t.client.receiverAMQPConnectionState = s.client.receiverAMQPConnectionState)
    (hputs : t.outstandingPuts = s.outstandingPuts) {events : List ReceiverEvent}
    (hlog : t.log = s.log ++ events) (hevents : events.flatMap ReceiverEvent.tokens = []) :
    Aside s t := by
  refine ⟨hclient.1, hclient.2.1, hclient.2.2.1, hputs, hclient.2.2.2, ?_⟩
  rw [ReceiverState.tokenLog, hlog, List.flatMap_append, hevents, List.append_nil,
    ReceiverState.tokenLog]

theorem of_control (s : ReceiverState σ) (c : ReceiverControl) :
    Aside s { s with control := c } := ⟨rfl, rfl, rfl, rfl, rfl, rfl⟩

theorem pass (s : ReceiverState σ) (call : ReceiverStackCall) (field : ReceiverField) :
    Aside s (s.pass call field) := .of_client ⟨rfl, rfl, rfl, rfl⟩ rfl rfl rfl

theorem passCBS (s : ReceiverState σ) (call : ReceiverStackCall) : Aside s (s.passCBS call) :=
  .of_client ⟨rfl, rfl, rfl, rfl⟩ rfl rfl rfl

theorem session {s t : ReceiverState EventHubAuthCBSStruct} (h : Aside s t) (closing : Bool) :
    t.session closing = s.session closing := by
  rw [ReceiverState.session, h.cbsHandle, h.extRefreshSASToken, h.outstandingPuts, h.tokenLog,
    ReceiverState.session]

end Aside

theorem tokenLog_answer {σ α : Type} (s : ReceiverState σ) (x : Answer σ α) :
    (s.answer x).tokenLog = s.tokenLog ++ x.events.map .auth := by
  rw [tokenLog, answer, List.flatMap_append, ReceiverEvent.tokens_auth, tokenLog]

end ReceiverState

namespace EventHubReceiverLL

open ReceiverState EventHubAuthCBS

/-- The configurations from which a receiver creates auth handles fit: all do, or those that have
the tokens of the one that was parsed from its SAS token. -/
def Based (fits : EventHubAuthCBSConfig → Prop) {σ : Type} (c : EventHubReceiverLL σ) : Prop :=
  (∀ cfg, fits cfg) ∨ ∃ base, c.connectionParams.extSASTokenConfig = some base ∧
    ∀ timeout, fits { base with sasTokenAuthFailureTimeoutInSecs := timeout }

variable (parse : String → Option (String × UInt64)) (fits : EventHubAuthCBSConfig → Prop)

/-- The receiver has come to its tokens by the steps of a token session. -/
structure Reached (closing : Bool) (s : ReceiverState EventHubAuthCBSStruct) : Prop where
  based : Based fits s.client
  steps : TokenSession.Steps parse fits False {} (s.session closing)

/-- Moreover, without a stack there is no auth handle, and the refresh token in force is waiting. -/
structure Follows (closing : Bool) (s : ReceiverState EventHubAuthCBSStruct) : Prop
    extends Reached parse fits closing s where
  fresh : s.client.receiverAMQPConnectionState = .uninitialized → s.client.cbsHandle = none ∧
    (tokenView s.tokenLog).inForce = s.client.extRefreshSASToken

variable {parse fits} {s t : ReceiverState EventHubAuthCBSStruct} {closing : Bool}

theorem Follows.aside (h : Follows parse fits closing s) (ha : Aside s t) :
    Follows parse fits closing t := by
  refine ⟨⟨?_, ha.session closing ▸ h.steps⟩, ?_⟩
  · rw [Based, ha.connectionParams]
    exact h.based
  · rw [ha.amqpState, ha.cbsHandle, ha.tokenLog, ha.extRefreshSASToken]
    exact h.fresh

/-- A tear-down can begin at any time. -/
theorem Follows.close (h : Follows parse fits closing s) : Follows parse fits true s :=
  ⟨⟨h.based, h.steps.tail .close⟩, h.fresh⟩

/-- What the steps of a session keep holds of the receiver. -/
theorem Reached.exclusive (h : Reached parse fits closing s) :
    TokenSession.Exclusive (s.session closing) :=
  TokenSession.Steps.exclusive TokenSession.exclusive_of_empty h.steps

/-- A handle is there only together with a stack. -/
theorem Follows.initialized (h : Follows parse fits closing s) {a : EventHubAuthCBSStruct}
    (ha : s.client.cbsHandle = some a) :
    s.client.receiverAMQPConnectionState ≠ .uninitialized := fun hstate ↦ by
  simp [(h.fresh hstate).1] at ha

/-! ### Tear-down -/

theorem finish_follows (h : Follows parse fits closing s) :
    Follows parse fits false (finishDeInitializeStack s) := by
  have hlog : (finishDeInitializeStack s).tokenLog = s.tokenLog ++ [.destroyed] := by
    rw [tokenLog, finishDeInitializeStack, List.flatMap_append, tokenLog]
    rfl
  refine ⟨⟨h.based, ?_⟩, fun hstate ↦ ⟨rfl, ?_⟩⟩
  · rw [session, hlog]
    exact h.steps.tail (.destroy not_false)
  · have hforce := (h.fresh hstate).2
    rw [hlog, tokenView_append]
    exact hforce

theorem resetReceiver_follows (h : Follows parse fits closing s)
    (hnone : s.client.cbsHandle = none) :
    Follows parse fits false (resetReceiver s) := by
  have hlog : (resetReceiver s).tokenLog = s.tokenLog ++ [.dropped] := by
    rw [tokenLog, resetReceiver, List.flatMap_append, tokenLog]
    rfl
  refine ⟨⟨h.based, ?_⟩, fun _ ↦ ⟨hnone, ?_⟩⟩
  · rw [session, hlog]
    exact h.steps.tail (.drop hnone)
  · rw [hlog]
    simp [TokenView.see, resetReceiver]

theorem afterDeInitialize_follows (h : Follows parse fits closing s) (after : AfterDeInitialize) :
    Follows parse fits
      (!(afterDeInitialize (finishDeInitializeStack s) after).control.steady)
      (afterDeInitialize (finishDeInitializeStack s) after) := by
  have hfinish := finish_follows h
  cases after with
  | bringUpFailed => exact hfinish.aside (.of_client ⟨rfl, rfl, rfl, rfl⟩ rfl rfl rfl)
  | teardown after =>
    have hreset := resetReceiver_follows hfinish rfl
    simp only [afterDeInitialize]
    cases after with
    | endReception =>
      unfold afterTeardown
      dsimp only
      split
      · exact hreset.aside (.of_client ⟨rfl, rfl, rfl, rfl⟩ rfl rfl rfl)
      · exact hreset.aside (.of_control _ _)
    | resetReception => exact hreset.aside (.of_control _ _)
    | destroy => exact hreset.aside (.of_control _ _)

theorem deInitializeStack_follows (h : Follows parse fits closing s) (after : AfterDeInitialize) :
    Follows parse fits (!(deInitializeStack s after).control.steady)
      (deInitializeStack s after) := by
  unfold deInitializeStack
  split_ifs
  · exact h.close.aside (.of_control _ _)
  · exact afterDeInitialize_follows h after

/-! ### Bring-up -/

theorem createHandle_aside (env : ReceiverEnv AuthEnv) (call : ReceiverCall)
    (field : ReceiverField) :
    Attempt.Frame Aside (createHandle (σ := EventHubAuthCBSStruct) env call field) := by
  intro s
  unfold createHandle
  split_ifs
  · exact .of_client ⟨rfl, rfl, rfl, rfl⟩ rfl rfl rfl
  · exact .of_client ⟨rfl, rfl, rfl, rfl⟩ rfl rfl rfl

theorem passHandle_aside (call : ReceiverStackCall) (field : ReceiverField) :
    Attempt.Frame Aside (passHandle (σ := EventHubAuthCBSStruct) call field) := fun s ↦
  .pass s call field

theorem initializeStackReceiver_aside (env : ReceiverEnv AuthEnv) :
    Attempt.Frame (Aside (σ := EventHubAuthCBSStruct)) (initializeStackReceiver env) := by
  unfold initializeStackReceiver initializeSource
  repeat' first
    | exact .check .refl
    | exact passHandle_aside _ _
    | exact createHandle_aside env _ _
    | refine .bind .trans ?_ fun _ ↦ ?_

variable (parse fits) in
/-- A receiver whose bring-up has not come to its auth handle. -/
structure Bare (s : ReceiverState EventHubAuthCBSStruct) : Prop extends Follows parse fits false s
    where
  amqpState : s.client.receiverAMQPConnectionState = .uninitialized

theorem Bare.aside (h : Bare parse fits s) (ha : Aside s t) : Bare parse fits t :=
  ⟨h.toFollows.aside ha, ha.amqpState.trans h.amqpState⟩

theorem Based.writeWaitTime {c : EventHubReceiverLL EventHubAuthCBSStruct} (h : Based fits c) :
    Based fits (writeWaitTime c) := by
  refine h.imp_right fun ⟨base, hbase, hfits⟩ ↦ ?_
  simp only [EventHubReceiverLL.writeWaitTime, authConfig, hbase]
  exact ⟨_, rfl, hfits⟩

theorem Based.authConfig {c : EventHubReceiverLL EventHubAuthCBSStruct} (h : Based fits c) :
    fits (authConfig c) := by
  rcases h with hall | ⟨base, hbase, hfits⟩
  · exact hall _
  · simp only [EventHubReceiverLL.authConfig, hbase]
    exact hfits _

/-- A handle that `CreateSasToken` makes is the first since the last tear-down. -/
theorem createSasToken_reached (env : ReceiverEnv AuthEnv) :
    Attempt.Spec (Bare parse fits) (createSasToken (authModule parse) env)
      (fun _ ↦ Reached parse fits false) (Follows parse fits false) := by
  unfold createSasToken
  refine .bind (Q := fun _ ↦ Bare parse fits) (.update fun s hs ↦ ?_) fun _ ↦ ?_
  · exact ⟨⟨⟨hs.based.writeWaitTime, hs.steps⟩, hs.fresh⟩, hs.amqpState⟩
  refine .bind (((passHandle_aside _ _).spec fun _ _ hs h ↦ hs.aside h).mono (fun _ h ↦ h)
    (fun _ _ h ↦ h) fun _ h ↦ h.toFollows) fun _ ↦ ?_
  refine .bind (Q := fun s t ↦ Bare parse fits t ∧ s = t) (.read fun _ hs ↦ ⟨hs, rfl⟩) fun s ↦ ?_
  cases ha : (authModule parse).create (authConfig s.client) (s.client.stack .session)
      env.create with
  | none =>
    refine .bind (Q := fun _ ↦ Follows parse fits false) (.update ?_) fun _ ↦ ?_
    · rintro t ⟨ht, rfl⟩
      exact ht.toFollows.aside
        (.of_client ⟨(ht.fresh ht.amqpState).1.symm, rfl, rfl, rfl⟩ rfl rfl rfl)
    · exact .check (fun _ _ hb ↦ absurd hb (by simp)) fun _ hs _ ↦ hs
  | some a =>
    refine .bind (Q := fun _ ↦ Reached parse fits false) (.update ?_) fun _ ↦ ?_
    · rintro t ⟨ht, rfl⟩
      obtain ⟨hnone, hwaits⟩ := ht.fresh ht.amqpState
      have hlog : (s.storeCBS (some a)).tokenLog = s.tokenLog ++ [.created] := by
        rw [tokenLog, storeCBS, List.flatMap_append, tokenLog]
        rfl
      refine ⟨ht.based, ?_⟩
      rw [session, hlog]
      exact ht.steps.tail
        (.create (authModule_create ha) ht.based.authConfig hnone rfl fun _ ↦ hwaits)
    · exact .check (fun _ hs _ ↦ hs) fun _ _ hb ↦ absurd hb (by simp)

theorem initializeFirst_follows (env : ReceiverEnv AuthEnv) :
    Attempt.Spec (Bare parse fits) (initializeFirst (authModule parse) env)
      (fun _ ↦ Follows parse fits false) (Follows parse fits false) := by
  unfold initializeFirst
  refine .bind (Q := fun _ ↦ Bare parse fits) (.update fun s hs ↦ hs.aside ?_) fun _ ↦ ?_
  · exact .of_client ⟨(hs.fresh hs.amqpState).1.symm, rfl, rfl, rfl⟩ rfl rfl rfl
  refine .bind (Q := fun _ ↦ Reached parse fits false) ?_ fun _ ↦ .update fun s hs ↦
    ⟨⟨hs.1, hs.2⟩, nofun⟩
  unfold initializeStackCommon
  repeat first
    | refine .bind (.keep fun _ h ↦ h.toFollows) fun _ ↦ ?_
    | refine .bind (((passHandle_aside _ _).spec fun _ _ hs h ↦ hs.aside h).mono
        (fun _ h ↦ h) (fun _ _ h ↦ h) fun _ h ↦ Bare.toFollows h) fun _ ↦ ?_
    | refine .bind (((createHandle_aside env _ _).spec fun _ _ hs h ↦ hs.aside h).mono
        (fun _ h ↦ h) (fun _ _ h ↦ h) fun _ h ↦ Bare.toFollows h) fun _ ↦ ?_
  exact createSasToken_reached env

theorem initializeStackReceiver_follows (env : ReceiverEnv AuthEnv) :
    Attempt.Spec (Follows parse fits false) (initializeStackReceiver env)
      (fun _ ↦ Follows parse fits false) (Follows parse fits false) :=
  (initializeStackReceiver_aside env).spec fun _ _ hs h ↦ hs.aside h

/-! ### Authentication -/

/-- A call on the auth handle, which may take the waiting refresh token, is a step of the
session. -/
theorem Follows.answer {α : Type} {call : ReceiverStackCall}
    {x : Answer EventHubAuthCBSStruct α} {c : Bool} {waiting : Option String}
    (h : Follows parse fits false s)
    (hstate : s.client.receiverAMQPConnectionState ≠ .uninitialized)
    (hstep : TokenSession.Step parse fits False (s.session false)
      { (s.session false).answer x with extRefreshSASToken := waiting, closing := c }) :
    Follows parse fits c { (s.passCBS call).answer x with
      client := { ((s.passCBS call).answer x).client with extRefreshSASToken := waiting } } := by
  have hlog : ((s.passCBS call).answer x).tokenLog = s.tokenLog ++ x.events.map .auth := by
    rw [tokenLog_answer, (Aside.passCBS s call).tokenLog]
  refine ⟨⟨h.based, ?_⟩, fun hfresh ↦ absurd hfresh hstate⟩
  have hsame : ({ (s.passCBS call).answer x with
      client := { ((s.passCBS call).answer x).client with extRefreshSASToken := waiting } } :
      ReceiverState EventHubAuthCBSStruct).session c =
      { (s.session false).answer x with extRefreshSASToken := waiting, closing := c } := by
    change TokenSession.mk _ _ _ _ ((s.passCBS call).answer x).tokenLog = _
    rw [hlog]
    rfl
  exact hsame ▸ h.steps.tail hstep

/-- An authorised receiver may create its link. -/
theorem proceed_follows (h : Follows parse fits false s) :
    Follows parse fits false (proceed s) := by
  unfold proceed
  split_ifs
  · exact ⟨⟨h.based, h.steps⟩, nofun⟩
  · exact h

theorem onStatus_follows {a : EventHubAuthCBSStruct} {status : EventHubAuthStatus} {c : Bool}
    (h : Follows parse fits c s) (ha : s.client.cbsHandle = some a) (hstatus : a.cbsStatus = status)
    (hc : status ≠ .failure → status ≠ .expired → status ≠ .timeout → c = false)
    (env : ReceiverEnv AuthEnv) :
    Follows parse fits (onStatus (authModule parse) s a env status).2.ends
      (onStatus (authModule parse) s a env status).1 := by
  have hstate := h.initialized ha
  cases status with
  | failure => exact h.close
  | expired => exact h.close
  | timeout => exact h.close
  | inProgress =>
    obtain rfl := hc (by simp) (by simp) (by simp)
    exact h
  | refreshRequired =>
    obtain rfl := hc (by simp) (by simp) (by simp)
    exact h.answer hstate (.refreshAuto env.put _ ha rfl hstatus AuthOutcome.eq_ok_of_ends)
  | idle =>
    obtain rfl := hc (by simp) (by simp) (by simp)
    exact h.answer hstate (.authenticate env.put _ ha rfl hstatus AuthOutcome.eq_ok_of_ends)
  | ok =>
    obtain rfl := hc (by simp) (by simp) (by simp)
    unfold onStatus refreshExtOrProceed
    cases htoken : s.client.extRefreshSASToken with
    | none => exact proceed_follows h
    | some token =>
      dsimp only
      by_cases hcred : s.client.connectionParams.credential = .sasTokenExt
      · rw [if_pos hcred]
        exact h.answer hstate
          (.refreshExt env.put _ ha rfl hstatus htoken AuthOutcome.eq_ok_of_ends)
      · rw [if_neg hcred]
        exact proceed_follows h

theorem handleSASTokenAuth_follows (h : Follows parse fits false s) (env : ReceiverEnv AuthEnv) :
    Follows parse fits (handleSASTokenAuth (authModule parse) s env).2.ends
      (handleSASTokenAuth (authModule parse) s env).1 := by
  unfold handleSASTokenAuth
  cases ha : s.client.cbsHandle with
  | none => exact (h.aside (.passCBS s _)).close
  | some a =>
    dsimp only
    have hstep : ∀ c, (c = false → (getStatus a env.status).value.1 = .ok ∧
        (getStatus a env.status).value.2 ≠ .failure ∧
        (getStatus a env.status).value.2 ≠ .expired ∧
        (getStatus a env.status).value.2 ≠ .timeout) →
        Follows parse fits c ((s.passCBS .eventHubAuthCBSGetStatus).answer
          (getStatus a env.status)) := fun c hc ↦
      h.answer (h.initialized ha) (.getStatus env.status c ha rfl hc)
    split_ifs with hok
    · exact hstep true nofun
    · by_cases hends : (getStatus a env.status).value.2 = .failure ∨
          (getStatus a env.status).value.2 = .expired ∨
          (getStatus a env.status).value.2 = .timeout
      · refine onStatus_follows (hstep true nofun) rfl rfl (fun h₁ h₂ h₃ ↦ ?_) env
        exact absurd hends (not_or.mpr ⟨h₁, not_or.mpr ⟨h₂, h₃⟩⟩)
      · simp only [not_or] at hends
        exact onStatus_follows (hstep false fun _ ↦ ⟨not_not.mp hok, hends⟩) rfl rfl
          (fun _ _ _ ↦ rfl) env

/-! ### `EventHubReceiver_LL_DoWork` -/

theorem raise_follows (h : Follows parse fits true s) (r : EventHubReceiverResult) :
    Follows parse fits (!(raise s r).control.steady) (raise s r) := by
  unfold raise
  cases s.client.callback.onEventReceiveErrorCallback with
  | none => exact h.aside (.of_control _ _)
  | some callback => exact h.aside (.of_client ⟨rfl, rfl, rfl, rfl⟩ rfl rfl rfl)

theorem connectionDoWork_follows (h : Follows parse fits false s) (poll : Bool) :
    Follows parse fits (!(connectionDoWork s poll).control.steady) (connectionDoWork s poll) := by
  unfold connectionDoWork
  split_ifs
  · exact h.aside (.of_client ⟨rfl, rfl, rfl, rfl⟩ rfl rfl rfl)
  · exact h.aside (.of_control _ _)

theorem afterAuth_follows {outcome : AuthOutcome} (h : Follows parse fits outcome.ends s) :
    Follows parse fits (!(afterAuth s outcome).control.steady) (afterAuth s outcome) := by
  cases outcome with
  | failed => exact raise_follows h _
  | timeout => exact raise_follows h _
  | inProgress => exact connectionDoWork_follows h _
  | done =>
    unfold afterAuth
    dsimp only
    split_ifs
    · exact connectionDoWork_follows h _
    · exact h.aside (.of_control _ _)

theorem doWorkInitialized_follows (h : Follows parse fits false s) (env : ReceiverEnv AuthEnv) :
    Follows parse fits (!(doWorkInitialized (authModule parse) s env).control.steady)
      (doWorkInitialized (authModule parse) s env) :=
  afterAuth_follows (handleSASTokenAuth_follows h env)

theorem doWorkActive_follows (h : Follows parse fits false s) (env : ReceiverEnv AuthEnv) :
    Follows parse fits (!(doWorkActive (authModule parse) s env).control.steady)
      (doWorkActive (authModule parse) s env) := by
  unfold doWorkActive
  cases hstate : s.client.receiverAMQPConnectionState with
  | uninitialized =>
    have hinit := initializeFirst_follows env s ⟨h, hstate⟩
    generalize initializeFirst (authModule parse) env s = x at hinit ⊢
    rcases x with ⟨_ | _, t⟩
    · exact deInitializeStack_follows hinit _
    · exact doWorkInitialized_follows hinit env
  | pendingAuthorization => exact doWorkInitialized_follows h env
  | pendingReceiverCreate =>
    have hinit := initializeStackReceiver_follows env s h
    generalize initializeStackReceiver env s = x at hinit ⊢
    rcases x with ⟨_ | _, t⟩
    · exact deInitializeStack_follows hinit _
    · exact hinit.aside (.of_control _ _)
  | initialized => exact doWorkInitialized_follows h env

theorem doWork_follows (h : Follows parse fits false s) (hidle : s.control = .idle)
    (env : ReceiverEnv AuthEnv) :
    Follows parse fits (!(doWork (authModule parse) s env).control.steady)
      (doWork (authModule parse) s env) := by
  have hstart : Follows parse fits false (s.emit [.doWork]) :=
    h.aside (.of_client ⟨rfl, rfl, rfl, rfl⟩ rfl rfl rfl)
  unfold doWork
  dsimp only
  cases (s.emit [.doWork]).client.state with
  | inactivePending => exact deInitializeStack_follows hstart _
  | active => exact doWorkActive_follows hstart env
  | inactive =>
    change Follows parse fits (!s.control.steady) _
    rw [hidle]
    exact hstart

theorem afterOpen_follows (h : Follows parse fits false s) (ok : Bool) (env : ReceiverEnv AuthEnv) :
    Follows parse fits (!(afterOpen (authModule parse) s ok env).control.steady)
      (afterOpen (authModule parse) s ok env) := by
  have hopened : ∀ stamp, Follows parse fits false { s with
      client := { s.client with
        lastActivityTimestamp := stamp
        receiverAMQPConnectionState := .initialized } } :=
    fun stamp ↦ ⟨⟨h.based, h.steps⟩, nofun⟩
  unfold afterOpen
  split_ifs
  · exact deInitializeStack_follows h _
  · exact doWorkInitialized_follows (hopened s.client.lastActivityTimestamp) env
  · cases env.tick with
    | none => exact h.aside (.of_client ⟨rfl, rfl, rfl, rfl⟩ rfl rfl rfl)
    | some tick => exact doWorkInitialized_follows (hopened tick) env

theorem finishPoll_aside (s : ReceiverState EventHubAuthCBSStruct) (stamp : UInt64) :
    Aside s (finishPoll (touch s stamp)) := ⟨rfl, rfl, rfl, rfl, rfl, rfl⟩

theorem uamqpReturn_follows {call : ReceiverUamqpCall}
    (h : Follows parse fits (ReceiverControl.destroys call) s) (ok : Bool)
    (env : ReceiverEnv AuthEnv) :
    Follows parse fits (!(uamqpReturn (authModule parse) s ok env call).control.steady)
      (uamqpReturn (authModule parse) s ok env call) := by
  cases call with
  | messagereceiverOpen => exact afterOpen_follows h ok env
  | messagereceiverDestroy after => exact afterDeInitialize_follows h after
  | connectionDowork poll =>
    cases poll with
    | false => exact h.aside (.of_control _ _)
    | true =>
      change Follows parse fits (!(handleTimeouts s env.tick).control.steady)
        (handleTimeouts s env.tick)
      rcases handleTimeouts_cases s env.tick with ⟨now, callback, -, heq⟩ | ⟨stamp, heq⟩
      · rw [heq]
        exact h.aside (.of_client ⟨rfl, rfl, rfl, rfl⟩ rfl rfl rfl)
      · rw [heq]
        exact h.aside (finishPoll_aside s stamp)

/-! ### Steps and runs -/

theorem refreshSASTokenAsync_follows (h : Follows parse fits closing s) (token : Option String)
    (env : RefreshEnv) : Follows parse fits closing (refreshSASTokenAsync s token env).2 := by
  rcases refreshSASTokenAsync_cases s token env with
    ⟨r, -, heq⟩ | ⟨text, config, cfg, -, -, -, hpending, -, -, heq⟩
  · rw [heq]
    exact h
  · rw [heq]
    have hlog : ({ s with
        client := { s.client with extRefreshSASToken := some text }
        log := s.log ++ [.refreshAccepted text] } :
        ReceiverState EventHubAuthCBSStruct).tokenLog = s.tokenLog ++ [.refreshAccepted text] := by
      rw [tokenLog, List.flatMap_append, tokenLog]
      rfl
    refine ⟨⟨h.based, ?_⟩, fun hstate ↦ ⟨(h.fresh hstate).1, ?_⟩⟩
    · rw [session, hlog]
      exact h.steps.tail (.refreshAccepted text hpending fun hguarded ↦ hguarded.elim)
    · rw [hlog]
      simp [TokenView.see]

theorem step_follows {i : ReceiverInput AuthEnv} (h : Follows parse fits (!s.control.steady) s)
    (hstep : step (authModule parse) s i = some t) :
    Follows parse fits (!t.control.steady) t := by
  have hopen : s.control.steady = true → Follows parse fits false s := fun hsteady ↦ by
    rwa [hsteady] at h
  cases step_move _ hstep with
  | receiveAsync onReceive onError startTimestampInSec waitTimeoutInMs env hmay =>
    rcases receiveAsyncCommon_cases s onReceive onError startTimestampInSec waitTimeoutInMs env with
      ⟨r, -, heq⟩ | ⟨r, tick, filter, -, -, -, -, heq⟩ | ⟨receiveCb, errorCb, tick, -, -, -, heq⟩
    · rw [heq]
      exact h
    · rw [heq]
      exact h.aside ⟨rfl, rfl, rfl, rfl, rfl, rfl⟩
    · rw [heq]
      exact h.aside (.of_client ⟨rfl, rfl, rfl, rfl⟩ rfl rfl rfl)
  | receiveEndAsync onEnd hmay =>
    rcases receiveEndAsync_cases s onEnd with ⟨-, heq⟩ | ⟨-, heq⟩
    · rw [heq]
      exact h
    · rw [heq]
      exact h.aside (.of_client ⟨rfl, rfl, rfl, rfl⟩ rfl rfl rfl)
  | refreshSASTokenAsync token env hmay =>
    have hcontrol : (refreshSASTokenAsync s token env).2.control = s.control := by
      rcases refreshSASTokenAsync_cases s token env with
        ⟨r, -, heq⟩ | ⟨text, config, cfg, -, -, -, -, -, -, heq⟩ <;> rw [heq]
    rw [hcontrol]
    exact refreshSASTokenAsync_follows h token env
  | setConnectionTracing traceEnabled hmay =>
    rcases setConnectionTracing_cases s traceEnabled with ⟨-, heq⟩ | ⟨-, heq⟩
    · rw [heq]
      exact h.aside ⟨rfl, rfl, rfl, rfl, rfl, rfl⟩
    · rw [heq]
      exact h.aside (.of_client ⟨rfl, rfl, rfl, rfl⟩ rfl rfl rfl)
  | doWork env hidle =>
    exact doWork_follows (hopen (by rw [hidle]; rfl)) hidle env
  | destroy hidle =>
    have hstart : Follows parse fits false
        { s with destroying := true, log := s.log ++ [.destroying] } :=
      (hopen (by rw [hidle]; rfl)).aside (.of_client ⟨rfl, rfl, rfl, rfl⟩ rfl rfl rfl)
    exact deInitializeStack_follows hstart _
  | @onMessageReceived call message env hcall hreceiver =>
    rcases onMessageReceived_cases s message env call with heq | ⟨-, heq⟩ |
      ⟨callback, event, -, -, heq⟩
    · rw [heq]
      exact h.aside (.of_client ⟨rfl, rfl, rfl, rfl⟩ rfl rfl rfl)
    · rw [heq]
      exact h.close.aside (.of_control _ _)
    · rw [heq]
      rw [hcall] at h
      exact h.aside (.of_client ⟨rfl, rfl, rfl, rfl⟩ rfl rfl rfl)
  | @onStateChanged call newState previousState hcall hreceiver =>
    rcases onStateChanged_cases s newState previousState call with heq | ⟨callback, -, heq⟩
    · rw [heq]
      exact h
    · rw [heq]
      rw [hcall] at h
      exact h.aside (.of_client ⟨rfl, rfl, rfl, rfl⟩ rfl rfl rfl)
  | @onCBSPutTokenOperationComplete poll a r env hcall ha hputs =>
    have hfollows := hopen (by rw [hcall]; rfl)
    have hlog : (EventHubReceiverLL.onCBSPutTokenOperationComplete (authModule parse) s a r
        env).tokenLog = s.tokenLog ++
          ((authModule parse).onCBSPutTokenOperationComplete a r env).events.map .auth :=
      tokenLog_answer s _
    have hsteady : (EventHubReceiverLL.onCBSPutTokenOperationComplete (authModule parse) s a r
        env).control.steady = true := by
      change s.control.steady = true
      rw [hcall]
      rfl
    rw [hsteady]
    refine ⟨⟨h.based, ?_⟩, fun hstate ↦ absurd hstate (h.initialized ha)⟩
    rw [session, hlog]
    have hnext := hfollows.steps.tail (.putComplete r env ha rfl hputs)
    cases r <;> exact hnext
  | @uamqpReturn call ok env hcall =>
    refine uamqpReturn_follows ?_ ok env
    rw [hcall] at h
    simpa [ReceiverControl.steady, ReceiverControl.call] using h
  | @receiveReturn call hreceive =>
    rw [hreceive] at h
    exact h.aside (.of_client ⟨rfl, rfl, rfl, rfl⟩ rfl rfl rfl)
  | timeoutReturn htimeout => exact (hopen (by rw [htimeout]; rfl)).aside (finishPoll_aside s _)
  | @errorReturn after herror =>
    rw [herror] at h
    cases after with
    | uamqp call => exact h.aside (.of_control _ _)
    | teardown => exact deInitializeStack_follows h _
  | endReturn hend =>
    exact (hopen (by rw [hend]; rfl)).aside
      (.of_client ⟨rfl, rfl, rfl, rfl⟩ rfl (s.log.append_nil).symm rfl)

theorem created_follows {c : EventHubReceiverLL EventHubAuthCBSStruct} (hc : Created c)
    (hbased : Based fits c) : Follows parse fits false { client := c } := by
  have hsession : ({ client := c } : ReceiverState EventHubAuthCBSStruct).session false = {} := by
    cases hc <;> rfl
  refine ⟨⟨hbased, hsession ▸ .refl⟩, fun _ ↦ ?_⟩
  cases hc <;> exact ⟨rfl, rfl⟩

/-- Every run of a receiver is a run of a token session. -/
theorem run_follows {c : EventHubReceiverLL EventHubAuthCBSStruct} (hc : Created c)
    (hbased : Based fits c) {is : List (ReceiverInput AuthEnv)}
    (hrun : (receiverMachine (authModule parse)).run { client := c } is = some t) :
    Follows parse fits (!t.control.steady) t := by
  have hstep : ∀ s i t, Follows parse fits (!s.control.steady) s →
      (receiverMachine (authModule parse)).step s i = some t →
      Follows parse fits (!t.control.steady) t := fun _ _ _ hs h ↦ step_follows hs h
  exact Machine.run_invariant hstep (created_follows hc hbased) hrun

end EventHubReceiverLL

end EventHubs
