import EventHubs.Auth.Naming
import EventHubs.Receiver.Registration
import EventHubs.Receiver.Session

/-!
# What a receiver does between two receptions

The functions of the receiver do not start a reception and do not make a refresh token wait, but for
the two calls of the user that are there for it. A reception that is there keeps its wait timeout,
and `CreateSasToken` gives this one to every auth handle of the reception.

## Main definitions

* `EventHubReceiverLL.Spends` — the token that waits stays or is taken away.
* `EventHubReceiverLL.Timed` — the auth handle has the wait timeout of the reception.
* `EventHubReceiverLL.Turn` — what all functions leave alone.

## Main results

* `EventHubReceiverLL.step_turn`.
-/

namespace EventHubs.EventHubReceiverLL

open ReceiverState EventHubAuthCBS Attempt

variable {s t u : ReceiverState EventHubAuthCBSStruct}

/-- The refresh token that waits stays or is taken away. -/
def Spends (s t : ReceiverState EventHubAuthCBSStruct) : Prop :=
  t.client.extRefreshSASToken = s.client.extRefreshSASToken ∨
    t.client.extRefreshSASToken = none

/-- The auth handle has the wait timeout of the reception. -/
def Timed (c : EventHubReceiverLL EventHubAuthCBSStruct) : Prop :=
  ∀ a, c.cbsHandle = some a → a.sasTokenAuthFailureTimeoutInSecs = waitTimeInSecs c

/-- No reception has started and no refresh token has been made to wait. -/
structure Turn (s t : ReceiverState EventHubAuthCBSStruct) : Prop where
  spends : Spends s t
  timed : Timed s.client → Timed t.client
  reception : t.client.state ≠ .inactive →
    s.client.state ≠ .inactive ∧ t.client.waitTimeoutInMs = s.client.waitTimeoutInMs

theorem Spends.trans (h : Spends s t) (h' : Spends t u) : Spends s u := by
  rcases h' with h' | h'
  · rcases h with h | h
    · exact .inl (h'.trans h)
    · exact .inr (h'.trans h)
  · exact .inr h'

theorem Timed.congr {c d : EventHubReceiverLL EventHubAuthCBSStruct} (h : Timed c)
    (hhandle : d.cbsHandle = c.cbsHandle) (hwait : d.waitTimeoutInMs = c.waitTimeoutInMs) :
    Timed d := by
  intro a ha
  rw [waitTimeInSecs, hwait]
  exact h a (hhandle ▸ ha)

theorem Timed.of_none {c : EventHubReceiverLL EventHubAuthCBSStruct} (hnone : c.cbsHandle = none) :
    Timed c := fun a ha => by cases hnone.symm.trans ha

namespace Turn

theorem refl (s : ReceiverState EventHubAuthCBSStruct) : Turn s s :=
  ⟨.inl rfl, id, fun h => ⟨h, rfl⟩⟩

theorem trans (h : Turn s t) (h' : Turn t u) : Turn s u := by
  refine ⟨h.spends.trans h'.spends, h'.timed ∘ h.timed, fun hu => ?_⟩
  obtain ⟨ht, hwait'⟩ := h'.reception hu
  obtain ⟨hs, hwait⟩ := h.reception ht
  exact ⟨hs, hwait'.trans hwait⟩

/-- The auth handle, the token that waits and the wait timeout are the same, and the state says
that no reception has started. -/
theorem of_same (hhandle : t.client.cbsHandle = s.client.cbsHandle)
    (htoken : t.client.extRefreshSASToken = s.client.extRefreshSASToken)
    (hwait : t.client.waitTimeoutInMs = s.client.waitTimeoutInMs)
    (hstate : t.client.state ≠ .inactive → s.client.state ≠ .inactive) : Turn s t :=
  ⟨.inl htoken, fun h => h.congr hhandle hwait, fun h => ⟨hstate h, hwait⟩⟩

theorem of_registration (h : t.client.registration = s.client.registration)
    (hhandle : t.client.cbsHandle = s.client.cbsHandle)
    (htoken : t.client.extRefreshSASToken = s.client.extRefreshSASToken) : Turn s t := by
  have hstate : t.client.state = s.client.state := congrArg Registration.state h
  exact .of_same hhandle htoken (congrArg Registration.waitTimeoutInMs h) (hstate ▸ id)

theorem of_aside (h : Aside s t) (h' : Backstage s t) : Turn s t :=
  .of_registration h'.registration h.cbsHandle h.extRefreshSASToken

/-- The auth handle is gone. -/
theorem of_none (hnone : t.client.cbsHandle = none)
    (htoken : Spends s t) (hreception : t.client.state ≠ .inactive →
      s.client.state ≠ .inactive ∧ t.client.waitTimeoutInMs = s.client.waitTimeoutInMs) :
    Turn s t :=
  ⟨htoken, fun _ => .of_none hnone, hreception⟩

/-- A call on the auth handle is answered. -/
theorem answer {α : Type} {a : EventHubAuthCBSStruct} (ha : s.client.cbsHandle = some a)
    {x : Answer EventHubAuthCBSStruct α} (hsame : a.SameConfig x.handle) :
    Turn s (s.answer x) := by
  refine ⟨.inl rfl, fun h b hb => ?_, fun h => ⟨h, rfl⟩⟩
  obtain rfl := Option.some.inj hb
  exact hsame.timeout.trans (h a ha)

/-- A call is given the auth handle and answered. -/
theorem ask {α : Type} {a : EventHubAuthCBSStruct} (ha : s.client.cbsHandle = some a)
    {x : Answer EventHubAuthCBSStruct α} (hsame : a.SameConfig x.handle)
    (call : ReceiverStackCall) : Turn s ((s.passCBS call).answer x) := by
  have hpassed : Turn s (s.passCBS call) := .of_same rfl rfl rfl id
  have hhandle : (s.passCBS call).client.cbsHandle = some a := ha
  exact hpassed.trans (answer hhandle hsame)

end Turn

variable (parse : String → Option (String × UInt64))

/-! ### Bring-up and tear-down -/

/-- `CreateSasToken` gives the wait timeout to the auth handle. -/
theorem createSasToken_turn (env : ReceiverEnv AuthEnv) :
    Frame Turn (createSasToken (authModule parse) env) := by
  intro s
  have hpassed : Turn s (({ s with client := writeWaitTime s.client } :
      ReceiverState EventHubAuthCBSStruct).pass .eventHubAuthCBSCreate .session) :=
    .of_same rfl rfl rfl id
  generalize hu : ({ s with client := writeWaitTime s.client } :
    ReceiverState EventHubAuthCBSStruct).pass .eventHubAuthCBSCreate .session = u at hpassed
  have hend : (createSasToken (authModule parse) env s).2 = u.storeCBS
      ((authModule parse).create (authConfig u.client) (u.client.stack .session) env.create) :=
    hu ▸ rfl
  rw [hend]
  refine hpassed.trans ⟨.inl rfl, fun _ a ha => ?_, fun h => ⟨h, rfl⟩⟩
  have hcreate := @authModule_create parse _ _ _ _ ha
  exact (create_spec hcreate).timeout.trans (authConfig_timeout u.client)

theorem initializeFirst_turn (env : ReceiverEnv AuthEnv) :
    Frame Turn (initializeFirst (authModule parse) env) := by
  unfold initializeFirst initializeStackCommon setAMQPState
  repeat' first
    | exact .check .refl
    | exact createSasToken_turn parse env
    | exact .update fun _ => .of_none rfl (.inl rfl) fun h => ⟨h, rfl⟩
    | exact .update fun _ => .of_same rfl rfl rfl id
    | exact fun s => .of_aside (passHandle_aside _ _ s) (passHandle_offstage _ _ s).toBackstage
    | exact fun s => .of_aside (createHandle_aside env _ _ s)
        (createHandle_offstage env _ _ s).toBackstage
    | refine .bind .trans ?_ fun _ => ?_

theorem initializeStackReceiver_turn (env : ReceiverEnv AuthEnv) :
    Frame Turn (initializeStackReceiver env) := fun s =>
  .of_aside (initializeStackReceiver_aside env s)
    (initializeStackReceiver_offstage env s).toBackstage

theorem deInitializeStack_turn (s : ReceiverState EventHubAuthCBSStruct)
    (after : AfterDeInitialize) :
    Turn s (deInitializeStack s after) ∧
      Turn s (afterDeInitialize (finishDeInitializeStack s) after) := by
  have hafter : Turn s (afterDeInitialize (finishDeInitializeStack s) after) := by
    cases after with
    | bringUpFailed => exact .of_none rfl (.inl rfl) fun h => ⟨h, rfl⟩
    | teardown after =>
      have hreset : Turn s (resetReceiver (finishDeInitializeStack s)) :=
        .of_none rfl (.inr rfl) fun h => absurd rfl h
      cases after with
      | endReception =>
        unfold afterDeInitialize afterTeardown
        dsimp only
        split <;> exact hreset.trans (.of_same rfl rfl rfl id)
      | resetReception => exact hreset.trans (.of_same rfl rfl rfl id)
      | destroy => exact hreset.trans (.of_same rfl rfl rfl id)
  refine ⟨?_, hafter⟩
  unfold deInitializeStack
  split_ifs
  · exact .of_same rfl rfl rfl id
  · exact hafter

/-! ### `EventHubReceiver_LL_DoWork` -/

theorem proceed_turn (s : ReceiverState EventHubAuthCBSStruct) : Turn s (proceed s) := by
  unfold proceed
  split_ifs
  · exact .of_same rfl rfl rfl id
  · exact .refl s

theorem onStatus_turn {a : EventHubAuthCBSStruct} (ha : s.client.cbsHandle = some a)
    (env : ReceiverEnv AuthEnv) (status : EventHubAuthStatus) :
    Turn s (onStatus (authModule parse) s a env status).1 := by
  cases status with
  | ok =>
    unfold onStatus refreshExtOrProceed
    cases s.client.extRefreshSASToken with
    | none => exact proceed_turn s
    | some token =>
      dsimp only
      by_cases hcred : s.client.connectionParams.credential = .sasTokenExt
      · rw [if_pos hcred]
        have hanswer := Turn.ask ha (refresh_sameConfig parse a (some token) env.put)
          .eventHubAuthCBSRefresh
        exact hanswer.trans ⟨.inr rfl, fun h => h.congr rfl rfl, fun h => ⟨h, rfl⟩⟩
      · rw [if_neg hcred]
        exact proceed_turn s
  | refreshRequired => exact .ask ha (refresh_sameConfig parse a none env.put) _
  | idle => exact .ask ha (authenticate_keeps a env.put).1 _
  | _ => exact .refl s

theorem handleSASTokenAuth_turn (s : ReceiverState EventHubAuthCBSStruct)
    (env : ReceiverEnv AuthEnv) : Turn s (handleSASTokenAuth (authModule parse) s env).1 := by
  unfold handleSASTokenAuth
  cases ha : s.client.cbsHandle with
  | none => exact .of_same rfl rfl rfl id
  | some a =>
    dsimp only
    have hanswer := Turn.ask ha (getStatus_sameConfig a env.status) .eventHubAuthCBSGetStatus
    split_ifs
    · exact hanswer
    · exact hanswer.trans (onStatus_turn parse rfl env _)

theorem AuthResult.turn (h : AuthResult s t) : Turn s t := by
  cases h <;> exact .of_same rfl rfl rfl id

theorem doWorkInitialized_turn (s : ReceiverState EventHubAuthCBSStruct)
    (env : ReceiverEnv AuthEnv) : Turn s (doWorkInitialized (authModule parse) s env) :=
  (handleSASTokenAuth_turn parse s env).trans (afterAuth_result _ _).turn

theorem doWorkActive_turn (s : ReceiverState EventHubAuthCBSStruct) (env : ReceiverEnv AuthEnv) :
    Turn s (doWorkActive (authModule parse) s env) := by
  unfold doWorkActive
  cases s.client.receiverAMQPConnectionState with
  | uninitialized =>
    have hinit := initializeFirst_turn parse env s
    generalize initializeFirst (authModule parse) env s = x at hinit ⊢
    rcases x with ⟨_ | _, t⟩
    · exact hinit.trans (deInitializeStack_turn t _).1
    · exact hinit.trans (doWorkInitialized_turn parse t env)
  | pendingAuthorization => exact doWorkInitialized_turn parse s env
  | pendingReceiverCreate =>
    have hinit := initializeStackReceiver_turn env s
    generalize initializeStackReceiver env s = x at hinit ⊢
    rcases x with ⟨_ | _, t⟩
    · exact hinit.trans (deInitializeStack_turn t _).1
    · exact hinit.trans (.of_same rfl rfl rfl id)
  | initialized => exact doWorkInitialized_turn parse s env

theorem doWork_turn (s : ReceiverState EventHubAuthCBSStruct) (env : ReceiverEnv AuthEnv) :
    Turn s (doWork (authModule parse) s env) := by
  have hstart : Turn s (s.emit [.doWork]) := .of_same rfl rfl rfl id
  unfold doWork
  dsimp only
  cases (s.emit [.doWork]).client.state with
  | inactivePending => exact hstart.trans (deInitializeStack_turn (s.emit [.doWork]) _).1
  | active => exact hstart.trans (doWorkActive_turn parse (s.emit [.doWork]) env)
  | inactive => exact hstart

theorem afterOpen_turn (s : ReceiverState EventHubAuthCBSStruct) (ok : Bool)
    (env : ReceiverEnv AuthEnv) : Turn s (afterOpen (authModule parse) s ok env) := by
  have hopened : ∀ stamp, Turn s { s with
      client := { s.client with
        lastActivityTimestamp := stamp
        receiverAMQPConnectionState := .initialized } } := fun _ => .of_same rfl rfl rfl id
  unfold afterOpen
  split_ifs
  · exact (deInitializeStack_turn s _).1
  · exact (hopened s.client.lastActivityTimestamp).trans (doWorkInitialized_turn parse _ env)
  · cases env.tick with
    | none => exact .of_same rfl rfl rfl id
    | some tick => exact (hopened tick).trans (doWorkInitialized_turn parse _ env)

theorem uamqpReturn_turn (s : ReceiverState EventHubAuthCBSStruct) (ok : Bool)
    (env : ReceiverEnv AuthEnv) (call : ReceiverUamqpCall) :
    Turn s (uamqpReturn (authModule parse) s ok env call) := by
  cases call with
  | messagereceiverOpen => exact afterOpen_turn parse s ok env
  | messagereceiverDestroy after => exact (deInitializeStack_turn s after).2
  | connectionDowork poll =>
    cases poll with
    | false => exact .of_same rfl rfl rfl id
    | true =>
      rw [uamqpReturn, if_pos rfl]
      rcases handleTimeouts_cases s env.tick with ⟨now, callback, -, heq⟩ | ⟨stamp, heq⟩ <;>
        exact heq ▸ .of_same rfl rfl rfl id

/-! ### Steps -/

/-- A receive call returns OK. -/
def startsReception {σ ι : Type} (s : ReceiverState σ) : ReceiverInput ι → Bool
  | .receiveFromStartTimestampAsync onReceive onError timestamp env =>
    (receiveFromStartTimestampAsync s onReceive onError timestamp env).1 = .ok
  | .receiveFromStartTimestampWithTimeoutAsync onReceive onError timestamp timeout env =>
    (receiveFromStartTimestampWithTimeoutAsync s onReceive onError timestamp timeout env).1 = .ok
  | _ => false

theorem receiveAsyncCommon_turn {onReceive onError : Option UserCallback} {timestamp : UInt64}
    {timeout : UInt32} {env : ReceiveEnv}
    (hr : (receiveAsyncCommon s onReceive onError timestamp timeout env).1 ≠ .ok) :
    Turn s (receiveAsyncCommon s onReceive onError timestamp timeout env).2 := by
  rcases receiveAsyncCommon_cases s onReceive onError timestamp timeout env with
    ⟨r, -, heq⟩ | ⟨r, tick, filter, -, -, -, -, heq⟩ | ⟨receiveCb, errorCb, tick, -, -, -, heq⟩
  · exact heq ▸ .refl s
  · exact heq ▸ .of_same rfl rfl rfl id
  · exact absurd (congrArg Prod.fst heq) hr

variable {parse}

/-- A receive call starts a reception or does nothing to one. -/
theorem receive_turn {i : ReceiverInput AuthEnv} (h : step (authModule parse) s i = some t)
    (hi : receives i = true) :
    Turn s t ∨ startsReception s i = true ∧ Spends s t := by
  have hspends : ∀ onReceive onError timestamp timeout env,
      Spends s (receiveAsyncCommon s onReceive onError timestamp timeout env).2 := by
    intro onReceive onError timestamp timeout env
    rcases receiveAsyncCommon_cases s onReceive onError timestamp timeout env with
      ⟨r, -, heq⟩ | ⟨r, tick, filter, -, -, -, -, heq⟩ |
        ⟨receiveCb, errorCb, tick, -, -, -, heq⟩ <;> exact heq ▸ .inl rfl
  cases i with
  | receiveFromStartTimestampAsync onReceive onError timestamp env =>
    obtain ⟨-, ⟨⟩⟩ := Option.ite_none_right_eq_some.mp h
    by_cases hok : (receiveFromStartTimestampAsync s onReceive onError timestamp env).1 = .ok
    · exact .inr ⟨decide_eq_true hok, hspends _ _ _ _ _⟩
    · exact .inl (receiveAsyncCommon_turn hok)
  | receiveFromStartTimestampWithTimeoutAsync onReceive onError timestamp timeout env =>
    obtain ⟨-, ⟨⟩⟩ := Option.ite_none_right_eq_some.mp h
    by_cases hok : (receiveFromStartTimestampWithTimeoutAsync s onReceive onError timestamp timeout
        env).1 = .ok
    · exact .inr ⟨decide_eq_true hok, hspends _ _ _ _ _⟩
    · exact .inl (receiveAsyncCommon_turn hok)
  | _ => cases hi

/-- A refresh token is accepted, a reception starts, or neither. -/
theorem step_turn {i : ReceiverInput AuthEnv} (h : step (authModule parse) s i = some t) :
    Turn s t ∨
      (∃ token env, i = .refreshSASTokenAsync token env ∧
        t = (refreshSASTokenAsync s token env).2) ∨
      startsReception s i = true ∧ Spends s t := by
  cases step_move _ h with
  | refreshSASTokenAsync token env => exact .inr (.inl ⟨token, env, rfl, rfl⟩)
  | receiveAsync _ _ _ _ _ _ hi => exact (receive_turn h hi).imp_right .inr
  | receiveEndAsync onEnd =>
    rcases receiveEndAsync_cases s onEnd with ⟨-, heq⟩ | ⟨hactive, heq⟩
    · exact .inl (heq ▸ .refl s)
    · exact .inl (heq ▸ .of_same rfl rfl rfl fun _ => by simp [hactive])
  | setConnectionTracing traceEnabled =>
    rcases setConnectionTracing_cases s traceEnabled with ⟨-, heq⟩ | ⟨-, heq⟩ <;>
      exact .inl (heq ▸ .of_same rfl rfl rfl id)
  | doWork env => exact .inl (doWork_turn parse s env)
  | destroy =>
    have hstart : Turn s { s with destroying := true, log := s.log ++ [.destroying] } :=
      .of_same rfl rfl rfl id
    exact .inl (hstart.trans (deInitializeStack_turn _ _).1)
  | @onMessageReceived call message env =>
    rcases onMessageReceived_cases s message env call with heq | ⟨-, heq⟩ | ⟨_, _, -, -, heq⟩ <;>
      exact .inl (heq ▸ .of_same rfl rfl rfl id)
  | @onStateChanged call newState previousState =>
    rcases onStateChanged_cases s newState previousState call with heq | ⟨callback, -, heq⟩
    · exact .inl (by rw [heq]; exact .refl s)
    · exact .inl (by rw [heq]; exact .of_same rfl rfl rfl id)
  | @onCBSPutTokenOperationComplete poll a r env _ ha =>
    have hanswer : Turn s (s.answer
        ((authModule parse).onCBSPutTokenOperationComplete a r env)) :=
      .answer ha (putComplete_sameConfig a r env)
    exact .inl (hanswer.trans (.of_same rfl rfl rfl id))
  | uamqpReturn ok env => exact .inl (uamqpReturn_turn parse s ok env _)
  | receiveReturn => exact .inl (.of_same rfl rfl rfl id)
  | timeoutReturn => exact .inl (.of_same rfl rfl rfl id)
  | @errorReturn after =>
    cases after with
    | uamqp call => exact .inl (.of_same rfl rfl rfl id)
    | teardown => exact .inl (deInitializeStack_turn s _).1
  | endReturn => exact .inl (.of_same rfl rfl rfl id)

end EventHubs.EventHubReceiverLL
