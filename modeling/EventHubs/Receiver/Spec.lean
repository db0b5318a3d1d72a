import EventHubs.Receiver.Machine

/-!
# What the functions of the receiver do

The outcomes of the public functions, and where control stands afterwards, as case analyses that
the invariants use in place of the definitions.

## Main definitions

* `ReceiverControl.call` — the call to uAMQP in which control stands.
* `ReceiverInput.internal` — the inputs by which a call of the receiver goes on.

## Main results

* `EventHubReceiverLL.receiveAsyncCommon_cases`, `EventHubReceiverLL.receiveEndAsync_cases`,
  `EventHubReceiverLL.refreshSASTokenAsync_cases`.
* `EventHubReceiverLL.afterAuth_result`, `EventHubReceiverLL.handleTimeouts_cases`.
-/

namespace EventHubs

/-- The call to uAMQP in which control stands, also inside a callback. -/
def ReceiverControl.call : ReceiverControl → Option ReceiverUamqpCall
  | .uamqp call => some call
  | .receiveCb call => some call
  | .errorCb (.uamqp call) => some call
  | _ => none

/-- The inputs by which a call of the receiver goes on. -/
def ReceiverInput.internal {ι : Type} : ReceiverInput ι → Bool
  | .onMessageReceived _ _ => true
  | .onStateChanged _ _ => true
  | .onCBSPutTokenOperationComplete _ _ => true
  | .uamqpReturn _ _ => true
  | .callbackReturn => true
  | _ => false

namespace EventHubReceiverLL

variable {σ : Type} {s : ReceiverState σ}

open ReceiverState

/-- A receive call that fails changes at most the time stamp and the filter, and only of an
inactive receiver; one that succeeds sets up a reception. -/
theorem receiveAsyncCommon_cases (s : ReceiverState σ) (onReceive onError : Option UserCallback)
    (startTimestampInSec : UInt64) (waitTimeoutInMs : UInt32) (env : ReceiveEnv) :
    (∃ r, r ≠ .ok ∧
      receiveAsyncCommon s onReceive onError startTimestampInSec waitTimeoutInMs env = (r, s)) ∨
    (∃ r tick filter, r ≠ .ok ∧ r ≠ .notAllowed ∧ s.client.state = .inactive ∧
      (filter = s.client.receiverQueryFilter ∨ filter = none) ∧
      receiveAsyncCommon s onReceive onError startTimestampInSec waitTimeoutInMs env =
        (r, { s with client := { s.client with
          lastActivityTimestamp := tick
          receiverQueryFilter := filter } })) ∨
    ∃ receiveCb errorCb tick, s.client.state = .inactive ∧ onReceive = some receiveCb ∧
      onError = some errorCb ∧
      receiveAsyncCommon s onReceive onError startTimestampInSec waitTimeoutInMs env =
        (.ok, { s with
          client := start { s.client with lastActivityTimestamp := tick } receiveCb errorCb
            (startTimestampInSec * 1000) waitTimeoutInMs
          log := s.log ++ [.started receiveCb errorCb] }) := by
  cases onReceive with
  | none => exact Or.inl ⟨.invalidArg, by simp, rfl⟩
  | some receiveCb =>
    cases onError with
    | none => exact Or.inl ⟨.invalidArg, by simp, rfl⟩
    | some errorCb =>
      unfold receiveAsyncCommon
      dsimp only
      by_cases hstate : s.client.state = .inactive
      · rw [if_neg (by simp [hstate])]
        by_cases htick : (waitTimeoutInMs ≠ 0 && env.tick.isNone) = true
        · rw [if_pos htick]
          exact Or.inr (Or.inl ⟨.error, s.client.lastActivityTimestamp,
            s.client.receiverQueryFilter, by simp, by simp, hstate, Or.inl rfl, rfl⟩)
        · rw [if_neg htick]
          by_cases hwait : waitTimeoutInMs = 0
          · rw [if_pos hwait]
            cases env.constructs with
            | false => exact Or.inr (Or.inl ⟨.error, s.client.lastActivityTimestamp, none,
                by simp, by simp, hstate, Or.inr rfl, rfl⟩)
            | true => exact Or.inr (Or.inr ⟨receiveCb, errorCb, s.client.lastActivityTimestamp,
                hstate, rfl, rfl, rfl⟩)
          · rw [if_neg hwait]
            cases env.constructs with
            | false => exact Or.inr (Or.inl ⟨.error, env.tick.getD 0, none, by simp, by simp,
                hstate, Or.inr rfl, rfl⟩)
            | true => exact Or.inr (Or.inr ⟨receiveCb, errorCb, env.tick.getD 0, hstate, rfl, rfl,
                rfl⟩)
      · rw [if_pos hstate]
        exact Or.inl ⟨.notAllowed, by simp, rfl⟩

theorem receiveEndAsync_cases (s : ReceiverState σ) (onEnd : Option UserCallback) :
    (s.client.state ≠ .active ∧ receiveEndAsync s onEnd = (.notAllowed, s)) ∨
    (s.client.state = .active ∧ receiveEndAsync s onEnd =
      (.ok, { s with
        client := { s.client with
          state := .inactivePending
          callback := { s.client.callback with onEventReceiveEndCallback := onEnd } }
        log := s.log ++ [.ending onEnd] })) := by
  unfold receiveEndAsync
  by_cases hstate : s.client.state = .active
  · exact Or.inr ⟨hstate, if_neg (by simp [hstate])⟩
  · exact Or.inl ⟨hstate, if_pos hstate⟩

theorem refreshSASTokenAsync_cases (s : ReceiverState σ) (token : Option String)
    (env : RefreshEnv) :
    (∃ r, r ≠ .ok ∧ refreshSASTokenAsync s token env = (r, s)) ∨
    ∃ text config cfg, token = some text ∧
      s.client.connectionParams.extSASTokenConfig = some config ∧ s.client.state = .active ∧
      s.client.extRefreshSASToken = none ∧ env.parsed = some cfg ∧
      cfg.extSASTokenURI = config.extSASTokenURI ∧
      refreshSASTokenAsync s token env =
        (.ok, { s with
          client := { s.client with extRefreshSASToken := some text }
          log := s.log ++ [.refreshAccepted text] }) := by
  cases token with
  | none => exact Or.inl ⟨.invalidArg, by simp, rfl⟩
  | some text =>
    unfold refreshSASTokenAsync
    dsimp only
    cases hconfig : s.client.connectionParams.extSASTokenConfig with
    | none => exact Or.inl ⟨.notAllowed, by simp, rfl⟩
    | some config =>
      dsimp only
      by_cases hstate : s.client.state = .active
      · rw [if_neg (by simp [hstate])]
        cases hpending : s.client.extRefreshSASToken with
        | some old => exact Or.inl ⟨.notAllowed, by simp, rfl⟩
        | none =>
          rw [if_neg (by simp)]
          cases hparsed : env.parsed with
          | none => exact Or.inl ⟨.error, by simp, rfl⟩
          | some cfg =>
            dsimp only
            by_cases huri : cfg.extSASTokenURI = config.extSASTokenURI
            · rw [if_neg (by simp [huri])]
              cases env.constructs with
              | false => exact Or.inl ⟨.error, by simp, rfl⟩
              | true => exact Or.inr ⟨text, config, cfg, rfl, rfl, hstate, rfl, rfl, huri, rfl⟩
            · rw [if_pos huri]
              exact Or.inl ⟨.error, by simp, rfl⟩
      · rw [if_pos hstate]
        exact Or.inl ⟨.notAllowed, by simp, rfl⟩

theorem setConnectionTracing_cases (s : ReceiverState σ) (traceEnabled : Bool) :
    (s.client.receiverAMQPConnectionState = .uninitialized ∧
      setConnectionTracing s traceEnabled =
        { s with client := { s.client with connectionTracing := traceEnabled } }) ∨
    (s.client.receiverAMQPConnectionState ≠ .uninitialized ∧
      setConnectionTracing s traceEnabled =
        { s with
          client := { s.client with connectionTracing := traceEnabled }
          log := s.log ++ [.passed .connectionSetTrace (s.client.stack .connection).isNone] }) := by
  unfold setConnectionTracing
  dsimp only
  by_cases hstate : s.client.receiverAMQPConnectionState = .uninitialized
  · exact Or.inl ⟨hstate, if_neg (by simp [hstate])⟩
  · exact Or.inr ⟨hstate, if_pos hstate⟩

/-- Handling the timeouts calls the receive callback, or ends `EventHubReceiver_LL_DoWork`. -/
theorem handleTimeouts_cases (s : ReceiverState σ) (tick : Option UInt64) :
    (∃ now callback, s.client.callback.onEventReceiveCallback = some callback ∧
      handleTimeouts s tick =
        { s with control := .timeoutCb now, log := s.log ++ [.timedOut callback] }) ∨
    ∃ stamp, handleTimeouts s tick = finishPoll (touch s stamp) := by
  have hend : finishPoll s = finishPoll (touch s s.client.lastActivityTimestamp) := rfl
  unfold handleTimeouts
  by_cases hwait : s.client.waitTimeoutInMs = 0
  · rw [if_pos hwait]
    exact Or.inr ⟨_, hend⟩
  · rw [if_neg hwait]
    cases tick with
    | none => exact Or.inr ⟨_, hend⟩
    | some now =>
      dsimp only
      split_ifs
      · exact Or.inr ⟨now, rfl⟩
      · cases hcb : s.client.callback.onEventReceiveCallback with
        | none => exact Or.inr ⟨now, rfl⟩
        | some callback => exact Or.inl ⟨now, callback, rfl, rfl⟩
      · exact Or.inr ⟨_, hend⟩

theorem onMessageReceived_cases (s : ReceiverState σ) (message : ReceivedMessage)
    (env : DecodeEnv) (call : ReceiverUamqpCall) :
    onMessageReceived s message env call = s.emit [.answered false] ∨
    (s.client.callback.onEventReceiveCallback = none ∧
      onMessageReceived s message env call = { s with control := .undefinedBehaviour }) ∨
    ∃ callback event, s.client.callback.onEventReceiveCallback = some callback ∧
      decodeMessage env message = some event ∧
      onMessageReceived s message env call =
        { s.setCallback fun c => { c with wasMessageReceived := true } with
          control := .receiveCb call
          log := s.log ++ [.received callback event] } := by
  unfold onMessageReceived
  cases decodeMessage env message with
  | none => exact Or.inl rfl
  | some event =>
    cases hcb : s.client.callback.onEventReceiveCallback with
    | none => exact Or.inr (Or.inl ⟨rfl, rfl⟩)
    | some callback => exact Or.inr (Or.inr ⟨callback, event, rfl, rfl, rfl⟩)

theorem onStateChanged_cases (s : ReceiverState σ)
    (newState previousState : MessageReceiverState) (call : ReceiverUamqpCall) :
    onStateChanged s newState previousState call = s ∨
    ∃ callback, s.client.callback.onEventReceiveErrorCallback = some callback ∧
      onStateChanged s newState previousState call =
        { s with
          control := .errorCb (.uamqp call)
          log := s.log ++ [.errorRaised callback .connectionRuntimeError] } := by
  unfold onStateChanged
  split_ifs
  · cases hcb : s.client.callback.onEventReceiveErrorCallback with
    | none => exact Or.inl rfl
    | some callback => exact Or.inr ⟨callback, rfl, rfl⟩
  · exact Or.inl rfl

/-- What follows on `HandleSASTokenAuth`: an error callback before a tear-down, a call of
`connection_dowork`, or the end of `EventHubReceiver_LL_DoWork`. -/
inductive AuthResult (s : ReceiverState σ) : ReceiverState σ → Prop
  | unregistered (hnone : s.client.callback.onEventReceiveErrorCallback = none) :
    AuthResult s { s with control := .undefinedBehaviour }
  | raised (callback : UserCallback) (r : EventHubReceiverResult)
      (hcb : s.client.callback.onEventReceiveErrorCallback = some callback) :
    AuthResult s { s with control := .errorCb .teardown, log := s.log ++ [.errorRaised callback r] }
  | connection (poll : Bool) (hne : s.client.receiverAMQPConnectionState ≠ .uninitialized) :
    AuthResult s
      { s.pass .connectionDowork .connection with control := .uamqp (.connectionDowork poll) }
  | leave : AuthResult s { s with control := .idle }

theorem raise_result (s : ReceiverState σ) (r : EventHubReceiverResult) :
    AuthResult s (raise s r) := by
  unfold raise
  cases hcb : s.client.callback.onEventReceiveErrorCallback with
  | none => exact .unregistered hcb
  | some callback => exact .raised callback r hcb

theorem connectionDoWork_result (s : ReceiverState σ) (poll : Bool) :
    AuthResult s (connectionDoWork s poll) := by
  unfold connectionDoWork
  by_cases hne : s.client.receiverAMQPConnectionState = .uninitialized
  · rw [if_neg (by simp [hne])]
    exact .leave
  · rw [if_pos hne]
    exact .connection poll hne

theorem afterAuth_result (s : ReceiverState σ) (outcome : AuthOutcome) :
    AuthResult s (afterAuth s outcome) := by
  cases outcome with
  | failed => exact raise_result s _
  | timeout => exact raise_result s _
  | inProgress => exact connectionDoWork_result s false
  | done =>
    unfold afterAuth
    dsimp only
    split_ifs
    · exact connectionDoWork_result s true
    · exact .leave

end EventHubReceiverLL

end EventHubs
