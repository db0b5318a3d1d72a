import EventHubs.Library.Chronicle
import EventHubs.Receiver.Reception

/-!
# The notification that a reception has ended

What the log of a receiver says about its receptions is folded into an `EndView`: the end callbacks
that accepted calls of `EventHubReceiver_LL_ReceiveEndAsync` gave, those that were called, and those
that were given when the last `EventHubReceiver_LL_DoWork` started. A request is owed from the call
until `EventHubReceiver_LL_DoWork` tears the reception down. It is lost at two places: when a
tear-down after a failed authentication resets the receiver while a request is owed, and when the
end callback returns, which clears a request made inside it.

## Main definitions

* `EndView`, `EventHubReceiverLL.endView`.
* `EventHubReceiverLL.HeardBy` — who hears an event.
* `EventHubReceiverLL.KeepsRequests` — neither place loses a request.

## Main results

* `EventHubReceiverLL.step_endInv`, `EventHubReceiverLL.run_notifies_once`.
-/

namespace EventHubs

/-- What a log says about the receptions so far. -/
structure EndView where
  requests : List UserCallback := []
  notices : List UserCallback := []
  /-- The requests at the start of the last `EventHubReceiver_LL_DoWork`. -/
  due : List UserCallback := []
  /-- The receive and the error callback of the reception that has not been notified. -/
  registered : Option (UserCallback × UserCallback) := none
  deriving DecidableEq

/-- Take an event into account. -/
def EndView.see (v : EndView) : ReceiverEvent → EndView
  | .started onReceive onError => { v with registered := some (onReceive, onError) }
  | .ending onEnd => { v with requests := v.requests ++ onEnd.toList }
  | .ended callback _ => { v with notices := v.notices ++ [callback], registered := none }
  | .doWork => { v with due := v.requests }
  | _ => v

theorem EndView.see_of_internal (v : EndView) {e : ReceiverEvent} (he : e.internal = true) :
    v.see e = v := by
  cases e <;> first | rfl | cases he

namespace EventHubReceiverLL

variable {σ ι : Type} (auth : AuthModule σ ι)

open ReceiverState

/-- What a log says. -/
def endView (log : List ReceiverEvent) : EndView := log.foldl EndView.see {}

theorem endView_append (log events : List ReceiverEvent) :
    endView (log ++ events) = events.foldl EndView.see (endView log) :=
  List.foldl_append ..

theorem endView_of_internal {log events : List ReceiverEvent}
    (h : ∀ e ∈ events, e.internal = true) : endView (log ++ events) = endView log := by
  rw [endView_append]
  induction events with
  | nil => rfl
  | cons e events ih =>
    rw [List.foldl_cons, EndView.see_of_internal _ (h e List.mem_cons_self)]
    exact ih fun e' he' ↦ h e' (List.mem_cons_of_mem e he')

/-- An event of a reception goes to the callbacks of the reception that has not been notified, and a
notification carries `EVENTHUBRECEIVER_OK`. -/
def HeardBy (past : List ReceiverEvent) : ReceiverEvent → Prop
  | .received callback _ => (endView past).registered.map Prod.fst = some callback
  | .timedOut callback => (endView past).registered.map Prod.fst = some callback
  | .errorRaised callback _ => (endView past).registered.map Prod.snd = some callback
  | .ended _ r => r = .ok
  | _ => True

theorem heardBy_of_internal {e : ReceiverEvent} (he : e.internal = true)
    (past : List ReceiverEvent) : HeardBy past e := by
  cases e <;> trivial

/-- The request that is owed. -/
def pendingEnd (c : EventHubReceiverLL σ) : List UserCallback :=
  if c.state = .inactivePending then c.callback.onEventReceiveEndCallback.toList else []

/-- Neither the tear-down after a failed authentication nor the return of the end callback finds a
request that is owed. -/
def KeepsRequests (s : ReceiverState σ) (i : ReceiverInput ι) : Prop :=
  (resetsReception s i = true → pendingEnd s.client = []) ∧
    match i with
    | .callbackReturn => s.control = .endCb → pendingEnd s.client = []
    | _ => True

instance (s : ReceiverState σ) (i : ReceiverInput ι) : Decidable (KeepsRequests s i) :=
  match i with
  | .callbackReturn => inferInstanceAs (Decidable (_ ∧ (_ → _)))
  | .receiveFromStartTimestampAsync .. | .receiveFromStartTimestampWithTimeoutAsync ..
  | .receiveEndAsync .. | .refreshSASTokenAsync .. | .setConnectionTracing .. | .doWork ..
  | .destroy | .onMessageReceived .. | .onStateChanged .. | .onCBSPutTokenOperationComplete ..
  | .uamqpReturn .. => inferInstanceAs (Decidable (_ ∧ True))

/-- The call during which the tear-down that the user has asked for goes on. -/
def endTeardown : Option ReceiverUamqpCall :=
  some (.messagereceiverDestroy (.teardown .endReception))

/-- What holds at every point of a run. -/
structure EndInv (s : ReceiverState σ) : Prop where
  owed : s.control ≠ .destroyed →
    (endView s.log).requests = (endView s.log).notices ++ pendingEnd s.client
  notices : (endView s.log).notices <+: (endView s.log).requests
  due : (endView s.log).due <+: (endView s.log).requests
  told : s.control.call ≠ endTeardown → (endView s.log).due <+: (endView s.log).notices
  ending : s.control.call = endTeardown → s.client.state = .inactivePending
  receive : ∀ callback, s.client.callback.onEventReceiveCallback = some callback →
    (endView s.log).registered.map Prod.fst = some callback
  error : ∀ callback, s.client.callback.onEventReceiveErrorCallback = some callback →
    (endView s.log).registered.map Prod.snd = some callback
  heard : Chronicle HeardBy s.log

variable {s t : ReceiverState σ}

theorem pendingEnd_of_registration {c d : EventHubReceiverLL σ}
    (h : d.registration = c.registration) : pendingEnd d = pendingEnd c := by
  have hstate : d.state = c.state := congrArg Registration.state h
  have hend : d.callback.onEventReceiveEndCallback = c.callback.onEventReceiveEndCallback :=
    congrArg Registration.onEventReceiveEndCallback h
  rw [pendingEnd, pendingEnd, hstate, hend]

theorem pendingEnd_of_ne {c : EventHubReceiverLL σ} (h : c.state ≠ .inactivePending) :
    pendingEnd c = [] := if_neg h

namespace EndInv

/-- A step that leaves the registration alone and shows only what the registered callbacks hear. -/
theorem keep (hs : EndInv s) (h : t.client.registration = s.client.registration)
    (hview : endView t.log = endView s.log) (hheard : Chronicle HeardBy t.log)
    (hlive : s.control ≠ .destroyed)
    (hcall : t.control.call = endTeardown ↔ s.control.call = endTeardown) : EndInv t := by
  have hstate : t.client.state = s.client.state := congrArg Registration.state h
  have hreceive : t.client.callback.onEventReceiveCallback =
      s.client.callback.onEventReceiveCallback := congrArg Registration.onEventReceiveCallback h
  have herror : t.client.callback.onEventReceiveErrorCallback =
      s.client.callback.onEventReceiveErrorCallback :=
    congrArg Registration.onEventReceiveErrorCallback h
  refine ⟨fun _ ↦ ?_, hview ▸ hs.notices, hview ▸ hs.due, fun hne ↦ ?_, fun heq ↦ ?_, ?_, ?_,
    hheard⟩
  · rw [hview, pendingEnd_of_registration h]
    exact hs.owed hlive
  · rw [hview]
    exact hs.told fun heq ↦ hne (hcall.mpr heq)
  · rw [hstate]
    exact hs.ending (hcall.mp heq)
  · rw [hview, hreceive]
    exact hs.receive
  · rw [hview, herror]
    exact hs.error

theorem backstage (hs : EndInv s) (h : Backstage s t) (hlive : s.control ≠ .destroyed)
    (hcall : t.control.call = endTeardown ↔ s.control.call = endTeardown) : EndInv t := by
  obtain ⟨events, hlog, hinternal⟩ := h.log
  refine hs.keep h.registration ?_ ?_ hlive hcall
  · rw [hlog, endView_of_internal hinternal]
  · rw [hlog]
    exact hs.heard.append_of_forall fun e he ↦ heardBy_of_internal (hinternal e he)

/-- The events that a registered callback hears. -/
theorem show_event (hs : EndInv s) {e : ReceiverEvent}
    (h : t.client.registration = s.client.registration) (hlog : t.log = s.log ++ [e])
    (hview : (endView s.log).see e = endView s.log) (he : HeardBy s.log e)
    (hlive : s.control ≠ .destroyed)
    (hcall : t.control.call = endTeardown ↔ s.control.call = endTeardown) : EndInv t := by
  refine hs.keep h ?_ ?_ hlive hcall
  · rw [hlog, endView_append, List.foldl_cons, hview, List.foldl_nil]
  · rw [hlog]
    exact hs.heard.concat he

end EndInv

theorem call_ne_of_not_ending {c : ReceiverControl} (h : c.ending = false) :
    c.call ≠ endTeardown := fun hc ↦ by
  simp [ReceiverControl.ending, hc, endTeardown] at h

theorem EndInv.resumed {u : ReceiverState σ} {c : ReceiverControl} (hs : EndInv s)
    (hlive : s.control ≠ .destroyed) (hcall : s.control.call ≠ endTeardown) (h : Backstage s u)
    (hc : c.call ≠ endTeardown) : EndInv { u with control := c } := by
  have hu : Backstage s { u with control := c } := ⟨h.registration, h.log⟩
  exact hs.backstage hu hlive (iff_of_false hc hcall)

theorem EndInv.worked (hs : EndInv s) (hlive : s.control ≠ .destroyed)
    (hcall : s.control.call ≠ endTeardown) (h : Worked s t) : EndInv t := by
  cases h with
  | resumed c h hc =>
    have hne := call_ne_of_not_ending (ReceiverControl.not_ending_of_working hc)
    exact hs.resumed hlive hcall h hne
  | unregistered h hnone => exact hs.resumed hlive hcall h nofun
  | @raised u callback r h hcb =>
    have hu : EndInv { u with control := .errorCb .teardown } := hs.resumed hlive hcall h nofun
    refine hu.show_event rfl rfl rfl ?_ nofun Iff.rfl
    exact hu.error callback (h.onEventReceiveErrorCallback.trans hcb)

/-! ### Tear-down -/

theorem resetReceiver_backstage_log (s : ReceiverState σ) : ∃ events,
    (resetReceiver (finishDeInitializeStack s)).log = s.log ++ events ∧
      ∀ e ∈ events, e.internal = true :=
  ⟨[.stackDestroyed, .tornDown], List.append_assoc .., by simp [ReceiverEvent.internal]⟩

/-- The reset itself tells the user nothing. -/
theorem endView_reset (s : ReceiverState σ) :
    endView (resetReceiver (finishDeInitializeStack s)).log = endView s.log := by
  obtain ⟨events, hlog, hinternal⟩ := resetReceiver_backstage_log s
  rw [hlog, endView_of_internal hinternal]

theorem heard_reset (h : Chronicle HeardBy s.log) :
    Chronicle HeardBy (resetReceiver (finishDeInitializeStack s)).log := by
  obtain ⟨events, hlog, hinternal⟩ := resetReceiver_backstage_log s
  rw [hlog]
  exact h.append_of_forall fun e he ↦ heardBy_of_internal (hinternal e he)

/-- A tear-down that owes no notification. -/
theorem EndInv.reset (hs : EndInv s) (hcall : s.control.call ≠ endTeardown) {c : ReceiverControl}
    (hc : c.call ≠ endTeardown)
    (howed : c ≠ .destroyed → (endView s.log).requests = (endView s.log).notices) :
    EndInv { resetReceiver (finishDeInitializeStack s) with control := c } := by
  have hview := endView_reset s
  refine ⟨fun hlive ↦ ?_, ?_, ?_, fun _ ↦ ?_, fun heq ↦ absurd heq hc, nofun, nofun,
    heard_reset hs.heard⟩
  · rw [hview, howed hlive]
    exact (List.append_nil _).symm
  · rw [hview]
    exact hs.notices
  · rw [hview]
    exact hs.due
  · rw [hview]
    exact hs.told hcall

/-- The tear-down that the user has asked for ends with the end callback. -/
theorem endReception_endInv (howed : (endView s.log).requests =
      (endView s.log).notices ++ pendingEnd s.client)
    (hdue : (endView s.log).due <+: (endView s.log).requests)
    (hstate : s.client.state = .inactivePending) (hheard : Chronicle HeardBy s.log) :
    EndInv (afterTeardown (resetReceiver (finishDeInitializeStack s)) .endReception) := by
  have hview := endView_reset s
  rw [pendingEnd, if_pos hstate] at howed
  unfold afterTeardown
  cases hend : s.client.callback.onEventReceiveEndCallback with
  | none =>
    have hend' :
        (resetReceiver (finishDeInitializeStack s)).client.callback.onEventReceiveEndCallback
        = none := hend
    simp only [hend']
    rw [hend, Option.toList_none, List.append_nil] at howed
    refine ⟨fun _ ↦ ?_, ?_, ?_, fun _ ↦ ?_, nofun, nofun, nofun, heard_reset hheard⟩ <;>
      rw [hview]
    · exact howed.trans (List.append_nil _).symm
    · exact howed ▸ List.prefix_rfl
    · exact hdue
    · exact howed ▸ hdue
  | some callback =>
    have hend' :
        (resetReceiver (finishDeInitializeStack s)).client.callback.onEventReceiveEndCallback
        = some callback := hend
    simp only [hend']
    rw [hend, Option.toList_some] at howed
    have hnotified : endView ((resetReceiver (finishDeInitializeStack s)).log ++
        [.ended callback .ok]) = { endView s.log with
          notices := (endView s.log).notices ++ [callback]
          registered := none } := by
      rw [endView_append, hview]
      rfl
    refine ⟨fun _ ↦ ?_, ?_, ?_, fun _ ↦ ?_, nofun, nofun, nofun,
      (heard_reset hheard).concat rfl⟩ <;> rw [hnotified]
    · exact howed.trans (List.append_nil _).symm
    · exact howed ▸ List.prefix_rfl
    · exact hdue
    · exact howed ▸ hdue

/-! ### Steps -/

/-- The tear-down after a failed authentication. -/
theorem resetReception_endInv (hs : EndInv s) (herror : s.control = .errorCb .teardown)
    (hkeeps : KeepsRequests s (.callbackReturn : ReceiverInput ι)) :
    EndInv (teardownReceiverStack s .resetReception) := by
  have hcall : s.control.call ≠ endTeardown := by rw [herror]; rintro ⟨⟩
  have hlive : s.control ≠ .destroyed := by rw [herror]; rintro ⟨⟩
  unfold teardownReceiverStack deInitializeStack
  by_cases hreceiver : (s.client.stack .messageReceiver).isSome = true
  · rw [if_pos hreceiver]
    exact hs.resumed hlive hcall (.refl s) (by rintro ⟨⟩)
  · rw [if_neg hreceiver]
    have hnone : pendingEnd s.client = [] :=
      hkeeps.1 (by simpa [resetsReception, herror] using hreceiver)
    have howed := hs.owed hlive
    rw [hnone, List.append_nil] at howed
    exact hs.reset hcall (by rintro ⟨⟩) fun _ ↦ howed

theorem destroy_endInv (hs : EndInv s) (hidle : s.control = .idle) : EndInv (destroy s) := by
  have hcall : s.control.call ≠ endTeardown := by rw [hidle]; rintro ⟨⟩
  have hlive : s.control ≠ .destroyed := by rw [hidle]; rintro ⟨⟩
  have hd : EndInv { s with destroying := true, log := s.log ++ [.destroying] } :=
    hs.backstage ⟨rfl, _, rfl, by simp [ReceiverEvent.internal]⟩ hlive Iff.rfl
  unfold destroy teardownReceiverStack deInitializeStack
  split_ifs
  · exact hd.resumed hlive hcall (.refl _) (by rintro ⟨⟩)
  · exact hd.reset hcall (by rintro ⟨⟩) fun h ↦ absurd rfl h

theorem doWork_endInv (hs : EndInv s) (hidle : s.control = .idle) (env : ReceiverEnv ι) :
    EndInv (doWork auth s env) := by
  have hcall : s.control.call ≠ endTeardown := by rw [hidle]; nofun
  have hlive : s.control ≠ .destroyed := by rw [hidle]; nofun
  have howed := hs.owed hlive
  have hview : endView (s.emit [.doWork]).log =
      { endView s.log with due := (endView s.log).requests } := endView_append ..
  have hheard : Chronicle HeardBy (s.emit [.doWork]).log := hs.heard.concat True.intro
  have hdue : (endView (s.emit [.doWork]).log).due <+: (endView (s.emit [.doWork]).log).requests :=
    hview ▸ List.prefix_rfl
  -- a reception that does not wait for its tear-down owes nothing
  have hstart : s.client.state ≠ .inactivePending → EndInv (s.emit [.doWork]) := fun hne ↦ by
    rw [pendingEnd_of_ne hne, List.append_nil] at howed
    refine ⟨fun _ ↦ ?_, ?_, hdue, fun _ ↦ ?_, fun heq ↦ absurd heq hcall, ?_, ?_, hheard⟩ <;>
      rw [hview]
    · exact hs.owed hlive
    · exact hs.notices
    · exact howed ▸ List.prefix_rfl
    · exact hs.receive
    · exact hs.error
  unfold doWork
  dsimp only
  cases hstate : (s.emit [.doWork]).client.state with
  | inactive => exact hstart (by rw [show s.client.state = .inactive from hstate]; nofun)
  | active =>
    have h := hstart (by rw [show s.client.state = .active from hstate]; nofun)
    exact h.worked hlive hcall (doWorkActive_worked auth _ env)
  | inactivePending =>
    have hpending : s.client.state = .inactivePending := hstate
    unfold teardownReceiverStack deInitializeStack
    split_ifs
    · refine ⟨fun _ ↦ ?_, ?_, hdue, fun hne ↦ absurd rfl hne, fun _ ↦ hpending, ?_, ?_, hheard⟩ <;>
        rw [hview]
      · exact howed
      · exact hs.notices
      · exact hs.receive
      · exact hs.error
    · refine endReception_endInv ?_ hdue hpending hheard
      rw [hview]
      exact howed

theorem uamqpReturn_endInv (hs : EndInv s) {call : ReceiverUamqpCall} {ok : Bool}
    {env : ReceiverEnv ι} (hcall : s.control = .uamqp call)
    (hkeeps : KeepsRequests s (.uamqpReturn ok env)) : EndInv (uamqpReturn auth s ok env call) := by
  have hlive : s.control ≠ .destroyed := by rw [hcall]; rintro ⟨⟩
  have hcall' : s.control.call = some call := by rw [hcall]; rfl
  cases call with
  | messagereceiverOpen =>
    exact hs.worked hlive (by rw [hcall']; rintro ⟨⟩) (afterOpen_worked auth s ok env)
  | connectionDowork poll =>
    have hne : s.control.call ≠ endTeardown := by rw [hcall']; rintro ⟨⟩
    cases poll with
    | false => exact hs.resumed hlive hne (.refl s) (by rintro ⟨⟩)
    | true =>
      change EndInv (handleTimeouts s env.tick)
      rcases handleTimeouts_cases s env.tick with ⟨now, callback, hcb, h⟩ | ⟨stamp, h⟩ <;> rw [h]
      · exact hs.show_event rfl rfl rfl (hs.receive callback hcb) hlive
          (iff_of_false (by rintro ⟨⟩) hne)
      · exact hs.keep rfl rfl hs.heard hlive (iff_of_false (by rintro ⟨⟩) hne)
  | messagereceiverDestroy after =>
    cases after with
    | bringUpFailed =>
      have hback : Backstage s ((finishDeInitializeStack s).emit [.bringUpFailed]) :=
        finishDeInitializeStack_backstage s
      exact hs.resumed hlive (by rw [hcall']; rintro ⟨⟩) hback (by rintro ⟨⟩)
    | teardown after =>
      cases after with
      | endReception =>
        have hstate := hs.ending hcall'
        exact endReception_endInv (hs.owed hlive) hs.due hstate hs.heard
      | resetReception =>
        have hnone : pendingEnd s.client = [] := hkeeps.1 (by simp [resetsReception, hcall])
        have howed := hs.owed hlive
        rw [hnone, List.append_nil] at howed
        exact hs.reset (by rw [hcall']; rintro ⟨⟩) (by rintro ⟨⟩) fun _ ↦ howed
      | destroy => exact hs.reset (by rw [hcall']; rintro ⟨⟩) (by rintro ⟨⟩) fun h ↦ absurd rfl h

/-- The end callback returns: the reception that it may have started owes nothing. -/
theorem endReturn_endInv (hs : EndInv s) (hend : s.control = .endCb)
    (hnone : pendingEnd s.client = []) : EndInv (endReturn s) := by
  have howed := hs.owed (by rw [hend]; nofun)
  have hnone' : pendingEnd (endReturn s).client = [] := by
    unfold pendingEnd endReturn
    split_ifs <;> rfl
  refine ⟨fun _ ↦ ?_, hs.notices, hs.due, fun _ ↦ hs.told (by rw [hend]; nofun), nofun, hs.receive,
    hs.error, hs.heard⟩
  rw [hnone']
  rwa [hnone] at howed

theorem receiveAsync_endInv (hs : EndInv s) (hlive : s.control ≠ .destroyed)
    (onReceive onError : Option UserCallback) (timestamp : UInt64) (timeout : UInt32)
    (env : ReceiveEnv) :
    EndInv (receiveAsyncCommon s onReceive onError timestamp timeout env).2 := by
  rcases receiveAsyncCommon_cases s onReceive onError timestamp timeout env with
    ⟨r, -, h⟩ | ⟨r, tick, filter, -, -, hinactive, -, h⟩ |
    ⟨receiveCb, errorCb, tick, hinactive, -, -, h⟩ <;> rw [h]
  · exact hs
  · exact ⟨hs.owed, hs.notices, hs.due, hs.told, hs.ending, hs.receive, hs.error, hs.heard⟩
  · have howed := hs.owed hlive
    have hview : endView (s.log ++ [.started receiveCb errorCb]) =
        { endView s.log with registered := some (receiveCb, errorCb) } := endView_append ..
    rw [pendingEnd_of_ne (by rw [hinactive]; nofun)] at howed
    refine ⟨fun _ ↦ ?_, ?_, ?_, fun hne ↦ ?_, fun heq ↦ ?_, fun callback hcb ↦ ?_,
      fun callback hcb ↦ ?_, hs.heard.concat True.intro⟩
    · rw [hview]
      exact howed
    · rw [hview]
      exact hs.notices
    · rw [hview]
      exact hs.due
    · rw [hview]
      exact hs.told hne
    · exact absurd ((hs.ending heq).symm.trans hinactive) nofun
    · rw [hview]
      exact hcb
    · rw [hview]
      exact hcb

theorem receiveEndAsync_endInv (hs : EndInv s) (hlive : s.control ≠ .destroyed)
    (onEnd : Option UserCallback) : EndInv (receiveEndAsync s onEnd).2 := by
  rcases receiveEndAsync_cases s onEnd with ⟨-, h⟩ | ⟨hactive, h⟩ <;> rw [h]
  · exact hs
  · have howed := hs.owed hlive
    have hview : endView (s.log ++ [.ending onEnd]) =
        { endView s.log with requests := (endView s.log).requests ++ onEnd.toList } :=
      endView_append ..
    rw [pendingEnd_of_ne (by rw [hactive]; nofun), List.append_nil] at howed
    refine ⟨fun _ ↦ ?_, ?_, ?_, fun hne ↦ ?_, fun _ ↦ rfl, ?_, ?_, hs.heard.concat True.intro⟩ <;>
      rw [hview]
    · exact congrArg (· ++ onEnd.toList) howed
    · exact hs.notices.trans (List.prefix_append ..)
    · exact hs.due.trans (List.prefix_append ..)
    · exact hs.told hne
    · exact hs.receive
    · exact hs.error

theorem ne_destroyed_of_mayCall (h : mayCall s = true) : s.control ≠ .destroyed := fun hc ↦ by
  simp [mayCall, hc] at h

theorem step_endInv {i : ReceiverInput ι} (hs : EndInv s) (hreg : RegistrationInv s)
    (hkeeps : KeepsRequests s i) (hstep : step auth s i = some t) : EndInv t := by
  cases step_move auth hstep with
  | receiveAsync onReceive onError timestamp timeout env hmay =>
    exact receiveAsync_endInv hs (ne_destroyed_of_mayCall hmay) _ _ _ _ _
  | receiveEndAsync onEnd hmay => exact receiveEndAsync_endInv hs (ne_destroyed_of_mayCall hmay) _
  | refreshSASTokenAsync token env hmay =>
    have hlive := ne_destroyed_of_mayCall hmay
    rcases refreshSASTokenAsync_cases s token env with
      ⟨r, -, h⟩ | ⟨text, config, cfg, -, -, -, -, -, -, h⟩ <;> rw [h]
    · exact hs
    · exact hs.show_event rfl rfl rfl True.intro hlive Iff.rfl
  | setConnectionTracing on hmay =>
    have hlive := ne_destroyed_of_mayCall hmay
    rcases setConnectionTracing_cases s on with ⟨-, h⟩ | ⟨-, h⟩ <;> rw [h]
    · exact hs.keep rfl rfl hs.heard hlive Iff.rfl
    · exact hs.show_event rfl rfl rfl True.intro hlive Iff.rfl
  | doWork env hidle _ => exact doWork_endInv auth hs hidle env
  | destroy hidle _ => exact destroy_endInv hs hidle
  | onMessageReceived message env hcall _ =>
    have hlive : s.control ≠ .destroyed := by rw [hcall]; nofun
    rcases onMessageReceived_cases s message env _ with
      h | ⟨hnone, -⟩ | ⟨callback, event, hcb, -, h⟩
    · rw [h]
      exact hs.show_event rfl rfl rfl True.intro hlive Iff.rfl
    · exact absurd hnone (hreg.receive_ne_none (by rw [hcall]; rfl))
    · rw [h]
      exact hs.show_event rfl rfl rfl (hs.receive callback hcb) hlive (by rw [hcall]; rfl)
  | onStateChanged newState previousState hcall _ =>
    have hlive : s.control ≠ .destroyed := by rw [hcall]; nofun
    rcases onStateChanged_cases s newState previousState _ with h | ⟨callback, hcb, h⟩ <;> rw [h]
    · exact hs
    · exact hs.show_event rfl rfl rfl (hs.error callback hcb) hlive (by rw [hcall]; rfl)
  | @onCBSPutTokenOperationComplete poll a r env hcall _ _ =>
    have hback := Backstage.answer s (auth.onCBSPutTokenOperationComplete a r env)
    have hlive : s.control ≠ .destroyed := by rw [hcall]; nofun
    exact hs.backstage ⟨hback.registration, hback.log⟩ hlive Iff.rfl
  | uamqpReturn ok env hcall => exact uamqpReturn_endInv auth hs hcall hkeeps
  | receiveReturn hreceive =>
    have hlive : s.control ≠ .destroyed := by rw [hreceive]; nofun
    exact hs.show_event rfl rfl rfl True.intro hlive (by rw [hreceive]; rfl)
  | timeoutReturn htimeout =>
    have hlive : s.control ≠ .destroyed := by rw [htimeout]; nofun
    exact hs.keep rfl rfl hs.heard hlive (by rw [htimeout]; rfl)
  | @errorReturn after herror =>
    have hlive : s.control ≠ .destroyed := by rw [herror]; nofun
    cases after with
    | uamqp call => exact hs.keep rfl rfl hs.heard hlive (by rw [herror]; rfl)
    | teardown => exact resetReception_endInv hs herror hkeeps
  | endReturn hend => exact endReturn_endInv hs hend (hkeeps.2 hend)

/-- In every run of a receiver in which neither the tear-down after a failed authentication nor the
return of the end callback finds a request that is owed, the end callbacks are called in the order
of the requests and at most once each; when `EventHubReceiver_LL_DoWork` has returned, all that were
given before it started have been called; and no reception is heard of after its end callback. -/
theorem run_notifies_once {c : EventHubReceiverLL σ} (hc : Created c)
    {is : List (ReceiverInput ι)} (hkeeps : (receiverMachine auth).Meets KeepsRequests
      { client := c } is) (hrun : (receiverMachine auth).run { client := c } is = some t) :
    (endView t.log).notices <+: (endView t.log).requests ∧
    (t.control = .idle → (endView t.log).due <+: (endView t.log).notices) ∧
    Chronicle HeardBy t.log := by
  have hstep : ∀ s i t, RegistrationInv s ∧ EndInv s → KeepsRequests s i →
      (receiverMachine auth).step s i = some t → RegistrationInv t ∧ EndInv t :=
    fun _ _ _ hs hi h ↦
      ⟨step_registrationInv auth hs.1 h, step_endInv auth hs.2 hs.1 hi h⟩
  have hstart : EndInv { client := c } := by
    have hstate : c.state = .inactive := by cases hc <;> rfl
    have hcleared := (created_registrationInv hc).cleared hstate
    have hnone : pendingEnd c = [] := pendingEnd_of_ne (by rw [hstate]; nofun)
    refine ⟨fun _ ↦ hnone.symm, List.prefix_rfl, List.prefix_rfl, fun _ ↦ List.prefix_rfl, nofun,
      fun callback hcb ↦ ?_, fun callback hcb ↦ ?_, Chronicle.nil⟩
    · exact absurd (hcleared.onEventReceiveCallback.symm.trans hcb) nofun
    · exact absurd (hcleared.onEventReceiveErrorCallback.symm.trans hcb) nofun
  obtain ⟨-, ht⟩ := Machine.run_invariant_of_meets hstep ⟨created_registrationInv hc, hstart⟩
    hkeeps hrun
  refine ⟨ht.notices, fun hidle ↦ ht.told ?_, ht.heard⟩
  rw [hidle]
  nofun

/-- A reception that is taken down although uAMQP reports an error and a message. -/
theorem run_notifies_once_endedInTeardown :
    ∃ t, (receiverMachine (EventHubAuthCBS.authModule fun _ ↦ none)).run
        { client := createdFromConnectionString "host" "hub" "name" "key" "group" "0" }
        (endedInTeardown ++ [.uamqpReturn true (workAt 5), .callbackReturn]) = some t ∧
      t.control = .idle ∧ (endView t.log).due = [⟨3, none⟩] ∧
      (endView t.log).due <+: (endView t.log).notices := by
  refine ⟨_, rfl, rfl, by decide, ?_⟩
  exact (@run_notifies_once _ _ (EventHubAuthCBS.authModule fun _ ↦ none) _ _
    (.fromConnectionString "host" "hub" "name" "key" "group" "0")
    (endedInTeardown ++ [.uamqpReturn true (workAt 5), .callbackReturn]) (by decide) rfl).2.1 rfl

/-- A request made inside the error callback for a refused token, and one made inside the end
callback for a reception started there, are lost. -/
theorem run_loses_request :
    (∃ t, (receiverMachine (EventHubAuthCBS.authModule fun _ ↦ none)).run
        { client := createdFromConnectionString "host" "hub" "name" "key" "group" "0" }
        (refused.dropLast ++ [.receiveEndAsync (some ⟨3, none⟩), .callbackReturn,
          .doWork (workAt 3), .doWork (workAt 4)]) = some t ∧
      t.control = .idle ∧ (endView t.log).due = [⟨3, none⟩] ∧ (endView t.log).notices = []) ∧
    ∃ t, (receiverMachine (EventHubAuthCBS.authModule fun _ ↦ none)).run
        { client := createdFromConnectionString "host" "hub" "name" "key" "group" "0" }
        [.receiveFromStartTimestampAsync (some ⟨1, none⟩) (some ⟨2, none⟩) 0 {},
          .receiveEndAsync (some ⟨3, none⟩), .doWork (workAt 1),
          .receiveFromStartTimestampAsync (some ⟨1, none⟩) (some ⟨2, none⟩) 0 {},
          .receiveEndAsync (some ⟨4, none⟩), .callbackReturn, .doWork (workAt 2)] = some t ∧
      t.control = .idle ∧ (endView t.log).due = [⟨3, none⟩, ⟨4, none⟩] ∧
      (endView t.log).notices = [⟨3, none⟩] := by
  exact ⟨⟨_, rfl, rfl, by decide, by decide⟩, ⟨_, rfl, rfl, by decide, by decide⟩⟩

end EventHubReceiverLL

end EventHubs
