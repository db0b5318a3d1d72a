import EventHubs.Threaded.SenderSpec

/-!
# What a synchronous send waits for

A synchronous send blocks in `Condition_Wait` once, without a look at `callbackStatus`, and
`EventhubClientLLCallback` does not take `completionLock`. As long as every `Condition_Post` finds
its send in `Condition_Wait`, and both handles of a context are there, a send returns when its
callback is done and reports what the callback was told, and no callback writes to a destroyed
context. A `Condition_Post` that comes before `Condition_Wait` is lost, and the send never returns.

## Main definitions

* `EventHubClient.Timely` — no `Condition_Post` is lost, and `Condition_Wait` waits.
* `EventHubClient.Synchronous` — what the users of the synchronous sends rely on.
* `EventHubClient.OwnInv`, `EventHubClient.Phase`, `EventHubClient.SyncInv` — the invariants.
* `EventHubClient.Lost` — a send whose wake-up is lost.

## Main results

* `EventHubClient.run_synchronous`, `EventHubClient.Lost.leads`.
-/

namespace EventHubs

/-- The send is blocked in `Condition_Wait`, or nothing but its own steps keeps it from being. -/
def SendControl.blocking : SendControl → Bool
  | .unlock sent => sent
  | .conditionWait => true
  | .waiting => true
  | _ => false

/-- Nothing has been queued for the send. -/
def SendControl.unsent : SendControl → Bool
  | .lock => true
  | .lowerLayer => true
  | .unlock sent => !sent
  | _ => false

namespace EventHubClient

open EventHubClientLL (Kempt Calls)

variable {σ ι : Type} (auth : AuthModule σ ι) {s t : ThreadedSender σ}

/-- The callback that a synchronous send is queued with. -/
def sendCallback (k : Nat) : UserCallback := ⟨llCallback, some k⟩

/-- `EventhubClientLLCallback` is not running on the context of the send numbered `k`. -/
def Spares (callback : Option RunningCallback) (k : Nat) : Prop :=
  ∀ r, callback = some r → r.userContext ≠ k

/-- A `Condition_Post` finds its send in `Condition_Wait`, and a `Condition_Wait` is given both of
its handles. -/
def Timely (s : ThreadedSender σ) : ThreadedSenderInput ι → Prop
  | .conditionWait k => ∀ c ∈ s.sends[k]?,
    c.context.completionLock = true ∧ c.context.completionCondition = true
  | .callback => ∀ r ∈ s.callback, r.next = .conditionPost →
    ∃ c ∈ s.sends[r.userContext]?, c.control = .waiting
  | _ => True

instance (s : ThreadedSender σ) (i : ThreadedSenderInput ι) : Decidable (Timely s i) := by
  unfold Timely
  cases i <;> infer_instance

/-- What the users of the synchronous sends rely on. -/
structure Synchronous (s : ThreadedSender σ) : Prop where
  /-- A send whose events were queued returns after its callback has run, and returns OK exactly
  when the callback was told OK. -/
  returned : ∀ k c result n, s.sends[k]? = some c → c.control = .returned result →
    c.entry = some n → Spares s.callback k ∧
      ∃ r, SenderEvent.confirmed n (sendCallback k) r ∈ s.eventhubclientLL.log ∧
        (result = .ok ↔ r = .ok)
  /-- No callback has written to a destroyed context. -/
  spared : s.freedTouched = false
  /-- The callback of a send that is blocked, or is going to be, has set `callbackStatus` only if it
  is still running. -/
  notified : ∀ k c, s.sends[k]? = some c → c.control.blocking = true →
    c.context.callbackStatus = .notified → ¬Spares s.callback k
  /-- The callback of such a send is running, or its entry is going to be confirmed. -/
  pending : ∀ k c, s.sends[k]? = some c → c.control.blocking = true → Spares s.callback k →
    ∃ n, c.entry = some n ∧ SenderState.Pending s.eventhubclientLL n

/-! ### Who owns an entry -/

/-- The entries of `EventhubClientLLCallback` belong to the synchronous sends, and it runs on their
contexts. -/
structure OwnInv (s : ThreadedSender σ) : Prop where
  kempt : Kempt s.eventhubclientLL
  owned : ∀ n k tick,
    SenderEvent.accepted n (some (sendCallback k)) tick ∈ s.eventhubclientLL.log →
    ∃ c, s.sends[k]? = some c ∧ c.entry = some n
  known : ∀ r, s.callback = some r → r.userContext < s.sends.length
  inside : s.callback ≠ none → s.eventhubclientLL.control ≠ .idle
  fresh : ∀ (k : Nat) (c : SyncSend), s.sends[k]? = some c → c.control.unsent = true →
    c.entry = none

theorem startedCallback_none {ll ll' : SenderState σ} {events : List SenderEvent}
    (hlog : ll'.log = ll.log ++ events) (hevents : ∀ e ∈ events, e.unconfirming = true) :
    startedCallback ll ll' = none := by
  unfold startedCallback
  rw [hlog, List.drop_left]
  split
  · next n function context r h =>
    exact absurd (hevents _ (List.mem_of_getLast? h)) nofun
  · rfl

theorem startedCallback_one {ll ll' : SenderState σ} {cause : List SenderEvent} {n : Nat}
    {callback : UserCallback} {r : EventHubClientConfirmationResult}
    (hlog : ll'.log = ll.log ++ (cause ++ [.confirmed n callback r])) :
    (∃ k, callback = sendCallback k ∧
      startedCallback ll ll' = some { userContext := k, result := r }) ∨
    (∀ k, callback ≠ sendCallback k) ∧ startedCallback ll ll' = none := by
  unfold startedCallback
  rw [hlog, List.drop_left, List.getLast?_concat]
  obtain ⟨function, context⟩ := callback
  cases context with
  | none =>
    exact Or.inr ⟨fun k h ↦ (nomatch (congrArg UserCallback.context h : none = some k)), rfl⟩
  | some k =>
    dsimp only
    by_cases hfunction : function = llCallback
    · rw [if_pos hfunction, hfunction]
      exact Or.inl ⟨k, rfl, rfl⟩
    · rw [if_neg hfunction]
      exact Or.inr ⟨fun j h ↦ hfunction (congrArg UserCallback.function h), rfl⟩

/-- A send has moved and has kept its entry. -/
theorem OwnInv.setSend (hs : OwnInv s) {k : Nat} {c d : SyncSend} (hk : s.sends[k]? = some c)
    (hentry : d.entry = c.entry) (hunsent : d.control.unsent = true → c.control.unsent = true) :
    OwnInv (setSend s k d) where
  kempt := hs.kempt
  owned n j tick haccepted := by
    obtain ⟨e, he, hn⟩ := hs.owned n j tick haccepted
    by_cases hj : j = k
    · subst hj
      obtain rfl := Option.some.inj (he.symm.trans hk)
      exact ⟨d, set_self hk d, hentry.trans hn⟩
    · exact ⟨e, (List.getElem?_set_ne (Ne.symm hj)).trans he, hn⟩
  known r hr := by
    have hlt := hs.known r hr
    simpa [EventHubClient.setSend] using hlt
  inside := hs.inside
  fresh j e hj he := by
    rcases getElem?_set hj with ⟨rfl, rfl⟩ | ⟨-, hj⟩
    · exact hentry.trans (hs.fresh j c hk (hunsent he))
    · exact hs.fresh j e hj he

/-- What a step of the low-level sender calls. -/
inductive Called (s t : ThreadedSender σ) : Prop
  /-- No callback of a synchronous send. -/
  | other (events : List SenderEvent)
      (hlog : t.eventhubclientLL.log = s.eventhubclientLL.log ++ events)
      (hevents : ∀ n k r, SenderEvent.confirmed n (sendCallback k) r ∉ events)
      (hcallback : t.callback = none)
  /-- The callback of the synchronous send numbered `k`. -/
  | own (cause : List SenderEvent) (n k : Nat) (r : EventHubClientConfirmationResult)
      (hlog : t.eventhubclientLL.log =
        s.eventhubclientLL.log ++ (cause ++ [.confirmed n (sendCallback k) r]))
      (hcause : ∀ e ∈ cause, e.unconfirming = true)
      (hcontrol : t.eventhubclientLL.control ≠ .idle)
      (hcallback : t.callback = some { userContext := k, result := r })

theorem called_of_unconfirming {events : List SenderEvent}
    (hlog : t.eventhubclientLL.log = s.eventhubclientLL.log ++ events)
    (hevents : ∀ e ∈ events, e.unconfirming = true)
    (hcallback : t.callback = startedCallback s.eventhubclientLL t.eventhubclientLL) :
    Called s t :=
  .other events hlog (fun _ _ _ hmem ↦ absurd (hevents _ hmem) nofun)
    (hcallback.trans (startedCallback_none hlog hevents))

theorem called_of_step {i : SenderInput ι} (h : LowLevelStep auth s i t) : Called s t := by
  have hcallback : t.callback = startedCallback s.eventhubclientLL t.eventhubclientLL := by
    rw [h.eq]
  by_cases hi : i = .destroy
  · subst hi
    obtain ⟨-, hdestroy⟩ := Option.ite_none_right_eq_some.mp h.step
    obtain ⟨events, hlog, hevents⟩ := EventHubClientLL.destroy_log s.eventhubclientLL
    rw [Option.some.inj hdestroy] at hlog
    exact called_of_unconfirming hlog hevents hcallback
  · cases EventHubClientLL.step_calls auth h.step hi with
    | none events hlog hevents _ => exact called_of_unconfirming hlog hevents hcallback
    | one cause n callback r hlog hcause hcontrol _ =>
      rcases startedCallback_one hlog with ⟨k, rfl, hstarted⟩ | ⟨hother, hstarted⟩
      · exact .own cause n k r hlog hcause hcontrol (hcallback.trans hstarted)
      · refine .other _ hlog (fun m k r' hmem ↦ ?_) (hcallback.trans hstarted)
        rcases List.mem_append.mp hmem with hmem | hmem
        · exact absurd (hcause _ hmem) nofun
        · cases List.mem_singleton.mp hmem
          exact hother k rfl

/-- The low-level sender has taken a step in which it accepts nothing. -/
theorem OwnInv.lowLevel (hs : OwnInv s) {i : SenderInput ι} (hi : i.sends = none)
    (h : LowLevelStep auth s i t) : OwnInv t := by
  have hkempt := EventHubClientLL.step_kempt auth hs.kempt h.step
  have hsends : t.sends = s.sends := by rw [h.eq]
  have hfresh : ∀ (k : Nat) (c : SyncSend), t.sends[k]? = some c → c.control.unsent = true →
      c.entry = none := by
    rw [hsends]
    exact hs.fresh
  have howned : ∀ n k tick,
      SenderEvent.accepted n (some (sendCallback k)) tick ∈ t.eventhubclientLL.log →
      ∃ c, t.sends[k]? = some c ∧ c.entry = some n := fun n k tick haccepted ↦ by
    rw [hsends]
    exact hs.owned n k tick (EventHubClientLL.accepted_of_step auth hs.kempt h.step hi haccepted)
  cases called_of_step auth h with
  | other events _ _ hcallback =>
    exact ⟨hkempt, howned, fun r hr ↦ absurd (hcallback.symm.trans hr) nofun,
      fun hne ↦ absurd hcallback hne, hfresh⟩
  | own cause n k r hlog _ hcontrol hcallback =>
    refine ⟨hkempt, howned, fun r' hr ↦ ?_, fun _ ↦ hcontrol, hfresh⟩
    obtain rfl := Option.some.inj (hcallback.symm.trans hr)
    have hconfirmed : SenderEvent.confirmed n (sendCallback k) r ∈ t.eventhubclientLL.log := by
      rw [hlog]
      simp
    obtain ⟨-, tick, haccepted⟩ := hkempt.confirmed n _ r hconfirmed
    obtain ⟨c, hc, -⟩ := howned n k tick haccepted
    exact (List.getElem?_eq_some_iff.mp hc).1

/-- A public call has entered the low-level sender and left it. -/
theorem OwnInv.call (hs : OwnInv s) (worker : Option SendWorkerControl) {ll : SenderState σ}
    (hll : Apart s.eventhubclientLL ll) :
    OwnInv { s with worker := worker, eventhubclientLL := ll } := by
  obtain ⟨events, hlog, hevents⟩ := hll.log
  refine ⟨hll.kempt hs.kempt, fun n k tick haccepted ↦ ?_, hs.known, fun hne ↦ ?_, hs.fresh⟩
  · have hmem : SenderEvent.accepted n (some (sendCallback k)) tick ∈ ll.log := haccepted
    rcases List.mem_append.mp (hlog ▸ hmem) with hold | hnew
    · exact hs.owned n k tick hold
    · exact absurd rfl ((hevents _ hnew).2 n (some k) tick)
  · have hcontrol := hs.inside hne
    rwa [← hll.control] at hcontrol

/-- The lower layer has been given the request of a send. -/
theorem OwnInv.lowerLayer (hs : OwnInv s) (hlock : LockInv s) {k : Nat} {c : SyncSend}
    (env : LowerLayerEnv) (hk : s.sends[k]? = some c) (hc : c.control = .lowerLayer)
    (hresult : ExecuteResult s (some (sendCallback k))
      (execute s c.request (some llCallback) (some k) env)) :
    OwnInv (lowerLayer s k c env) := by
  have hmay := hlock.mayCall_of_lowerLayer hk hc
  have hentry := hs.fresh k c hk (by rw [hc]; rfl)
  unfold EventHubClient.lowerLayer
  generalize execute s c.request (some llCallback) (some k) env = x at hresult ⊢
  cases hresult with
  | failed worker hworker ll hll =>
    exact (hs.call worker (hll hmay)).setSend hk hentry.symm fun _ ↦ by rw [hc]; rfl
  | queued worker hworker events tick hkempt =>
    refine ⟨hkempt hmay hs.kempt, fun n j tick' haccepted ↦ ?_, fun r hr ↦ ?_, hs.inside,
      fun j d hj hd ↦ ?_⟩
    · rcases List.mem_append.mp haccepted with hold | hnew
      · obtain ⟨d, hd, hn⟩ := hs.owned n j tick' hold
        have hne : k ≠ j := by
          rintro rfl
          obtain rfl := Option.some.inj (hd.symm.trans hk)
          exact absurd (hentry.symm.trans hn) nofun
        exact ⟨d, (List.getElem?_set_ne hne).trans hd, hn⟩
      · cases List.mem_singleton.mp hnew
        exact ⟨_, set_self hk _, rfl⟩
    · have hlt := hs.known r hr
      simpa [EventHubClient.setSend] using hlt
    · rcases getElem?_set hj with ⟨-, rfl⟩ | ⟨-, hj⟩
      · cases hd
      · exact hs.fresh j d hj hd

theorem OwnInv.callback (hs : OwnInv s) {r : RunningCallback} (hr : s.callback = some r) :
    OwnInv (eventhubClientLLCallback s r) := by
  have hlt := hs.known r hr
  have hk : s.sends[r.userContext]? = some s.sends[r.userContext] := List.getElem?_eq_getElem hlt
  have hinside := hs.inside (by rw [hr]; nofun)
  unfold eventhubClientLLCallback
  rw [hk]
  cases r.next with
  | callbackStatus =>
    have h := hs.setSend hk (d := { s.sends[r.userContext] with
      context := { s.sends[r.userContext].context with callbackStatus := .notified } }) rfl id
    exact ⟨h.kempt, h.owned, fun r' hr' ↦ Option.some.inj hr' ▸ h.known r hr, fun _ ↦ hinside,
      h.fresh⟩
  | confirmationResult =>
    have h := hs.setSend hk (d := { s.sends[r.userContext] with
      context := { s.sends[r.userContext].context with confirmationResult := r.result } }) rfl id
    exact ⟨h.kempt, h.owned, fun r' hr' ↦ Option.some.inj hr' ▸ h.known r hr, fun _ ↦ hinside,
      h.fresh⟩
  | conditionPost =>
    have h := hs.setSend hk (d := { s.sends[r.userContext] with
      control := if s.sends[r.userContext].control = .waiting then .woken
        else s.sends[r.userContext].control }) rfl (by
      cases hc : s.sends[r.userContext].control <;> simp [SendControl.unsent])
    exact ⟨h.kempt, h.owned, nofun, fun hne ↦ absurd rfl hne, h.fresh⟩

theorem step_ownInv {i : ThreadedSenderInput ι} (hlock : LockInv s) (hs : OwnInv s)
    (hstep : step auth s i = some t) : OwnInv t := by
  cases step_move auth hstep with
  | refused => exact hs
  | syncSend request env context hopen hcontext =>
    refine ⟨hs.kempt, fun n k tick haccepted ↦ ?_, fun r hr ↦ ?_, hs.inside, fun k c hk hc ↦ ?_⟩
    · obtain ⟨c, hk, hn⟩ := hs.owned n k tick haccepted
      exact ⟨c, (List.getElem?_append_left (List.getElem?_eq_some_iff.mp hk).1).trans hk, hn⟩
    · have hlt := hs.known r hr
      simp only [List.length_append, List.length_singleton]
      omega
    · rcases getElem?_concat hk with hk | ⟨-, rfl⟩
      · exact hs.fresh k c hk hc
      · rfl
  | @lock k c hk hc hfree =>
    have h := hs.setSend hk (d := { c with control := .lowerLayer }) rfl fun _ ↦ by rw [hc]; rfl
    exact ⟨h.kempt, h.owned, h.known, h.inside, h.fresh⟩
  | lockFailed hk hc => exact hs.setSend hk rfl nofun
  | lowerLayer env hk hc =>
    exact hs.lowerLayer hlock env hk hc (execute_result auth s _ (some llCallback) _ env)
  | @unlock k c sent hk hc =>
    have h := hs.setSend hk (d := { c with
      control := if sent then .conditionWait else .returned .error }) rfl (by
      cases sent <;> nofun)
    exact ⟨h.kempt, h.owned, h.known, h.inside, h.fresh⟩
  | conditionWait hk hc => exact hs.setSend hk rfl (by split_ifs <;> nofun)
  | finish hk hc => exact hs.setSend hk rfl nofun
  | call hmay worker hworker ll hll => exact hs.call worker (hll (hlock.mayCall_of_mayLock hmay))
  | destroy threadToContinue hopen hreleased =>
    exact ⟨hs.kempt, hs.owned, hs.known, hs.inside, hs.fresh⟩
  | iterate hworker => exact ⟨hs.kempt, hs.owned, hs.known, hs.inside, hs.fresh⟩
  | workerLock env hworker hfree h =>
    have hlocked : OwnInv { s with worker := some .doWork, lockInfo := some .worker } :=
      ⟨hs.kempt, hs.owned, hs.known, hs.inside, hs.fresh⟩
    exact hlocked.lowLevel auth (i := .doWork env) rfl h
  | workerLockFailed env hworker => exact ⟨hs.kempt, hs.owned, hs.known, hs.inside, hs.fresh⟩
  | lowLevel i hin hi hcallback h =>
    have hsends : i.sends = none := by cases i <;> first | rfl | cases hi
    exact hs.lowLevel auth hsends h
  | callback hr => exact hs.callback hr
  | workerUnlock hworker hidle => exact ⟨hs.kempt, hs.owned, hs.known, hs.inside, hs.fresh⟩
  | wake hworker => exact ⟨hs.kempt, hs.owned, hs.known, hs.inside, hs.fresh⟩
  | join hclosing h =>
    have hjoined : OwnInv { s with closing := .destroying } :=
      ⟨hs.kempt, hs.owned, hs.known, hs.inside, hs.fresh⟩
    exact hjoined.lowLevel auth (i := .destroy) rfl h
  | deInit hclosing => exact ⟨hs.kempt, hs.owned, hs.known, hs.inside, hs.fresh⟩

/-! ### How far a send is -/

/-- How far a synchronous send is, read from the log of the low-level sender and the running
callback. -/
inductive Phase (log : List SenderEvent) (callback : Option RunningCallback) (k : Nat)
    (c : SyncSend) : Prop
  /-- Nothing is queued for it, and nothing will be once it has returned. -/
  | unsent (hentry : c.entry = none)
      (hcontrol : c.control.unsent = true ∨ c.control = .returned .error)
      (hcallback : Spares callback k) (hstatus : c.context.callbackStatus = .waiting)
  /-- Its entry is to be confirmed. -/
  | queued (n : Nat) (hentry : c.entry = some n) (hcontrol : c.control.blocking = true)
      (hcallback : Spares callback k) (hstatus : c.context.callbackStatus = .waiting)
      (haccepted : ∃ tick, SenderEvent.accepted n (some (sendCallback k)) tick ∈ log)
      (hnever : ∀ r, SenderEvent.confirmed n (sendCallback k) r ∉ log)
  /-- Its callback is running, and has written what the statements before the next one write. -/
  | running (n : Nat) (r : RunningCallback) (hentry : c.entry = some n)
      (hcontrol : c.control.blocking = true) (hcallback : callback = some r)
      (hcontext : r.userContext = k)
      (hstatus : r.next ≠ .callbackStatus → c.context.callbackStatus = .notified)
      (hresult : r.next = .conditionPost → c.context.confirmationResult = r.result)
      (hconfirmed : SenderEvent.confirmed n (sendCallback k) r.result ∈ log)
  /-- Its callback has returned and has woken it. -/
  | answered (n : Nat) (r : EventHubClientConfirmationResult) (hentry : c.entry = some n)
      (hcontrol : c.control = .woken ∨ c.control = .returned (if r = .ok then .ok else .error))
      (hcallback : Spares callback k) (hresult : c.context.confirmationResult = r)
      (hconfirmed : SenderEvent.confirmed n (sendCallback k) r ∈ log)

section Phases

variable {log events : List SenderEvent} {callback callback' : Option RunningCallback} {k : Nat}
  {c : SyncSend}

/-- The log grows, and not by a confirmation of this send. -/
theorem Phase.append (h : Phase log callback k c)
    (hevents : ∀ n r, SenderEvent.confirmed n (sendCallback k) r ∉ events) :
    Phase (log ++ events) callback k c := by
  cases h with
  | unsent hentry hcontrol hcallback hstatus => exact .unsent hentry hcontrol hcallback hstatus
  | queued n hentry hcontrol hcallback hstatus haccepted hnever =>
    refine .queued n hentry hcontrol hcallback hstatus
      (haccepted.imp fun _ ↦ List.mem_append_left _) fun r hmem ↦ ?_
    rcases List.mem_append.mp hmem with hmem | hmem
    · exact hnever r hmem
    · exact hevents n r hmem
  | running n r hentry hcontrol hcallback hcontext hstatus hresult hconfirmed =>
    exact .running n r hentry hcontrol hcallback hcontext hstatus hresult
      (List.mem_append_left _ hconfirmed)
  | answered n r hentry hcontrol hcallback hresult hconfirmed =>
    exact .answered n r hentry hcontrol hcallback hresult (List.mem_append_left _ hconfirmed)

/-- A callback runs on the context of another send. -/
theorem Phase.spared (h : Phase log callback k c) (hspares : Spares callback k)
    (hspares' : Spares callback' k) : Phase log callback' k c := by
  cases h with
  | unsent hentry hcontrol _ hstatus => exact .unsent hentry hcontrol hspares' hstatus
  | queued n hentry hcontrol _ hstatus haccepted hnever =>
    exact .queued n hentry hcontrol hspares' hstatus haccepted hnever
  | running n r hentry hcontrol hcallback hcontext hstatus hresult hconfirmed =>
    exact absurd hcontext (hspares r hcallback)
  | answered n r hentry hcontrol _ hresult hconfirmed =>
    exact .answered n r hentry hcontrol hspares' hresult hconfirmed

/-- The send goes on to another point before `Condition_Wait` returns. -/
theorem Phase.block (h : Phase log callback k c) (hc : c.control.blocking = true)
    {control : SendControl} (hcontrol' : control.blocking = true) :
    Phase log callback k { c with control := control } := by
  cases h with
  | unsent hentry hcontrol hcallback hstatus =>
    rcases hcontrol with hcontrol | hcontrol
    · cases hsend : c.control <;> simp_all [SendControl.unsent, SendControl.blocking]
    · rw [hcontrol] at hc
      cases hc
  | queued n hentry _ hcallback hstatus haccepted hnever =>
    exact .queued n hentry hcontrol' hcallback hstatus haccepted hnever
  | running n r hentry _ hcallback hcontext hstatus hresult hconfirmed =>
    exact .running n r hentry hcontrol' hcallback hcontext hstatus hresult hconfirmed
  | answered n r hentry hcontrol hcallback hresult hconfirmed =>
    rcases hcontrol with hcontrol | hcontrol <;> rw [hcontrol] at hc <;> cases hc

/-- A send for which nothing is queued goes on. -/
theorem Phase.unsent_cases (h : Phase log callback k c) (hc : c.control.unsent = true) :
    c.entry = none ∧ Spares callback k ∧ c.context.callbackStatus = .waiting := by
  cases h with
  | unsent hentry _ hcallback hstatus => exact ⟨hentry, hcallback, hstatus⟩
  | queued n hentry hcontrol =>
    cases hsend : c.control <;> simp_all [SendControl.unsent, SendControl.blocking]
  | running n r hentry hcontrol =>
    cases hsend : c.control <;> simp_all [SendControl.unsent, SendControl.blocking]
  | answered n r hentry hcontrol =>
    rcases hcontrol with hcontrol | hcontrol <;> rw [hcontrol] at hc <;> cases hc

/-- The send whose context the running callback has been given. -/
theorem Phase.running_cases (h : Phase log callback k c) {r : RunningCallback}
    (hr : callback = some r) (hk : r.userContext = k) :
    ∃ n, c.entry = some n ∧ c.control.blocking = true ∧
      (r.next ≠ .callbackStatus → c.context.callbackStatus = .notified) ∧
      (r.next = .conditionPost → c.context.confirmationResult = r.result) ∧
      SenderEvent.confirmed n (sendCallback k) r.result ∈ log := by
  cases h with
  | unsent _ _ hcallback => exact absurd hk (hcallback r hr)
  | queued _ _ _ hcallback => exact absurd hk (hcallback r hr)
  | running n r' hentry hcontrol hcallback _ hstatus hresult hconfirmed =>
    obtain rfl := Option.some.inj (hcallback.symm.trans hr)
    exact ⟨n, hentry, hcontrol, hstatus, hresult, hconfirmed⟩
  | answered _ _ _ _ hcallback => exact absurd hk (hcallback r hr)

end Phases

/-- How far every send is. -/
structure SyncInv (s : ThreadedSender σ) : Prop where
  phase : ∀ k c, s.sends[k]? = some c → Phase s.eventhubclientLL.log s.callback k c
  spared : s.freedTouched = false

/-- A send has moved from one phase to another, and the callback has not left another send. -/
theorem SyncInv.setSend (hs : SyncInv s) {k : Nat} {d : SyncSend}
    (hd : Phase s.eventhubclientLL.log s.callback k d) : SyncInv (setSend s k d) where
  phase j e hj := by
    rcases getElem?_set hj with ⟨rfl, rfl⟩ | ⟨-, hj⟩
    · exact hd
    · exact hs.phase j e hj
  spared := hs.spared

/-- A public call has entered the low-level sender and left it. -/
theorem SyncInv.call (hs : SyncInv s) (worker : Option SendWorkerControl) {ll : SenderState σ}
    (hll : Apart s.eventhubclientLL ll) :
    SyncInv { s with worker := worker, eventhubclientLL := ll } := by
  obtain ⟨events, hlog, hevents⟩ := hll.log
  refine ⟨fun k c hk ↦ ?_, hs.spared⟩
  show Phase ll.log s.callback k c
  rw [hlog]
  exact (hs.phase k c hk).append fun _ _ hmem ↦ absurd (hevents _ hmem).1 nofun

/-- The lower layer has been given the request of a send. -/
theorem SyncInv.lowerLayer (hs : SyncInv s) (hlock : LockInv s) (hown : OwnInv s) {k : Nat}
    {c : SyncSend} (env : LowerLayerEnv) (hk : s.sends[k]? = some c) (hc : c.control = .lowerLayer)
    (hresult : ExecuteResult s (some (sendCallback k))
      (execute s c.request (some llCallback) (some k) env)) :
    SyncInv (lowerLayer s k c env) := by
  have hmay := hlock.mayCall_of_lowerLayer hk hc
  obtain ⟨hentry, hspares, hstatus⟩ := (hs.phase k c hk).unsent_cases (by rw [hc]; rfl)
  unfold EventHubClient.lowerLayer
  generalize execute s c.request (some llCallback) (some k) env = x at hresult ⊢
  cases hresult with
  | failed worker hworker ll hll =>
    exact (hs.call worker (hll hmay)).setSend (.unsent rfl (Or.inl rfl) hspares hstatus)
  | queued worker hworker events tick hkempt =>
    -- the number of the new entry has not been used before
    have hnew : ∀ r, SenderEvent.confirmed s.eventhubclientLL.nextEntry (sendCallback k) r ∉
        s.eventhubclientLL.log := fun r hmem ↦ by
      have hzero := EventHubClientLL.confirmations_nextEntry hown.kempt
      have hpos := confirmations_pos hmem
      omega
    refine ⟨fun j d hj ↦ ?_, hs.spared⟩
    rcases getElem?_set hj with ⟨rfl, rfl⟩ | ⟨-, hj⟩
    · refine .queued _ rfl rfl hspares hstatus ⟨tick, List.mem_concat_self⟩ fun r hmem ↦ ?_
      rcases List.mem_append.mp hmem with hmem | hmem
      · exact hnew r hmem
      · cases List.mem_singleton.mp hmem
    · exact (hs.phase j d hj).append fun n r hmem ↦ by cases List.mem_singleton.mp hmem

/-- A second confirmation of an entry would be one too many. -/
theorem not_confirmed_twice {log : List SenderEvent} {t : SenderState σ} (ht : Kempt t)
    {cause : List SenderEvent} {n : Nat} {callback callback' : UserCallback}
    {r r' : EventHubClientConfirmationResult}
    (hlog : t.log = log ++ (cause ++ [.confirmed n callback r]))
    (h : SenderEvent.confirmed n callback' r' ∈ log) : False := by
  have hmem : SenderEvent.confirmed n callback r ∈ t.log := by
    rw [hlog]
    simp
  have honce := EventHubClientLL.confirmations_le_one ht hmem
  have hpos := confirmations_pos h
  rw [hlog, confirmations_append, confirmations_append] at honce
  have hlast : confirmations [.confirmed n callback r] n = 1 := by simp [confirmations]
  omega

/-- The low-level sender has taken a step outside `EventhubClientLLCallback`. -/
theorem SyncInv.lowLevel (hs : SyncInv s) (hown : OwnInv s) (hcallback : s.callback = none)
    {i : SenderInput ι} (hi : i.sends = none) (h : LowLevelStep auth s i t) : SyncInv t := by
  have ht := hown.lowLevel auth hi h
  have hsends : t.sends = s.sends := by rw [h.eq]
  have hfreed : t.freedTouched = s.freedTouched := by rw [h.eq]
  have hspares : ∀ k, Spares s.callback k := fun k r hr ↦
    absurd (hcallback.symm.trans hr) nofun
  refine ⟨fun j d hj ↦ ?_, hfreed.trans hs.spared⟩
  rw [hsends] at hj
  have hphase := hs.phase j d hj
  cases called_of_step auth h with
  | other events hlog hevents hnone =>
    rw [hlog]
    refine (hphase.append fun n r ↦ hevents n j r).spared (hspares j) fun r hr ↦ ?_
    exact absurd (hnone.symm.trans hr) nofun
  | own cause n k r hlog hcause hcontrol hsome =>
    by_cases hjk : j = k
    · subst hjk
      have hconfirmed : SenderEvent.confirmed n (sendCallback j) r ∈ t.eventhubclientLL.log := by
        rw [hlog]
        simp
      obtain ⟨-, tick, haccepted⟩ := ht.kempt.confirmed n _ r hconfirmed
      obtain ⟨c, hc, hn⟩ := ht.owned n j tick haccepted
      rw [hsends] at hc
      obtain rfl := Option.some.inj (hc.symm.trans hj)
      -- the entry belongs to this send, and it was not confirmed before
      cases hphase with
      | unsent hentry => exact absurd (hentry.symm.trans hn) nofun
      | queued m hentry hblocking =>
        exact .running n _ hn hblocking hsome rfl (fun hne ↦ absurd rfl hne) nofun hconfirmed
      | running m r' hentry _ hsome' => exact absurd (hcallback.symm.trans hsome') nofun
      | answered m r' hentry _ _ _ hbefore =>
        obtain rfl := Option.some.inj (hentry.symm.trans hn)
        exact (not_confirmed_twice ht.kempt hlog hbefore).elim
    · rw [hlog]
      refine (hphase.append fun m r' hmem ↦ ?_).spared (hspares j) fun r' hr' ↦ ?_
      · rcases List.mem_append.mp hmem with hmem | hmem
        · exact absurd (hcause _ hmem) nofun
        · cases List.mem_singleton.mp hmem
          exact hjk rfl
      · obtain rfl := Option.some.inj (hsome.symm.trans hr')
        exact Ne.symm hjk

/-- The callback finds the context of a caller that waits. -/
theorem callback_freedTouched {r : RunningCallback} {c : SyncSend}
    (hk : s.sends[r.userContext]? = some c) (hblocking : c.control.blocking = true) :
    (eventhubClientLLCallback s r).freedTouched = s.freedTouched := by
  unfold eventhubClientLLCallback
  rw [hk]
  cases hc : c.control with
  | returned result => rw [hc] at hblocking; cases hblocking
  | _ => cases hnext : r.next <;> simp [hc, setSend]

/-- A statement of `EventhubClientLLCallback`. -/
theorem SyncInv.callback (hs : SyncInv s) (hown : OwnInv s) {r : RunningCallback}
    (hr : s.callback = some r) (htimely : Timely s (.callback : ThreadedSenderInput ι)) :
    SyncInv (eventhubClientLLCallback s r) := by
  have hlt := hown.known r hr
  obtain ⟨c, hk⟩ : ∃ c, s.sends[r.userContext]? = some c := ⟨_, List.getElem?_eq_getElem hlt⟩
  obtain ⟨n, hn, hblocking, hstatus, hresult, hconfirmed⟩ :=
    (hs.phase _ c hk).running_cases hr rfl
  have hlive := (callback_freedTouched hk hblocking).trans hs.spared
  -- the other sends are not concerned
  have hother : ∀ j d callback, (∀ r', callback = some r' → r'.userContext = r.userContext) →
      j ≠ r.userContext → s.sends[j]? = some d →
      Phase s.eventhubclientLL.log callback j d := fun j d callback hcallback hj hd ↦ by
    refine (hs.phase j d hd).spared (fun r' hr' heq ↦ ?_) fun r' hr' heq ↦ ?_
    · obtain rfl := Option.some.inj (hr.symm.trans hr')
      exact hj heq.symm
    · exact hj (heq.symm.trans (hcallback r' hr'))
  unfold eventhubClientLLCallback at hlive ⊢
  rw [hk] at hlive ⊢
  cases hnext : r.next with
  | callbackStatus =>
    rw [hnext] at hlive
    refine ⟨fun j d hd ↦ ?_, hlive⟩
    rcases getElem?_set hd with ⟨rfl, rfl⟩ | ⟨hj, hd⟩
    · exact .running n _ hn hblocking rfl rfl (fun _ ↦ rfl) (by rintro ⟨⟩) hconfirmed
    · exact hother j d _ (fun r' hr' ↦ Option.some.inj hr' ▸ rfl) hj hd
  | confirmationResult =>
    rw [hnext] at hlive
    refine ⟨fun j d hd ↦ ?_, hlive⟩
    rcases getElem?_set hd with ⟨rfl, rfl⟩ | ⟨hj, hd⟩
    · have hnotified := hstatus (by rw [hnext]; simp)
      exact .running n _ hn hblocking rfl rfl (fun _ ↦ hnotified) (fun _ ↦ rfl) hconfirmed
    · exact hother j d _ (fun r' hr' ↦ Option.some.inj hr' ▸ rfl) hj hd
  | conditionPost =>
    obtain ⟨d, hd, hwaiting⟩ := htimely r hr hnext
    obtain rfl := Option.some.inj (hd.symm.trans hk)
    rw [hnext] at hlive
    refine ⟨fun j e he ↦ ?_, hlive⟩
    rcases getElem?_set he with ⟨rfl, rfl⟩ | ⟨hj, he⟩
    · exact .answered n r.result hn (Or.inl (if_pos hwaiting)) (fun r' hr' ↦ by cases hr')
        (hresult hnext) hconfirmed
    · exact hother j e none (by simp) hj he

theorem step_syncInv {i : ThreadedSenderInput ι} (hlock : LockInv s) (hown : OwnInv s)
    (htimely : Timely s i) (hs : SyncInv s) (hstep : step auth s i = some t) : SyncInv t := by
  cases step_move auth hstep with
  | refused => exact hs
  | syncSend request env context hopen hcontext =>
    have hwaiting : context.callbackStatus = .waiting := by
      obtain ⟨-, ⟨⟩⟩ := Option.ite_none_right_eq_some.mp hcontext
      rfl
    refine ⟨fun k c hk ↦ ?_, hs.spared⟩
    rcases getElem?_concat hk with hk | ⟨rfl, rfl⟩
    · exact hs.phase k c hk
    · exact .unsent rfl (Or.inl rfl) (fun r hr ↦ (hown.known r hr).ne) hwaiting
  | @lock k c hk hc hfree =>
    obtain ⟨hentry, hspares, hstatus⟩ := (hs.phase k c hk).unsent_cases (by rw [hc]; rfl)
    have h := hs.setSend (k := k) (d := { c with control := .lowerLayer })
      (.unsent hentry (Or.inl rfl) hspares hstatus)
    exact ⟨h.phase, h.spared⟩
  | @lockFailed k c hk hc =>
    obtain ⟨hentry, hspares, hstatus⟩ := (hs.phase k c hk).unsent_cases (by rw [hc]; rfl)
    exact hs.setSend (.unsent hentry (Or.inr rfl) hspares hstatus)
  | lowerLayer env hk hc =>
    exact hs.lowerLayer hlock hown env hk hc (execute_result auth s _ (some llCallback) _ env)
  | @unlock k c sent hk hc =>
    have hphase : Phase s.eventhubclientLL.log s.callback k { c with
        control := if sent then .conditionWait else .returned .error } := by
      cases sent with
      | true => exact (hs.phase k c hk).block (by rw [hc]; rfl) rfl
      | false =>
        obtain ⟨hentry, hspares, hstatus⟩ := (hs.phase k c hk).unsent_cases (by rw [hc]; rfl)
        exact .unsent hentry (Or.inr rfl) hspares hstatus
    have h := hs.setSend hphase
    exact ⟨h.phase, h.spared⟩
  | @conditionWait k c hk hc =>
    obtain ⟨hlocked, hcondition⟩ := htimely c hk
    refine hs.setSend ((hs.phase k c hk).block (by rw [hc]; rfl) ?_)
    rw [hlocked, hcondition]
    rfl
  | @finish k c hk hc =>
    refine hs.setSend ?_
    cases hs.phase k c hk with
    | unsent _ hcontrol => rcases hcontrol with h | h <;> rw [hc] at h <;> cases h
    | queued _ _ hcontrol => rw [hc] at hcontrol; cases hcontrol
    | running _ _ _ hcontrol => rw [hc] at hcontrol; cases hcontrol
    | answered n r hentry _ hcallback hresult hconfirmed =>
      refine .answered n r hentry (Or.inr ?_) hcallback hresult hconfirmed
      rw [sendResult, hresult]
  | call hmay worker hworker ll hll => exact hs.call worker (hll (hlock.mayCall_of_mayLock hmay))
  | destroy threadToContinue hopen hreleased => exact ⟨hs.phase, hs.spared⟩
  | iterate hworker => exact ⟨hs.phase, hs.spared⟩
  | workerLock env hworker hfree h =>
    have hidle : s.eventhubclientLL.control = .idle := by
      obtain ⟨hidle, -⟩ := Option.ite_none_right_eq_some.mp h.step
      simpa using (Bool.and_eq_true_iff.mp hidle).1
    have hcallback : s.callback = none := by
      by_contra hne
      exact hown.inside hne hidle
    have hlocked : SyncInv { s with worker := some .doWork, lockInfo := some .worker } :=
      ⟨hs.phase, hs.spared⟩
    have hlocked' : OwnInv { s with worker := some .doWork, lockInfo := some .worker } :=
      ⟨hown.kempt, hown.owned, hown.known, hown.inside, hown.fresh⟩
    exact hlocked.lowLevel auth hlocked' hcallback (i := .doWork env) rfl h
  | workerLockFailed env hworker => exact ⟨hs.phase, hs.spared⟩
  | lowLevel i hin hi hcallback h =>
    have hsends : i.sends = none := by cases i <;> first | rfl | cases hi
    exact hs.lowLevel auth hown hcallback hsends h
  | callback hr => exact hs.callback hown hr htimely
  | workerUnlock hworker hidle => exact ⟨hs.phase, hs.spared⟩
  | wake hworker => exact ⟨hs.phase, hs.spared⟩
  | join hclosing h =>
    have hidle : s.eventhubclientLL.control = .idle := by
      obtain ⟨hidle, -⟩ := Option.ite_none_right_eq_some.mp h.step
      simpa using (Bool.and_eq_true_iff.mp hidle).1
    have hcallback : s.callback = none := by
      by_contra hne
      exact hown.inside hne hidle
    have hjoined : SyncInv { s with closing := .destroying } := ⟨hs.phase, hs.spared⟩
    have hjoined' : OwnInv { s with closing := .destroying } :=
      ⟨hown.kempt, hown.owned, hown.known, hown.inside, hown.fresh⟩
    exact hjoined.lowLevel auth hjoined' hcallback (i := .destroy) rfl h
  | deInit hclosing => exact ⟨hs.phase, hs.spared⟩

/-! ### Runs -/

theorem created_ownInv {c : EventHubClientLL σ} (hc : EventHubClientLL.Created c) :
    OwnInv (created c) :=
  ⟨EventHubClientLL.created_kempt hc, by simp [created], by simp [created], by simp [created],
    by simp [created]⟩

theorem created_syncInv {c : EventHubClientLL σ} : SyncInv (created c) :=
  ⟨by simp [created], rfl⟩

theorem synchronous_of_syncInv (hkempt : Kempt s.eventhubclientLL) (hs : SyncInv s) :
    Synchronous s where
  returned k c result n hk hc hn := by
    cases hs.phase k c hk with
    | unsent hentry => exact absurd (hentry.symm.trans hn) nofun
    | queued _ _ hcontrol => rw [hc] at hcontrol; cases hcontrol
    | running _ _ _ hcontrol => rw [hc] at hcontrol; cases hcontrol
    | answered m r hentry hcontrol hcallback _ hconfirmed =>
      obtain rfl := Option.some.inj (hentry.symm.trans hn)
      refine ⟨hcallback, r, hconfirmed, ?_⟩
      rcases hcontrol with hcontrol | hcontrol
      · exact absurd (hcontrol.symm.trans hc) nofun
      · obtain rfl : (if r = .ok then .ok else .error) = result :=
          SendControl.returned.inj (hcontrol.symm.trans hc)
        by_cases hok : r = .ok <;> simp [hok]
  spared := hs.spared
  notified k c hk hc hnotified := by
    cases hs.phase k c hk with
    | unsent _ _ _ hstatus => exact absurd (hstatus.symm.trans hnotified) nofun
    | queued _ _ _ _ hstatus => exact absurd (hstatus.symm.trans hnotified) nofun
    | running n r _ _ hcallback hcontext => exact fun hspares ↦ hspares r hcallback hcontext
    | answered _ _ _ hcontrol =>
      rcases hcontrol with h | h <;> rw [h] at hc <;> cases hc
  pending k c hk hc hspares := by
    cases hs.phase k c hk with
    | unsent _ hcontrol =>
      rcases hcontrol with hcontrol | hcontrol
      · cases hsend : c.control <;> simp_all [SendControl.unsent, SendControl.blocking]
      · rw [hcontrol] at hc
        cases hc
    | queued n hentry _ _ _ haccepted hnever =>
      obtain ⟨tick, haccepted⟩ := haccepted
      rcases EventHubClientLL.pending_or_settled hkempt haccepted with hpending | hsettled
      · exact ⟨n, hentry, hpending⟩
      · obtain ⟨r, hr⟩ := hsettled.own
        exact absurd hr (hnever r)
    | running n r _ _ hcallback hcontext => exact absurd hcontext (hspares r hcallback)
    | answered _ _ _ hcontrol =>
      rcases hcontrol with h | h <;> rw [h] at hc <;> cases hc

theorem run_invariants {c : EventHubClientLL σ} (hc : EventHubClientLL.Created c)
    {is : List (ThreadedSenderInput ι)}
    (hrun : (threadedMachine auth).run (created c) is = some s) : LockInv s ∧ OwnInv s := by
  have hstep : ∀ s i t, LockInv s ∧ OwnInv s → (threadedMachine auth).step s i = some t →
      LockInv t ∧ OwnInv t := fun _ _ _ hs h ↦
    ⟨step_lockInv auth hs.1 h, step_ownInv auth hs.1 hs.2 h⟩
  exact Machine.run_invariant hstep ⟨created_lockInv, created_ownInv hc⟩ hrun

/-- In every run in which no `Condition_Post` is lost and every `Condition_Wait` waits, a
synchronous send whose events were queued returns after its callback, with the result that the
callback was told, no callback writes to a destroyed context, and a send that is blocked has its
wake-up to come. -/
theorem run_synchronous {c : EventHubClientLL σ} (hc : EventHubClientLL.Created c)
    {is : List (ThreadedSenderInput ι)}
    (hrun : (threadedMachine auth).run (created c) is = some s)
    (htimely : (threadedMachine auth).Meets Timely (created c) is) : Synchronous s := by
  have hstep : ∀ s i t, (LockInv s ∧ OwnInv s) ∧ SyncInv s → Timely s i →
      (threadedMachine auth).step s i = some t → (LockInv t ∧ OwnInv t) ∧ SyncInv t :=
    fun _ _ _ hs hi h ↦ ⟨⟨step_lockInv auth hs.1.1 h, step_ownInv auth hs.1.1 hs.1.2 h⟩,
      step_syncInv auth hs.1.1 hs.1.2 hi hs.2 h⟩
  have hs := Machine.run_invariant_of_meets hstep
    ⟨⟨created_lockInv, created_ownInv hc⟩, created_syncInv⟩ htimely hrun
  exact synchronous_of_syncInv hs.1.2.kempt hs.2

/-- A synchronous send is queued, the worker brings up the stack and sends its event, and uAMQP
reports that it was delivered. -/
def deliver : List (ThreadedSenderInput AuthEnv) :=
  [.iterate, .workerLock (EventHubClientLL.doWorkAt 100) true,
    .lowLevel (.onCBSPutTokenOperationComplete .ok { completeNow := some 101 }),
    .lowLevel (.uamqpReturn true), .workerUnlock, .wake,
    .iterate, .workerLock (EventHubClientLL.doWorkAt 102) true, .workerUnlock, .wake,
    .iterate, .workerLock (EventHubClientLL.doWorkAt 103) true,
    .lowLevel (.onMessageSenderStateChanged .open .opening), .lowLevel (.uamqpReturn true),
    .lowLevel (.iterate {} 20 true), .lowLevel (.onMessageSendComplete 0 .ok),
    .callback, .callback, .callback]

/-- A call of `EventHubClient_Send` up to `Unlock`. -/
def enqueue (env : ContextEnv) : List (ThreadedSenderInput AuthEnv) :=
  [.syncSend (.send (some { buffer := [7] })) env, .lock 0 true,
    .lowerLayer 0 { send := { idleTimer := 10 } }, .unlock 0]

/-- A send that is in `Condition_Wait` before its event is delivered. -/
theorem run_synchronous_delivered :
    ∃ t, (threadedMachine (EventHubAuthCBS.authModule fun _ ↦ none)).run
        (created (.createdFromConnectionString "name" "key" "host" "hub" "target"))
        (enqueue {} ++ .conditionWait 0 :: deliver ++ [.finish 0]) = some t ∧
      (t.sends[0]?.map (·.control)) = some (.returned .ok) ∧ Synchronous t := by
  refine ⟨_, rfl, rfl, ?_⟩
  exact @run_synchronous _ _ (EventHubAuthCBS.authModule fun _ ↦ none) _ _
    (.fromConnectionString "name" "key" "host" "hub" "target")
    (enqueue {} ++ .conditionWait 0 :: deliver ++ [.finish 0]) rfl (by decide)

/-! ### Lost wake-ups -/

/-- The send numbered `k` is in `Condition_Wait`, and its callback has already run. -/
def Lost (s : ThreadedSender σ) (k : Nat) : Prop :=
  ∃ c n r, s.sends[k]? = some c ∧ c.control = .waiting ∧ c.entry = some n ∧
    SenderEvent.confirmed n (sendCallback k) r ∈ s.eventhubclientLL.log ∧ Spares s.callback k

section Lost

variable {k : Nat}

/-- The low-level sender and the callback have moved, and not the send. -/
theorem Lost.keep (hs : Lost s k) (hsends : t.sends = s.sends)
    (hlog : ∀ e ∈ s.eventhubclientLL.log, e ∈ t.eventhubclientLL.log)
    (hspares : Spares s.callback k → Spares t.callback k) : Lost t k := by
  obtain ⟨c, n, r, hk, hwaiting, hn, hconfirmed, hbefore⟩ := hs
  exact ⟨c, n, r, hsends ▸ hk, hwaiting, hn, hlog _ hconfirmed, hspares hbefore⟩

/-- A send that is not in `Condition_Wait` has moved. -/
theorem Lost.setSend (hs : Lost s k) {j : Nat} {c : SyncSend} (hj : s.sends[j]? = some c)
    (hc : c.control ≠ .waiting) (d : SyncSend) : Lost (setSend s j d) k := by
  obtain ⟨e, n, r, hk, hwaiting, hrest⟩ := hs
  have hne : j ≠ k := by
    rintro rfl
    obtain rfl := Option.some.inj (hj.symm.trans hk)
    exact hc hwaiting
  exact ⟨e, n, r, (List.getElem?_set_ne hne).trans hk, hwaiting, hrest⟩

theorem Lost.lowLevel (hs : Lost s k) (hown : OwnInv s) {i : SenderInput ι} (hi : i.sends = none)
    (h : LowLevelStep auth s i t) : Lost t k := by
  have ht := hown.lowLevel auth hi h
  have hsends : t.sends = s.sends := by rw [h.eq]
  cases called_of_step auth h with
  | other events hlog _ hnone =>
    refine hs.keep hsends (fun e he ↦ ?_) fun _ r hr ↦ absurd (hnone.symm.trans hr) nofun
    rw [hlog]
    exact List.mem_append_left _ he
  | own cause m j r hlog _ _ hsome =>
    refine hs.keep hsends (fun e he ↦ ?_) fun _ r' hr' heq ↦ ?_
    · rw [hlog]
      exact List.mem_append_left _ he
    -- the callback of this send would be called for an entry that it was called for before
    · obtain rfl := Option.some.inj (hsome.symm.trans hr')
      obtain rfl : j = k := heq
      obtain ⟨c, n, result, hk, -, hn, hbefore, -⟩ := hs
      have hconfirmed : SenderEvent.confirmed m (sendCallback j) r ∈ t.eventhubclientLL.log := by
        rw [hlog]
        simp
      obtain ⟨-, tick, haccepted⟩ := ht.kempt.confirmed m _ r hconfirmed
      obtain ⟨d, hd, hm⟩ := ht.owned m j tick haccepted
      rw [hsends] at hd
      obtain rfl := Option.some.inj (hd.symm.trans hk)
      obtain rfl := Option.some.inj (hm.symm.trans hn)
      exact not_confirmed_twice ht.kempt hlog hbefore

theorem Lost.callback (hs : Lost s k) {r : RunningCallback} (hr : s.callback = some r) :
    Lost (eventhubClientLLCallback s r) k := by
  obtain ⟨c, n, result, hk, hwaiting, hn, hconfirmed, hspares⟩ := hs
  have hne := hspares r hr
  unfold eventhubClientLLCallback
  cases hj : s.sends[r.userContext]? with
  | none => exact ⟨c, n, result, hk, hwaiting, hn, hconfirmed, nofun⟩
  | some d =>
    cases r.next with
    | callbackStatus =>
      exact ⟨c, n, result, (List.getElem?_set_ne hne).trans hk, hwaiting, hn, hconfirmed,
        fun _ hr' ↦ Option.some.inj hr' ▸ hne⟩
    | confirmationResult =>
      exact ⟨c, n, result, (List.getElem?_set_ne hne).trans hk, hwaiting, hn, hconfirmed,
        fun _ hr' ↦ Option.some.inj hr' ▸ hne⟩
    | conditionPost =>
      exact ⟨c, n, result, (List.getElem?_set_ne hne).trans hk, hwaiting, hn, hconfirmed, nofun⟩

theorem Lost.call (hs : Lost s k) (worker : Option SendWorkerControl) {ll : SenderState σ}
    (hll : Apart s.eventhubclientLL ll) :
    Lost { s with worker := worker, eventhubclientLL := ll } k := by
  obtain ⟨events, hlog, -⟩ := hll.log
  have hkept : ∀ e ∈ s.eventhubclientLL.log, e ∈ ll.log := fun e he ↦
    hlog ▸ List.mem_append_left _ he
  exact hs.keep rfl hkept id

/-- No step wakes it. -/
theorem step_lost {i : ThreadedSenderInput ι} (hlock : LockInv s) (hown : OwnInv s)
    (hs : Lost s k) (hstep : step auth s i = some t) : Lost t k := by
  cases step_move auth hstep with
  | refused => exact hs
  | syncSend request env context hopen hcontext =>
    obtain ⟨c, n, r, hk, hrest⟩ := hs
    exact ⟨c, n, r, (List.getElem?_append_left (List.getElem?_eq_some_iff.mp hk).1).trans hk, hrest⟩
  | @lock j d hj hd hfree =>
    exact (hs.setSend hj (by rw [hd]; nofun) { d with control := .lowerLayer }).keep rfl
      (fun _ ↦ id) id
  | lockFailed hj hd => exact hs.setSend hj (by rw [hd]; nofun) _
  | @lowerLayer j d env hj hd =>
    have hmay := hlock.mayCall_of_lowerLayer hj hd
    have hresult := execute_result auth s d.request (some llCallback) (some j) env
    unfold lowerLayer
    generalize execute s d.request (some llCallback) (some j) env = x at hresult ⊢
    cases hresult with
    | failed worker hworker ll hll =>
      exact (hs.call worker (hll hmay)).setSend hj (by rw [hd]; nofun) _
    | queued worker hworker events tick hkempt =>
      have hqueued : Lost { s with
          worker := worker
          eventhubclientLL := EventHubClientLL.queue s.eventhubclientLL events
            (some ⟨llCallback, some j⟩) tick } k :=
        hs.keep rfl (fun _ ↦ List.mem_append_left _) id
      exact hqueued.setSend hj (by rw [hd]; nofun) _
  | @unlock j d sent hj hd =>
    exact (hs.setSend hj (by rw [hd]; nofun) { d with
      control := if sent then .conditionWait else .returned .error }).keep rfl (fun _ ↦ id) id
  | conditionWait hj hd => exact hs.setSend hj (by rw [hd]; nofun) _
  | finish hj hd => exact hs.setSend hj (by rw [hd]; nofun) _
  | call hmay worker hworker ll hll => exact hs.call worker (hll (hlock.mayCall_of_mayLock hmay))
  | destroy threadToContinue hopen hreleased => exact hs.keep rfl (fun _ ↦ id) id
  | iterate hworker => exact hs.keep rfl (fun _ ↦ id) id
  | workerLock env hworker hfree h =>
    have hlocked : Lost { s with worker := some .doWork, lockInfo := some .worker } k :=
      hs.keep rfl (fun _ ↦ id) id
    have hlocked' : OwnInv { s with worker := some .doWork, lockInfo := some .worker } :=
      ⟨hown.kempt, hown.owned, hown.known, hown.inside, hown.fresh⟩
    exact hlocked.lowLevel auth hlocked' (i := .doWork env) rfl h
  | workerLockFailed env hworker => exact hs.keep rfl (fun _ ↦ id) id
  | lowLevel i hin hi hcallback h =>
    have hsends : i.sends = none := by cases i <;> first | rfl | cases hi
    exact hs.lowLevel auth hown hsends h
  | callback hr => exact hs.callback hr
  | workerUnlock hworker hidle => exact hs.keep rfl (fun _ ↦ id) id
  | wake hworker => exact hs.keep rfl (fun _ ↦ id) id
  | join hclosing h =>
    have hjoined : Lost { s with closing := .destroying } k := hs.keep rfl (fun _ ↦ id) id
    have hjoined' : OwnInv { s with closing := .destroying } :=
      ⟨hown.kempt, hown.owned, hown.known, hown.inside, hown.fresh⟩
    exact hjoined.lowLevel auth hjoined' (i := .destroy) rfl h
  | deInit hclosing => exact hs.keep rfl (fun _ ↦ id) id

/-- It never returns. -/
theorem Lost.leads (hs : Lost s k) (hlock : LockInv s) (hown : OwnInv s)
    (h : (threadedMachine auth).Leads s t) :
    ∃ c, t.sends[k]? = some c ∧ c.control = .waiting := by
  obtain ⟨is, hrun⟩ := h
  have hstep : ∀ s i t, (LockInv s ∧ OwnInv s) ∧ Lost s k →
      (threadedMachine auth).step s i = some t → (LockInv t ∧ OwnInv t) ∧ Lost t k :=
    fun _ _ _ hs h ↦ ⟨⟨step_lockInv auth hs.1.1 h, step_ownInv auth hs.1.1 hs.1.2 h⟩,
      step_lost auth hs.1.1 hs.1.2 hs.2 h⟩
  obtain ⟨-, c, n, r, hc, hwaiting, -⟩ := Machine.run_invariant hstep ⟨⟨hlock, hown⟩, hs⟩ hrun
  exact ⟨c, hc, hwaiting⟩

end Lost

/-- When the event is delivered between `Unlock` and `Condition_Wait`, the send waits for ever
although its callback has set `CALLBACK_NOTIFIED`. When `Condition_Init` has failed, the send
returns an error before its event is delivered, and the callback writes to the destroyed
context. -/
theorem run_loses_wakeup :
    (∃ t c, (threadedMachine (EventHubAuthCBS.authModule fun _ ↦ none)).run
        (created (.createdFromConnectionString "name" "key" "host" "hub" "target"))
        (enqueue {} ++ deliver ++ [.conditionWait 0]) = some t ∧
      t.sends[0]? = some c ∧ c.control = .waiting ∧ c.context.callbackStatus = .notified ∧
      t.callback = none ∧
      ∀ u, (threadedMachine (EventHubAuthCBS.authModule fun _ ↦ none)).Leads t u →
        ∃ c, u.sends[0]? = some c ∧ c.control = .waiting) ∧
    ∃ t c, (threadedMachine (EventHubAuthCBS.authModule fun _ ↦ none)).run
        (created (.createdFromConnectionString "name" "key" "host" "hub" "target"))
        (enqueue { conditionInit := false } ++ .conditionWait 0 :: .finish 0 :: deliver) = some t ∧
      t.sends[0]? = some c ∧ c.entry = some 0 ∧ c.control = .returned .error ∧
      SenderEvent.confirmed 0 (sendCallback 0) .ok ∈ t.eventhubclientLL.log ∧
      t.freedTouched = true := by
  refine ⟨⟨_, _, rfl, rfl, rfl, rfl, rfl, fun u hu ↦ ?_⟩, _, _, rfl, rfl, rfl, rfl, by decide, rfl⟩
  have hinv := @run_invariants _ _ (EventHubAuthCBS.authModule fun _ ↦ none) _ _
    (.fromConnectionString "name" "key" "host" "hub" "target")
    (enqueue {} ++ deliver ++ [.conditionWait 0]) rfl
  refine Lost.leads (EventHubAuthCBS.authModule fun _ ↦ none) ?_ hinv.1 hinv.2 hu
  exact ⟨_, 0, .ok, rfl, rfl, rfl, by decide, fun r hr ↦ nomatch hr⟩

end EventHubClient

end EventHubs
