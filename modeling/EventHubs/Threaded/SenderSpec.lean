import EventHubs.Threaded.Spec
import EventHubs.Threaded.Sender

/-!
# What the functions of the threaded sender do

The steps of the machine as a case analysis, and the lock discipline: the low-level sender is
between two calls while the worker does not hold `lockInfo`, so the calls of the users may enter it.

## Main definitions

* `EventHubClient.Apart` — what a call that no synchronous send looks at leaves alone.
* `EventHubClient.ExecuteResult` — what the lower layer does with a request.
* `EventHubClient.Move` — what a step can be.
* `EventHubClient.LockInv` — the lock discipline.

## Main results

* `EventHubClient.step_move`, `EventHubClient.step_lockInv`.
-/

namespace EventHubs

/-- The send holds `lockInfo`. -/
def SendControl.holds : SendControl → Bool
  | .lowerLayer => true
  | .unlock _ => true
  | _ => false

namespace EventHubClient

open EventHubClientLL (Kempt)

variable {σ ι : Type} (auth : AuthModule σ ι) {s t : ThreadedSender σ}

/-! ### The lower layer -/

/-- The low-level sender has stayed where it was, and has neither confirmed an entry nor accepted
one for `EventhubClientLLCallback`. -/
structure Apart (ll ll' : SenderState σ) : Prop where
  control : ll'.control = ll.control
  destroying : ll'.destroying = ll.destroying
  log : ∃ events, ll'.log = ll.log ++ events ∧ ∀ e ∈ events, e.unconfirming = true ∧
    ∀ n context tick, e ≠ .accepted n (some ⟨llCallback, context⟩) tick
  kempt : Kempt ll → Kempt ll'

theorem Apart.refl (ll : SenderState σ) : Apart ll ll :=
  ⟨rfl, rfl, ⟨[], by simp, nofun⟩, id⟩

theorem apart_of_sameQueue {ll ll' : SenderState σ} {i : SenderInput ι}
    (hstep : EventHubClientLL.step auth ll i = some ll')
    (hqueue : SenderState.SameQueue ll ll') (hcontrol : ll'.control = ll.control) :
    Apart ll ll' := by
  obtain ⟨events, hlog, hquiet⟩ := hqueue.log
  refine ⟨hcontrol, hqueue.destroying, ⟨events, hlog, fun e he ↦ ?_⟩,
    fun hs ↦ EventHubClientLL.step_kempt auth hs hstep⟩
  have hview := List.flatMap_eq_nil_iff.mp hquiet e he
  refine ⟨SenderEvent.unconfirming_of_eventView hview, fun n context tick heq ↦ ?_⟩
  rw [heq] at hview
  cases hview

/-- The worker stays where it is, or it is created. -/
def WorkerKept (worker worker' : Option SendWorkerControl) : Prop :=
  worker' = worker ∨ worker = none ∧ worker' = some .loopHead

/-- The request is queued for the callback, or it fails and nothing is queued. The low-level sender
must be between two calls. -/
inductive ExecuteResult (s : ThreadedSender σ) (callback : Option UserCallback) :
    Bool × ThreadedSender σ → Prop
  | failed (worker : Option SendWorkerControl) (hworker : WorkerKept s.worker worker)
      (ll : SenderState σ)
      (hll : EventHubClientLL.mayCall s.eventhubclientLL = true → Apart s.eventhubclientLL ll) :
    ExecuteResult s callback (false, { s with worker := worker, eventhubclientLL := ll })
  | queued (worker : Option SendWorkerControl) (hworker : WorkerKept s.worker worker)
      (events : List EventData) (tick : UInt64)
      (hkempt : EventHubClientLL.mayCall s.eventhubclientLL = true → Kempt s.eventhubclientLL →
        Kempt (EventHubClientLL.queue s.eventhubclientLL events callback tick)) :
    ExecuteResult s callback (true, { s with
      worker := worker
      eventhubclientLL := EventHubClientLL.queue s.eventhubclientLL events callback tick })

theorem executeLowerLayer_result (s : ThreadedSender σ) (creates : Bool)
    (call : SenderState σ → EventHubClientResult × SenderState σ) {callback : Option UserCallback}
    {tick : UInt64} {i : SenderInput ι}
    (hcall : EventHubClientLL.SendResult s.eventhubclientLL callback tick (call s.eventhubclientLL))
    (hstep : EventHubClientLL.mayCall s.eventhubclientLL = true →
      EventHubClientLL.step auth s.eventhubclientLL i = some (call s.eventhubclientLL).2) :
    ExecuteResult s callback (executeLowerLayer s creates call) := by
  have hcreated : ∀ worker, WorkerKept s.worker worker → ExecuteResult s callback
      ((call s.eventhubclientLL).1 = .ok,
        { s with worker := worker, eventhubclientLL := (call s.eventhubclientLL).2 }) := by
    intro worker hworker
    generalize call s.eventhubclientLL = x at hcall hstep
    cases hcall with
    | refused r hr =>
      have hok : decide (r = .ok) = false := decide_eq_false hr
      rw [hok]
      exact .failed worker hworker _ fun _ ↦ .refl _
    | unallocated =>
      refine .failed worker hworker _ fun hmay ↦ ⟨rfl, rfl, ⟨[], by simp, nofun⟩, fun hs ↦ ?_⟩
      exact EventHubClientLL.step_kempt auth hs (hstep hmay)
    | queued events =>
      exact .queued worker hworker events tick fun hmay hs ↦
        EventHubClientLL.step_kempt auth hs (hstep hmay)
  unfold executeLowerLayer createDoWorkThreadIfNeccesary
  by_cases hsome : s.worker.isSome = true
  · rw [if_pos hsome]
    exact hcreated s.worker (Or.inl rfl)
  · rw [if_neg hsome]
    have hnone : s.worker = none := by simpa using hsome
    cases creates with
    | true => exact hcreated (some .loopHead) (Or.inr ⟨hnone, rfl⟩)
    | false => exact .failed s.worker (Or.inl rfl) _ fun _ ↦ .refl _

include auth in
theorem execute_result (s : ThreadedSender σ) (request : SendRequest)
    (callback context : Option Nat) (env : LowerLayerEnv) :
    ExecuteResult s (callback.map (⟨·, context⟩)) (execute s request callback context env) := by
  cases request with
  | send event =>
    have hstep : EventHubClientLL.mayCall s.eventhubclientLL = true →
        EventHubClientLL.step auth s.eventhubclientLL
          (.sendAsync event callback context env.send) =
        some (EventHubClientLL.sendAsync s.eventhubclientLL event callback context env.send).2 :=
      fun hmay ↦ if_pos hmay
    exact executeLowerLayer_result auth s env.creates
      (EventHubClientLL.sendAsync · event callback context env.send)
      (EventHubClientLL.sendAsync_result s.eventhubclientLL event callback context env.send) hstep
  | sendBatch list =>
    have hstep : EventHubClientLL.mayCall s.eventhubclientLL = true →
        EventHubClientLL.step auth s.eventhubclientLL
          (.sendBatchAsync list callback context env.send) =
        some (EventHubClientLL.sendBatchAsync s.eventhubclientLL list callback context
          env.send).2 :=
      fun hmay ↦ if_pos hmay
    exact executeLowerLayer_result auth s env.creates
      (EventHubClientLL.sendBatchAsync · list callback context env.send)
      (EventHubClientLL.sendBatchAsync_result s.eventhubclientLL list callback context env.send)
      hstep

/-! ### Steps -/

/-- The low-level sender has taken a step, and the callback that it calls is running. -/
structure LowLevelStep (s : ThreadedSender σ) (i : SenderInput ι) (t : ThreadedSender σ) :
    Prop where
  step : EventHubClientLL.step auth s.eventhubclientLL i = some t.eventhubclientLL
  eq : t = { s with
    eventhubclientLL := t.eventhubclientLL
    callback := startedCallback s.eventhubclientLL t.eventhubclientLL }

theorem lowLevel_step {i : SenderInput ι} (h : lowLevel auth s i = some t) :
    LowLevelStep auth s i t := by
  obtain ⟨ll, hll, rfl⟩ := Option.map_eq_some_iff.mp h
  exact ⟨hll, rfl⟩

/-- What a step can be. -/
inductive Move (s : ThreadedSender σ) : ThreadedSenderInput ι → ThreadedSender σ → Prop
  /-- A call returns before it has got the lock. -/
  | refused (i : ThreadedSenderInput ι) : Move s i s
  | syncSend (request : SendRequest) (env : ContextEnv) (context : EventHubCallback)
      (hopen : s.closing = .open) (hcontext : initUserContext env = some context) :
    Move s (.syncSend request env) { s with sends := s.sends ++ [{ request, context }] }
  | lock {k : Nat} {c : SyncSend} (hk : s.sends[k]? = some c) (hc : c.control = .lock)
      (hfree : s.lockInfo = none) : Move s (.lock k true) (lock s k c true)
  | lockFailed {k : Nat} {c : SyncSend} (hk : s.sends[k]? = some c) (hc : c.control = .lock) :
    Move s (.lock k false) (lock s k c false)
  | lowerLayer {k : Nat} {c : SyncSend} (env : LowerLayerEnv) (hk : s.sends[k]? = some c)
      (hc : c.control = .lowerLayer) : Move s (.lowerLayer k env) (lowerLayer s k c env)
  | unlock {k : Nat} {c : SyncSend} {sent : Bool} (hk : s.sends[k]? = some c)
      (hc : c.control = .unlock sent) : Move s (.unlock k) (unlock s k c sent)
  | conditionWait {k : Nat} {c : SyncSend} (hk : s.sends[k]? = some c)
      (hc : c.control = .conditionWait) : Move s (.conditionWait k) (conditionWait s k c)
  | finish {k : Nat} {c : SyncSend} (hk : s.sends[k]? = some c) (hc : c.control = .woken) :
    Move s (.finish k) (setSend s k { c with control := .returned (sendResult c.context) })
  /-- A public call that no synchronous send looks at. -/
  | call {i : ThreadedSenderInput ι} (hmay : mayLock s = true)
      (worker : Option SendWorkerControl) (hworker : WorkerKept s.worker worker)
      (ll : SenderState σ)
      (hll : EventHubClientLL.mayCall s.eventhubclientLL = true → Apart s.eventhubclientLL ll) :
    Move s i { s with worker := worker, eventhubclientLL := ll }
  | destroy (threadToContinue : ThreadToContinue) (hopen : s.closing = .open)
      (hreleased : ∀ c ∈ s.sends, c.control.released = true) :
    Move s .destroy { s with threadToContinue := threadToContinue, closing := .joining }
  | iterate (hworker : s.worker = some .loopHead) : Move s .iterate (iterate s)
  | workerLock (env : DoWorkEnv ι) (hworker : s.worker = some .lock) (hfree : s.lockInfo = none)
      {t : ThreadedSender σ}
      (h : LowLevelStep auth { s with worker := some .doWork, lockInfo := some .worker }
        (.doWork env) t) : Move s (.workerLock env true) t
  | workerLockFailed (env : DoWorkEnv ι) (hworker : s.worker = some .lock) :
    Move s (.workerLock env false) { s with worker := some .sleep }
  | lowLevel (i : SenderInput ι) (hin : s.worker = some .doWork ∨ s.closing = .destroying)
      (hi : i.internal = true) (hcallback : s.callback = none) {t : ThreadedSender σ}
      (h : LowLevelStep auth s i t) : Move s (.lowLevel i) t
  | callback {r : RunningCallback} (hr : s.callback = some r) :
    Move s .callback (eventhubClientLLCallback s r)
  | workerUnlock (hworker : s.worker = some .doWork)
      (hidle : s.eventhubclientLL.control = .idle) :
    Move s .workerUnlock { s with worker := some .sleep, lockInfo := none }
  | wake (hworker : s.worker = some .sleep) : Move s .wake { s with worker := some .loopHead }
  | join (hclosing : s.closing = .joining) {t : ThreadedSender σ}
      (h : LowLevelStep auth { s with closing := .destroying } .destroy t) : Move s .join t
  | deInit (hclosing : s.closing = .destroying) :
    Move s .deInit { s with closing := .destroyed }

theorem syncSend_move {request : SendRequest} {env : ContextEnv} (hopen : s.closing = .open) :
    Move auth s (.syncSend request env) (syncSend s request env).2 := by
  unfold syncSend
  by_cases hvalid : (!validRequest request) = true
  · rw [if_pos hvalid]
    exact .refused _
  · rw [if_neg hvalid]
    cases hcontext : initUserContext env with
    | none => exact .refused _
    | some context => exact .syncSend request env context hopen hcontext

/-- The lower layer of an asynchronous send. -/
theorem execute_move {i : ThreadedSenderInput ι} (hmay : mayLock s = true) (request : SendRequest)
    {callback : Option Nat} (context : Option Nat) (env : LowerLayerEnv)
    (hforeign : foreign callback = true) :
    Move auth s i (execute s request callback context env).2 := by
  have hresult := execute_result auth s request callback context env
  generalize execute s request callback context env = x at hresult
  cases hresult with
  | failed worker hworker ll hll => exact .call hmay worker hworker ll hll
  | queued worker hworker events tick hkempt =>
    refine .call hmay worker hworker _ fun hcall ↦ ⟨rfl, rfl, ⟨_, rfl, ?_⟩, hkempt hcall⟩
    intro e he
    obtain rfl := List.mem_singleton.mp he
    refine ⟨rfl, fun n context' tick' heq ↦ ?_⟩
    cases callback with
    | none => cases heq
    | some function =>
      cases heq
      cases hforeign

theorem setField_move {i : ThreadedSenderInput ι} {j : SenderInput ι} (hmay : mayLock s = true)
    (locks : Bool) {f : EventHubClientLL σ → EventHubClientLL σ} (hf : EventHubClientLL.Setter f)
    (hstep : EventHubClientLL.mayCall s.eventhubclientLL = true →
      EventHubClientLL.step auth s.eventhubclientLL j =
        some (EventHubClientLL.setField s.eventhubclientLL f)) :
    Move auth s i (setField s locks f).2 := by
  unfold setField
  cases locks with
  | false => exact .refused _
  | true =>
    refine .call hmay s.worker (Or.inl rfl) _ fun hcall ↦ ?_
    exact apart_of_sameQueue auth (hstep hcall)
      (EventHubClientLL.setField_sameQueue s.eventhubclientLL hf) rfl

theorem step_move {i : ThreadedSenderInput ι} (h : step auth s i = some t) : Move auth s i t := by
  cases i with
  | syncSend request env =>
    obtain ⟨hopen, ⟨⟩⟩ := Option.ite_none_right_eq_some.mp h
    exact syncSend_move auth hopen
  | lock k locks =>
    simp only [step, sendStep, Option.bind_eq_some_iff] at h
    obtain ⟨c, hk, h⟩ := h
    cases hc : c.control <;> simp only [hc, reduceCtorEq] at h
    obtain ⟨hfree, ⟨⟩⟩ := Option.ite_none_right_eq_some.mp h
    cases locks with
    | true => exact .lock hk hc (by simpa using hfree)
    | false => exact .lockFailed hk hc
  | lowerLayer k env =>
    simp only [step, sendStep, Option.bind_eq_some_iff] at h
    obtain ⟨c, hk, h⟩ := h
    cases hc : c.control <;> simp only [hc, reduceCtorEq, Option.some.injEq] at h
    exact h ▸ .lowerLayer env hk hc
  | unlock k =>
    simp only [step, sendStep, Option.bind_eq_some_iff] at h
    obtain ⟨c, hk, h⟩ := h
    cases hc : c.control <;> simp only [hc, reduceCtorEq, Option.some.injEq] at h
    exact h ▸ .unlock hk hc
  | conditionWait k =>
    simp only [step, sendStep, Option.bind_eq_some_iff] at h
    obtain ⟨c, hk, h⟩ := h
    cases hc : c.control <;> simp only [hc, reduceCtorEq, Option.some.injEq] at h
    exact h ▸ .conditionWait hk hc
  | finish k =>
    simp only [step, sendStep, Option.bind_eq_some_iff] at h
    obtain ⟨c, hk, h⟩ := h
    cases hc : c.control <;> simp only [hc, reduceCtorEq, Option.some.injEq] at h
    exact h ▸ .finish hk hc
  | sendAsync event callback context env locks =>
    obtain ⟨hguard, ⟨⟩⟩ := Option.ite_none_right_eq_some.mp h
    obtain ⟨hmay, hforeign⟩ := Bool.and_eq_true_iff.mp hguard
    unfold sendAsync
    split_ifs
    · exact .refused _
    · exact .refused _
    · exact execute_move auth hmay (.send event) context env hforeign
  | sendBatchAsync list callback context env locks =>
    obtain ⟨hguard, ⟨⟩⟩ := Option.ite_none_right_eq_some.mp h
    obtain ⟨hmay, hforeign⟩ := Bool.and_eq_true_iff.mp hguard
    unfold sendBatchAsync
    split_ifs
    · exact .refused _
    · exact .refused _
    · exact execute_move auth hmay (.sendBatch list) context env hforeign
  | refreshSASTokenAsync token env locks =>
    obtain ⟨hmay, ⟨⟩⟩ := Option.ite_none_right_eq_some.mp h
    unfold refreshSASTokenAsync
    split_ifs
    · exact .refused _
    · exact .refused _
    · refine .call hmay s.worker (Or.inl rfl) _ fun hcall ↦ ?_
      have hstep : EventHubClientLL.step auth s.eventhubclientLL (.refreshSASTokenAsync token env) =
          some (EventHubClientLL.refreshSASTokenAsync s.eventhubclientLL token env).2 :=
        if_pos hcall
      refine apart_of_sameQueue auth hstep
        (EventHubClientLL.refreshSASTokenAsync_sameQueue s.eventhubclientLL token env) ?_
      rcases EventHubClientLL.refreshSASTokenAsync_cases s.eventhubclientLL token env with
        h | ⟨text, -, -, -, -, h⟩ <;> rw [h]
  | setStateChangeCallback callback locks =>
    obtain ⟨hmay, ⟨⟩⟩ := Option.ite_none_right_eq_some.mp h
    exact setField_move auth (j := .setStateChangeCallback callback) hmay locks ⟨fun _ ↦ rfl⟩
      fun hcall ↦ if_pos hcall
  | setErrorCallback callback locks =>
    obtain ⟨hmay, ⟨⟩⟩ := Option.ite_none_right_eq_some.mp h
    exact setField_move auth (j := .setErrorCallback callback) hmay locks ⟨fun _ ↦ rfl⟩
      fun hcall ↦ if_pos hcall
  | setMessageTimeout timeout locks =>
    obtain ⟨hmay, ⟨⟩⟩ := Option.ite_none_right_eq_some.mp h
    exact setField_move auth (j := .setMessageTimeout timeout) hmay locks ⟨fun _ ↦ rfl⟩
      fun hcall ↦ if_pos hcall
  | setLogTrace on locks =>
    obtain ⟨hmay, ⟨⟩⟩ := Option.ite_none_right_eq_some.mp h
    exact setField_move auth (j := .setLogTrace on) hmay locks ⟨fun _ ↦ rfl⟩
      fun hcall ↦ if_pos hcall
  | destroy =>
    obtain ⟨hguard, ⟨⟩⟩ := Option.ite_none_right_eq_some.mp h
    obtain ⟨hopen, hreleased⟩ : s.closing = .open ∧
      ∀ c ∈ s.sends, c.control.released = true := by simpa using hguard
    exact .destroy _ hopen hreleased
  | iterate =>
    obtain ⟨hworker, ⟨⟩⟩ := Option.ite_none_right_eq_some.mp h
    exact .iterate hworker
  | workerLock env locks =>
    obtain ⟨hguard, h⟩ := Option.ite_none_right_eq_some.mp h
    obtain ⟨hworker, hfree⟩ : s.worker = some .lock ∧ (locks = false ∨ s.lockInfo = none) := by
      simpa using hguard
    cases locks with
    | true => exact .workerLock env hworker (by simpa using hfree) (lowLevel_step auth h)
    | false =>
      cases h
      exact .workerLockFailed env hworker
  | lowLevel i =>
    obtain ⟨hguard, h⟩ := Option.ite_none_right_eq_some.mp h
    obtain ⟨⟨hin, hi⟩, hcallback⟩ : ((s.worker = some .doWork ∨ s.closing = .destroying) ∧
      i.internal = true) ∧ s.callback = none := by simpa using hguard
    exact .lowLevel i hin hi hcallback (lowLevel_step auth h)
  | callback =>
    obtain ⟨r, hr, rfl⟩ := Option.map_eq_some_iff.mp h
    exact .callback hr
  | workerUnlock =>
    obtain ⟨hguard, ⟨⟩⟩ := Option.ite_none_right_eq_some.mp h
    obtain ⟨hworker, hidle⟩ : s.worker = some .doWork ∧ s.eventhubclientLL.control = .idle := by
      simpa using hguard
    exact .workerUnlock hworker hidle
  | wake =>
    obtain ⟨hworker, ⟨⟩⟩ := Option.ite_none_right_eq_some.mp h
    exact .wake hworker
  | join =>
    obtain ⟨hguard, h⟩ := Option.ite_none_right_eq_some.mp h
    obtain ⟨hclosing, -⟩ : s.closing = .joining ∧ (s.worker = none ∨ s.worker = some .exited) := by
      simpa using hguard
    exact .join hclosing (lowLevel_step auth h)
  | deInit =>
    obtain ⟨hguard, ⟨⟩⟩ := Option.ite_none_right_eq_some.mp h
    obtain ⟨hclosing, -⟩ : s.closing = .destroying ∧ s.eventhubclientLL.control = .destroyed := by
      simpa using hguard
    exact .deInit hclosing

/-! ### The lock -/

/-- The lock discipline. -/
structure LockInv (s : ThreadedSender σ) : Prop where
  idle : s.closing.before = true → s.lockInfo ≠ some .worker → s.eventhubclientLL.control = .idle
  live : s.closing.before = true → s.eventhubclientLL.destroying = false
  worker : s.worker = some .doWork → s.lockInfo = some .worker
  held : ∀ k c, s.sends[k]? = some c → c.control.holds = true → s.lockInfo = some (.send k)
  entering : s.closing ≠ .open → ∀ c ∈ s.sends, c.control.released = true

theorem mayCall_of_idle {ll : SenderState σ} (hidle : ll.control = .idle)
    (hlive : ll.destroying = false) : EventHubClientLL.mayCall ll = true := by
  simp [EventHubClientLL.mayCall, hidle, hlive]

theorem LockInv.mayCall (hs : LockInv s) (hbefore : s.closing.before = true)
    (hfree : s.lockInfo ≠ some .worker) :
    EventHubClientLL.mayCall s.eventhubclientLL = true :=
  mayCall_of_idle (hs.idle hbefore hfree) (hs.live hbefore)

theorem mayLock_iff : mayLock s = true ↔ s.closing = .open ∧ s.lockInfo = none := by
  simp [mayLock]

theorem LockInv.mayCall_of_mayLock (hs : LockInv s) (hmay : mayLock s = true) :
    EventHubClientLL.mayCall s.eventhubclientLL = true := by
  obtain ⟨hopen, hfree⟩ := mayLock_iff.mp hmay
  exact hs.mayCall (by rw [hopen]; rfl) (by rw [hfree]; nofun)

/-- A closed sender is not entered any more. -/
theorem LockInv.open_of_entering (hs : LockInv s) {k : Nat} {c : SyncSend}
    (hk : s.sends[k]? = some c) (hc : c.control.released = false) : s.closing = .open := by
  by_contra hclosed
  have hreleased := hs.entering hclosed c (List.mem_of_getElem? hk)
  exact absurd (hreleased.symm.trans hc) nofun

/-- The low-level sender may be called while a send is about to call it. -/
theorem LockInv.mayCall_of_lowerLayer (hs : LockInv s) {k : Nat} {c : SyncSend}
    (hk : s.sends[k]? = some c) (hc : c.control = .lowerLayer) :
    EventHubClientLL.mayCall s.eventhubclientLL = true := by
  have hopen := hs.open_of_entering hk (by rw [hc]; rfl)
  have hheld := hs.held k c hk (by rw [hc]; rfl)
  exact hs.mayCall (by rw [hopen]; rfl) (by rw [hheld]; nofun)

/-- The sends after one of them has moved. -/
theorem getElem?_set {sends : List SyncSend} {k j : Nat} {c d : SyncSend}
    (h : (sends.set k c)[j]? = some d) : j = k ∧ d = c ∨ j ≠ k ∧ sends[j]? = some d := by
  by_cases hj : j = k
  · subst hj
    obtain ⟨hlt, hd⟩ := List.getElem?_eq_some_iff.mp h
    exact Or.inl ⟨rfl, by simpa using hd.symm⟩
  · rw [List.getElem?_set_ne (Ne.symm hj)] at h
    exact Or.inr ⟨hj, h⟩

theorem set_self {sends : List SyncSend} {k : Nat} {c : SyncSend} (hk : sends[k]? = some c)
    (d : SyncSend) : (sends.set k d)[k]? = some d :=
  List.getElem?_set_self (List.getElem?_eq_some_iff.mp hk).1

/-- The sends after another one has begun. -/
theorem getElem?_concat {sends : List SyncSend} {k : Nat} {c d : SyncSend}
    (h : (sends ++ [c])[k]? = some d) :
    sends[k]? = some d ∨ k = sends.length ∧ d = c := by
  rcases lt_or_ge k sends.length with hk | hk
  · rw [List.getElem?_append_left hk] at h
    exact Or.inl h
  · rw [List.getElem?_append_right hk] at h
    obtain ⟨hlt, hd⟩ := List.getElem?_eq_some_iff.mp h
    have hlast : k = sends.length := by
      simp only [List.length_singleton] at hlt
      omega
    exact Or.inr ⟨hlast, by simpa using hd.symm⟩

/-- A send has moved without the lock. -/
theorem LockInv.setSend (hs : LockInv s) {k : Nat} {c d : SyncSend} (hk : s.sends[k]? = some c)
    (hheld : d.control.holds = true → c.control.holds = true)
    (hreleased : c.control.released = true → d.control.released = true) :
    LockInv (setSend s k d) where
  idle := hs.idle
  live := hs.live
  worker := hs.worker
  held j e hj he := by
    rcases getElem?_set hj with ⟨rfl, rfl⟩ | ⟨-, hj⟩
    · exact hs.held j c hk (hheld he)
    · exact hs.held j e hj he
  entering hclosed e he := by
    rcases List.mem_or_eq_of_mem_set he with he | rfl
    · exact hs.entering hclosed e he
    · exact hreleased (hs.entering hclosed c (List.mem_of_getElem? hk))

/-- The low-level sender has moved while the worker holds the lock, or after the join. -/
theorem LockInv.lowLevel (hs : LockInv s) {i : SenderInput ι}
    (hin : s.worker = some .doWork ∨ s.closing = .destroying) (hi : i ≠ .destroy)
    (h : LowLevelStep auth s i t) : LockInv t := by
  have hcalls := (EventHubClientLL.step_calls auth h.step hi).destroying
  rw [h.eq]
  refine ⟨fun hbefore hfree ↦ ?_, fun hbefore ↦ hcalls.trans (hs.live hbefore), hs.worker,
    hs.held, hs.entering⟩
  rcases hin with hworker | hclosing
  · exact absurd (hs.worker hworker) hfree
  · have hbefore' : s.closing.before = true := hbefore
    rw [hclosing] at hbefore'
    cases hbefore'

theorem LockInv.callback (hs : LockInv s) (r : RunningCallback) :
    LockInv (eventhubClientLLCallback s r) := by
  unfold eventhubClientLLCallback
  cases hk : s.sends[r.userContext]? with
  | none => exact ⟨hs.idle, hs.live, hs.worker, hs.held, hs.entering⟩
  | some c =>
    cases r.next with
    | callbackStatus =>
      have h := hs.setSend hk (d := { c with
        context := { c.context with callbackStatus := .notified } }) id id
      exact ⟨h.idle, h.live, h.worker, h.held, h.entering⟩
    | confirmationResult =>
      have h := hs.setSend hk (d := { c with
        context := { c.context with confirmationResult := r.result } }) id id
      exact ⟨h.idle, h.live, h.worker, h.held, h.entering⟩
    | conditionPost =>
      have h := hs.setSend hk (d := { c with
        control := if c.control = .waiting then .woken else c.control })
        (by cases hc : c.control <;> simp [SendControl.holds])
        (by cases hc : c.control <;> simp [SendControl.released])
      exact ⟨h.idle, h.live, h.worker, h.held, h.entering⟩

theorem WorkerKept.doWork {worker worker' : Option SendWorkerControl}
    (h : WorkerKept worker worker') (hwork : worker' = some .doWork) : worker = some .doWork := by
  rcases h with rfl | ⟨-, rfl⟩
  · exact hwork
  · cases hwork

/-- A public call has entered the low-level sender and left it. -/
theorem LockInv.call (hs : LockInv s) {worker : Option SendWorkerControl}
    (hworker : WorkerKept s.worker worker) {ll : SenderState σ}
    (hcontrol : ll.control = s.eventhubclientLL.control)
    (hdestroying : ll.destroying = s.eventhubclientLL.destroying) :
    LockInv { s with worker := worker, eventhubclientLL := ll } :=
  ⟨fun hbefore hfree ↦ hcontrol.trans (hs.idle hbefore hfree),
    fun hbefore ↦ hdestroying.trans (hs.live hbefore),
    fun hwork ↦ hs.worker (hworker.doWork hwork), hs.held, hs.entering⟩

theorem LockInv.lock (hs : LockInv s) {k : Nat} {c : SyncSend} (hk : s.sends[k]? = some c)
    (hc : c.control = .lock) (hfree : s.lockInfo = none) : LockInv (lock s k c true) := by
  have hopen := hs.open_of_entering hk (by rw [hc]; rfl)
  refine ⟨fun hbefore _ ↦ hs.idle hbefore (by rw [hfree]; nofun), hs.live, fun hwork ↦ ?_,
    fun j d hj hd ↦ ?_, fun hclosed ↦ absurd hopen hclosed⟩
  · exact absurd ((hs.worker hwork).symm.trans hfree) nofun
  · rcases getElem?_set hj with ⟨rfl, -⟩ | ⟨-, hj⟩
    · rfl
    · exact absurd ((hs.held j d hj hd).symm.trans hfree) nofun

theorem LockInv.unlock (hs : LockInv s) {k : Nat} {c : SyncSend} {sent : Bool}
    (hk : s.sends[k]? = some c) (hc : c.control = .unlock sent) : LockInv (unlock s k c sent) := by
  have hopen := hs.open_of_entering hk (by rw [hc]; rfl)
  have hheld := hs.held k c hk (by rw [hc]; rfl)
  refine ⟨fun hbefore _ ↦ hs.idle hbefore (by rw [hheld]; nofun), hs.live, fun hwork ↦ ?_,
    fun j d hj hd ↦ ?_, fun hclosed ↦ absurd hopen hclosed⟩
  · exact absurd ((hs.worker hwork).symm.trans hheld) nofun
  · rcases getElem?_set hj with ⟨-, rfl⟩ | ⟨hne, hj⟩
    · cases sent <;> cases hd
    · have hsame : some (LockOwner.send j) = some (.send k) := (hs.held j d hj hd).symm.trans hheld
      cases hsame
      exact absurd rfl hne

theorem LockInv.lowerLayer (hs : LockInv s) {k : Nat} {c : SyncSend} (env : LowerLayerEnv)
    (hk : s.sends[k]? = some c) (hc : c.control = .lowerLayer)
    (hresult : ExecuteResult s (some ⟨llCallback, some k⟩)
      (execute s c.request (some llCallback) (some k) env)) :
    LockInv (lowerLayer s k c env) := by
  have hmay := hs.mayCall_of_lowerLayer hk hc
  unfold EventHubClient.lowerLayer
  generalize execute s c.request (some llCallback) (some k) env = x at hresult ⊢
  cases hresult with
  | failed worker hworker ll hll =>
    exact (hs.call hworker (hll hmay).control (hll hmay).destroying).setSend hk
      (fun _ ↦ by rw [hc]; rfl) (by rw [hc]; nofun)
  | queued worker hworker events tick hkempt =>
    have hcalled : LockInv { s with
        worker := worker
        eventhubclientLL := EventHubClientLL.queue s.eventhubclientLL events
          (some ⟨llCallback, some k⟩) tick } := hs.call hworker rfl rfl
    exact hcalled.setSend hk (fun _ ↦ by rw [hc]; rfl) (by rw [hc]; nofun)

theorem step_lockInv {i : ThreadedSenderInput ι} (hs : LockInv s)
    (hstep : step auth s i = some t) : LockInv t := by
  cases step_move auth hstep with
  | refused => exact hs
  | syncSend request env context hopen hcontext =>
    refine ⟨hs.idle, hs.live, hs.worker, fun k c hk hc ↦ ?_, fun hclosed ↦ absurd hopen hclosed⟩
    rcases getElem?_concat hk with hk | ⟨-, rfl⟩
    · exact hs.held k c hk hc
    · cases hc
  | lock hk hc hfree => exact hs.lock hk hc hfree
  | lockFailed hk hc => exact hs.setSend hk nofun fun _ ↦ rfl
  | lowerLayer env hk hc =>
    exact hs.lowerLayer env hk hc (execute_result auth s _ (some llCallback) _ env)
  | unlock hk hc => exact hs.unlock hk hc
  | conditionWait hk hc =>
    refine hs.setSend hk (fun h ↦ ?_) fun _ ↦ ?_
    · split_ifs at h <;> cases h
    · split_ifs <;> rfl
  | finish hk hc => exact hs.setSend hk nofun fun _ ↦ rfl
  | call hmay worker hworker ll hll =>
    have hapart := hll (hs.mayCall_of_mayLock hmay)
    exact hs.call hworker hapart.control hapart.destroying
  | destroy threadToContinue hopen hreleased =>
    exact ⟨fun _ ↦ hs.idle (by rw [hopen]; rfl), fun _ ↦ hs.live (by rw [hopen]; rfl), hs.worker,
      hs.held, fun _ ↦ hreleased⟩
  | iterate hworker =>
    refine ⟨hs.idle, hs.live, fun hwork ↦ ?_, hs.held, hs.entering⟩
    simp only [iterate] at hwork
    split_ifs at hwork <;> cases hwork
  | workerLock env hworker hfree h =>
    have hlocked : LockInv { s with worker := some .doWork, lockInfo := some .worker } :=
      ⟨fun _ hne ↦ absurd rfl hne, hs.live, fun _ ↦ rfl,
        fun k c hk hc ↦ absurd ((hs.held k c hk hc).symm.trans hfree) nofun, hs.entering⟩
    exact hlocked.lowLevel auth (i := .doWork env) (Or.inl rfl) nofun h
  | workerLockFailed env hworker => exact ⟨hs.idle, hs.live, nofun, hs.held, hs.entering⟩
  | lowLevel i hin hi hcallback h => exact hs.lowLevel auth hin (by rintro rfl; cases hi) h
  | callback hr => exact hs.callback _
  | workerUnlock hworker hidle =>
    refine ⟨fun _ _ ↦ hidle, hs.live, nofun, fun k c hk hc ↦ ?_, hs.entering⟩
    exact absurd ((hs.held k c hk hc).symm.trans (hs.worker hworker)) nofun
  | wake hworker => exact ⟨hs.idle, hs.live, nofun, hs.held, hs.entering⟩
  | join hclosing h =>
    rw [h.eq]
    exact ⟨nofun, nofun, hs.worker, hs.held, fun _ ↦ hs.entering (by rw [hclosing]; nofun)⟩
  | deInit hclosing =>
    exact ⟨nofun, nofun, hs.worker, hs.held, fun _ ↦ hs.entering (by rw [hclosing]; nofun)⟩

theorem created_lockInv {c : EventHubClientLL σ} : LockInv (created c) :=
  ⟨fun _ _ ↦ rfl, fun _ ↦ rfl, by simp [created], by simp [created], by simp [created]⟩

end EventHubClient

end EventHubs
