import EventHubs.Threaded.SyncSend

/-!
# The low-level sender inside the threaded one

Under the lock discipline the low-level sender inside a threaded one runs as the machine of its own,
whatever the threads do. So every entry that any thread has queued is settled once when
`EventHubClient_Destroy` returns, and that function waits for at most one more call of
`EventHubClient_LL_DoWork`.

## Main definitions

* `EventHubClient.StopInv` — the worker once `EventHubClient_Destroy` has been called.

## Main results

* `EventHubClient.run_lowLevel` — the low-level sender runs as the machine of its own.
* `EventHubClient.run_settles`, `EventHubClient.run_stops_worker`.
-/

namespace EventHubs

namespace EventHubClient

variable {σ ι : Type} (auth : AuthModule σ ι) {s t : ThreadedSender σ}

/-! ### The low-level sender -/

/-- The low-level sender has stayed as it was or has taken a step of its own. -/
def Follows (ll ll' : SenderState σ) : Prop :=
  ll' = ll ∨ ∃ j, EventHubClientLL.step auth ll j = some ll'

theorem executeLowerLayer_follows (s : ThreadedSender σ) (creates : Bool)
    (call : SenderState σ → EventHubClientResult × SenderState σ) {i : SenderInput ι}
    (hstep : EventHubClientLL.step auth s.eventhubclientLL i =
      some (call s.eventhubclientLL).2) :
    Follows auth s.eventhubclientLL (executeLowerLayer s creates call).2.eventhubclientLL := by
  unfold executeLowerLayer createDoWorkThreadIfNeccesary
  by_cases hsome : s.worker.isSome = true
  · rw [if_pos hsome]
    exact Or.inr ⟨i, hstep⟩
  · rw [if_neg hsome]
    cases creates with
    | true => exact Or.inr ⟨i, hstep⟩
    | false => exact Or.inl rfl

theorem execute_follows (hmay : EventHubClientLL.mayCall s.eventhubclientLL = true)
    (request : SendRequest) (callback context : Option Nat) (env : LowerLayerEnv) :
    Follows auth s.eventhubclientLL
      (execute s request callback context env).2.eventhubclientLL := by
  cases request with
  | send event =>
    exact executeLowerLayer_follows auth s env.creates _
      (i := .sendAsync event callback context env.send) (if_pos hmay)
  | sendBatch list =>
    exact executeLowerLayer_follows auth s env.creates _
      (i := .sendBatchAsync list callback context env.send) (if_pos hmay)

theorem setField_follows (locks : Bool) {f : EventHubClientLL σ → EventHubClientLL σ}
    {i : SenderInput ι} (hstep : EventHubClientLL.step auth s.eventhubclientLL i =
      some (EventHubClientLL.setField s.eventhubclientLL f)) :
    Follows auth s.eventhubclientLL (setField s locks f).2.eventhubclientLL := by
  cases locks with
  | false => exact Or.inl rfl
  | true => exact Or.inr ⟨i, hstep⟩

theorem callback_eventhubclientLL (s : ThreadedSender σ) (r : RunningCallback) :
    (eventhubClientLLCallback s r).eventhubclientLL = s.eventhubclientLL := by
  unfold eventhubClientLLCallback
  cases s.sends[r.userContext]? with
  | none => rfl
  | some c =>
    dsimp only
    cases r.next <;> rfl

/-- What a step does to the low-level sender is a step of its own machine, or nothing. -/
theorem step_lowLevel {i : ThreadedSenderInput ι} (hs : LockInv s)
    (hstep : step auth s i = some t) : Follows auth s.eventhubclientLL t.eventhubclientLL := by
  cases i with
  | syncSend request env =>
    obtain ⟨-, ⟨⟩⟩ := Option.ite_none_right_eq_some.mp hstep
    unfold syncSend
    split_ifs
    · exact Or.inl rfl
    · cases initUserContext env <;> exact Or.inl rfl
  | lock k locks =>
    obtain ⟨c, hk, h⟩ := Option.bind_eq_some_iff.mp hstep
    cases hc : c.control <;> simp only [hc, reduceCtorEq] at h
    obtain ⟨-, ⟨⟩⟩ := Option.ite_none_right_eq_some.mp h
    cases locks <;> exact Or.inl rfl
  | lowerLayer k env =>
    obtain ⟨c, hk, h⟩ := Option.bind_eq_some_iff.mp hstep
    cases hc : c.control <;> simp only [hc, reduceCtorEq, Option.some.injEq] at h
    subst h
    exact execute_follows auth (hs.mayCall_of_lowerLayer hk hc) _ _ _ env
  | unlock k =>
    obtain ⟨c, hk, h⟩ := Option.bind_eq_some_iff.mp hstep
    cases hc : c.control <;> simp only [hc, reduceCtorEq, Option.some.injEq] at h
    exact Or.inl (h ▸ rfl)
  | conditionWait k =>
    obtain ⟨c, hk, h⟩ := Option.bind_eq_some_iff.mp hstep
    cases hc : c.control <;> simp only [hc, reduceCtorEq, Option.some.injEq] at h
    exact Or.inl (h ▸ rfl)
  | finish k =>
    obtain ⟨c, hk, h⟩ := Option.bind_eq_some_iff.mp hstep
    cases hc : c.control <;> simp only [hc, reduceCtorEq, Option.some.injEq] at h
    exact Or.inl (h ▸ rfl)
  | sendAsync event callback context env locks =>
    obtain ⟨hguard, ⟨⟩⟩ := Option.ite_none_right_eq_some.mp hstep
    have hmay := hs.mayCall_of_mayLock (Bool.and_eq_true_iff.mp hguard).1
    unfold sendAsync
    split_ifs
    · exact Or.inl rfl
    · exact Or.inl rfl
    · exact execute_follows auth hmay (.send event) callback context env
  | sendBatchAsync list callback context env locks =>
    obtain ⟨hguard, ⟨⟩⟩ := Option.ite_none_right_eq_some.mp hstep
    have hmay := hs.mayCall_of_mayLock (Bool.and_eq_true_iff.mp hguard).1
    unfold sendBatchAsync
    split_ifs
    · exact Or.inl rfl
    · exact Or.inl rfl
    · exact execute_follows auth hmay (.sendBatch list) callback context env
  | refreshSASTokenAsync token env locks =>
    obtain ⟨hguard, ⟨⟩⟩ := Option.ite_none_right_eq_some.mp hstep
    have hmay := hs.mayCall_of_mayLock hguard
    unfold refreshSASTokenAsync
    split_ifs
    · exact Or.inl rfl
    · exact Or.inl rfl
    · exact Or.inr ⟨.refreshSASTokenAsync token env, if_pos hmay⟩
  | setStateChangeCallback callback locks =>
    obtain ⟨hguard, ⟨⟩⟩ := Option.ite_none_right_eq_some.mp hstep
    exact setField_follows auth locks (i := .setStateChangeCallback callback)
      (if_pos (hs.mayCall_of_mayLock hguard))
  | setErrorCallback callback locks =>
    obtain ⟨hguard, ⟨⟩⟩ := Option.ite_none_right_eq_some.mp hstep
    exact setField_follows auth locks (i := .setErrorCallback callback)
      (if_pos (hs.mayCall_of_mayLock hguard))
  | setMessageTimeout timeout locks =>
    obtain ⟨hguard, ⟨⟩⟩ := Option.ite_none_right_eq_some.mp hstep
    exact setField_follows auth locks (i := .setMessageTimeout timeout)
      (if_pos (hs.mayCall_of_mayLock hguard))
  | setLogTrace on locks =>
    obtain ⟨hguard, ⟨⟩⟩ := Option.ite_none_right_eq_some.mp hstep
    exact setField_follows auth locks (i := .setLogTrace on)
      (if_pos (hs.mayCall_of_mayLock hguard))
  | destroy =>
    obtain ⟨-, ⟨⟩⟩ := Option.ite_none_right_eq_some.mp hstep
    exact Or.inl rfl
  | iterate =>
    obtain ⟨-, ⟨⟩⟩ := Option.ite_none_right_eq_some.mp hstep
    exact Or.inl rfl
  | workerLock env locks =>
    obtain ⟨-, h⟩ := Option.ite_none_right_eq_some.mp hstep
    cases locks with
    | true => exact Or.inr ⟨_, (lowLevel_step auth h).step⟩
    | false =>
      cases h
      exact Or.inl rfl
  | lowLevel i =>
    obtain ⟨-, h⟩ := Option.ite_none_right_eq_some.mp hstep
    exact Or.inr ⟨i, (lowLevel_step auth h).step⟩
  | callback =>
    obtain ⟨r, -, rfl⟩ := Option.map_eq_some_iff.mp hstep
    exact Or.inl (callback_eventhubclientLL s r)
  | workerUnlock =>
    obtain ⟨-, ⟨⟩⟩ := Option.ite_none_right_eq_some.mp hstep
    exact Or.inl rfl
  | wake =>
    obtain ⟨-, ⟨⟩⟩ := Option.ite_none_right_eq_some.mp hstep
    exact Or.inl rfl
  | join =>
    obtain ⟨-, h⟩ := Option.ite_none_right_eq_some.mp hstep
    exact Or.inr ⟨_, (lowLevel_step auth h).step⟩
  | deInit =>
    obtain ⟨-, ⟨⟩⟩ := Option.ite_none_right_eq_some.mp hstep
    exact Or.inl rfl

/-- The low-level sender of a threaded one is where a run of its own takes it. -/
theorem run_lowLevel {c : EventHubClientLL σ} {is : List (ThreadedSenderInput ι)}
    (hrun : (threadedMachine auth).run (created c) is = some s) :
    (EventHubClientLL.senderMachine auth).Leads { client := c } s.eventhubclientLL :=
  Machine.run_project (M := EventHubClientLL.senderMachine auth)
    (f := ThreadedSender.eventhubclientLL) (P := LockInv)
    (fun _ _ _ hs h ↦ step_lockInv auth hs h) (fun _ _ _ hs h ↦ step_lowLevel auth hs h)
    created_lockInv hrun

/-! ### The end of the worker -/

/-- The worker once `EventHubClient_Destroy` has been called, and the low-level sender once it has
returned. -/
structure StopInv (s : ThreadedSender σ) : Prop where
  ending : s.closing ≠ .open → s.worker = none ∨ s.threadToContinue = .threadEnd
  gone : s.closing.before = false → s.worker = none ∨ s.worker = some .exited
  destroyed : s.closing = .destroyed → s.eventhubclientLL.control = .destroyed

/-- Nothing that the end of the worker depends on has changed. -/
theorem StopInv.congr (hs : StopInv s) (hworker : t.worker = s.worker)
    (hcontinue : t.threadToContinue = s.threadToContinue) (hclosing : t.closing = s.closing)
    (hll : t.eventhubclientLL = s.eventhubclientLL) : StopInv t := by
  refine ⟨fun h ↦ ?_, fun h ↦ ?_, fun h ↦ ?_⟩
  · rw [hworker, hcontinue]
    exact hs.ending (hclosing ▸ h)
  · rw [hworker]
    exact hs.gone (hclosing ▸ h)
  · rw [hll]
    exact hs.destroyed (hclosing ▸ h)

theorem StopInv.of_open (hopen : t.closing = .open) : StopInv t :=
  ⟨fun h ↦ absurd hopen h, fun h ↦ by simp [hopen, Closing.before] at h,
    fun h ↦ by simp [hopen] at h⟩

/-- A worker that has not exited is there before `EventHubClient_LL_Destroy` only. -/
theorem StopInv.before (hs : StopInv s) {w : SendWorkerControl} (hw : s.worker = some w)
    (hne : w ≠ .exited) : s.closing.before = true := by
  by_contra hafter
  rcases hs.gone (Bool.not_eq_true _ ▸ hafter) with h | h
  · simp [hw] at h
  · exact hne (Option.some.inj (hw.symm.trans h))

/-- The worker has moved before `EventHubClient_LL_Destroy`. -/
theorem StopInv.worked (hs : StopInv s) {w : SendWorkerControl} (hw : s.worker = some w)
    (hne : w ≠ .exited) (hcontinue : t.threadToContinue = s.threadToContinue)
    (hclosing : t.closing = s.closing) : StopInv t := by
  have hbefore := hs.before hw hne
  refine ⟨fun h ↦ Or.inr ?_, fun h ↦ ?_, fun h ↦ ?_⟩
  · rw [hcontinue]
    exact (hs.ending (hclosing ▸ h)).resolve_left (by simp [hw])
  · simp [hclosing, hbefore] at h
  · rw [hclosing] at h
    simp [h, Closing.before] at hbefore

theorem callback_frame (s : ThreadedSender σ) (r : RunningCallback) :
    (eventhubClientLLCallback s r).worker = s.worker ∧
      (eventhubClientLLCallback s r).threadToContinue = s.threadToContinue ∧
      (eventhubClientLLCallback s r).closing = s.closing := by
  unfold eventhubClientLLCallback
  cases s.sends[r.userContext]? with
  | none => exact ⟨rfl, rfl, rfl⟩
  | some c =>
    dsimp only
    cases r.next <;> exact ⟨rfl, rfl, rfl⟩

theorem execute_closing (s : ThreadedSender σ) (request : SendRequest)
    (callback context : Option Nat) (env : LowerLayerEnv) :
    (execute s request callback context env).2.closing = s.closing := by
  have hlayer : ∀ call, (executeLowerLayer s env.creates call).2.closing = s.closing := by
    intro call
    unfold executeLowerLayer createDoWorkThreadIfNeccesary
    split_ifs <;> rfl
  cases request <;> exact hlayer _

theorem step_stopInv {i : ThreadedSenderInput ι} (hlock : LockInv s) (hs : StopInv s)
    (hstep : step auth s i = some t) : StopInv t := by
  cases step_move auth hstep with
  | refused => exact hs
  | syncSend request env context hopen hcontext => exact .of_open hopen
  | lock hk hc hfree => exact hs.congr rfl rfl rfl rfl
  | lockFailed hk hc => exact hs.congr rfl rfl rfl rfl
  | lowerLayer env hk hc =>
    exact .of_open ((execute_closing s _ _ _ env).trans
      (hlock.open_of_entering hk (by rw [hc]; rfl)))
  | unlock hk hc => exact hs.congr rfl rfl rfl rfl
  | conditionWait hk hc => exact hs.congr rfl rfl rfl rfl
  | finish hk hc => exact hs.congr rfl rfl rfl rfl
  | call hmay worker hworker ll hll => exact .of_open (mayLock_iff.mp hmay).1
  | destroy threadToContinue hopen hreleased =>
    obtain ⟨-, heq⟩ := Option.ite_none_right_eq_some.mp hstep
    have hcontinue := congrArg ThreadedSender.threadToContinue (Option.some.inj heq)
    refine ⟨fun _ ↦ ?_, fun h ↦ by simp [Closing.before] at h, fun h ↦ by simp at h⟩
    cases hworker : s.worker with
    | none => exact Or.inl rfl
    | some w => exact Or.inr (by simpa [hworker] using hcontinue.symm)
  | iterate hworker => exact hs.worked hworker (by simp) rfl rfl
  | workerLock env hworker hfree h =>
    rw [h.eq]
    exact hs.worked hworker (by simp) rfl rfl
  | workerLockFailed env hworker => exact hs.worked hworker (by simp) rfl rfl
  | lowLevel i hin hi hcallback h =>
    rw [h.eq]
    rcases hin with hworker | hclosing
    · exact hs.worked hworker (by simp) rfl rfl
    · exact ⟨hs.ending, hs.gone, fun hd ↦ absurd (hclosing.symm.trans hd) (by simp)⟩
  | @callback r hr =>
    obtain ⟨hworker, hcontinue, hclosing⟩ := callback_frame s r
    exact hs.congr hworker hcontinue hclosing (callback_eventhubclientLL s r)
  | workerUnlock hworker hidle => exact hs.worked hworker (by simp) rfl rfl
  | wake hworker => exact hs.worked hworker (by simp) rfl rfl
  | join hclosing h =>
    obtain ⟨hguard, -⟩ := Option.ite_none_right_eq_some.mp hstep
    obtain ⟨-, hgone⟩ : s.closing = .joining ∧ (s.worker = none ∨ s.worker = some .exited) := by
      simpa using hguard
    rw [h.eq]
    exact ⟨fun _ ↦ hs.ending (by simp [hclosing]), fun _ ↦ hgone, fun hd ↦ by simp at hd⟩
  | deInit hclosing =>
    obtain ⟨hguard, -⟩ := Option.ite_none_right_eq_some.mp hstep
    obtain ⟨-, hdestroyed⟩ :
      s.closing = .destroying ∧ s.eventhubclientLL.control = .destroyed := by simpa using hguard
    exact ⟨fun _ ↦ hs.ending (by simp [hclosing]), fun _ ↦ hs.gone (by rw [hclosing]; rfl),
      fun _ ↦ hdestroyed⟩

theorem run_stopInv {c : EventHubClientLL σ} {is : List (ThreadedSenderInput ι)}
    (hrun : (threadedMachine auth).run (created c) is = some s) : LockInv s ∧ StopInv s := by
  have hstep : ∀ s i t, LockInv s ∧ StopInv s → (threadedMachine auth).step s i = some t →
      LockInv t ∧ StopInv t := fun _ _ _ hs h ↦
    ⟨step_lockInv auth hs.1 h, step_stopInv auth hs.1 hs.2 h⟩
  exact Machine.run_invariant hstep ⟨created_lockInv, .of_open rfl⟩ hrun

/-- Whatever the threads do, the low-level sender is where a run of its own takes it, and when
`EventHubClient_Destroy` returns no entry is left and the callback of every accepted entry has been
called once. -/
theorem run_settles {c : EventHubClientLL σ} (hc : EventHubClientLL.Created c)
    {is : List (ThreadedSenderInput ι)}
    (hrun : (threadedMachine auth).run (created c) is = some s) :
    (EventHubClientLL.senderMachine auth).Leads { client := c } s.eventhubclientLL ∧
    (s.closing = .destroyed → s.eventhubclientLL.client.outgoingEvents = [] ∧
      ∀ n callback tick, SenderEvent.accepted n (some callback) tick ∈ s.eventhubclientLL.log →
        SenderState.Settled s.eventhubclientLL n callback) := by
  have hkempt := (run_invariants auth hc hrun).2.kempt
  refine ⟨run_lowLevel auth hrun, fun hclosing ↦ ?_⟩
  have hempty := hkempt.emptied ((run_stopInv auth hrun).2.destroyed hclosing)
  refine ⟨hempty, fun n callback tick hacc ↦ ?_⟩
  refine (EventHubClientLL.pending_or_settled hkempt hacc).resolve_left fun hpending ↦ ?_
  obtain ⟨e, he, -⟩ := hpending.listed
  simp [hempty] at he

/-- The rest of the call that delivers a message, and `EventHubClient_Destroy`. -/
def close : List (ThreadedSenderInput AuthEnv) :=
  [.lowLevel .callbackReturn, .lowLevel (.uamqpReturn true), .lowLevel (.iterate {} 20 true),
    .lowLevel (.uamqpReturn true), .destroy, .workerUnlock, .wake, .iterate, .join,
    .lowLevel (.uamqpReturn true), .lowLevel .drain, .deInit]

/-- A message is sent by a thread, then the sender is destroyed. -/
theorem run_settles_close :
    ∃ s, (threadedMachine (EventHubAuthCBS.authModule fun _ ↦ none)).run
        (created (.createdFromConnectionString "name" "key" "host" "hub" "target"))
        (enqueue {} ++ .conditionWait 0 :: deliver ++ close) = some s ∧
      s.closing = .destroyed ∧ SenderState.Settled s.eventhubclientLL 0 (sendCallback 0) := by
  refine ⟨_, rfl, rfl, ?_⟩
  have h := @run_settles _ _ (EventHubAuthCBS.authModule fun _ ↦ none) _ _
    (.fromConnectionString "name" "key" "host" "hub" "target")
    (enqueue {} ++ .conditionWait 0 :: deliver ++ close) rfl
  exact (h.2 rfl).2 0 (sendCallback 0) 10 (by decide)

/-! ### The calls that `EventHubClient_Destroy` waits for -/

/-- The worker calls `EventHubClient_LL_DoWork`. -/
def isDoWork : ThreadedSenderInput ι → Bool
  | .workerLock _ true => true
  | _ => false

/-- How many calls of `EventHubClient_LL_DoWork` a worker that is to end can still make. -/
def callsAhead (s : ThreadedSender σ) : Nat := if s.worker = some .lock then 1 else 0

theorem callsAhead_of_worker (h : t.worker = s.worker) : callsAhead t = callsAhead s := by
  rw [callsAhead, callsAhead, h]

theorem callsAhead_eq_zero (h : s.worker ≠ some .lock) : callsAhead s = 0 := if_neg h

/-- After `EventHubClient_Destroy` has been called the worker does not come back to `Lock`. -/
theorem step_callsAhead {i : ThreadedSenderInput ι} (hlock : LockInv s) (hs : StopInv s)
    (hclosed : s.closing ≠ .open) (hstep : step auth s i = some t) :
    t.closing ≠ .open ∧ callsAhead t ≤ callsAhead s := by
  cases step_move auth hstep with
  | refused => exact ⟨hclosed, Nat.le_refl _⟩
  | syncSend request env context hopen hcontext => exact absurd hopen hclosed
  | lock hk hc hfree => exact ⟨hclosed, Nat.le_refl _⟩
  | lockFailed hk hc => exact ⟨hclosed, Nat.le_refl _⟩
  | lowerLayer env hk hc => exact absurd (hlock.open_of_entering hk (by rw [hc]; rfl)) hclosed
  | unlock hk hc => exact ⟨hclosed, Nat.le_refl _⟩
  | conditionWait hk hc => exact ⟨hclosed, Nat.le_refl _⟩
  | finish hk hc => exact ⟨hclosed, Nat.le_refl _⟩
  | call hmay worker hworker ll hll => exact absurd (mayLock_iff.mp hmay).1 hclosed
  | destroy threadToContinue hopen hreleased => exact absurd hopen hclosed
  | iterate hworker =>
    have hend := (hs.ending hclosed).resolve_left (by simp [hworker])
    refine ⟨hclosed, (Nat.le_of_eq (callsAhead_eq_zero ?_)).trans (Nat.zero_le _)⟩
    simp [iterate, hend]
  | workerLock env hworker hfree h =>
    rw [h.eq]
    exact ⟨hclosed, (Nat.le_of_eq (callsAhead_eq_zero (by simp))).trans (Nat.zero_le _)⟩
  | workerLockFailed env hworker =>
    exact ⟨hclosed, (Nat.le_of_eq (callsAhead_eq_zero (by simp))).trans (Nat.zero_le _)⟩
  | lowLevel i hin hi hcallback h =>
    rw [h.eq]
    exact ⟨hclosed, Nat.le_refl _⟩
  | @callback r hr =>
    obtain ⟨hworker, -, hclosing⟩ := callback_frame s r
    exact ⟨hclosing ▸ hclosed, Nat.le_of_eq (callsAhead_of_worker hworker)⟩
  | workerUnlock hworker hidle =>
    exact ⟨hclosed, (Nat.le_of_eq (callsAhead_eq_zero (by simp))).trans (Nat.zero_le _)⟩
  | wake hworker =>
    exact ⟨hclosed, (Nat.le_of_eq (callsAhead_eq_zero (by simp))).trans (Nat.zero_le _)⟩
  | join hclosing h =>
    rw [h.eq]
    exact ⟨by simp, Nat.le_refl _⟩
  | deInit hclosing => exact ⟨by simp, Nat.le_refl _⟩

/-- A call of `EventHubClient_LL_DoWork` by the worker. -/
theorem step_isDoWork {i : ThreadedSenderInput ι} (hi : isDoWork i = true)
    (hstep : step auth s i = some t) : callsAhead t + 1 ≤ callsAhead s := by
  obtain ⟨env, rfl⟩ : ∃ env, i = .workerLock env true := by
    cases i with
    | workerLock env locks =>
      cases locks with
      | true => exact ⟨env, rfl⟩
      | false => cases hi
    | _ => cases hi
  obtain ⟨hguard, h⟩ := Option.ite_none_right_eq_some.mp hstep
  obtain ⟨hworker, -⟩ : s.worker = some .lock ∧ (true = false ∨ s.lockInfo = none) := by
    simpa using hguard
  have hcall := lowLevel_step auth h
  have hafter : t.worker = some .doWork := by rw [hcall.eq]
  rw [callsAhead_eq_zero (s := t) (by simp [hafter]), callsAhead, if_pos hworker]

/-- Once `EventHubClient_Destroy` has been called, the worker calls `EventHubClient_LL_DoWork` at
most once more, and only if it was about to. -/
theorem run_stops_worker {c : EventHubClientLL σ} {is js : List (ThreadedSenderInput ι)}
    (hs : (threadedMachine auth).run (created c) is = some s) (hclosed : s.closing ≠ .open)
    (ht : (threadedMachine auth).run s js = some t) :
    js.countP isDoWork ≤ if s.worker = some .lock then 1 else 0 := by
  have hinv := run_stopInv auth hs
  suffices h : callsAhead t + js.countP isDoWork ≤ callsAhead s from
    (Nat.le_add_left _ _).trans h
  clear hs
  induction js generalizing s with
  | nil =>
    obtain rfl : s = t := Option.some.inj ht
    exact Nat.le_refl _
  | cons i js ih =>
    rw [Machine.run_cons] at ht
    obtain ⟨u, hu, hut⟩ := Option.bind_eq_some_iff.mp ht
    obtain ⟨hclosed', hle⟩ := step_callsAhead auth hinv.1 hinv.2 hclosed hu
    have hrest := ih hclosed' hut
      ⟨step_lockInv auth hinv.1 hu, step_stopInv auth hinv.1 hinv.2 hu⟩
    rw [List.countP_cons]
    cases hcall : isDoWork i with
    | true =>
      have hless := step_isDoWork auth hcall hu
      rw [if_pos rfl]
      omega
    | false =>
      rw [if_neg (by simp)]
      omega

/-- The rest of a run in which the worker is in `Lock` when `EventHubClient_Destroy` is called. -/
def lastCall : List (ThreadedSenderInput AuthEnv) :=
  [.workerLock (EventHubClientLL.doWorkAt 100) true]

/-- The worker calls `EventHubClient_LL_DoWork` once more. -/
theorem run_stops_worker_lock :
    ∃ s t, (threadedMachine (EventHubAuthCBS.authModule fun _ ↦ none)).run
        (created (.createdFromConnectionString "name" "key" "host" "hub" "target"))
        (enqueue {} ++ [.conditionWait 0, .iterate, .destroy]) = some s ∧
      (threadedMachine (EventHubAuthCBS.authModule fun _ ↦ none)).run s
        lastCall = some t ∧
      s.worker = some .lock ∧ lastCall.countP isDoWork ≤ 1 := by
  refine ⟨_, _, rfl, rfl, rfl, ?_⟩
  exact @run_stops_worker _ _ (EventHubAuthCBS.authModule fun _ ↦ none) _ _
    (.createdFromConnectionString "name" "key" "host" "hub" "target")
    (enqueue {} ++ [.conditionWait 0, .iterate, .destroy]) lastCall rfl (by decide) rfl

end EventHubClient

end EventHubs
