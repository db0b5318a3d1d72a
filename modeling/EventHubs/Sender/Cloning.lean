import EventHubs.Library.Ledger
import EventHubs.Sender.Machine
import Mathlib.Data.List.ReduceOption

/-!
# The clones of a batch

`EventHubClient_LL_SendBatchAsync` clones its events one by one and, when a clone fails, destroys
those it made. Here the call runs with the ledger of the `EventData` objects, and the loop of
`ValidateEventDataList` runs from index to index as in the source. Forgetting the ledger gives the
call of the machine.

## Main definitions

* `validateLoop`, `cloneLoop` — the loops of `ValidateEventDataList` and of the call.
* `EventHubClientLL.sendBatchAsyncOn` — the call, with the ledger.
* `AcceptedBatch` — what a batch must be to be accepted.

## Main results

* `EventHubClientLL.sendBatchAsyncOn_eq` — the machine's call is this one without the ledger.
* `EventHubClientLL.sendBatchAsyncOn_atomic`.
-/

namespace EventHubs

/-- The loop of `ValidateEventDataList` from `index` on, with the `partitionKey` it has kept, and
whether its result is 0. -/
def validateLoop (index : Nat) (partitionKey : Option String) : List (Option EventData) → Bool
  | [] => true
  | none :: _ => false
  | some e :: rest =>
    let currPartKey := e.partitionKey
    if index = 0 then validateLoop (index + 1) currPartKey rest
    else if (currPartKey.isNone && partitionKey.isSome) ||
        (currPartKey.isSome && partitionKey.isNone) then false
    else
      match currPartKey, partitionKey with
      | some currPartKey, some key =>
        if key ≠ currPartKey then false else validateLoop (index + 1) (some key) rest
      | _, _ => validateLoop (index + 1) partitionKey rest

/-- The loop that clones the events from `index` on: the cells of `eventDataList` that it filled
before it ended, and the ledger. -/
def cloneLoop (clones : Nat → Bool) (index : Nat) :
    List (Option EventData) → Ledger EventData → List Nat × Ledger EventData
  | [], l => ([], l)
  | none :: _, l => ([], l)
  | some e :: rest, l =>
    if clones index then
      let x := cloneLoop clones (index + 1) rest (l.create e)
      (l.next :: x.1, x.2)
    else ([], l)

/-- What a batch must be to be accepted: no handle is NULL, the partition keys agree, there is a
callback for the context, and no allocation and no clone fails. -/
structure AcceptedBatch (list : List (Option EventData)) (callback context : Option Nat)
    (env : SendEnv) : Prop where
  handles : none ∉ list
  keys : ∀ a b, some a ∈ list → some b ∈ list → a.partitionKey = b.partitionKey
  arguments : callback = none → context = none
  mallocEntry : env.mallocEntry = true
  mallocList : env.mallocList = true
  clones : ∀ i < list.length, env.clones i = true

/-- An accepted batch leaves one entry more, with the clones. -/
structure Queued {σ : Type} (events : List EventData) (callback context : Option Nat)
    (env : SendEnv)
    (s t : SenderState σ) (l m : Ledger EventData) : Prop where
  outgoingEvents : t.client.outgoingEvents = s.client.outgoingEvents ++
    [{ number := s.nextEntry
       eventDataList := events
       callback := callback.map (⟨·, context⟩)
       currentStatus := .waitingToBeSent
       idleTimer := env.idleTimer }]
  live : m.live = l.live ++ (List.range' l.next events.length).zip events
  destroyed : m.destroyed = l.destroyed
  faults : m.faults = l.faults

/-- A refused batch leaves the sender as it was, and every clone that was made is destroyed. -/
structure Refused {σ : Type} (s t : SenderState σ) (l m : Ledger EventData) : Prop where
  state : t = { s with lastTick := t.lastTick }
  live : m.live = l.live
  destroyed : ∃ made, m.next = l.next + made ∧ m.destroyed = l.destroyed ++ List.range' l.next made
  faults : m.faults = l.faults

/-! ### The loops -/

theorem not_map_some_of_none {rest : List (Option EventData)} {events : List EventData} :
    none :: rest ≠ events.map some := by
  rintro h
  obtain ⟨e, -, he⟩ := List.mem_map.mp (h ▸ List.mem_cons_self : none ∈ events.map some)
  exact absurd he (Option.some_ne_none e)

/-- The four NULL cases and `strcmp` amount to an equality test. -/
theorem validateLoop_cons {index : Nat} {key : Option String} {e : EventData}
    {rest : List (Option EventData)} :
    validateLoop (index + 1) key (some e :: rest) =
      (decide (e.partitionKey = key) && validateLoop (index + 1 + 1) key rest) := by
  cases hkey : e.partitionKey with
  | none => cases key <;> simp [validateLoop, hkey]
  | some currPartKey =>
    cases key with
    | none => simp [validateLoop, hkey]
    | some key =>
      by_cases heq : key = currPartKey
      · simp [validateLoop, hkey, heq]
      · simp [validateLoop, hkey, heq, Ne.symm heq]

theorem validateLoop_succ {index : Nat} {key : Option String} {list : List (Option EventData)} :
    validateLoop (index + 1) key list = true ↔
      ∃ events : List EventData, list = events.map some ∧ ∀ e ∈ events, e.partitionKey = key := by
  induction list generalizing index with
  | nil => exact iff_of_true rfl ⟨[], rfl, fun _ he => absurd he List.not_mem_nil⟩
  | cons e? rest ih =>
    cases e? with
    | none => exact iff_of_false Bool.false_ne_true fun ⟨_, h, _⟩ => not_map_some_of_none h
    | some e =>
      rw [validateLoop_cons, Bool.and_eq_true, decide_eq_true_iff, ih]
      constructor
      · rintro ⟨hkey, events, rfl, hevents⟩
        exact ⟨e :: events, rfl, List.forall_mem_cons.mpr ⟨hkey, hevents⟩⟩
      · rintro ⟨_ | ⟨e', events⟩, hlist, hevents⟩
        · exact absurd hlist (List.cons_ne_nil _ _)
        · obtain ⟨rfl, rfl⟩ : e = e' ∧ rest = events.map some := by simpa using hlist
          exact ⟨(List.forall_mem_cons.mp hevents).1, events, rfl,
            (List.forall_mem_cons.mp hevents).2⟩

/-- The loop against the first element amounts to keys that agree pairwise. -/
theorem validateLoop_zero {list : List (Option EventData)} :
    validateLoop 0 none list = true ↔
      ∃ events : List EventData, list = events.map some ∧
        ∀ a ∈ events, ∀ b ∈ events, a.partitionKey = b.partitionKey := by
  rcases list with _ | ⟨_ | first, rest⟩
  · exact iff_of_true rfl ⟨[], rfl, fun _ ha => absurd ha List.not_mem_nil⟩
  · exact iff_of_false Bool.false_ne_true fun ⟨_, h, _⟩ => not_map_some_of_none h
  · change validateLoop (0 + 1) first.partitionKey rest = true ↔ _
    rw [validateLoop_succ]
    constructor
    · rintro ⟨events, rfl, hevents⟩
      refine ⟨first :: events, rfl, ?_⟩
      have hfirst : ∀ a ∈ first :: events, a.partitionKey = first.partitionKey :=
        List.forall_mem_cons.mpr ⟨rfl, hevents⟩
      exact fun a ha b hb => (hfirst a ha).trans (hfirst b hb).symm
    · rintro ⟨_ | ⟨first', events⟩, hlist, hevents⟩
      · exact absurd hlist (List.cons_ne_nil _ _)
      · obtain ⟨rfl, rfl⟩ : first = first' ∧ rest = events.map some := by simpa using hlist
        exact ⟨events, rfl, fun e he =>
          hevents e (List.mem_cons_of_mem _ he) first List.mem_cons_self⟩

theorem reduceOption_map_some (events : List EventData) :
    (events.map some).reduceOption = events := by
  rw [List.reduceOption, List.filterMap_map]
  exact List.filterMap_some

/-- Past the first element the loop is a test of each. -/
theorem all_eq_validateLoop {p : Option EventData → Bool} {key : Option String}
    (hnone : p none = false) (hsome : ∀ e, p (some e) = decide (e.partitionKey = key)) (index : Nat)
    (rest : List (Option EventData)) : rest.all p = validateLoop (index + 1) key rest := by
  induction rest generalizing index with
  | nil => rfl
  | cons e? rest ih =>
    cases e? with
    | none => rw [List.all_cons, hnone, Bool.false_and]; rfl
    | some e => rw [List.all_cons, validateLoop_cons, hsome, ih]

/-- The function of the machine is the loop. -/
theorem validateEventDataList_eq (list : List (Option EventData)) :
    EventHubClientLL.validateEventDataList list =
      if validateLoop 0 none list then some list.reduceOption else none := by
  rcases list with _ | ⟨_ | first, rest⟩
  · rfl
  · rfl
  · exact congrArg (fun b : Bool => if b then some (first :: rest.reduceOption) else none)
      (all_eq_validateLoop rfl (fun _ => rfl) 0 rest)

/-- The loop clones the events up to the first clone that fails. -/
theorem cloneLoop_spec (clones : Nat → Bool) (index : Nat) (events : List EventData)
    (l : Ledger EventData) :
    ∃ k ≤ events.length,
      cloneLoop clones index (events.map some) l =
        (List.range' l.next k, l.createAll (events.take k)) ∧
      (k = events.length ↔ ∀ i < events.length, clones (index + i) = true) := by
  induction events generalizing index l with
  | nil => exact ⟨0, le_rfl, rfl, iff_of_true rfl fun _ hi => absurd hi (Nat.not_lt_zero _)⟩
  | cons e rest ih =>
    by_cases hclone : clones index = true
    · obtain ⟨k, hk, hloop, hall⟩ := ih (index + 1) (l.create e)
      refine ⟨k + 1, Nat.succ_le_succ hk, ?_, ?_⟩
      · simp only [List.map_cons, cloneLoop, if_pos hclone, hloop]
        rfl
      · rw [List.length_cons, Nat.succ_inj, hall, Nat.forall_lt_succ_left']
        simp [hclone, Nat.add_assoc, Nat.add_comm 1]
    · refine ⟨0, Nat.zero_le _, by simp [cloneLoop, hclone, Ledger.createAll], ?_⟩
      refine iff_of_false (Nat.zero_ne_add_one _) fun hall => hclone (hall 0 (Nat.succ_pos _))

namespace EventHubClientLL

variable {σ : Type}

/-- `EventHubClient_LL_SendBatchAsync` with the ledger of the `EventData` objects. -/
def sendBatchAsyncOn (s : SenderState σ) (l : Ledger EventData)
    (eventDataList : Option (List (Option EventData))) (callback context : Option Nat)
    (env : SendEnv) : EventHubClientResult × SenderState σ × Ledger EventData :=
  match eventDataList with
  | none => (.invalidArg, s, l)
  | some list =>
    if list.length = 0 || (callback.isNone && context.isSome) then (.invalidArg, s, l)
    else if !validateLoop 0 none list then (.error, s, l)
    else if !env.mallocEntry then (.error, s, l)
    else
      let ticked := { s with lastTick := env.idleTimer }
      if !env.mallocList then (.error, ticked, l)
      else
        let x := cloneLoop env.clones 0 list l
        if x.1.length < list.length then (.error, ticked, x.2.destroyAll x.1)
        else
          (.ok, queue s (x.1.filterMap x.2.read) (callback.map (⟨·, context⟩)) env.idleTimer, x.2)

/-! ### The call -/

section Call

variable {s : SenderState σ} {l : Ledger EventData} {list : List (Option EventData)}
  {events : List EventData} {callback context : Option Nat} {env : SendEnv}

theorem arguments_iff : (callback.isNone && context.isSome) = false ↔
    (callback = none → context = none) := by
  cases callback <;> cases context <;> simp

/-- A batch that passes the tests before the first allocation. -/
theorem acceptedBatch_iff (hlist : list = events.map some)
    (hkeys : ∀ a ∈ events, ∀ b ∈ events, a.partitionKey = b.partitionKey)
    (harguments : callback = none → context = none) :
    AcceptedBatch list callback context env ↔
      env.mallocEntry = true ∧ env.mallocList = true ∧
        ∀ i < events.length, env.clones i = true := by
  subst hlist
  constructor
  · intro h
    exact ⟨h.mallocEntry, h.mallocList, fun i hi => h.clones i (by rwa [List.length_map])⟩
  · rintro ⟨hentry, hlist, hclones⟩
    refine ⟨by simp, fun a b ha hb => ?_, harguments, hentry, hlist, fun i hi => ?_⟩
    · simp only [List.mem_map, Option.some.injEq, exists_eq_right] at ha hb
      exact hkeys a ha b hb
    · exact hclones i (by rwa [List.length_map] at hi)

theorem exists_eq_map_some (h : none ∉ list) :
    ∃ events : List EventData, list = events.map some := by
  induction list with
  | nil => exact ⟨[], rfl⟩
  | cons e? rest ih =>
    obtain ⟨events, rfl⟩ := ih fun hmem => h (List.mem_cons_of_mem _ hmem)
    cases e? with
    | none => exact absurd List.mem_cons_self h
    | some e => exact ⟨e :: events, rfl⟩

theorem validates_of_acceptedBatch (h : AcceptedBatch list callback context env) :
    validateLoop 0 none list = true := by
  obtain ⟨events, rfl⟩ := exists_eq_map_some h.handles
  refine validateLoop_zero.mpr ⟨events, rfl, fun a ha b hb => ?_⟩
  exact h.keys a b (List.mem_map_of_mem ha) (List.mem_map_of_mem hb)

/-- A batch is queued whole, or refused with its clones taken back. -/
theorem sendBatchAsyncOn_cases (hne : list ≠ []) :
    (AcceptedBatch list callback context env ∧ ∃ events, list = events.map some ∧
      sendBatchAsyncOn s l (some list) callback context env =
        (.ok, queue s events (callback.map (⟨·, context⟩)) env.idleTimer, l.createAll events)) ∨
    (¬ AcceptedBatch list callback context env ∧ ∃ r tick made, r ≠ EventHubClientResult.ok ∧
      sendBatchAsyncOn s l (some list) callback context env =
        (r, { s with lastTick := tick },
          (l.createAll made).destroyAll (List.range' l.next made.length))) := by
  have hlength : list.length ≠ 0 := mt List.length_eq_zero_iff.mp hne
  unfold sendBatchAsyncOn
  by_cases harguments : (callback.isNone && context.isSome) = true
  · refine Or.inr ⟨fun h => ?_, .invalidArg, s.lastTick, [], (by simp), ?_⟩
    · exact absurd harguments (Bool.eq_false_iff.mp (arguments_iff.mpr h.arguments))
    · simp [harguments, Ledger.createAll, Ledger.destroyAll]
  simp only [hlength, harguments, decide_false, Bool.false_or, Bool.false_eq_true, if_false]
  by_cases hvalid : validateLoop 0 none list = true
  swap
  · refine Or.inr ⟨fun h => hvalid (validates_of_acceptedBatch h), .error, s.lastTick,
      [], (by simp), ?_⟩
    simp [hvalid, Ledger.createAll, Ledger.destroyAll]
  obtain ⟨events, rfl, hkeys⟩ := validateLoop_zero.mp hvalid
  have haccepted : AcceptedBatch _ callback context env ↔ _ := acceptedBatch_iff rfl hkeys
    (arguments_iff.mp (Bool.eq_false_iff.mpr harguments))
  rw [haccepted]
  obtain ⟨k, hk, hloop, hall⟩ := cloneLoop_spec env.clones 0 events l
  simp only [hvalid, hloop, List.length_range', List.length_map, Bool.not_true,
    Bool.false_eq_true, if_false, Nat.zero_add] at hall ⊢
  cases hentry : env.mallocEntry with
  | false => exact Or.inr ⟨(by simp), .error, s.lastTick, [], (by simp), rfl⟩
  | true =>
    cases hlist : env.mallocList with
    | false => exact Or.inr ⟨(by simp), .error, env.idleTimer, [], (by simp), rfl⟩
    | true =>
      rcases hk.lt_or_eq with hlt | rfl
      · refine Or.inr ⟨fun h => hlt.ne (hall.mpr h.2.2), .error, env.idleTimer, events.take k,
          (by simp), ?_⟩
        rw [List.length_take, Nat.min_eq_left hk]
        simp [hlt]
      · refine Or.inl ⟨⟨rfl, rfl, hall.mp rfl⟩, events, rfl, ?_⟩
        simp [List.take_length, Ledger.filterMap_read_createAll]

/-- The call of the machine is this one without the ledger. -/
theorem sendBatchAsyncOn_eq (s : SenderState σ) (l : Ledger EventData)
    (eventDataList : Option (List (Option EventData))) (callback context : Option Nat)
    (env : SendEnv) :
    sendBatchAsync s eventDataList callback context env =
      ((sendBatchAsyncOn s l eventDataList callback context env).1,
        (sendBatchAsyncOn s l eventDataList callback context env).2.1) := by
  cases eventDataList with
  | none => rfl
  | some list =>
    rw [sendBatchAsync, sendBatchAsyncOn, validateEventDataList_eq]
    by_cases harguments : (list.length = 0 || (callback.isNone && context.isSome)) = true
    · rw [if_pos harguments, if_pos harguments]
    rw [if_neg harguments, if_neg harguments]
    cases hvalid : validateLoop 0 none list with
    | false => rfl
    | true =>
      obtain ⟨events, rfl, -⟩ := validateLoop_zero.mp hvalid
      obtain ⟨k, hk, hloop, hall⟩ := cloneLoop_spec env.clones 0 events l
      have hrange : (List.range events.length).all env.clones = decide (k = events.length) := by
        rw [Bool.eq_iff_iff, decide_eq_true_iff, hall, List.all_eq_true]
        simp
      simp only [if_true, reduceOption_map_some, hrange, hloop, List.length_range',
        List.length_map, Bool.not_true, Bool.false_eq_true, if_false, decide_eq_true_eq]
      cases env.mallocEntry with
      | false => rfl
      | true =>
        cases env.mallocList with
        | false => rfl
        | true =>
          rcases hk.lt_or_eq with hlt | rfl
          · simp [hlt, hlt.ne]
          · simp [Ledger.filterMap_read_createAll]

/-- One event is sent as by `EventHubClient_LL_SendAsync`, up to the tick that was read. -/
theorem sendAsync_eq_sendBatchAsync (s : SenderState σ) (event : EventData)
    (callback context : Option Nat) (env : SendEnv) :
    (sendAsync s (some event) callback context env).1 =
        (sendBatchAsync s (some [some event]) callback context env).1 ∧
      (sendAsync s (some event) callback context env).2.client =
        (sendBatchAsync s (some [some event]) callback context env).2.client := by
  unfold sendAsync sendBatchAsync
  cases harguments : (callback.isNone && context.isSome) with
  | true => exact ⟨rfl, rfl⟩
  | false =>
    cases env.mallocEntry with
    | false => exact ⟨rfl, rfl⟩
    | true =>
      cases env.mallocList with
      | false => exact ⟨rfl, rfl⟩
      | true =>
        cases hclone : env.clones 0 <;> simp [validateEventDataList, List.reduceOption_nil, hclone]

/-- A batch of any length, on any sender and with any failures, is accepted exactly when it is valid
and nothing fails. Accepted, it is one entry more at the tail, with the clones in order; refused, it
leaves the sender as it was and its clones destroyed. One event is sent as by
`EventHubClient_LL_SendAsync`. -/
theorem sendBatchAsyncOn_atomic (hne : list ≠ []) {r : EventHubClientResult} {t : SenderState σ}
    {m : Ledger EventData}
    (h : sendBatchAsyncOn s l (some list) callback context env = (r, t, m)) :
    (r = .ok ↔ AcceptedBatch list callback context env) ∧
    (r = .ok → ∃ events, list = events.map some ∧ Queued events callback context env s t l m) ∧
    (r ≠ .ok → Refused s t l m) ∧
    ∀ event, list = [some event] →
      (sendAsync s (some event) callback context env).1 = r ∧
      (sendAsync s (some event) callback context env).2.client = t.client := by
  have hone : ∀ event, list = [some event] →
      (sendAsync s (some event) callback context env).1 = r ∧
      (sendAsync s (some event) callback context env).2.client = t.client := by
    rintro event rfl
    have hmachine := sendBatchAsyncOn_eq s l (some [some event]) callback context env
    obtain ⟨hr, hclient⟩ := sendAsync_eq_sendBatchAsync s event callback context env
    rw [hmachine, h] at hr hclient
    exact ⟨hr, hclient⟩
  rcases sendBatchAsyncOn_cases (s := s) (l := l) hne with
    ⟨haccepted, events, hlist, heq⟩ | ⟨hrefused, r', tick, made, hr', heq⟩
  · obtain ⟨rfl, rfl, rfl⟩ : r = _ ∧ t = _ ∧ m = _ := by simpa using h.symm.trans heq
    obtain ⟨hlive, hdestroyed, hfaults, -⟩ := l.createAll_spec events
    refine ⟨iff_of_true rfl haccepted, fun _ => ⟨events, hlist, ?_⟩, fun hr => absurd rfl hr, hone⟩
    exact ⟨rfl, hlive, hdestroyed, hfaults⟩
  · obtain ⟨rfl, rfl, rfl⟩ : r = _ ∧ t = _ ∧ m = _ := by simpa using h.symm.trans heq
    obtain ⟨hlive, hdestroyed, hfaults, hnext⟩ := l.createAll_destroyAll made
    refine ⟨iff_of_false hr' hrefused, fun hr => absurd hr hr', fun _ => ?_, hone⟩
    exact ⟨rfl, hlive, ⟨made.length, hnext, hdestroyed⟩, hfaults⟩

/-- The second of two clones fails: the first is destroyed. -/
theorem sendBatchAsyncOn_atomic_rollback :
    let s : SenderState EventHubAuthCBSStruct := { client := {} }
    ∃ t m, sendBatchAsyncOn s {} (some [some {}, some {}]) none none { clones := (· < 1) } =
        (.error, t, m) ∧ Refused s t {} m ∧ m.destroyed = [0] := by
  obtain ⟨-, -, hrefused, -⟩ :=
    @sendBatchAsyncOn_atomic _ { client := {} } {} [some {}, some {}] none none
      { clones := (· < 1) } (List.cons_ne_nil _ _) _ _ _ rfl
  exact ⟨_, _, rfl, hrefused EventHubClientResult.noConfusion, rfl⟩

/-- A NULL handle is refused by both calls, with different results. -/
theorem sendBatchAsync_null :
    ¬ ∀ (s : SenderState EventHubAuthCBSStruct) (event : Option EventData)
        (callback context : Option Nat) (env : SendEnv),
      (sendBatchAsyncOn s {} (some [event]) callback context env).1 =
        (sendAsync s event callback context env).1 := by
  intro hsame
  have hnull := hsame { client := {} } none none none {}
  exact absurd hnull (by decide)

end Call

end EventHubClientLL

end EventHubs
