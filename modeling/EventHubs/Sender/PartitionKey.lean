import EventHubs.Sender.Delivery

/-!
# Partition keys of the messages that are handed over

The events of an entry share one partition key. The single-event path of `EventHubClient_LL_DoWork`
writes it into the annotations of the uAMQP message; `create_batch_message` does not look at it. So
a message carries the key of its entry exactly when it was built from one event, or from events
without a key.

## Main definitions

* `keyAnnotations` — the annotations that carry a partition key.

## Main results

* `EventHubClientLL.buildMessage_annotations_iff`.
* `EventHubClientLL.run_carries_partitionKey_iff`.
-/

namespace EventHubs

/-- The annotations of a message that carries the partition key `key`, and of one without a key. -/
def keyAnnotations (key : Option String) : Option (List (String × String)) :=
  key.map fun key ↦ [(partitionKeyName, key)]

namespace EventHubClientLL

variable {σ ι : Type} (auth : AuthModule σ ι)

open SenderState

/-! ### Building -/

section Build

variable {env : BuildEnv} {message built : AMQPMessage}

theorem addPartitionKeyToMessage_annotations {event : EventData}
    (hnone : message.messageAnnotations = none)
    (h : addPartitionKeyToMessage env message event = some built) :
    built.messageAnnotations = keyAnnotations event.partitionKey ∧
      built.bodyData = message.bodyData ∧
      built.applicationProperties = message.applicationProperties := by
  unfold addPartitionKeyToMessage at h
  cases hkey : event.partitionKey with
  | none =>
    simp only [hkey, Option.some.injEq] at h
    exact h ▸ ⟨hnone, rfl, rfl⟩
  | some key =>
    simp only [hkey] at h
    obtain ⟨-, ⟨⟩⟩ := Option.ite_none_right_eq_some.mp h
    exact ⟨rfl, rfl, rfl⟩

/-- A properties map is created exactly for an event that has properties. -/
theorem createPropertiesMap_eq_some {index : Nat} {event : EventData}
    {map : Option (List (String × String))} (h : createPropertiesMap env index event = some map) :
    map = if event.properties = [] then none else some event.properties := by
  unfold createPropertiesMap at h
  obtain ⟨-, h⟩ := Option.ite_none_left_eq_some.mp h
  obtain ⟨-, h⟩ := Option.ite_none_left_eq_some.mp h
  by_cases hnil : event.properties = []
  · rw [if_pos (by rw [hnil]; rfl)] at h
    rw [if_pos hnil]
    exact (Option.some.inj h).symm
  · rw [if_neg (by simpa using hnil)] at h
    obtain ⟨-, h⟩ := Option.ite_none_left_eq_some.mp h
    obtain ⟨-, h⟩ := Option.ite_none_right_eq_some.mp h
    rw [if_neg hnil]
    exact (Option.some.inj h).symm

/-- What the single-event path writes: payload, key and properties. -/
theorem createSingleMessage_spec {event : EventData}
    (h : createSingleMessage env {} event = some built) :
    built.bodyData = [event.buffer] ∧
    built.messageAnnotations = keyAnnotations event.partitionKey ∧
    built.applicationProperties =
      if event.properties = [] then none else some event.properties := by
  unfold createSingleMessage at h
  obtain ⟨-, h⟩ := Option.ite_none_left_eq_some.mp h
  obtain ⟨-, h⟩ := Option.ite_none_left_eq_some.mp h
  cases hadd : addPartitionKeyToMessage env { bodyData := [event.buffer] } event with
  | none => simp [hadd] at h
  | some keyed =>
    obtain ⟨hkey, hbody, hprops⟩ := addPartitionKeyToMessage_annotations rfl hadd
    cases hmap : createPropertiesMap env 0 event with
    | none => simp [hadd, hmap] at h
    | some map =>
      have hproperties := createPropertiesMap_eq_some hmap
      cases map with
      | none =>
        obtain rfl : keyed = built := by simpa [hadd, hmap] using h
        exact ⟨hbody, hkey, hprops.trans hproperties⟩
      | some properties =>
        simp only [List.nil_append, hadd, hmap] at h
        obtain ⟨-, ⟨⟩⟩ := Option.ite_none_right_eq_some.mp h
        exact ⟨hbody, hkey, hproperties⟩

theorem createBatchMessage_annotations {events : List EventData}
    (h : createBatchMessage env message events = some built) :
    built.messageAnnotations = message.messageAnnotations := by
  unfold createBatchMessage at h
  obtain ⟨-, h⟩ := Option.ite_none_left_eq_some.mp h
  obtain ⟨sections, -, rfl⟩ := Option.map_eq_some_iff.mp h
  rfl

theorem keyAnnotations_eq_none {key : Option String} : keyAnnotations key = none ↔ key = none :=
  Option.map_eq_none_iff

/-- A message that was built carries the key of its events exactly when there is one event or no
key. -/
theorem buildMessage_annotations_iff {events : List EventData} {key : Option String}
    (hkey : SharesKey key events) (h : buildMessage env events = some message) :
    message.messageAnnotations = keyAnnotations key ↔ events.length = 1 ∨ key = none := by
  unfold buildMessage at h
  obtain ⟨-, h⟩ := Option.ite_none_left_eq_some.mp h
  rcases events with _ | ⟨event, _ | ⟨next, rest⟩⟩
  · exact absurd rfl hkey.1
  · have hone : event.partitionKey = key := hkey.2 event List.mem_cons_self
    rw [(createSingleMessage_spec h).2.1, hone]
    simp
  · rw [createBatchMessage_annotations h]
    simp [eq_comm, keyAnnotations_eq_none]

end Build

/-! ### Runs -/

/-- The events of every entry share a key. -/
def Keyed (s : SenderState σ) : Prop :=
  ∀ e ∈ s.client.outgoingEvents, ∃ key, SharesKey key e.eventDataList

theorem step_keyed {s t : SenderState σ} {i : SenderInput ι} (hs : Keyed s)
    (hstep : step auth s i = some t) : Keyed t := by
  intro e he
  rcases (step_continues auth hstep).entries e he with ⟨a, ha, -, -, -, hevents⟩ | ⟨-, -, hkey⟩
  · rw [← hevents]
    exact hs a ha
  · exact hkey

theorem run_keyed {c : EventHubClientLL σ} (hc : Created c) {is : List (SenderInput ι)}
    {s : SenderState σ} (hrun : (senderMachine auth).run { client := c } is = some s) :
    Keyed s := by
  have hstart : Keyed { client := c } := fun e he ↦ by
    have hnil : c.outgoingEvents = [] := by cases hc <;> rfl
    exact absurd (hnil ▸ he) List.not_mem_nil
  have hstep : ∀ s i t, Keyed s → (senderMachine auth).step s i = some t → Keyed t :=
    fun _ _ _ hs h ↦ step_keyed auth hs h
  exact Machine.run_invariant hstep hstart hrun

/-- In every run of a sender, a message that is handed over belongs to an entry whose events share a
partition key, and it carries that key exactly when the entry has one event or no key. -/
theorem run_carries_partitionKey_iff {c : EventHubClientLL σ} (hc : Created c)
    {is : List (SenderInput ι)} {i : SenderInput ι} {s t : SenderState σ}
    (hrun : (senderMachine auth).run { client := c } is = some s)
    (hstep : (senderMachine auth).step s i = some t) {n : Nat} {message : AMQPMessage}
    {taken : Bool}
    (hover : SenderEvent.handedOver n message taken ∈ t.log.drop s.log.length) :
    ∃ e ∈ s.client.outgoingEvents, e.number = n ∧ ∃ key, SharesKey key e.eventDataList ∧
      (message.messageAnnotations = keyAnnotations key ↔ e.eventCount = 1 ∨ key = none) := by
  obtain ⟨events, hlog, hfounded⟩ := (step_continues auth hstep).log
  rw [hlog, List.drop_left] at hover
  obtain ⟨e, he, hnumber, env, hbuild⟩ := hfounded _ hover
  obtain ⟨key, hkey⟩ := run_keyed auth hc hrun e he
  exact ⟨e, he, hnumber, key, hkey, buildMessage_annotations_iff hkey hbuild⟩

/-- A sender that is authorised and has its stack, up to the loop, after some events were sent. -/
def opened (events : List EventData) : List (SenderInput AuthEnv) :=
  [.sendBatchAsync (some (events.map some)) none none {}, .doWork (doWorkAt 100),
    .onCBSPutTokenOperationComplete .ok { completeNow := some 101 }, .uamqpReturn true,
    .doWork (doWorkAt 102), .doWork (doWorkAt 103), .uamqpReturn true]

/-- One event with a key. -/
theorem run_carries_partitionKey_iff_single :
    ∃ s t, (senderMachine (EventHubAuthCBS.authModule fun _ ↦ none)).run
        { client := createdFromConnectionString "name" "key" "host" "hub" "target" }
        (opened [{ partitionKey := some "K" }]) = some s ∧
      (senderMachine (EventHubAuthCBS.authModule fun _ ↦ none)).step s
        (.iterate {} 20 true) = some t ∧
      ∃ message, SenderEvent.handedOver 0 message true ∈ t.log.drop s.log.length ∧
        ∃ key, message.messageAnnotations = keyAnnotations key := by
  refine ⟨_, _, rfl, rfl,
    { bodyData := [[]], messageAnnotations := some [(partitionKeyName, "K")] }, by decide, ?_⟩
  obtain ⟨e, he, -, key, hkey, hiff⟩ :=
    @run_carries_partitionKey_iff _ _ (EventHubAuthCBS.authModule fun _ ↦ none) _
      (.fromConnectionString "name" "key" "host" "hub" "target")
      (opened [{ partitionKey := some "K" }]) (.iterate {} 20 true) _ _ rfl rfl 0
      { bodyData := [[]], messageAnnotations := some [(partitionKeyName, "K")] } true (by decide)
  refine ⟨key, hiff.mpr (Or.inl ?_)⟩
  obtain rfl := List.mem_singleton.mp he
  rfl

/-- Two events with the same key: the message that is handed over carries none. -/
theorem run_drops_partitionKey :
    ∃ s t, (senderMachine (EventHubAuthCBS.authModule fun _ ↦ none)).run
        { client := createdFromConnectionString "name" "key" "host" "hub" "target" }
        (opened [{ partitionKey := some "K" }, { partitionKey := some "K" }]) = some s ∧
      (senderMachine (EventHubAuthCBS.authModule fun _ ↦ none)).step s
        (.iterate {} 20 true) = some t ∧
      ∃ message, SenderEvent.handedOver 0 message true ∈ t.log.drop s.log.length ∧
        message.messageAnnotations = none ∧
        ∃ e ∈ s.client.outgoingEvents, e.number = 0 ∧ SharesKey (some "K") e.eventDataList := by
  refine ⟨_, _, rfl, rfl,
    { messageFormat := some 0x80013700, bodyData := [[], []] }, by decide, rfl,
    _, List.mem_singleton_self _, rfl, List.cons_ne_nil _ _, ?_⟩
  decide

end EventHubClientLL

end EventHubs
