import EventHubs.Sender.PartitionKey
import EventHubs.Receiver.Registration

/-!
# From one client to the other

An event that a user builds with the functions of `eventdata.c` is sent by itself, stored by the
service, and delivered with the time at which it was stored. `ProcessMessageAnnotations` and
`ProcessApplicationProperties` then read back what `addPartitionKeyToMessage` and
`createPropertiesMap` wrote: the callback of the receiving user gets the payload and the properties
of the sending one.

The filter of the property map is what makes the second half work: the receiver puts the received
properties into a map with the same filter, one by one.

## Main definitions

* `EventData.Built` — the events that a user can build.
* `Delivered` — what the service makes of a message.

## Main results

* `EventData.Built.admissible`, `decodeMessage_of_delivered`.
* `run_receives_what_was_sent`.
-/

namespace EventHubs

/-! ### Building an event -/

/-- `EventData_CreateWithNewMemory`. -/
def EventData.createWithNewMemory (data : List UInt8) : EventData := { buffer := data }

/-- `EventData_SetPartitionKey` with a key that is not NULL, and whether `STRING_construct`
succeeds. -/
def EventData.setPartitionKey (event : EventData) (partitionKey : String) (constructs : Bool) :
    EventData :=
  { event with partitionKey := if constructs then some partitionKey else none }

/-- `Map_AddOrUpdate` on the properties of an event. -/
def mapAddOrUpdate (properties : List (String × String)) (key value : String) (succeeds : Bool) :
    Option (List (String × String)) :=
  if !(containsOnlyUsAscii key && containsOnlyUsAscii value) then none
  else if !succeeds then none
  else if properties.any fun p ↦ p.1 = key then
    some (properties.map fun p ↦ if p.1 = key then (key, value) else p)
  else some (properties ++ [(key, value)])

/-- The events that a user builds. -/
inductive EventData.Built : EventData → Prop
  | create (data : List UInt8) : Built (createWithNewMemory data)
  | setPartitionKey {event : EventData} (h : Built event) (partitionKey : String)
      (constructs : Bool) : Built (event.setPartitionKey partitionKey constructs)
  | mapAdd {event : EventData} (h : Built event) {key value : String} {succeeds : Bool}
      {properties : List (String × String)}
      (hadd : mapAdd event.properties key value succeeds = some properties) :
    Built { event with properties := properties }
  | mapAddOrUpdate {event : EventData} (h : Built event) {key value : String} {succeeds : Bool}
      {properties : List (String × String)}
      (hadd : mapAddOrUpdate event.properties key value succeeds = some properties) :
    Built { event with properties := properties }

/-- What the map and its filter guarantee: no key twice, and printable ASCII only. -/
structure Admissible (properties : List (String × String)) : Prop where
  nodup : (properties.map (·.1)).Nodup
  ascii : ∀ p ∈ properties, containsOnlyUsAscii p.1 = true ∧ containsOnlyUsAscii p.2 = true

theorem Admissible.concat {properties : List (String × String)} (h : Admissible properties)
    {key value : String} (hnew : ∀ p ∈ properties, p.1 ≠ key)
    (hkey : containsOnlyUsAscii key = true) (hvalue : containsOnlyUsAscii value = true) :
    Admissible (properties ++ [(key, value)]) := by
  refine ⟨?_, fun p hp ↦ ?_⟩
  · rw [List.map_append, List.nodup_append]
    refine ⟨h.nodup, List.nodup_singleton _, fun k hk k' hk' ↦ ?_⟩
    obtain ⟨p, hp, rfl⟩ := List.mem_map.mp hk
    obtain rfl := List.mem_singleton.mp hk'
    exact hnew p hp
  · rcases List.mem_append.mp hp with hp | hp
    · exact h.ascii p hp
    · obtain rfl := List.mem_singleton.mp hp
      exact ⟨hkey, hvalue⟩

theorem Admissible.update {properties : List (String × String)} (h : Admissible properties)
    {key value : String} (hkey : containsOnlyUsAscii key = true)
    (hvalue : containsOnlyUsAscii value = true) :
    Admissible (properties.map fun p ↦ if p.1 = key then (key, value) else p) := by
  refine ⟨?_, fun p hp ↦ ?_⟩
  · have hkeys : (properties.map fun p ↦ if p.1 = key then (key, value) else p).map (·.1) =
        properties.map (·.1) := by
      rw [List.map_map]
      refine List.map_congr_left fun p _ ↦ ?_
      by_cases hp : p.1 = key <;> simp [hp]
    rw [hkeys]
    exact h.nodup
  · obtain ⟨q, hq, rfl⟩ := List.mem_map.mp hp
    by_cases hsame : q.1 = key
    · simpa only [if_pos hsame] using ⟨hkey, hvalue⟩
    · simpa only [if_neg hsame] using h.ascii q hq

/-- `Map_Add` succeeds exactly on a new key that passes the filter together with its value. -/
theorem mapAdd_eq_some_iff {properties properties' : List (String × String)} {key value : String}
    {succeeds : Bool} : mapAdd properties key value succeeds = some properties' ↔
      (∀ p ∈ properties, p.1 ≠ key) ∧ containsOnlyUsAscii key = true ∧
        containsOnlyUsAscii value = true ∧ succeeds = true ∧ properties ++ [(key, value)] =
          properties' := by
  simp only [mapAdd, Option.ite_none_left_eq_some, Option.some.injEq, List.any_eq_true,
    decide_eq_true_eq, not_exists, not_and, Bool.not_eq_true', Bool.not_eq_false, Bool.and_eq_true,
    and_assoc, ne_eq]

theorem EventData.Built.admissible {event : EventData} (h : event.Built) :
    Admissible event.properties := by
  induction h with
  | create data => exact ⟨List.nodup_nil, by simp [createWithNewMemory]⟩
  | setPartitionKey _ partitionKey constructs ih => exact ih
  | mapAdd _ hadd ih =>
    obtain ⟨hnew, hkey, hvalue, -, rfl⟩ := mapAdd_eq_some_iff.mp hadd
    exact ih.concat hnew hkey hvalue
  | @mapAddOrUpdate event _ key value succeeds properties hadd ih =>
    unfold EventHubs.mapAddOrUpdate at hadd
    obtain ⟨hascii, hadd⟩ := Option.ite_none_left_eq_some.mp hadd
    obtain ⟨-, hadd⟩ := Option.ite_none_left_eq_some.mp hadd
    obtain ⟨hkey, hvalue⟩ : containsOnlyUsAscii key = true ∧ containsOnlyUsAscii value = true := by
      simpa using hascii
    by_cases hold : event.properties.any fun p ↦ p.1 = key
    · rw [if_pos hold] at hadd
      obtain rfl := Option.some.inj hadd
      exact ih.update hkey hvalue
    · rw [if_neg hold] at hadd
      obtain rfl := Option.some.inj hadd
      refine ih.concat (fun p hp heq ↦ hold ?_) hkey hvalue
      exact List.any_eq_true.mpr ⟨p, hp, decide_eq_true heq⟩

/-! ### Delivery -/

/-- Application properties as a received map. -/
def receivedProperties (properties : List (String × String)) : ReceivedMap :=
  properties.map fun p ↦ some (.string p.1, .string p.2)

/-- An annotation with a symbol key that is not the enqueued time. -/
def OtherAnnotation (pair : Option (ReceivedValue × ReceivedValue)) : Prop :=
  ∃ key value, pair = some (.symbol key, value) ∧ key ≠ keyNameEnqueuedTime

/-- What the service delivers for a message that it stored at `enqueuedTime`: body section 0, the
application properties in their order, and annotations among which are those of the message and the
enqueued time. -/
structure Delivered (sent : AMQPMessage) (enqueuedTime : Int64) (received : ReceivedMessage) :
    Prop where
  bodyData : received.bodyData = sent.bodyData.head?
  applicationProperties : received.applicationProperties =
    some ((sent.applicationProperties.map receivedProperties).map some)
  messageAnnotations : ∃ before after : ReceivedMap, received.messageAnnotations =
      some (some (some (before ++
        some (.symbol keyNameEnqueuedTime, .timestamp enqueuedTime) :: after))) ∧
    (∀ pair ∈ before ++ after, OtherAnnotation pair) ∧
    ∀ p ∈ sent.messageAnnotations.getD [], some (.symbol p.1, .string p.2) ∈ before ++ after

/-! ### Reading back -/

theorem processAnnotationPair_other (event : EventData)
    {pair : Option (ReceivedValue × ReceivedValue)}
    (h : OtherAnnotation pair) (index : Nat) :
    processAnnotationPair {} event (pair, index) = some event := by
  obtain ⟨key, value, rfl, hkey⟩ := h
  simp [processAnnotationPair, ReceivedValue.symbol?, hkey]

theorem foldlM_otherAnnotations (event : EventData) {map : ReceivedMap}
    (h : ∀ pair ∈ map, OtherAnnotation pair)
    (k : Nat) : (map.zipIdx k).foldlM (processAnnotationPair {}) event = some event := by
  induction map generalizing k with
  | nil => rfl
  | cons pair map ih =>
    rw [List.zipIdx_cons, List.foldlM_cons,
      processAnnotationPair_other event (h pair List.mem_cons_self)]
    exact ih (fun pair hpair ↦ h pair (List.mem_cons_of_mem _ hpair)) _

/-- The enqueued time is found among the other annotations. -/
theorem processMessageAnnotations_enqueued (event : EventData) {received : ReceivedMessage}
    {before after : ReceivedMap}
    {enqueuedTime : Int64} (hmap : received.messageAnnotations = some (some (some (before ++
      some (.symbol keyNameEnqueuedTime, .timestamp enqueuedTime) :: after))))
    (hother : ∀ pair ∈ before ++ after, OtherAnnotation pair) :
    processMessageAnnotations {} received event =
      some { event with enqueuedTimestampUTC := enqueuedTime.toUInt64 } := by
  have hbefore := foldlM_otherAnnotations event
    (fun pair hpair ↦ hother pair (List.mem_append_left _ hpair)) 0
  simp only [processMessageAnnotations, hmap]
  rw [List.zipIdx_append, List.foldlM_append, hbefore, Option.bind_eq_bind, Option.bind_some,
    List.zipIdx_cons, List.foldlM_cons]
  exact foldlM_otherAnnotations _ (fun pair hpair ↦ hother pair (List.mem_append_right _ hpair)) _

/-- The loop of `ProcessApplicationProperties` adds the properties at the end of those that are
there. -/
theorem foldlM_receivedProperties (event : EventData) {properties : List (String × String)}
    (h : Admissible (event.properties ++ properties)) (k : Nat) :
    ((receivedProperties properties).zipIdx k).foldlM (processPropertyPair {}) event =
      some { event with properties := event.properties ++ properties } := by
  induction properties generalizing event k with
  | nil => simp [receivedProperties]
  | cons p properties ih =>
    have hnew : ∀ q ∈ event.properties, q.1 ≠ p.1 := fun q hq ↦ by
      have hnodup := h.nodup
      rw [List.map_append, List.nodup_append] at hnodup
      exact hnodup.2.2 _ (List.mem_map_of_mem hq) _ (List.mem_map_of_mem List.mem_cons_self)
    obtain ⟨hkey, hvalue⟩ := h.ascii p (List.mem_append_right _ List.mem_cons_self)
    have hadd : mapAdd event.properties p.1 p.2 true = some (event.properties ++ [(p.1, p.2)]) :=
      mapAdd_eq_some_iff.mpr ⟨hnew, hkey, hvalue, rfl, rfl⟩
    have hpair : processPropertyPair {} event (some (.string p.1, .string p.2), k) =
        some { event with properties := event.properties ++ [p] } := by
      simp [processPropertyPair, ReceivedValue.string?, hadd]
    have hsplit : event.properties ++ p :: properties =
      (event.properties ++ [p]) ++ properties := by
      simp
    rw [receivedProperties, List.map_cons, List.zipIdx_cons, List.foldlM_cons, hpair, hsplit]
    exact ih { event with properties := event.properties ++ [p] } (hsplit ▸ h) _

/-- A time stamp that is not negative survives the cast to `uint64_t`. -/
theorem toNat_toUInt64_of_nonneg {ms : Int64} (h : 0 ≤ ms) :
    (ms.toUInt64.toNat : Int) = ms.toInt := by
  have hnonneg : 0 ≤ ms.toInt := Int64.le_iff_toInt_le.mp h
  have hlt : ms.toUInt64.toNat < 2 ^ 64 := ms.toUInt64.toNat_lt
  have hcond : ms.toInt = if 2 * ms.toUInt64.toNat < 2 ^ 64 then (ms.toUInt64.toNat : Int)
      else (ms.toUInt64.toNat : Int) - (2 ^ 64 : Nat) := BitVec.toInt_eq_toNat_cond ms.toBitVec
  split_ifs at hcond <;> omega

/-- Decoding inverts building: payload and properties are those that were sent, and the enqueued
time is that of the service. -/
theorem decodeMessage_of_delivered {event : EventData} (hevent : Admissible event.properties)
    {env : BuildEnv}
    {message : AMQPMessage} (hbuild : buildMessage env [event] = some message)
    {enqueuedTime : Int64} {received : ReceivedMessage}
    (h : Delivered message enqueuedTime received) :
    decodeMessage {} received = some
      { buffer := event.buffer
        properties := event.properties
        enqueuedTimestampUTC := enqueuedTime.toUInt64 } := by
  obtain ⟨-, hbuild⟩ := Option.ite_none_left_eq_some.mp hbuild
  obtain ⟨hbody, -, hproperties⟩ := EventHubClientLL.createSingleMessage_spec hbuild
  obtain ⟨before, after, hannotations, hother, -⟩ := h.messageAnnotations
  have hbuffer : received.bodyData = some event.buffer := by rw [h.bodyData, hbody]; rfl
  have hdecoded : processApplicationProperties {} received
        { buffer := event.buffer, enqueuedTimestampUTC := enqueuedTime.toUInt64 } =
      some { buffer := event.buffer
             properties := event.properties
             enqueuedTimestampUTC := enqueuedTime.toUInt64 } := by
    have happ := h.applicationProperties
    rw [hproperties] at happ
    by_cases hnil : event.properties = []
    · rw [if_pos hnil] at happ
      simp [processApplicationProperties, happ, hnil]
    · rw [if_neg hnil] at happ
      simp only [processApplicationProperties, happ]
      exact foldlM_receivedProperties
        { buffer := event.buffer, enqueuedTimestampUTC := enqueuedTime.toUInt64 } hevent 0
  simp [decodeMessage, hbuffer, processMessageAnnotations_enqueued _ hannotations hother, hdecoded]

/-! ### Sender and receiver -/

section Clients

variable {σ ι σ' ι' : Type} (auth : AuthModule σ ι) (auth' : AuthModule σ' ι')

/-- An event that is sent by itself and handed over reaches the user of any receiver with a
reception: when the message receiver gets the delivered message, the registered receive callback is
called once, with the payload and the properties that were sent and the time at which the service
stored them, and the message is accepted. -/
theorem run_receives_what_was_sent {c : EventHubClientLL σ} (hc : EventHubClientLL.Created c)
    {is : List (SenderInput ι)} {i : SenderInput ι} {s s' : SenderState σ}
    (hrun : (EventHubClientLL.senderMachine auth).run { client := c } is = some s)
    (hstep : (EventHubClientLL.senderMachine auth).step s i = some s')
    {e : EventHubEventList} (he : e ∈ s.client.outgoingEvents) {event : EventData}
    (hone : e.eventDataList = [event]) (hbuilt : event.Built) {message : AMQPMessage} {taken : Bool}
    (hover : SenderEvent.handedOver e.number message taken ∈ s'.log.drop s.log.length)
    {d : EventHubReceiverLL σ'} (hd : EventHubReceiverLL.Created d) {js : List (ReceiverInput ι')}
    {r : ReceiverState σ'}
    (hrun' : (EventHubReceiverLL.receiverMachine auth').run { client := d } js = some r)
    {call : ReceiverUamqpCall} (hcall : r.control = .uamqp call)
    (hreceiver : (r.client.stack .messageReceiver).isSome) {enqueuedTime : Int64}
    (htime : 0 ≤ enqueuedTime) {received : ReceivedMessage}
    (hdelivered : Delivered message enqueuedTime received) :
    ∃ callback event' r', r.client.callback.onEventReceiveCallback = some callback ∧
      (EventHubReceiverLL.receiverMachine auth').run r
        [.onMessageReceived received {}, .callbackReturn] = some r' ∧
      r'.log = r.log ++ [.received callback event', .answered true] ∧
      event'.buffer = event.buffer ∧ event'.properties = event.properties ∧
      (event'.enqueuedTimestampUTC.toNat : Int) = enqueuedTime.toInt := by
  obtain ⟨events, hlog, hfounded⟩ := (EventHubClientLL.step_continues auth hstep).log
  rw [hlog, List.drop_left] at hover
  obtain ⟨a, ha, hnumber, env, hbuild⟩ := hfounded _ hover
  have hkempt := EventHubClientLL.run_kempt auth (EventHubClientLL.created_kempt hc) hrun
  obtain rfl : a = e := hkempt.eq_of_number ha he hnumber
  rw [hone] at hbuild
  have hdecoded := decodeMessage_of_delivered hbuilt.admissible hbuild hdelivered
  have hinv := EventHubReceiverLL.run_registrationInv auth' hd hrun'
  obtain ⟨callback, hcallback⟩ := Option.ne_none_iff_exists'.mp
    (hinv.receive_ne_none (by rw [hcall]; rfl))
  obtain ⟨u, hu, hlog', hcontrol⟩ : ∃ u,
      EventHubReceiverLL.step auth' r (.onMessageReceived received {}) = some u ∧
      u.log = r.log ++ [.received callback
        { buffer := event.buffer
          properties := event.properties
          enqueuedTimestampUTC := enqueuedTime.toUInt64 }] ∧ u.control = .receiveCb call := by
    simp only [EventHubReceiverLL.step, hcall, if_pos hreceiver,
      EventHubReceiverLL.onMessageReceived, hdecoded, hcallback]
    exact ⟨_, rfl, rfl, rfl⟩
  have hreturn : EventHubReceiverLL.step auth' u .callbackReturn =
      some { u.emit [.answered true] with control := .uamqp call } := by
    simp only [EventHubReceiverLL.step, hcontrol]
  refine ⟨callback,
    { buffer := event.buffer
      properties := event.properties
      enqueuedTimestampUTC := enqueuedTime.toUInt64 },
    { u.emit [.answered true] with control := .uamqp call }, hcallback, ?_, ?_, rfl, rfl,
    toNat_toUInt64_of_nonneg htime⟩
  · rw [Machine.run_cons]
    refine Option.bind_eq_some_iff.mpr ⟨u, hu, ?_⟩
    rw [Machine.run_cons]
    exact Option.bind_eq_some_iff.mpr ⟨_, hreturn, rfl⟩
  · simp [ReceiverState.emit, hlog']

end Clients

/-- An event with a key and a property. -/
def keyedEvent : EventData :=
  { buffer := [7], partitionKey := some "K", properties := [("color", "red")] }

theorem keyedEvent_built : keyedEvent.Built := by
  have hadd : mapAdd [] "color" "red" true = some [("color", "red")] := by decide
  exact .setPartitionKey (.mapAdd (.create [7]) hadd) "K" true

/-- The delivery of `keyedEvent` at time 5. -/
def keyedDelivery : ReceivedMessage :=
  { bodyData := some [7]
    messageAnnotations := some (some (some [some (.symbol partitionKeyName, .string "K"),
      some (.symbol keyNameEnqueuedTime, .timestamp 5)]))
    applicationProperties := some (some (some [some (.string "color", .string "red")])) }

/-- An event with a key and a property that is sent and received. -/
theorem run_receives_what_was_sent_keyed :
    ∃ s s' r, (EventHubClientLL.senderMachine (EventHubAuthCBS.authModule fun _ ↦ none)).run
        { client :=
            EventHubClientLL.createdFromConnectionString "name" "key" "host" "hub" "target" }
        (EventHubClientLL.opened [keyedEvent]) = some s ∧
      (EventHubClientLL.senderMachine (EventHubAuthCBS.authModule fun _ ↦ none)).step s
        (.iterate {} 20 true) = some s' ∧
      (EventHubReceiverLL.receiverMachine (EventHubAuthCBS.authModule fun _ ↦ none)).run
        { client :=
            EventHubReceiverLL.createdFromConnectionString "host" "hub" "name" "key" "group" "0" }
        (EventHubReceiverLL.receiving ++ [.doWork (EventHubReceiverLL.workAt 4)]) = some r ∧
      ∃ callback event' r', r.client.callback.onEventReceiveCallback = some callback ∧
        (EventHubReceiverLL.receiverMachine (EventHubAuthCBS.authModule fun _ ↦ none)).run r
          [.onMessageReceived keyedDelivery {}, .callbackReturn] = some r' ∧
        r'.log = r.log ++ [.received callback event', .answered true] ∧
        event'.buffer = [7] ∧ event'.properties = [("color", "red")] ∧
        (event'.enqueuedTimestampUTC.toNat : Int) = Int64.toInt 5 := by
  have hdelivered : Delivered
      { bodyData := [[7]]
        messageAnnotations := some [(partitionKeyName, "K")]
        applicationProperties := some [("color", "red")] } 5 keyedDelivery := by
    refine ⟨rfl, rfl, [some (.symbol partitionKeyName, .string "K")], [], rfl, ?_, by decide⟩
    intro pair hpair
    obtain rfl := List.mem_singleton.mp hpair
    exact ⟨partitionKeyName, .string "K", rfl, by decide⟩
  refine ⟨_, _, _, rfl, rfl, rfl, ?_⟩
  exact @run_receives_what_was_sent _ _ _ _ (EventHubAuthCBS.authModule fun _ ↦ none)
    (EventHubAuthCBS.authModule fun _ ↦ none) _
    (.fromConnectionString "name" "key" "host" "hub" "target")
    (EventHubClientLL.opened [keyedEvent]) (.iterate {} 20 true) _ _ rfl rfl _
    (List.mem_singleton_self _) keyedEvent rfl keyedEvent_built _ true (by decide) _
    (.fromConnectionString "host" "hub" "name" "key" "group" "0")
    (EventHubReceiverLL.receiving ++ [.doWork (EventHubReceiverLL.workAt 4)]) _ rfl _ rfl rfl 5
    (by decide) keyedDelivery hdelivered

end EventHubs
