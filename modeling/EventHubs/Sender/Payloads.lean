import EventHubs.Sender.Framing

/-!
# The lengths of the payloads that are handed over

`EventData_GetData` reports the length of a payload as a `size_t`. The single-event path of
`EventHubClient_LL_DoWork` gives this length to uAMQP; `create_batch_message` casts it to 32 bits
first, and no test notices what the cast loses.

## Main definitions

* `lengthsGiven` — the lengths that uAMQP is given while a message is built.
* `Whole` — a message that has the payloads of its events.
* `EventHubClientLL.KeepsPayloads` — what a round of the loop has to do with an entry.

## Main results

* `lengthsGiven_eq` — the lengths that uAMQP was given for a message that was built.
* `EventHubClientLL.run_keepsPayloads_iff`.
* `EventHubClientLL.run_truncates` — a batch that loses a payload of 2^32 bytes.
-/

namespace EventHubs

/-- The length of a payload after the cast in `create_batch_message`. -/
def castLength (event : EventData) : Nat := (UInt32.ofNat event.buffer.length).toNat

/-- The length that a round of the loop of `create_batch_message` gives to
`amqpvalue_create_data`, if it comes to this call. -/
def createDataLength (env : BuildEnv) (index : Nat) (event : EventData) : Option Nat :=
  if !env.succeeds (.eventDataGetData index) then none
  else (createPropertiesMap env index event).map fun _ => castLength event

/-- The lengths that the loop of `create_batch_message` gives to `amqpvalue_create_data`, from the
event at `index` on; a round that fails is the last one. -/
def batchLengths (env : BuildEnv) : Nat → List EventData → List Nat
  | _, [] => []
  | index, event :: rest =>
    (createDataLength env index event).toList ++
      if (batchSection env index event).isSome then batchLengths env (index + 1) rest else []

/-- The lengths that uAMQP is given for the payloads of an entry: in the `BINARY_DATA` of
`message_add_body_amqp_data` for one event, in `amqpvalue_create_data` for a batch. -/
def lengthsGiven (env : BuildEnv) (eventDataList : List EventData) : List Nat :=
  if !env.succeeds .messageCreate then []
  else
    match eventDataList with
    | [event] => if !env.succeeds (.eventDataGetData 0) then [] else [event.buffer.length]
    | _ => if !env.succeeds .messageSetMessageFormat then [] else batchLengths env 0 eventDataList

/-- The data sections of a message that has the payloads of its events. -/
def wholeBody (env : BuildEnv) : List EventData → List (List UInt8)
  | [event] => [event.buffer]
  | eventDataList => eventDataList.map (framed env)

/-- uAMQP is given the length of every payload as `EventData_GetData` has reported it, and the
message has the payloads. -/
structure Whole (env : BuildEnv) (eventDataList : List EventData) (message : AMQPMessage) : Prop
    where
  lengths : lengthsGiven env eventDataList = eventDataList.map (·.buffer.length)
  body : message.bodyData = wholeBody env eventDataList

variable {env : BuildEnv} {index : Nat} {event : EventData} {events : List EventData}

theorem castLength_eq_iff : castLength event = event.buffer.length ↔
    event.buffer.length < 2 ^ 32 := by
  rw [castLength, UInt32.toNat_ofNat']
  exact Nat.mod_eq_iff_lt (by decide)

/-- A data section is made only with the length of its payload, cast to 32 bits. -/
theorem createDataLength_of_section {bytes : List UInt8}
    (h : batchSection env index event = some bytes) :
    createDataLength env index event = some (castLength event) := by
  unfold batchSection at h
  obtain ⟨hget, h⟩ := Option.ite_none_left_eq_some.mp h
  rw [createDataLength, if_neg hget]
  cases hmap : createPropertiesMap env index event with
  | none => simp [hmap] at h
  | some properties => rfl

theorem batchLengths_of_sections {sections : List (List UInt8)}
    (h : batchSections env index events = some sections) :
    batchLengths env index events = events.map castLength := by
  induction events generalizing index sections with
  | nil => rfl
  | cons event rest ih =>
    unfold batchSections at h
    cases hsection : batchSection env index event with
    | none => simp [hsection] at h
    | some bytes =>
      simp only [hsection] at h
      obtain ⟨rest', hrest, -⟩ := Option.map_eq_some_iff.mp h
      rw [batchLengths, createDataLength_of_section hsection, hsection, ih hrest]
      rfl

/-- The lengths that uAMQP was given for a message that was built. -/
theorem lengthsGiven_eq {message : AMQPMessage} (h : buildMessage env events = some message) :
    lengthsGiven env events = events.map fun event =>
      if events.length = 1 then event.buffer.length else castLength event := by
  unfold buildMessage at h
  obtain ⟨hcreate, h⟩ := Option.ite_none_left_eq_some.mp h
  have hbatch : ∀ events, createBatchMessage env {} events = some message →
      (if !env.succeeds .messageSetMessageFormat then [] else batchLengths env 0 events) =
        events.map castLength := by
    intro events h
    obtain ⟨hformat, h⟩ := Option.ite_none_left_eq_some.mp h
    obtain ⟨sections, hsections, -⟩ := Option.map_eq_some_iff.mp h
    rw [if_neg hformat, batchLengths_of_sections hsections]
  unfold lengthsGiven
  rw [if_neg hcreate]
  rcases events with _ | ⟨event, _ | ⟨next, rest⟩⟩
  · exact hbatch [] h
  · obtain ⟨hget, -⟩ : ¬(!env.succeeds (.eventDataGetData 0)) = true ∧ _ :=
      Option.ite_none_left_eq_some.mp h
    dsimp only
    rw [if_neg hget]
    rfl
  · have hlong : (event :: next :: rest).length ≠ 1 := by simp
    simp only [if_neg hlong]
    exact hbatch (event :: next :: rest) h

/-- A message that was built from one event, or from payloads that are short enough, is whole. -/
theorem whole_of_short {message : AMQPMessage} (h : buildMessage env events = some message)
    (hshort : events.length = 1 ∨ ∀ event ∈ events, event.buffer.length < 2 ^ 32) :
    Whole env events message := by
  have hgiven := lengthsGiven_eq h
  obtain ⟨-, hbuild⟩ := Option.ite_none_left_eq_some.mp h
  have hbatch : events.length ≠ 1 → ∀ event ∈ events, event.buffer.length < 2 ^ 32 :=
    hshort.resolve_left
  refine ⟨?_, ?_⟩
  · rw [hgiven]
    refine List.map_congr_left fun event hevent => ?_
    split_ifs with hone
    · rfl
    · exact castLength_eq_iff.mpr (hbatch hone event hevent)
  · rcases events with _ | ⟨event, _ | ⟨next, rest⟩⟩
    · rw [((createBatchMessage_eq_some_iff env (hbatch (by simp)) {}).mp hbuild).2]
      rfl
    · exact (EventHubClientLL.createSingleMessage_spec hbuild).1
    · rw [((createBatchMessage_eq_some_iff env (hbatch (by simp)) {}).mp hbuild).2]
      rfl

/-! ### A message can be built from any payloads -/

theorem batchSection_isSome (hall : ∀ call, env.succeeds call = true) (index : Nat)
    (event : EventData) : ∃ bytes, batchSection env index event = some bytes := by
  obtain ⟨map, hmap⟩ : ∃ map, createPropertiesMap env index event = some map := by
    refine ⟨_, createPropertiesMap_eq_some_iff.mpr ⟨⟨hall _, hall _, fun _ => ⟨hall _, ?_⟩⟩, rfl⟩⟩
    exact fun _ _ call _ => hall call
  rw [← Option.isSome_iff_exists]
  cases map <;> simp [batchSection, hall, hmap, batchProperties]

theorem batchSections_isSome (hall : ∀ call, env.succeeds call = true) (index : Nat)
    (events : List EventData) : ∃ sections, batchSections env index events = some sections := by
  induction events generalizing index with
  | nil => exact ⟨[], rfl⟩
  | cons event rest ih =>
    obtain ⟨bytes, hbytes⟩ := batchSection_isSome hall index event
    obtain ⟨sections, hsections⟩ := ih (index + 1)
    exact ⟨bytes :: sections, by simp [batchSections, hbytes, hsections]⟩

/-- When no call fails, a batch is built whatever the lengths of its payloads are. -/
theorem buildMessage_batch (hall : ∀ call, env.succeeds call = true) (hlong : events.length ≠ 1) :
    ∃ message, buildMessage env events = some message := by
  obtain ⟨sections, hsections⟩ := batchSections_isSome hall 0 events
  have hbatch : ∃ message, createBatchMessage env {} events = some message := by
    refine ⟨{ messageFormat := some 0x80013700, bodyData := sections }, ?_⟩
    simp [createBatchMessage, hall, hsections]
  unfold buildMessage
  rw [if_neg (by simp [hall])]
  rcases events with _ | ⟨event, _ | ⟨next, rest⟩⟩
  · exact hbatch
  · exact absurd rfl hlong
  · exact hbatch

namespace EventHubClientLL

variable {σ ι : Type} (auth : AuthModule σ ι)

open SenderState

/-- What a round of the loop of `EventHubClient_LL_DoWork` has to do with an entry that waits to be
sent: it hands over a message that has the payloads, or calls the callback with
`EVENTHUBCLIENT_CONFIRMATION_ERROR`. An entry that is older than the message timeout is not handed
over either. -/
structure KeepsPayloads (s : SenderState σ) (e : EventHubEventList) (env : BuildEnv)
    (currentTime : UInt64) (t : SenderState σ) : Prop where
  handedOver : ∀ message taken,
    SenderEvent.handedOver e.number message taken ∈ t.log.drop s.log.length →
      Whole env e.eventDataList message
  failed : (∀ message taken,
      SenderEvent.handedOver e.number message taken ∉ t.log.drop s.log.length) →
    t = s.confirm e [.unbuildable e.number] .error (.loop (s.flink e.number)) ∨
      hasTimeout s.client e currentTime = true ∧
        t = expire { s with lastTick := currentTime } e currentTime

section Round

variable {s : SenderState σ} {e : EventHubEventList} {env : BuildEnv} {message : AMQPMessage}
  {currentTime : UInt64} {taken : Bool}

theorem confirm_hands_nothing (s : SenderState σ) (e : EventHubEventList) (cause : List SenderEvent)
    (r : EventHubClientConfirmationResult) (after : AfterConfirm)
    (hcause : ∀ n message taken, SenderEvent.handedOver n message taken ∉ cause)
    {n : Nat} {message : AMQPMessage} {taken : Bool} :
    SenderEvent.handedOver n message taken ∉
      (s.confirm e cause r after).log.drop s.log.length := by
  unfold SenderState.confirm
  cases e.callback <;> simp [hcause]

theorem expire_hands_nothing {n : Nat} {built : AMQPMessage} :
    SenderEvent.handedOver n built taken ∉
      (expire { s with lastTick := currentTime } e currentTime).log.drop s.log.length := by
  unfold expire
  cases e.callback with
  | none => simp
  | some callback =>
    exact confirm_hands_nothing (({ s with lastTick := currentTime } : SenderState σ).waitForAck
      e.number) e _ _ _ (by simp)

/-- What is shown of the hand-over of a message. -/
theorem mem_handOver {n : Nat} {built : AMQPMessage} {taken' : Bool} :
    SenderEvent.handedOver n built taken' ∈
        (handOver { s with lastTick := currentTime } e message taken).log.drop s.log.length ↔
      n = e.number ∧ built = message ∧ taken' = taken := by
  simp [handOver, SenderState.waitForAck, SenderState.pass, SenderState.emit]

/-- A round keeps the payloads of an entry when its message, if it is built, has them. -/
theorem iterate_keepsPayloads (he : s.entry? e.number = some e)
    (hwaits : e.currentStatus = .waitingToBeSent)
    (hwhole : ∀ message, buildMessage env e.eventDataList = some message →
      Whole env e.eventDataList message) :
    KeepsPayloads s e env currentTime (iterate s (some e.number) env currentTime taken) := by
  cases hbuild : buildMessage env e.eventDataList with
  | none =>
    rw [iterate_unbuildable env currentTime taken he hwaits hbuild]
    exact ⟨fun _ _ hover => absurd hover (confirm_hands_nothing _ _ _ _ _ (by simp)),
      fun _ => .inl rfl⟩
  | some message =>
    rw [iterate_built env currentTime taken he hwaits hbuild]
    split_ifs with htimeout
    · exact ⟨fun _ _ hover => absurd hover expire_hands_nothing, fun _ => .inr ⟨htimeout, rfl⟩⟩
    · refine ⟨fun built _ hover => ?_, fun hnone => ?_⟩
      · obtain ⟨-, rfl, -⟩ := mem_handOver.mp hover
        exact hwhole _ hbuild
      · exact absurd (mem_handOver.mpr ⟨rfl, rfl, rfl⟩) (hnone message taken)

/-- When no call fails, a batch with a payload of 2^32 bytes or more is handed over without some of
them. -/
theorem iterate_truncates (hall : ∀ call, env.succeeds call = true)
    (he : s.entry? e.number = some e) (hwaits : e.currentStatus = .waitingToBeSent)
    (hfresh : hasTimeout s.client e currentTime = false) (hbatch : e.eventDataList.length ≠ 1)
    {event : EventData} (hevent : event ∈ e.eventDataList) (hlong : 2 ^ 32 ≤ event.buffer.length) :
    ¬ KeepsPayloads s e env currentTime
      (iterate s (some e.number) env currentTime taken) := by
  obtain ⟨message, hbuild⟩ := buildMessage_batch hall hbatch
  rw [iterate_built env currentTime taken he hwaits hbuild, if_neg (by simp [hfresh])]
  intro hkeeps
  have hlengths := (hkeeps.handedOver message taken (mem_handOver.mpr ⟨rfl, rfl, rfl⟩)).lengths
  rw [lengthsGiven_eq hbuild, List.map_inj_left] at hlengths
  have hcast := hlengths event hevent
  rw [if_neg hbatch] at hcast
  exact absurd (castLength_eq_iff.mp hcast) (Nat.not_lt.mpr hlong)

end Round

/-- In every run the loop of `EventHubClient_LL_DoWork` stands at an entry that was accepted, and it
keeps the payloads of the entry, whatever the calls to uAMQP do, exactly when the entry has one
event or all its payloads are shorter than 2^32 bytes. -/
theorem run_keepsPayloads_iff {c : EventHubClientLL σ} (hc : Created c) {is : List (SenderInput ι)}
    {s : SenderState σ} (hrun : (senderMachine auth).run { client := c } is = some s) {n : Nat}
    (hloop : s.control = .loop (some n)) :
    ∃ e ∈ s.client.outgoingEvents, e.number = n ∧
      SenderEvent.accepted n e.callback e.idleTimer ∈ s.log ∧
      (e.currentStatus = .waitingToBeSent →
        ((∀ env currentTime taken t,
            (senderMachine auth).step s (.iterate env currentTime taken) = some t →
            KeepsPayloads s e env currentTime t) ↔
          e.eventCount = 1 ∨ ∀ event ∈ e.eventDataList, event.buffer.length < 2 ^ 32)) := by
  have hkempt := run_kempt auth (created_kempt hc) hrun
  have hpass : s.outbox.pass = some (some n) := by simp only [SenderState.outbox, hloop]; rfl
  obtain ⟨v, hv, hnumber, -⟩ := hkempt.inv.walking.ahead n hpass
  obtain ⟨e, hentry⟩ := entry?_of_outbox ⟨v, hv, hnumber⟩
  have hmem : e ∈ s.client.outgoingEvents := List.mem_of_find?_eq_some hentry
  obtain rfl : e.number = n := by simpa using List.find?_some hentry
  refine ⟨e, hmem, rfl, hkempt.entries e hmem, fun hwaits => ?_⟩
  have hstep : ∀ env currentTime taken,
      (senderMachine auth).step s (.iterate env currentTime taken) =
        some (iterate s (some e.number) env currentTime taken) := by
    intro env currentTime taken
    simp only [senderMachine, step, hloop]
  constructor
  · intro hkeeps
    rw [or_iff_not_imp_left]
    intro hlong event hevent
    -- the entry is not older than the message timeout when no time has passed
    have hfresh : hasTimeout s.client e e.idleTimer = false := by simp [hasTimeout]
    by_contra hevent'
    exact iterate_truncates (fun _ => rfl) hentry hwaits hfresh hlong hevent
      (Nat.not_lt.mp hevent') (hkeeps {} e.idleTimer true _ (hstep _ _ _))
  · intro hshort env currentTime taken t ht
    obtain rfl := Option.some.inj ((hstep env currentTime taken).symm.trans ht)
    exact iterate_keepsPayloads hentry hwaits fun message hbuild => whole_of_short hbuild hshort

/-- A sender, up to the loop, after a batch with this payload and an empty one was sent. -/
def openedBatch (payload : List UInt8) : List (SenderInput AuthEnv) :=
  .sendBatchAsync (some [some { buffer := payload }, some {}]) (some 1) none {} ::
    (opened []).tail

/-- A batch with a payload of three bytes. -/
theorem run_keepsPayloads_iff_three :
    ∃ s, (senderMachine (EventHubAuthCBS.authModule fun _ => none)).run
        { client := createdFromConnectionString "name" "key" "host" "hub" "target" }
        (openedBatch [1, 2, 3]) = some s ∧
      ∃ e ∈ s.client.outgoingEvents, e.eventCount = 2 ∧ ∀ env currentTime taken t,
        (senderMachine (EventHubAuthCBS.authModule fun _ => none)).step s
          (.iterate env currentTime taken) = some t → KeepsPayloads s e env currentTime t := by
  refine ⟨_, rfl, ?_⟩
  obtain ⟨e, he, -, -, hiff⟩ :=
    @run_keepsPayloads_iff _ _ (EventHubAuthCBS.authModule fun _ => none) _
      (.fromConnectionString "name" "key" "host" "hub" "target") (openedBatch [1, 2, 3]) _ rfl 0 rfl
  refine ⟨e, he, ?_⟩
  obtain rfl := List.mem_singleton.mp he
  exact ⟨rfl, (hiff rfl).mpr (.inr (by decide))⟩

/-- A payload of 2^32 bytes. -/
def longPayload : List UInt8 := List.replicate (2 ^ 32) 0

theorem longPayload_length : longPayload.length = 2 ^ 32 := List.length_replicate

/-- A batch with a payload of 2^32 bytes and an empty one: uAMQP is given two empty payloads, and
the entry is confirmed with `EVENTHUBCLIENT_CONFIRMATION_OK`. -/
theorem run_truncates :
    ∃ s e t u, (senderMachine (EventHubAuthCBS.authModule fun _ => none)).run
        { client := createdFromConnectionString "name" "key" "host" "hub" "target" }
        (openedBatch longPayload) = some s ∧
      s.control = .loop (some 0) ∧ s.entry? 0 = some e ∧
      e.currentStatus = .waitingToBeSent ∧
      e.eventDataList.map (·.buffer.length) = [2 ^ 32, 0] ∧
      (senderMachine (EventHubAuthCBS.authModule fun _ => none)).step s
        (.iterate {} 20 true) = some t ∧
      lengthsGiven {} e.eventDataList = [0, 0] ∧ ¬ KeepsPayloads s e {} 20 t ∧
      (senderMachine (EventHubAuthCBS.authModule fun _ => none)).step t
        (.onMessageSendComplete 0 .ok) = some u ∧
      u.log = t.log ++ [.completed 0 .ok, .confirmed 0 ⟨1, none⟩ .ok] := by
  have hcast : castLength { buffer := longPayload } = 0 := by
    rw [castLength, longPayload_length]
    rfl
  refine ⟨_, _, _, _, rfl, rfl, rfl, rfl, ?_, rfl, ?_, ?_, rfl, rfl⟩
  · exact congrArg (fun length => [length, 0]) longPayload_length
  · exact congrArg (fun length => [length, 0]) hcast
  · exact iterate_truncates (fun _ => rfl) rfl rfl rfl (by decide) List.mem_cons_self
      (Nat.le_of_eq longPayload_length.symm)

end EventHubClientLL

end EventHubs
