import EventHubs.Sender.Payloads

/-!
# What a message says

A reader that knows the encoding of AMQP values gets back from a uAMQP message what the user sent:
from the message of a single event its payload and its application properties, from a batch those of
each event, in order. All that the reader has to rely on is that an encoded value says where it
ends.

## Main definitions

* `Delimits`, `Decodes` — what is relied on.
* `readSection`, `readMessage` — the reader.
* `SenderInput.events` — the events that a send call is given.

## Main results

* `readMessage_of_buildMessage` — the reader inverts `buildMessage`.
* `EventHubClientLL.step_handsOver` — where a hand-over comes from.
* `EventHubClientLL.run_reads_back`.
-/

namespace EventHubs

/-- What a reader learns of an event: its application properties and its payload. -/
abbrev EventContent := List (String × String) × List UInt8

/-- The content of an event. -/
def EventData.content (event : EventData) : EventContent := (event.properties, event.buffer)

/-- A decoder of AMQP values: the value at the front, and what follows. -/
abbrev AMQPDecoder := List UInt8 → Option (AMQPValue × List UInt8)

/-- `decode` finds `value` at the front of all that begins with `code`. -/
def Delimits (decode : AMQPDecoder) (code : List UInt8) (value : AMQPValue) : Prop :=
  ∀ rest, decode (code ++ rest) = some (value, rest)

/-- `decode` inverts the encoding of what the events carry. -/
structure Decodes (decode : AMQPDecoder) (encode : AMQPValue → List UInt8)
    (events : List EventData) : Prop where
  data : ∀ event ∈ events, Delimits decode (encode (.data event.buffer)) (.data event.buffer)
  applicationProperties : ∀ event ∈ events,
    Delimits decode (encode (.applicationProperties event.properties))
      (.applicationProperties event.properties)

/-- Read a data section of a batch: the application properties if they come first, then the
payload, then nothing. -/
def readSection (decode : AMQPDecoder) (bytes : List UInt8) : Option EventContent :=
  match decode bytes with
  | some (.data payload, []) => some ([], payload)
  | some (.applicationProperties properties, rest) =>
    match decode rest with
    | some (.data payload, []) => some (properties, payload)
    | _ => none
  | _ => none

/-- Read a message: by its format it is a batch with one section for each event, or a single
event. -/
def readMessage (decode : AMQPDecoder) (message : AMQPMessage) : Option (List EventContent) :=
  if message.messageFormat = some 0x80013700 then message.bodyData.mapM (readSection decode)
  else
    match message.bodyData with
    | [payload] => some [(message.applicationProperties.getD [], payload)]
    | _ => none

section Read

variable {decode : AMQPDecoder} {env : BuildEnv} {event : EventData} {events : List EventData}
  {message built : AMQPMessage}

theorem readSection_framed
    (hdata : Delimits decode (env.encode (.data event.buffer)) (.data event.buffer))
    (hproperties : Delimits decode (env.encode (.applicationProperties event.properties))
      (.applicationProperties event.properties)) :
    readSection decode (framed env event) = some event.content := by
  have hlast : decode (env.encode (.data event.buffer)) = some (.data event.buffer, []) := by
    simpa using hdata []
  unfold framed EventData.content
  by_cases hnone : event.properties = []
  · rw [if_pos hnone, hnone, List.nil_append]
    simp only [readSection, hlast]
  · rw [if_neg hnone]
    simp only [readSection, hproperties _, hlast]

theorem mapM_readSection_framed (h : Decodes decode env.encode events) :
    (events.map (framed env)).mapM (readSection decode) =
      some (events.map EventData.content) := by
  induction events with
  | nil => rfl
  | cons event events ih =>
    have hfirst := readSection_framed (h.data event List.mem_cons_self)
      (h.applicationProperties event List.mem_cons_self)
    have hrest := ih ⟨fun e he => h.data e (List.mem_cons_of_mem _ he),
      fun e he => h.applicationProperties e (List.mem_cons_of_mem _ he)⟩
    simp [List.mapM_cons, hfirst, hrest]

theorem addPartitionKeyToMessage_format
    (h : addPartitionKeyToMessage env message event = some built) :
    built.messageFormat = message.messageFormat := by
  unfold addPartitionKeyToMessage at h
  cases hkey : event.partitionKey with
  | none =>
    rw [hkey] at h
    exact Option.some.inj h ▸ rfl
  | some key =>
    rw [hkey] at h
    obtain ⟨-, ⟨⟩⟩ := Option.ite_none_right_eq_some.mp h
    rfl

/-- The message of a single event keeps the format of an ordinary message. -/
theorem createSingleMessage_format (h : createSingleMessage env message event = some built) :
    built.messageFormat = message.messageFormat := by
  unfold createSingleMessage at h
  obtain ⟨-, h⟩ := Option.ite_none_left_eq_some.mp h
  obtain ⟨-, h⟩ := Option.ite_none_left_eq_some.mp h
  dsimp only at h
  cases hadd : addPartitionKeyToMessage env
      { message with bodyData := message.bodyData ++ [event.buffer] } event with
  | none => simp [hadd] at h
  | some keyed =>
    have hkeyed := addPartitionKeyToMessage_format hadd
    rw [hadd] at h
    dsimp only at h
    generalize createPropertiesMap env 0 event = map at h
    rcases map with _ | _ | properties
    · cases h
    · exact Option.some.inj h ▸ hkeyed
    · obtain ⟨-, ⟨⟩⟩ := Option.ite_none_right_eq_some.mp h
      exact hkeyed

theorem readMessage_of_createBatchMessage (hlen : ∀ e ∈ events, e.buffer.length < 2 ^ 32)
    (hdecodes : Decodes decode env.encode events)
    (h : createBatchMessage env {} events = some built) :
    readMessage decode built = some (events.map EventData.content) := by
  obtain ⟨-, rfl⟩ := (createBatchMessage_eq_some_iff env hlen {}).mp h
  rw [readMessage, if_pos rfl]
  exact mapM_readSection_framed hdecodes

/-- What is read from the message of an entry is what its events carry. -/
theorem readMessage_of_buildMessage
    (hlen : events.length = 1 ∨ ∀ e ∈ events, e.buffer.length < 2 ^ 32)
    (hdecodes : Decodes decode env.encode events) (h : buildMessage env events = some built) :
    readMessage decode built = some (events.map EventData.content) := by
  obtain ⟨-, h⟩ := Option.ite_none_left_eq_some.mp h
  rcases events with _ | ⟨event, _ | ⟨next, rest⟩⟩
  · exact readMessage_of_createBatchMessage (by simp) hdecodes h
  · obtain ⟨hbody, -, hproperties⟩ := EventHubClientLL.createSingleMessage_spec h
    have hformat : built.messageFormat ≠ some 0x80013700 := by
      rw [createSingleMessage_format h]
      simp
    rw [readMessage, if_neg hformat, hbody, hproperties]
    by_cases hnone : event.properties = []
    · simp [hnone, EventData.content]
    · simp [hnone, EventData.content]
  · exact readMessage_of_createBatchMessage (hlen.resolve_left (by simp)) hdecodes h

end Read

/-- The events that a send call is given. -/
def SenderInput.events {ι : Type} : SenderInput ι → Option (List EventData)
  | .sendAsync event _ _ _ => event.map ([·])
  | .sendBatchAsync list _ _ _ => list.map List.reduceOption
  | _ => none

theorem reduceOption_of_validateEventDataList {list : List (Option EventData)}
    {events : List EventData} (h : EventHubClientLL.validateEventDataList list = some events) :
    events = list.reduceOption := by
  cases list with
  | nil => exact (Option.some.inj h).symm
  | cons first rest =>
    cases first with
    | none => cases h
    | some first =>
      obtain ⟨-, heq⟩ := Option.ite_none_right_eq_some.mp h
      exact (Option.some.inj heq).symm.trans (List.reduceOption_cons_of_some ..).symm

namespace EventHubClientLL

variable {σ ι : Type} (auth : AuthModule σ ι)

open SenderState

/-! ### Where a hand-over comes from -/

/-- No message is handed over on the way. -/
def HandsNothing (s t : SenderState σ) : Prop :=
  ∀ n message taken, SenderEvent.handedOver n message taken ∈ t.log →
    SenderEvent.handedOver n message taken ∈ s.log

section HandsNothing

variable {s t : SenderState σ}

theorem HandsNothing.of_append (events : List SenderEvent) (hlog : t.log = s.log ++ events)
    (h : ∀ n message taken, SenderEvent.handedOver n message taken ∉ events) :
    HandsNothing s t := by
  intro n message taken hover
  rw [hlog] at hover
  exact (List.mem_append.mp hover).resolve_right (h n message taken)

theorem HandsNothing.of_sameQueue (h : SameQueue s t) : HandsNothing s t := by
  obtain ⟨events, hlog, hquiet⟩ := h.log
  refine .of_append events hlog fun n message taken hover => ?_
  simpa [eventView] using List.flatMap_eq_nil_iff.mp hquiet _ hover

theorem HandsNothing.of_confirm {u : SenderState σ} {e : EventHubEventList}
    {cause : List SenderEvent} {r : EventHubClientConfirmationResult} {after : AfterConfirm}
    (hlog : u.log = s.log)
    (hcause : ∀ n message taken, SenderEvent.handedOver n message taken ∉ cause) :
    HandsNothing s (u.confirm e cause r after) := by
  unfold SenderState.confirm
  cases e.callback with
  | none => exact .of_append [] (by simpa using hlog) (by simp)
  | some callback =>
    refine .of_append (cause ++ [.confirmed e.number callback r]) (by simp [hlog]) ?_
    simp [hcause]

theorem iterate_handsOver {c : Option Nat} {env : BuildEnv} {currentTime : UInt64} {taken : Bool}
    {n : Nat} {message : AMQPMessage} {taken' : Bool}
    (h : SenderEvent.handedOver n message taken' ∈ (iterate s c env currentTime taken).log) :
    SenderEvent.handedOver n message taken' ∈ s.log ∨
      ∃ e ∈ s.client.outgoingEvents, e.number = n ∧
        buildMessage env e.eventDataList = some message := by
  cases c with
  | none =>
    refine Or.inl (HandsNothing.of_append (t := connectionDowork s) [_] rfl ?_ _ _ _ h)
    simp
  | some m =>
    cases hentry : s.entry? m with
    | none =>
      rw [iterate_gone env currentTime taken hentry] at h
      exact Or.inl h
    | some e =>
      obtain ⟨he, rfl⟩ := entry?_spec hentry
      cases hstatus : e.currentStatus with
      | waitingForAck =>
        rw [iterate_acked env currentTime taken hentry hstatus] at h
        exact Or.inl h
      | waitingToBeSent =>
        cases hbuild : buildMessage env e.eventDataList with
        | none =>
          rw [iterate_unbuildable env currentTime taken hentry hstatus hbuild] at h
          exact Or.inl (HandsNothing.of_confirm rfl (by simp) _ _ _ h)
        | some built =>
          rw [iterate_built env currentTime taken hentry hstatus hbuild] at h
          by_cases htimeout : hasTimeout s.client e currentTime = true
          · rw [if_pos htimeout] at h
            unfold expire at h
            cases hcb : e.callback with
            | none =>
              rw [hcb] at h
              exact Or.inl h
            | some callback =>
              rw [hcb] at h
              dsimp only at h
              exact Or.inl (HandsNothing.of_confirm (s := s)
                (u := SenderState.waitForAck { s with lastTick := currentTime } e.number) rfl
                (by simp) _ _ _ h)
          · rw [if_neg htimeout] at h
            simp only [handOver, SenderState.pass, SenderState.emit, SenderState.waitForAck,
              List.mem_append, List.mem_singleton, reduceCtorEq, or_false,
              SenderEvent.handedOver.injEq] at h
            rcases h with h | ⟨rfl, rfl, -⟩
            · exact Or.inl h
            · exact Or.inr ⟨e, he, rfl, hbuild⟩

theorem onMessageSendComplete_handsNothing (s : SenderState σ) (n : Nat) (r : MessageSendResult)
    (call : UamqpCall) : HandsNothing s (onMessageSendComplete s n r call) := by
  unfold onMessageSendComplete
  cases s.entry? n with
  | none => exact fun _ _ _ h => h
  | some e =>
    dsimp only
    cases hcb : e.callback with
    | none => exact .of_append [.completed n r, .removed n] (List.append_assoc ..) (by simp)
    | some callback => exact .of_confirm (s := s) rfl (by simp)

theorem uamqpReturn_handsNothing (s : SenderState σ) (ok : Bool) (call : UamqpCall) :
    HandsNothing s (uamqpReturn s ok call) := by
  cases call with
  | messagesenderOpen => cases ok <;> exact fun _ _ _ h => h
  | connectionDowork => exact fun _ _ _ h => h
  | messagesenderDestroy after =>
    exact .of_sameQueue ((finishDestroyUamqpStack_sameQueue s).trans
      (afterDestroyUamqpStack_sameQueue _ after))
  | messagesenderSendAsync n next taken =>
    cases taken with
    | true => exact fun _ _ _ h => h
    | false =>
      simp only [uamqpReturn, Bool.false_eq_true, if_false]
      cases s.entry? n with
      | none => exact fun _ _ _ h => h
      | some e => exact .of_confirm rfl (by simp)

theorem drain_handsNothing (s : SenderState σ) : HandsNothing s (drain s) := by
  unfold drain
  cases s.client.outgoingEvents with
  | nil => exact fun _ _ _ h => h
  | cons e rest =>
    dsimp only
    cases e.callback with
    | none => exact .of_append [.removed e.number] rfl (by simp)
    | some callback => exact .of_confirm (s := s) rfl (by simp)

theorem queueing_handsNothing {callback : Option UserCallback} {tick : UInt64}
    (h : Queueing s callback tick t) : HandsNothing s t := by
  rcases h with rfl | rfl | ⟨events, key, -, rfl⟩
  · exact fun _ _ _ h => h
  · exact fun _ _ _ h => h
  · exact .of_append [.accepted s.nextEntry callback tick] rfl (by simp)

end HandsNothing

/-- A message is handed over in a round of the loop only, and it was built from a listed entry. -/
theorem step_handsOver {s t : SenderState σ} {i : SenderInput ι} (h : step auth s i = some t)
    {n : Nat} {message : AMQPMessage} {taken : Bool}
    (hover : SenderEvent.handedOver n message taken ∈ t.log) :
    SenderEvent.handedOver n message taken ∈ s.log ∨
      ∃ env currentTime taken', i = .iterate env currentTime taken' ∧
        ∃ e ∈ s.client.outgoingEvents, e.number = n ∧
          buildMessage env e.eventDataList = some message := by
  suffices hcases : HandsNothing s t ∨ ∃ c env currentTime taken',
      i = .iterate env currentTime taken' ∧ t = iterate s c env currentTime taken' by
    rcases hcases with hnothing | ⟨c, env, currentTime, taken', rfl, rfl⟩
    · exact Or.inl (hnothing n message taken hover)
    · exact (iterate_handsOver hover).imp_right fun he => ⟨env, currentTime, taken', rfl, he⟩
  cases step_move auth h with
  | sendAsync event callback context env _ =>
    exact Or.inl (queueing_handsNothing (sendAsync_cases s event callback context env))
  | sendBatchAsync list callback context env _ =>
    exact Or.inl (queueing_handsNothing (sendBatchAsync_cases s list callback context env))
  | setField hf _ => exact Or.inl fun _ _ _ h => h
  | refreshSASTokenAsync token env _ =>
    exact Or.inl (.of_sameQueue (refreshSASTokenAsync_sameQueue s token env))
  | doWork env _ _ => exact Or.inl (.of_sameQueue (doWork_spec auth s env).1)
  | destroy _ _ =>
    obtain ⟨events, hlog, hquiet⟩ := (destroyUamqpStack_sameQueue
      { s with destroying := true, log := s.log ++ [.destroying] } .destroy).log
    refine Or.inl (.of_append (.destroying :: events)
      (hlog.trans (List.append_assoc ..)) fun n message taken hover => ?_)
    rcases List.mem_cons.mp hover with h | hover
    · cases h
    · simpa [eventView] using List.flatMap_eq_nil_iff.mp hquiet _ hover
  | @iterate c env currentTime taken' _ => exact Or.inr ⟨c, env, currentTime, taken', rfl, rfl⟩
  | onMessageSendComplete r _ _ => exact Or.inl (onMessageSendComplete_handsNothing s _ r _)
  | onMessageSenderStateChanged newState previousState hcall _ =>
    exact Or.inl (.of_sameQueue (onMessageSenderStateChanged_spec hcall newState previousState).1)
  | @onCBSPutTokenOperationComplete a r env _ _ _ =>
    exact Or.inl (.of_sameQueue (onCBSPutTokenOperationComplete_sameQueue auth s a r env))
  | uamqpReturn ok _ => exact Or.inl (uamqpReturn_handsNothing s ok _)
  | @confirmReturn m after _ =>
    cases after with
    | draining => exact Or.inl fun _ _ _ h => h
    | _ => exact Or.inl (.of_append [.removed m] rfl (by simp))
  | stateChangeReturn _ => exact Or.inl (.of_sameQueue (afterStateChange_spec s _ _).1)
  | @errorReturn after _ =>
    cases after with
    | uamqp call => exact Or.inl fun _ _ _ h => h
    | tearDown => exact Or.inl (.of_sameQueue (destroyUamqpStack_sameQueue s _))
    | done => exact Or.inl fun _ _ _ h => h
  | drain _ => exact Or.inl (drain_handsNothing s)

/-! ### Reading back -/

/-- A send call that accepts an entry queues the events that it was given. -/
theorem step_accepts {s t : SenderState σ} {i : SenderInput ι} (h : step auth s i = some t)
    {events : List EventData} (hevents : i.events = some events) :
    t.log = s.log ∨ ∃ callback tick, t = queue s events callback tick := by
  cases i with
  | sendAsync event callback context env =>
    obtain ⟨event, rfl, rfl⟩ := Option.map_eq_some_iff.mp hevents
    obtain ⟨-, ⟨⟩⟩ := Option.ite_none_right_eq_some.mp h
    unfold sendAsync
    split_ifs
    · exact Or.inl rfl
    · exact Or.inl rfl
    · exact Or.inl rfl
    · exact Or.inl rfl
    · exact Or.inr ⟨_, _, rfl⟩
  | sendBatchAsync list callback context env =>
    obtain ⟨list, rfl, rfl⟩ := Option.map_eq_some_iff.mp hevents
    obtain ⟨-, ⟨⟩⟩ := Option.ite_none_right_eq_some.mp h
    unfold sendBatchAsync
    dsimp only
    by_cases hbad : (list.length = 0 || (callback.isNone && context.isSome)) = true
    · rw [if_pos hbad]
      exact Or.inl rfl
    rw [if_neg hbad]
    cases hvalid : validateEventDataList list with
    | none => exact Or.inl rfl
    | some events =>
      obtain rfl := reduceOption_of_validateEventDataList hvalid
      dsimp only
      split_ifs
      · exact Or.inl rfl
      · exact Or.inl rfl
      · exact Or.inr ⟨_, _, rfl⟩
      · exact Or.inl rfl
  | _ => cases hevents

/-- From here on the entry numbered `n` has these events, and what was handed over for it is read
back to them. -/
structure ReadsBack (decode : AMQPDecoder) (n : Nat) (events : List EventData)
    (s : SenderState σ) : Prop where
  next : n < s.nextEntry
  entries : ∀ e ∈ s.client.outgoingEvents, e.number = n → e.eventDataList = events
  messages : ∀ message taken, SenderEvent.handedOver n message taken ∈ s.log →
    readMessage decode message = some (events.map EventData.content)

/-- The decoder inverts the encoding that a round of the loop uses. -/
def DecodedBy (decode : AMQPDecoder) (events : List EventData) : SenderInput ι → Prop
  | .iterate env _ _ => Decodes decode env.encode events
  | _ => True

theorem step_readsBack {s t : SenderState σ} {i : SenderInput ι} {decode : AMQPDecoder} {n : Nat}
    {events : List EventData}
    (hlen : events.length = 1 ∨ ∀ e ∈ events, e.buffer.length < 2 ^ 32)
    (hs : ReadsBack decode n events s) (hi : DecodedBy decode events i)
    (h : step auth s i = some t) : ReadsBack decode n events t := by
  have hcontinues := step_continues auth h
  refine ⟨hs.next.trans_le hcontinues.next, fun e he hnumber => ?_,
    fun message taken hover => ?_⟩
  · rcases hcontinues.entries e he with ⟨a, ha, hanumber, -, -, hevents⟩ | ⟨-, hnew, -⟩
    · exact hevents ▸ hs.entries a ha (hanumber.trans hnumber)
    · exact absurd (hnumber.symm.trans hnew) hs.next.ne
  · rcases step_handsOver auth h hover with hold | ⟨env, currentTime, taken', rfl, e, he, hnumber,
      hbuild⟩
    · exact hs.messages message taken hold
    · rw [hs.entries e he hnumber] at hbuild
      exact readMessage_of_buildMessage hlen hi hbuild

/-- The entry that a send call has just queued. -/
theorem queue_readsBack {s : SenderState σ} (hs : Kempt s) (decode : AMQPDecoder)
    (events : List EventData) (callback : Option UserCallback) (tick : UInt64) :
    ReadsBack decode s.nextEntry events (queue s events callback tick) := by
  have hbelow : ∀ e ∈ s.client.outgoingEvents, e.number < s.nextEntry := by
    intro e he
    have hmem : e.number ∈ accepted s.log := List.mem_filterMap.mpr ⟨_, hs.entries e he, rfl⟩
    rwa [accepted_eq_range hs, List.mem_range] at hmem
  refine ⟨Nat.lt_succ_self _, fun e he hnumber => ?_, fun message taken hover => ?_⟩
  · rcases List.mem_append.mp he with hold | hnew
    · exact absurd hnumber (hbelow e hold).ne
    · exact List.mem_singleton.mp hnew ▸ rfl
  · have hold : SenderEvent.handedOver s.nextEntry message taken ∈ s.log := by
      simpa [queue] using hover
    have hgiven := Outbox.mem_handedOver.mpr ⟨taken, handedOver_mem_traceView.mpr ⟨message, hold⟩⟩
    exact absurd (hs.inv.ordered.givenBelow _ hgiven) (Nat.lt_irrefl _)

/-- In every run, whatever is handed over for an entry is read back to the events that the send call
was given, in order, by everyone who can decode the AMQP values; the payloads of a batch have to be
shorter than 2^32 bytes. -/
theorem run_reads_back {c : EventHubClientLL σ} (hc : Created c) {is js : List (SenderInput ι)}
    {i : SenderInput ι} {s t u : SenderState σ} {decode : AMQPDecoder} {events : List EventData}
    (hs : (senderMachine auth).run { client := c } is = some s) (hevents : i.events = some events)
    (hu : (senderMachine auth).step s i = some u) {callback : Option UserCallback} {tick : UInt64}
    (haccepted : SenderEvent.accepted s.nextEntry callback tick ∈ u.log)
    (ht : (senderMachine auth).run u js = some t)
    (hlen : events.length = 1 ∨ ∀ e ∈ events, e.buffer.length < 2 ^ 32)
    (hdecodes : ∀ i ∈ js, DecodedBy decode events i) {message : AMQPMessage} {taken : Bool}
    (hover : SenderEvent.handedOver s.nextEntry message taken ∈ t.log) :
    readMessage decode message = some (events.map EventData.content) := by
  have hkempt := run_kempt auth (created_kempt hc) hs
  have hstart : ReadsBack decode s.nextEntry events u := by
    rcases step_accepts auth hu hevents with hlog | ⟨callback', tick', rfl⟩
    · have hmem : s.nextEntry ∈ accepted s.log :=
        List.mem_filterMap.mpr ⟨_, hlog ▸ haccepted, rfl⟩
      rw [accepted_eq_range hkempt] at hmem
      exact absurd (List.mem_range.mp hmem) (Nat.lt_irrefl _)
    · exact queue_readsBack hkempt decode events callback' tick'
  have hstep : ∀ s' i' t', ReadsBack decode s.nextEntry events s' → DecodedBy decode events i' →
      (senderMachine auth).step s' i' = some t' → ReadsBack decode s.nextEntry events t' :=
    fun _ _ _ hs' hi' h => step_readsBack auth hlen hs' hi' h
  have hend := Machine.run_invariant_of_meets hstep hstart
    (Machine.meets_of_forall_mem hdecodes) ht
  exact hend.messages message taken hover

/-- A short string at the front. -/
def decodeText : List UInt8 → Option (String × List UInt8)
  | 0xA1 :: length :: rest =>
    some (String.ofList ((rest.take length.toNat).map fun byte => Char.ofNat byte.toNat),
      rest.drop length.toNat)
  | _ => none

/-- So many pairs of short strings at the front. -/
def decodePairs : Nat → List UInt8 → Option (List (String × String) × List UInt8)
  | 0, bytes => some ([], bytes)
  | count + 1, bytes => do
    let (key, bytes) ← decodeText bytes
    let (value, bytes) ← decodeText bytes
    let (pairs, bytes) ← decodePairs count bytes
    return ((key, value) :: pairs, bytes)

/-- The decoder for `encodeShort`. -/
def decodeShort : AMQPDecoder
  | 0x00 :: 0x53 :: 0x74 :: 0xC1 :: _ :: count :: rest => do
    let (pairs, rest) ← decodePairs (count.toNat / 2) rest
    return (.applicationProperties pairs, rest)
  | 0x00 :: 0x53 :: 0x75 :: 0xA0 :: length :: rest =>
    some (.data (rest.take length.toNat), rest.drop length.toNat)
  | _ => none

/-- After a batch of two events, up to the loop, its message is handed over. -/
def openedTwo : List (SenderInput AuthEnv) :=
  (opened []).tail ++ [.iterate { encode := encodeShort } 20 true]

theorem decodeShort_decodes : Decodes decodeShort encodeShort twoEvents where
  data := by
    intro event hevent
    obtain rfl | rfl : event = { buffer := [7], properties := [("k", "v")] } ∨
        event = { buffer := [8] } := by simpa [twoEvents] using hevent
    · exact fun _ => rfl
    · exact fun _ => rfl
  applicationProperties := by
    intro event hevent
    obtain rfl | rfl : event = { buffer := [7], properties := [("k", "v")] } ∨
        event = { buffer := [8] } := by simpa [twoEvents] using hevent
    · exact fun _ => rfl
    · exact fun _ => rfl

/-- The message of the two events. -/
def twoMessage : AMQPMessage where
  messageFormat := some 0x80013700
  bodyData := twoEvents.map (framed { encode := encodeShort })

/-- A property of the first event is read back with it. -/
theorem run_reads_back_two :
    ∃ u t, (senderMachine (EventHubAuthCBS.authModule fun _ => none)).step
        { client := createdFromConnectionString "name" "key" "host" "hub" "target" }
        (.sendBatchAsync (some (twoEvents.map some)) none none {}) = some u ∧
      (senderMachine (EventHubAuthCBS.authModule fun _ => none)).run u openedTwo = some t ∧
      SenderEvent.handedOver 0 twoMessage true ∈ t.log ∧
      readMessage decodeShort twoMessage = some [([("k", "v")], [7]), ([], [8])] := by
  refine ⟨_, _, rfl, rfl, by decide, ?_⟩
  have hdecodes : ∀ i ∈ openedTwo, DecodedBy decodeShort twoEvents i := by
    intro i hi
    rcases List.mem_append.mp hi with hi | hi
    · simp only [opened, List.tail_cons, List.mem_cons, List.not_mem_nil, or_false] at hi
      rcases hi with rfl | rfl | rfl | rfl | rfl | rfl <;> exact trivial
    · exact List.mem_singleton.mp hi ▸ decodeShort_decodes
  exact @run_reads_back _ _ (EventHubAuthCBS.authModule fun _ => none) _
    (.fromConnectionString "name" "key" "host" "hub" "target") [] openedTwo
    (.sendBatchAsync (some (twoEvents.map some)) none none {}) _ _ _ decodeShort twoEvents rfl rfl
    rfl none 0 (by decide) rfl (.inr (by decide)) hdecodes twoMessage true (by decide)

end EventHubClientLL

end EventHubs
