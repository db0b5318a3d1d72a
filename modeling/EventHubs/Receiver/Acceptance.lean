import EventHubs.Library.Ledger
import EventHubs.Receiver.Registration
import Mathlib.Data.List.Induction
import Mathlib.Data.List.ReduceOption

/-!
# What the receipt of a message leaves

`EHR_LL_OnMessageReceived` with the ledger of the objects that it makes: the `EventData`, the
sections that it asks for, and the keys and values of their maps. A failing
`amqpvalue_get_map_key_value_pair` may leave a key or a value behind; the loops destroy what they
find. Without the ledger this is `decodeMessage`, and so the machine's `onMessageReceived`.

## Main definitions

* `processPairsOn` — the loop that `ProcessMessageAnnotations` and `ProcessApplicationProperties`
  share.
* `onMessageReceivedOn` — the function, with the ledger.
* `Conveys` — an event is what the message says.

## Main results

* `onMessageReceivedOn_of`, `decodeMessage_conveys`.
* `EventHubReceiverLL.run_accepts_whole`.
-/

namespace EventHubs

/-- The objects made while a message is received. -/
inductive ReceivedObject
  | eventData
  | annotations
  | applicationProperties
  | amqpKey
  | amqpValue
  deriving DecidableEq, Repr

/-- An out-parameter that starts as NULL, and whether the call writes it. -/
def obtain (written : Bool) (o : ReceivedObject) (l : Ledger ReceivedObject) :
    Option Nat × Ledger ReceivedObject :=
  if written then (some l.next, l.create o) else (none, l)

/-- `amqpvalue_destroy` on a variable that is tested for NULL. -/
def destroyNonNull (h : Option Nat) (l : Ledger ReceivedObject) : Ledger ReceivedObject :=
  match h with
  | none => l
  | some n => l.destroy n

/-- The handles of one round: `amqpvalue_get_map_key_value_pair` gives a key and a value, or fails
and leaves what `left` says; both are destroyed at the end of the round. -/
def pairOn (left : Nat → Bool × Bool) (pair : Option (ReceivedValue × ReceivedValue) × Nat)
    (l : Ledger ReceivedObject) : Ledger ReceivedObject :=
  let amqpKey := obtain (pair.1.isSome || (left pair.2).1) .amqpKey l
  let amqpValue := obtain (pair.1.isSome || (left pair.2).2) .amqpValue amqpKey.2
  destroyNonNull amqpValue.1 (destroyNonNull amqpKey.1 amqpValue.2)

/-- The loop over the pairs of a map, which a failing round ends. -/
def processPairsOn (left : Nat → Bool × Bool)
    (round : EventData → Option (ReceivedValue × ReceivedValue) × Nat → Option EventData) :
    List (Option (ReceivedValue × ReceivedValue) × Nat) → EventData → Ledger ReceivedObject →
      Option EventData × Ledger ReceivedObject
  | [], event, l => (some event, l)
  | pair :: rest, event, l =>
    match round event pair with
    | none => (none, pairOn left pair l)
    | some event => processPairsOn left round rest event (pairOn left pair l)

/-- `ProcessMessageAnnotations` with the ledger. -/
def processMessageAnnotationsOn (env : DecodeEnv) (left : Nat → Bool × Bool)
    (message : ReceivedMessage) (event : EventData) (l : Ledger ReceivedObject) :
    Option EventData × Ledger ReceivedObject :=
  match message.messageAnnotations with
  | none => (none, l)
  | some none => (some event, l)
  | some (some map) =>
    let handle := l.next
    let l := l.create .annotations
    match map with
    | none => (none, l.destroy handle)
    | some map =>
      let x := processPairsOn left (processAnnotationPair env) map.zipIdx event l
      (x.1, x.2.destroy handle)

/-- `ProcessApplicationProperties` with the ledger. -/
def processApplicationPropertiesOn (env : DecodeEnv) (left : Nat → Bool × Bool)
    (message : ReceivedMessage) (event : EventData) (l : Ledger ReceivedObject) :
    Option EventData × Ledger ReceivedObject :=
  if !env.eventDataProperties then (none, l)
  else
    match message.applicationProperties with
    | none => (none, l)
    | some none => (some event, l)
    | some (some map) =>
      let handle := l.next
      let l := l.create .applicationProperties
      match map with
      | none => (none, l.destroy handle)
      | some map =>
        let x := processPairsOn left (processPropertyPair env) map.zipIdx event l
        (x.1, x.2.destroy handle)

/-- What `EHR_LL_OnMessageReceived` does: its calls of the receive callback, each with the handle
and the contents of the event and with the ledger at that time, its answer, and the ledger that it
leaves. -/
structure Receipt where
  callbacks : List (Nat × EventData × Ledger ReceivedObject) := []
  accepted : Bool := false
  ledger : Ledger ReceivedObject

/-- `EHR_LL_OnMessageReceived` with the ledger. `leftAnnotations` and `leftProperties` say what a
failing `amqpvalue_get_map_key_value_pair` leaves behind. -/
def onMessageReceivedOn (env : DecodeEnv) (leftAnnotations leftProperties : Nat → Bool × Bool)
    (message : ReceivedMessage) (l : Ledger ReceivedObject) : Receipt :=
  match message.bodyData with
  | none => { ledger := l }
  | some buffer =>
    if !env.eventDataCreate then { ledger := l }
    else
      let eventDataHandle := l.next
      let x := processMessageAnnotationsOn env leftAnnotations message { buffer := buffer }
        (l.create .eventData)
      match x.1 with
      | none => { ledger := x.2.destroy eventDataHandle }
      | some event =>
        let y := processApplicationPropertiesOn env leftProperties message event x.2
        match y.1 with
        | none => { ledger := y.2.destroy eventDataHandle }
        | some event =>
          { callbacks := [(eventDataHandle, event, y.2)]
            accepted := true
            ledger := y.2.destroy eventDataHandle }

/-! ### The ledger -/

theorem pairOn_settles (left : Nat → Bool × Bool)
    (pair : Option (ReceivedValue × ReceivedValue) × Nat) (l : Ledger ReceivedObject) :
    l.Settles (pairOn left pair l) := by
  unfold pairOn
  cases pair.1.isSome || (left pair.2).1 <;> cases pair.1.isSome || (left pair.2).2
  · exact .refl l
  · exact l.settles_createAll_destroyAll [.amqpValue]
  · exact l.settles_createAll_destroyAll [.amqpKey]
  · exact l.settles_createAll_destroyAll [.amqpKey, .amqpValue]

theorem processPairsOn_settles (left : Nat → Bool × Bool)
    (round : EventData → Option (ReceivedValue × ReceivedValue) × Nat → Option EventData)
    (pairs : List (Option (ReceivedValue × ReceivedValue) × Nat)) (event : EventData)
    (l : Ledger ReceivedObject) :
    l.Settles (processPairsOn left round pairs event l).2 := by
  induction pairs generalizing event l with
  | nil => exact .refl l
  | cons pair rest ih =>
    have hpair := pairOn_settles left pair l
    unfold processPairsOn
    cases round event pair with
    | none => exact hpair
    | some event => exact hpair.trans (ih event _)

theorem processPairsOn_fst (left : Nat → Bool × Bool)
    (round : EventData → Option (ReceivedValue × ReceivedValue) × Nat → Option EventData)
    (pairs : List (Option (ReceivedValue × ReceivedValue) × Nat)) (event : EventData)
    (l : Ledger ReceivedObject) :
    (processPairsOn left round pairs event l).1 = pairs.foldlM round event := by
  induction pairs generalizing event l with
  | nil => rfl
  | cons pair rest ih =>
    rw [List.foldlM_cons]
    unfold processPairsOn
    cases round event pair with
    | none => rfl
    | some event => exact ih event _

theorem processMessageAnnotationsOn_spec (env : DecodeEnv) (left : Nat → Bool × Bool)
    (message : ReceivedMessage) (event : EventData) (l : Ledger ReceivedObject) :
    (processMessageAnnotationsOn env left message event l).1 =
        processMessageAnnotations env message event ∧
      l.Settles (processMessageAnnotationsOn env left message event l).2 := by
  unfold processMessageAnnotationsOn processMessageAnnotations
  rcases message.messageAnnotations with _ | _ | _ | map
  · exact ⟨rfl, .refl l⟩
  · exact ⟨rfl, .refl l⟩
  · exact ⟨rfl, (Ledger.Settles.refl _).bracket⟩
  · exact ⟨processPairsOn_fst left _ _ event _, (processPairsOn_settles left _ _ event _).bracket⟩

theorem processApplicationPropertiesOn_spec (env : DecodeEnv) (left : Nat → Bool × Bool)
    (message : ReceivedMessage) (event : EventData) (l : Ledger ReceivedObject) :
    (processApplicationPropertiesOn env left message event l).1 =
        processApplicationProperties env message event ∧
      l.Settles (processApplicationPropertiesOn env left message event l).2 := by
  unfold processApplicationPropertiesOn processApplicationProperties
  cases env.eventDataProperties with
  | false => exact ⟨rfl, .refl l⟩
  | true =>
    rcases message.applicationProperties with _ | _ | _ | map
    · exact ⟨rfl, .refl l⟩
    · exact ⟨rfl, .refl l⟩
    · exact ⟨rfl, (Ledger.Settles.refl _).bracket⟩
    · exact ⟨processPairsOn_fst left _ _ event _, (processPairsOn_settles left _ _ event _).bracket⟩

/-- What a receipt is, given the event that the message decodes to. -/
inductive Receipt.Of (l : Ledger ReceivedObject) : Option EventData → Receipt → Prop
  | rejected {m : Ledger ReceivedObject} (hm : l.Settles m) : Of l none { ledger := m }
  | accepted {event : EventData} {n : Nat} {during m : Ledger ReceivedObject}
      (hlive : (n, .eventData) ∈ during.live) (hm : l.Settles m) :
    Of l (some event) { callbacks := [(n, event, during)], accepted := true, ledger := m }

/-- Without the ledger the function is `decodeMessage`; whatever it makes it destroys. -/
theorem onMessageReceivedOn_of (env : DecodeEnv)
    (leftAnnotations leftProperties : Nat → Bool × Bool)
    (message : ReceivedMessage) (l : Ledger ReceivedObject) :
    Receipt.Of l (decodeMessage env message)
      (onMessageReceivedOn env leftAnnotations leftProperties message l) := by
  unfold onMessageReceivedOn decodeMessage
  cases message.bodyData with
  | none => exact .rejected (.refl l)
  | some buffer =>
    cases env.eventDataCreate with
    | false => exact .rejected (.refl l)
    | true =>
      obtain ⟨hx, hxs⟩ := processMessageAnnotationsOn_spec env leftAnnotations message
        { buffer := buffer } (l.create .eventData)
      simp only [Bool.not_true, Bool.false_eq_true, if_false, Option.bind_eq_bind,
        Option.bind_some, ← hx]
      generalize processMessageAnnotationsOn env leftAnnotations message { buffer := buffer }
        (l.create .eventData) = x at hxs
      obtain ⟨_ | event, l₁⟩ := x
      · exact .rejected hxs.bracket
      · obtain ⟨hy, hys⟩ := processApplicationPropertiesOn_spec env leftProperties message event l₁
        simp only [Option.bind_some, ← hy]
        generalize processApplicationPropertiesOn env leftProperties message event l₁ = y at hys
        have hsettled := hxs.trans hys
        obtain ⟨_ | event, l₂⟩ := y
        · exact .rejected hsettled.bracket
        · refine .accepted ?_ hsettled.bracket
          rw [hsettled.live]
          exact List.mem_append_right _ List.mem_cons_self

/-! ### The event -/

/-- The value of an annotation. Of several with one name the last counts. -/
def annotation? (name : String) (map : ReceivedMap) : Option ReceivedValue :=
  ((map.reduceOption.filter (·.1 = .symbol name)).getLast?).map Prod.snd

/-- The event is what the message says: its payload, all its application properties and nothing
else, and its enqueued time, or 0. -/
structure Conveys (message : ReceivedMessage) (event : EventData) : Prop where
  buffer : message.bodyData = some event.buffer
  properties :
    (message.applicationProperties = some none ∧ event.properties = []) ∨
    message.applicationProperties =
      some (some (some (event.properties.map fun p => some (.string p.1, .string p.2))))
  enqueuedTime :
    (message.messageAnnotations = some none ∧ event.enqueuedTimestampUTC = 0) ∨
    ∃ map, message.messageAnnotations = some (some (some map)) ∧
      ((annotation? keyNameEnqueuedTime map = none ∧ event.enqueuedTimestampUTC = 0) ∨
        ∃ ms, annotation? keyNameEnqueuedTime map = some (.timestamp ms) ∧
          event.enqueuedTimestampUTC = ms.toUInt64)

section Loops

variable {env : DecodeEnv} {event event' : EventData}
  {pairs : List (Option (ReceivedValue × ReceivedValue) × Nat)}

theorem mapAdd_eq_some {properties properties' : List (String × String)} {key value : String}
    {succeeds : Bool} (h : mapAdd properties key value succeeds = some properties') :
    properties' = properties ++ [(key, value)] := by
  unfold mapAdd at h
  obtain ⟨-, h⟩ := Option.ite_none_left_eq_some.mp h
  obtain ⟨-, h⟩ := Option.ite_none_left_eq_some.mp h
  obtain ⟨-, h⟩ := Option.ite_none_left_eq_some.mp h
  exact (Option.some.inj h).symm

theorem string?_eq_some {v : ReceivedValue} {text : String} (h : v.string? = some text) :
    v = .string text := by
  cases v <;> simp_all [ReceivedValue.string?]

theorem symbol?_eq_some {v : ReceivedValue} {text : String} (h : v.symbol? = some text) :
    v = .symbol text := by
  cases v <;> simp_all [ReceivedValue.symbol?]

theorem timestamp?_eq_some {v : ReceivedValue} {ms : Int64} (h : v.timestamp? = some ms) :
    v = .timestamp ms := by
  cases v <;> simp_all [ReceivedValue.timestamp?]

/-- A round that does not fail adds its pair. -/
theorem processPropertyPair_eq_some {pair : Option (ReceivedValue × ReceivedValue) × Nat}
    (h : processPropertyPair env event pair = some event') :
    ∃ p : String × String, pair.1 = some (.string p.1, .string p.2) ∧
      event' = { event with properties := event.properties ++ [p] } := by
  unfold processPropertyPair at h
  simp only [Option.bind_eq_bind, Option.bind_eq_some_iff] at h
  obtain ⟨⟨k, v⟩, hpair, key, hkey, value, hvalue, properties, hadd, ⟨⟩⟩ := h
  obtain rfl := mapAdd_eq_some hadd
  obtain rfl := string?_eq_some hkey
  obtain rfl := string?_eq_some hvalue
  exact ⟨(key, value), hpair, rfl⟩

/-- A loop that ends without a failure has added every pair. -/
theorem foldlM_processPropertyPair
    (h : pairs.foldlM (processPropertyPair env) event = some event') :
    ∃ ps : List (String × String),
      pairs.map Prod.fst = ps.map (fun p => some (.string p.1, .string p.2)) ∧
      event' = { event with properties := event.properties ++ ps } := by
  induction pairs generalizing event with
  | nil =>
    obtain rfl : event = event' := Option.some.inj h
    exact ⟨[], rfl, by rw [List.append_nil]⟩
  | cons pair rest ih =>
    obtain ⟨event₁, hround, hrest⟩ := Option.bind_eq_some_iff.mp h
    obtain ⟨p, hpair, rfl⟩ := processPropertyPair_eq_some hround
    obtain ⟨ps, hps, rfl⟩ := ih hrest
    exact ⟨p :: ps, by rw [List.map_cons, hpair, hps, List.map_cons],
      by rw [List.append_assoc, List.singleton_append]⟩

/-- A round that does not fail reads its annotation if it is the one that is looked for. -/
theorem processAnnotationPair_eq_some {pair : Option (ReceivedValue × ReceivedValue) × Nat}
    (h : processAnnotationPair env event pair = some event') :
    ∃ key value, pair.1 = some (.symbol key, value) ∧
      ((key ≠ keyNameEnqueuedTime ∧ event' = event) ∨
        ∃ ms, key = keyNameEnqueuedTime ∧ value = .timestamp ms ∧
          event' = { event with enqueuedTimestampUTC := ms.toUInt64 }) := by
  unfold processAnnotationPair at h
  simp only [Option.bind_eq_bind, Option.bind_eq_some_iff] at h
  obtain ⟨⟨k, value⟩, hpair, key, hkey, h⟩ := h
  obtain rfl := symbol?_eq_some hkey
  refine ⟨key, value, hpair, ?_⟩
  by_cases hname : key = keyNameEnqueuedTime
  · rw [if_pos hname, Option.bind_eq_some_iff] at h
    obtain ⟨ms, hms, h⟩ := h
    obtain ⟨-, ⟨⟩⟩ := Option.ite_none_right_eq_some.mp h
    exact Or.inr ⟨ms, hname, timestamp?_eq_some hms, rfl⟩
  · rw [if_neg hname] at h
    exact Or.inl ⟨hname, (Option.some.inj h).symm⟩

theorem annotation?_concat (name : String) (map : ReceivedMap) (key : String)
    (value : ReceivedValue) :
    annotation? name (map ++ [some (.symbol key, value)]) =
      if key = name then some value else annotation? name map := by
  unfold annotation?
  rw [List.reduceOption_append, List.filter_append]
  by_cases hname : key = name <;> simp [hname, List.reduceOption_cons_of_some]

/-- The loop over the annotations leaves the last enqueued time. -/
theorem foldlM_processAnnotationPair
    (h : pairs.foldlM (processAnnotationPair env) event = some event') :
    (annotation? keyNameEnqueuedTime (pairs.map Prod.fst) = none ∧ event' = event) ∨
    ∃ ms, annotation? keyNameEnqueuedTime (pairs.map Prod.fst) = some (.timestamp ms) ∧
      event' = { event with enqueuedTimestampUTC := ms.toUInt64 } := by
  induction pairs using List.reverseRecOn generalizing event' with
  | nil => exact Or.inl ⟨rfl, (Option.some.inj h).symm⟩
  | append_singleton rest pair ih =>
    rw [List.foldlM_append] at h
    obtain ⟨event₁, hrest, hround⟩ := Option.bind_eq_some_iff.mp h
    simp only [List.foldlM_cons, List.foldlM_nil, bind_pure] at hround
    obtain ⟨key, value, hpair, hcase⟩ := processAnnotationPair_eq_some hround
    rw [List.map_append, List.map_singleton, hpair, annotation?_concat]
    rcases hcase with ⟨hname, rfl⟩ | ⟨ms, hname, rfl, rfl⟩
    · rw [if_neg hname]
      exact ih hrest
    · rw [if_pos hname]
      refine Or.inr ⟨ms, rfl, ?_⟩
      rcases ih hrest with ⟨-, rfl⟩ | ⟨ms', -, rfl⟩ <;> rfl

end Loops

/-- A message that is accepted is delivered whole. -/
theorem decodeMessage_conveys {env : DecodeEnv} {message : ReceivedMessage} {event : EventData}
    (h : decodeMessage env message = some event) : Conveys message event := by
  obtain ⟨buffer, hbuffer, h⟩ := Option.bind_eq_some_iff.mp h
  obtain ⟨-, h⟩ := Option.ite_none_left_eq_some.mp h
  obtain ⟨event₁, hannotations, hproperties⟩ := Option.bind_eq_some_iff.mp h
  have hfirst : ((message.messageAnnotations = some none ∧ event₁.enqueuedTimestampUTC = 0) ∨
      ∃ map, message.messageAnnotations = some (some (some map)) ∧
        ((annotation? keyNameEnqueuedTime map = none ∧ event₁.enqueuedTimestampUTC = 0) ∨
          ∃ ms, annotation? keyNameEnqueuedTime map = some (.timestamp ms) ∧
            event₁.enqueuedTimestampUTC = ms.toUInt64)) ∧
      event₁.buffer = buffer ∧ event₁.properties = [] := by
    unfold processMessageAnnotations at hannotations
    rcases hmap : message.messageAnnotations with _ | _ | _ | map <;> rw [hmap] at hannotations
    · cases hannotations
    · obtain rfl := Option.some.inj hannotations
      exact ⟨Or.inl ⟨rfl, rfl⟩, rfl, rfl⟩
    · cases hannotations
    · have hloop := foldlM_processAnnotationPair hannotations
      rw [List.zipIdx_map_fst] at hloop
      rcases hloop with ⟨hnone, rfl⟩ | ⟨ms, hms, rfl⟩
      · exact ⟨Or.inr ⟨map, rfl, Or.inl ⟨hnone, rfl⟩⟩, rfl, rfl⟩
      · exact ⟨Or.inr ⟨map, rfl, Or.inr ⟨ms, hms, rfl⟩⟩, rfl, rfl⟩
  obtain ⟨htime, rfl, hempty⟩ := hfirst
  unfold processApplicationProperties at hproperties
  obtain ⟨-, h⟩ := Option.ite_none_left_eq_some.mp hproperties
  rcases hmap : message.applicationProperties with _ | _ | _ | map <;> rw [hmap] at h
  · cases h
  · obtain rfl := Option.some.inj h
    exact ⟨hbuffer, Or.inl ⟨hmap, hempty⟩, htime⟩
  · cases h
  · obtain ⟨ps, hps, rfl⟩ := foldlM_processPropertyPair h
    rw [List.zipIdx_map_fst] at hps
    refine ⟨hbuffer, Or.inr ?_, htime⟩
    rw [hmap, hps, hempty, List.nil_append]

namespace EventHubReceiverLL

variable {σ ι : Type} (auth : AuthModule σ ι)

/-- In every run of a receiver a message is accepted whole or rejected. Accepted, the receive
callback, which is there, is called once, with the event that the message says, before the event is
destroyed; rejected, it is not called. Either way each object that was made for the message is
destroyed exactly once. -/
theorem run_accepts_whole {c : EventHubReceiverLL σ} (hc : Created c)
    {is : List (ReceiverInput ι)} {s t : ReceiverState σ} {message : ReceivedMessage}
    {env : DecodeEnv} (hrun : (receiverMachine auth).run { client := c } is = some s)
    (hstep : (receiverMachine auth).step s (.onMessageReceived message env) = some t)
    (leftAnnotations leftProperties : Nat → Bool × Bool) (l : Ledger ReceivedObject)
    {r : Receipt} (hr : onMessageReceivedOn env leftAnnotations leftProperties message l = r) :
    (r.accepted = true → ∃ callback n event during call,
      s.client.callback.onEventReceiveCallback = some callback ∧
      r.callbacks = [(n, event, during)] ∧ (n, .eventData) ∈ during.live ∧
      Conveys message event ∧
      t.control = .receiveCb call ∧ t.log = s.log ++ [.received callback event] ∧
      ∀ u, u.control = t.control → (receiverMachine auth).step u .callbackReturn =
        some { u.emit [.answered true] with control := .uamqp call }) ∧
    (r.accepted = false → r.callbacks = [] ∧ t = s.emit [.answered false]) ∧
    r.ledger.live = l.live ∧ r.ledger.faults = l.faults ∧
    r.ledger.destroyed.Perm
      (l.destroyed ++ List.range' l.next (r.ledger.next - l.next)) := by
  have hs := run_registrationInv auth hc hrun
  have hof := onMessageReceivedOn_of env leftAnnotations leftProperties message l
  rw [hr] at hof
  have hmove : Move auth s (.onMessageReceived message env) t := step_move auth hstep
  cases hmove with
  | receiveAsync _ _ _ _ _ _ hi => cases hi
  | @onMessageReceived call _ _ hcall _ =>
    have hbusy : s.control.busy = true := by rw [hcall]; rfl
    obtain ⟨callback, hcallback⟩ := Option.isSome_iff_exists.mp
      (hs.registered (hs.active hbusy)).onEventReceiveCallback
    unfold onMessageReceived
    cases hdecode : decodeMessage env message with
    | none =>
      rw [hdecode] at hof
      cases hof with
      | rejected hm =>
        exact ⟨nofun, fun _ => ⟨rfl, rfl⟩, hm.live, hm.faults, hm.destroyed⟩
    | some event =>
      rw [hdecode] at hof
      cases hof with
      | accepted hlive hm =>
        refine ⟨fun _ => ?_, nofun, hm.live, hm.faults, hm.destroyed⟩
        refine ⟨callback, _, event, _, call, hcallback, rfl, hlive,
          decodeMessage_conveys hdecode, ?_⟩
        rw [hcallback]
        refine ⟨rfl, rfl, fun u hu => ?_⟩
        simp only [receiverMachine, step, hu]

/-- A message with a property, of which uAMQP gives the key and the value. -/
def oneProperty : ReceivedMessage where
  bodyData := some [7]
  applicationProperties := some (some (some [some (.string "k", .string "v")]))

/-- The message is accepted; its event, the section, the key and the value are destroyed. -/
theorem run_accepts_whole_oneProperty :
    ∃ s t, (receiverMachine (EventHubAuthCBS.authModule fun _ => none)).run
        { client := createdFromConnectionString "host" "hub" "name" "key" "group" "0" }
        (receiving ++ [.doWork (workAt 4)]) = some s ∧
      (receiverMachine (EventHubAuthCBS.authModule fun _ => none)).step s
        (.onMessageReceived oneProperty {}) = some t ∧
      (∃ callback event, Conveys oneProperty event ∧
        t.log = s.log ++ [.received callback event]) ∧
      (onMessageReceivedOn {} (fun _ => (false, false)) (fun _ => (false, false)) oneProperty
        {}).ledger.destroyed = [2, 3, 1, 0] := by
  refine ⟨_, _, rfl, rfl, ?_, by decide⟩
  obtain ⟨callback, n, event, during, call, -, -, -, hconveys, -, hlog, -⟩ :=
    (@run_accepts_whole _ _ (EventHubAuthCBS.authModule fun _ => none) _
      (.fromConnectionString "host" "hub" "name" "key" "group" "0")
      (receiving ++ [.doWork (workAt 4)]) _ _ oneProperty {} rfl rfl (fun _ => (false, false))
      (fun _ => (false, false)) {} _ rfl).1 rfl
  exact ⟨callback, event, hconveys, hlog⟩

end EventHubReceiverLL

end EventHubs
