import EventHubs.Receiver.Types
import Mathlib.Data.List.Basic

/-!
# From a uAMQP message to an event

The part of `EHR_LL_OnMessageReceived` that turns a received message into an event: its payload,
the enqueued time among its annotations, and its application properties. What an accessor of uAMQP
answers is part of the message, with `none` for a failing one; the calls on the event have their
outcomes in the environment.

## Main definitions

* `ReceivedValue`, `ReceivedMap`, `ReceivedMessage`, `DecodeEnv` — the outside.
* `mapAdd`, `processMessageAnnotations`, `processApplicationProperties`, `decodeMessage`.
-/

namespace EventHubs

/-- The AMQP values that the receiver tells apart. -/
inductive ReceivedValue
  | string (text : String)
  | symbol (text : String)
  | timestamp (ms : Int64)
  | other
  deriving DecidableEq, Repr

/-- `amqpvalue_get_string`. -/
def ReceivedValue.string? : ReceivedValue → Option String
  | .string text => some text
  | _ => none

/-- `amqpvalue_get_symbol`. -/
def ReceivedValue.symbol? : ReceivedValue → Option String
  | .symbol text => some text
  | _ => none

/-- `amqpvalue_get_timestamp`. -/
def ReceivedValue.timestamp? : ReceivedValue → Option Int64
  | .timestamp ms => some ms
  | _ => none

/-- A map value: what `amqpvalue_get_map_key_value_pair` answers at each index below the pair
count. -/
abbrev ReceivedMap := List (Option (ReceivedValue × ReceivedValue))

/-- A received message. In each field the outer `none` is a failing accessor; where there is an
inner one, it is a section that the message does not have. For the application properties the
accessors are those of the message, of the descriptor, of the described value and of the map. -/
structure ReceivedMessage where
  bodyData : Option (List UInt8)
  messageAnnotations : Option (Option (Option ReceivedMap)) := some none
  applicationProperties : Option (Option (Option ReceivedMap)) := some none
  deriving DecidableEq

/-- The outcomes of the calls on the event. An index is the position of the pair in its map. -/
structure DecodeEnv where
  eventDataCreate : Bool := true
  eventDataProperties : Bool := true
  setEnqueuedTimestamp : Nat → Bool := fun _ => true
  mapAdd : Nat → Bool := fun _ => true

/-- `ContainsOnlyUsAscii`: from the blank, 32, to the tilde, 126. -/
def containsOnlyUsAscii (text : String) : Bool :=
  text.toList.all fun c => 32 ≤ c.toNat && c.toNat ≤ 126

/-- `Map_Add` on the properties of an event: the filter of the map and its keys are checked. -/
def mapAdd (properties : List (String × String)) (key value : String) (succeeds : Bool) :
    Option (List (String × String)) :=
  if properties.any fun p => p.1 = key then none
  else if !(containsOnlyUsAscii key && containsOnlyUsAscii value) then none
  else if !succeeds then none
  else some (properties ++ [(key, value)])

/-- `KEY_NAME_ENQUEUED_TIME`. -/
def keyNameEnqueuedTime : String := "x-opt-enqueued-time"

/-- One round of the loop of `ProcessMessageAnnotations`. -/
def processAnnotationPair (env : DecodeEnv) (event : EventData)
    (pair : Option (ReceivedValue × ReceivedValue) × Nat) : Option EventData := do
  let (key, value) ← pair.1
  let key ← key.symbol?
  if key = keyNameEnqueuedTime then
    let ms ← value.timestamp?
    if env.setEnqueuedTimestamp pair.2 then
      some { event with enqueuedTimestampUTC := ms.toUInt64 }
    else none
  else some event

/-- `ProcessMessageAnnotations`. -/
def processMessageAnnotations (env : DecodeEnv) (message : ReceivedMessage) (event : EventData) :
    Option EventData :=
  match message.messageAnnotations with
  | none => none
  | some none => some event
  | some (some none) => none
  | some (some (some map)) => map.zipIdx.foldlM (processAnnotationPair env) event

/-- One round of the loop of `ProcessApplicationProperties`. -/
def processPropertyPair (env : DecodeEnv) (event : EventData)
    (pair : Option (ReceivedValue × ReceivedValue) × Nat) : Option EventData := do
  let (key, value) ← pair.1
  let key ← key.string?
  let value ← value.string?
  let properties ← mapAdd event.properties key value (env.mapAdd pair.2)
  some { event with properties := properties }

/-- `ProcessApplicationProperties`. -/
def processApplicationProperties (env : DecodeEnv) (message : ReceivedMessage)
    (event : EventData) : Option EventData :=
  if !env.eventDataProperties then none
  else
    match message.applicationProperties with
    | none => none
    | some none => some event
    | some (some none) => none
    | some (some (some map)) => map.zipIdx.foldlM (processPropertyPair env) event

/-- `EHR_LL_OnMessageReceived` up to the callback: the event, or `none` when the message is
rejected. -/
def decodeMessage (env : DecodeEnv) (message : ReceivedMessage) : Option EventData := do
  let buffer ← message.bodyData
  if !env.eventDataCreate then none
  else
    let event ← processMessageAnnotations env message { buffer := buffer }
    processApplicationProperties env message event

end EventHubs
