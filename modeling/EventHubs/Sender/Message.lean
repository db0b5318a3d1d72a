import EventHubs.Sender.Types
import Mathlib.Data.List.Basic

/-!
# From an entry to a uAMQP message

The part of `EventHubClient_LL_DoWork` that turns an entry of `outgoingEvents` into the message
that is given to uAMQP: the single-event path, which carries payload, partition key and
properties, and `create_batch_message`, which serialises each event into a data section of its
own. Every call that can fail has its outcome in the environment.

## Main definitions

* `BuildCall`, `BuildEnv` — the outside.
* `addPartitionKeyToMessage`, `createPropertiesMap`, `createBatchMessage`, `buildMessage`.
-/

namespace EventHubs

/-- The calls that can fail while a message is built. An index is the position of the event in
its entry, a second one the position of a property in its map. -/
inductive BuildCall
  | messageCreate
  | messageSetMessageFormat
  | eventDataGetData (index : Nat)
  | messageAddBodyAMQPData (index : Nat)
  | partitionMapCreate
  | partitionNameCreate
  | partitionValueCreate
  | partitionMapSet
  | partitionAnnotationCreate
  | messageSetMessageAnnotations
  | eventDataProperties (index : Nat)
  | mapGetInternals (index : Nat)
  | propertiesMapCreate (index : Nat)
  | propertyKeyCreate (index i : Nat)
  | propertyValueCreate (index i : Nat)
  | propertySet (index i : Nat)
  | messageSetApplicationProperties
  | createData (index : Nat)
  | createApplicationProperties (index : Nat)
  | applicationPropertiesSize (index : Nat)
  | dataSize (index : Nat)
  | malloc (index : Nat)
  | applicationPropertiesEncode (index : Nat)
  | dataEncode (index : Nat)
  deriving DecidableEq, Repr

/-- The AMQP values that `create_batch_message` serialises. -/
inductive AMQPValue
  | applicationProperties (properties : List (String × String))
  | data (bytes : List UInt8)
  deriving DecidableEq, Repr

/-- What the environment contributes to building a message: the outcomes of the calls, and the
bytes that `amqpvalue_encode` produces. -/
structure BuildEnv where
  succeeds : BuildCall → Bool := fun _ => true
  encode : AMQPValue → List UInt8 := fun _ => []

/-- `PARTITION_KEY_NAME`. -/
def partitionKeyName : String := "x-opt-partition-key"

/-- `add_partition_key_to_message`. -/
def addPartitionKeyToMessage (env : BuildEnv) (message : AMQPMessage) (event : EventData) :
    Option AMQPMessage :=
  match event.partitionKey with
  | none => some message
  | some key =>
    if env.succeeds .partitionMapCreate && env.succeeds .partitionNameCreate &&
        env.succeeds .partitionValueCreate && env.succeeds .partitionMapSet &&
        env.succeeds .partitionAnnotationCreate && env.succeeds .messageSetMessageAnnotations then
      some { message with messageAnnotations := some [(partitionKeyName, key)] }
    else none

/-- `create_properties_map` on the event at `index`: `none` when it fails, `some none` when it
leaves a NULL map. -/
def createPropertiesMap (env : BuildEnv) (index : Nat) (event : EventData) :
    Option (Option (List (String × String))) :=
  if !env.succeeds (.eventDataProperties index) then none
  else if !env.succeeds (.mapGetInternals index) then none
  else if event.properties.length = 0 then some none
  else if !env.succeeds (.propertiesMapCreate index) then none
  else if (List.range event.properties.length).all fun i =>
      env.succeeds (.propertyKeyCreate index i) && env.succeeds (.propertyValueCreate index i) &&
        env.succeeds (.propertySet index i) then
    some (some event.properties)
  else none

/-- The application properties of one event of a batch: their bytes, none without properties. -/
def batchProperties (env : BuildEnv) (index : Nat) (properties : Option (List (String × String))) :
    Option (List UInt8) :=
  match properties with
  | none => some []
  | some properties =>
    if env.succeeds (.createApplicationProperties index) &&
        env.succeeds (.applicationPropertiesSize index) then
      some (env.encode (.applicationProperties properties))
    else none

/-- One round of the loop of `create_batch_message`: the data section it adds. The length of the
payload is cast to 32 bits. -/
def batchSection (env : BuildEnv) (index : Nat) (event : EventData) : Option (List UInt8) :=
  if !env.succeeds (.eventDataGetData index) then none
  else
    match createPropertiesMap env index event with
    | none => none
    | some properties =>
      if !env.succeeds (.createData index) then none
      else
        match batchProperties env index properties with
        | none => none
        | some propertiesBytes =>
          let length : UInt32 := .ofNat event.buffer.length
          if env.succeeds (.dataSize index) && env.succeeds (.malloc index) &&
              (properties.isNone || env.succeeds (.applicationPropertiesEncode index)) &&
              env.succeeds (.dataEncode index) &&
              env.succeeds (.messageAddBodyAMQPData index) then
            some (propertiesBytes ++ env.encode (.data (event.buffer.take length.toNat)))
          else none

/-- The loop of `create_batch_message` from the event at `index` on: the data sections. -/
def batchSections (env : BuildEnv) : Nat → List EventData → Option (List (List UInt8))
  | _, [] => some []
  | index, event :: rest =>
    match batchSection env index event with
    | none => none
    | some bytes => (batchSections env (index + 1) rest).map (bytes :: ·)

/-- `create_batch_message`. -/
def createBatchMessage (env : BuildEnv) (message : AMQPMessage)
    (eventDataList : List EventData) : Option AMQPMessage :=
  if !env.succeeds .messageSetMessageFormat then none
  else
    (batchSections env 0 eventDataList).map fun sections =>
      { message with
        messageFormat := some 0x80013700
        bodyData := message.bodyData ++ sections }

/-- The single-event path of `EventHubClient_LL_DoWork`. -/
def createSingleMessage (env : BuildEnv) (message : AMQPMessage) (event : EventData) :
    Option AMQPMessage :=
  if !env.succeeds (.eventDataGetData 0) then none
  else if !env.succeeds (.messageAddBodyAMQPData 0) then none
  else
    let message := { message with bodyData := message.bodyData ++ [event.buffer] }
    match addPartitionKeyToMessage env message event with
    | none => none
    | some message =>
      match createPropertiesMap env 0 event with
      | none => none
      | some none => some message
      | some (some properties) =>
        if env.succeeds .messageSetApplicationProperties then
          some { message with applicationProperties := some properties }
        else none

/-- The message for an entry, or `none` when `is_error` is set on the way. -/
def buildMessage (env : BuildEnv) (eventDataList : List EventData) : Option AMQPMessage :=
  if !env.succeeds .messageCreate then none
  else
    match eventDataList with
    | [event] => createSingleMessage env {} event
    | _ => createBatchMessage env {} eventDataList

end EventHubs
