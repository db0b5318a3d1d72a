import EventHubs.Library.Ledger
import EventHubs.Sender.Delivery
import EventHubs.Sender.Framing

/-!
# The objects of a message

The building of a message with the objects that it creates on the way: the message, the AMQP values
and the memory for an encoded event. What is built is `buildMessage`. Each object is destroyed once
on every path but one: when `amqpvalue_create_data` fails in `create_batch_message`, the properties
map of the event is left.

## Main definitions

* `BuildObject` — what is created.
* `BuildHandles.addPartitionKeyToMessage`, `BuildHandles.createPropertiesMap`,
  `BuildHandles.createBatchMessage`, `BuildHandles.buildMessage` — the functions with their objects.
* `leavesMap` — `amqpvalue_create_data` fails on an event with properties.
* `EventHubClientLL.ObjectsState`, `EventHubClientLL.objectsMachine` — the low-level sender with the
  objects of its messages.

## Main results

* `BuildHandles.buildMessage_fst`, `BuildHandles.buildMessage_leaves`.
* `EventHubClientLL.objectsStep_holding`, `EventHubClientLL.run_destroys_objects_iff`.
-/

namespace EventHubs

/-- What is created while a message is built. -/
inductive BuildObject
  | message
  | amqpValue
  | bytes
  deriving DecidableEq, Repr

namespace BuildHandles

/-- `add_partition_key_to_message`. -/
def addPartitionKeyToMessage (env : BuildEnv) (message : AMQPMessage) (event : EventData)
    (l : Ledger BuildObject) : Option AMQPMessage × Ledger BuildObject :=
  match event.partitionKey with
  | none => (some message, l)
  | some key =>
    if !env.succeeds .partitionMapCreate then (none, l)
    else
      let partitionMap := l.next
      let l := l.create .amqpValue
      if !env.succeeds .partitionNameCreate then (none, l.destroy partitionMap)
      else
        let partitionName := l.next
        let l := l.create .amqpValue
        if !env.succeeds .partitionValueCreate then
          (none, (l.destroy partitionName).destroy partitionMap)
        else
          let partitionValue := l.next
          let l := l.create .amqpValue
          if !env.succeeds .partitionMapSet then
            (none, l.destroyAll [partitionValue, partitionName, partitionMap])
          else if !env.succeeds .partitionAnnotationCreate then
            (none, l.destroyAll [partitionValue, partitionName, partitionMap])
          else
            let partitionAnnotation := l.next
            let l := l.create .amqpValue
            (if env.succeeds .messageSetMessageAnnotations then
                some { message with messageAnnotations := some [(partitionKeyName, key)] }
              else none,
              l.destroyAll [partitionValue, partitionName, partitionMap, partitionAnnotation])

/-- The loop of `create_properties_map` from the property at `i` on, `count` rounds: whether all of
them go through. -/
def fillPropertiesMap (env : BuildEnv) (index : Nat) :
    Nat → Nat → Ledger BuildObject → Bool × Ledger BuildObject
  | _, 0, l => (true, l)
  | i, count + 1, l =>
    if !env.succeeds (.propertyKeyCreate index i) then (false, l)
    else
      let propertyKey := l.next
      let l := l.create .amqpValue
      if !env.succeeds (.propertyValueCreate index i) then (false, l.destroy propertyKey)
      else
        let propertyValue := l.next
        let l := (l.create .amqpValue).destroyAll [propertyKey, propertyValue]
        if !env.succeeds (.propertySet index i) then (false, l)
        else fillPropertiesMap env index (i + 1) count l

/-- `create_properties_map` on the event at `index`: `none` when it fails, `some none` when it
leaves a NULL map, otherwise the handle of the map and what is in it. -/
def createPropertiesMap (env : BuildEnv) (index : Nat) (event : EventData)
    (l : Ledger BuildObject) :
    Option (Option (ℕ × List (String × String))) × Ledger BuildObject :=
  if !env.succeeds (.eventDataProperties index) then (none, l)
  else if !env.succeeds (.mapGetInternals index) then (none, l)
  else if event.properties.length = 0 then (some none, l)
  else if !env.succeeds (.propertiesMapCreate index) then (none, l)
  else
    let x := fillPropertiesMap env index 0 event.properties.length (l.create .amqpValue)
    if x.1 then (some (some (l.next, event.properties)), x.2) else (none, x.2.destroy l.next)

/-- The memory of one event of a batch: it is filled and given to the message. -/
def writeSection (env : BuildEnv) (index : Nat) (event : EventData)
    (properties : Option (List (String × String))) (l : Ledger BuildObject) :
    Option (List UInt8) × Ledger BuildObject :=
  if !env.succeeds (.dataSize index) then (none, l)
  else if !env.succeeds (.malloc index) then (none, l)
  else
    l.holding .bytes fun l =>
      let length : UInt32 := .ofNat event.buffer.length
      (if (properties.isNone || env.succeeds (.applicationPropertiesEncode index)) &&
          env.succeeds (.dataEncode index) && env.succeeds (.messageAddBodyAMQPData index) then
          some (propertiesBytes env properties ++
            env.encode (.data (event.buffer.take length.toNat)))
        else none, l)

/-- The application properties of one event of a batch around its memory. -/
def serialize (env : BuildEnv) (index : Nat) (event : EventData)
    (properties : Option (List (String × String))) (l : Ledger BuildObject) :
    Option (List UInt8) × Ledger BuildObject :=
  match properties with
  | none => writeSection env index event none l
  | some properties =>
    if !env.succeeds (.createApplicationProperties index) then (none, l)
    else
      l.holding .amqpValue fun l =>
        if !env.succeeds (.applicationPropertiesSize index) then (none, l)
        else writeSection env index event (some properties) l

/-- One round of the loop of `create_batch_message`: the data section it adds. -/
def batchSection (env : BuildEnv) (index : Nat) (event : EventData) (l : Ledger BuildObject) :
    Option (List UInt8) × Ledger BuildObject :=
  if !env.succeeds (.eventDataGetData index) then (none, l)
  else
    let x := createPropertiesMap env index event l
    match x.1 with
    | none => (none, x.2)
    | some uamqpPropertiesMap =>
      -- without a data value the round is over, and nothing destroys the map
      if !env.succeeds (.createData index) then (none, x.2)
      else
        let y := serialize env index event (uamqpPropertiesMap.map Prod.snd) (x.2.create .amqpValue)
        (y.1, (y.2.destroyAll (uamqpPropertiesMap.map Prod.fst).toList).destroy x.2.next)

/-- The loop of `create_batch_message` from the event at `index` on: the data sections. -/
def batchSections (env : BuildEnv) :
    Nat → List EventData → Ledger BuildObject → Option (List (List UInt8)) × Ledger BuildObject
  | _, [], l => (some [], l)
  | index, event :: rest, l =>
    let x := batchSection env index event l
    match x.1 with
    | none => (none, x.2)
    | some bytes =>
      let y := batchSections env (index + 1) rest x.2
      (y.1.map (bytes :: ·), y.2)

/-- `create_batch_message`. -/
def createBatchMessage (env : BuildEnv) (message : AMQPMessage) (eventDataList : List EventData)
    (l : Ledger BuildObject) : Option AMQPMessage × Ledger BuildObject :=
  if !env.succeeds .messageSetMessageFormat then (none, l)
  else
    let x := batchSections env 0 eventDataList l
    (x.1.map fun sections =>
      { message with
        messageFormat := some 0x80013700
        bodyData := message.bodyData ++ sections }, x.2)

/-- The single-event path of `EventHubClient_LL_DoWork`. -/
def createSingleMessage (env : BuildEnv) (message : AMQPMessage) (event : EventData)
    (l : Ledger BuildObject) : Option AMQPMessage × Ledger BuildObject :=
  if !env.succeeds (.eventDataGetData 0) then (none, l)
  else if !env.succeeds (.messageAddBodyAMQPData 0) then (none, l)
  else
    let message := { message with bodyData := message.bodyData ++ [event.buffer] }
    let x := addPartitionKeyToMessage env message event l
    match x.1 with
    | none => (none, x.2)
    | some message =>
      let y := createPropertiesMap env 0 event x.2
      match y.1 with
      | none => (none, y.2)
      | some none => (some message, y.2)
      | some (some (propertiesMap, properties)) =>
        (if env.succeeds .messageSetApplicationProperties then
            some { message with applicationProperties := some properties }
          else none,
          y.2.destroy propertiesMap)

/-- The part of `EventHubClient_LL_DoWork` that fills the message of an entry. -/
def fillMessage (env : BuildEnv) (eventDataList : List EventData) (l : Ledger BuildObject) :
    Option AMQPMessage × Ledger BuildObject :=
  match eventDataList with
  | [event] => createSingleMessage env {} event l
  | _ => createBatchMessage env {} eventDataList l

/-- The message of an entry from `message_create` on: its handle, and what it is filled with unless
that fails. Nothing here destroys it. -/
def buildMessage (env : BuildEnv) (eventDataList : List EventData) (l : Ledger BuildObject) :
    Option (ℕ × Option AMQPMessage) × Ledger BuildObject :=
  if !env.succeeds .messageCreate then (none, l)
  else
    let x := fillMessage env eventDataList (l.create .message)
    (some (l.next, x.1), x.2)

end BuildHandles

/-- In a round of the loop of `create_batch_message`, `amqpvalue_create_data` fails on an event that
has got a properties map. -/
def sectionLeavesMap (env : BuildEnv) (index : Nat) (event : EventData) : Bool :=
  env.succeeds (.eventDataGetData index) && !env.succeeds (.createData index) &&
    (createPropertiesMap env index event).join.isSome

/-- This happens to an event from the one at `index` on, after rounds that go through. -/
def leavesMapFrom (env : BuildEnv) : Nat → List EventData → Bool
  | _, [] => false
  | index, event :: rest =>
    sectionLeavesMap env index event ||
      (batchSection env index event).isSome && leavesMapFrom env (index + 1) rest

/-- `amqpvalue_create_data` fails on an event of a batch that has got a properties map. -/
def leavesMap (env : BuildEnv) (eventDataList : List EventData) : Bool :=
  env.succeeds .messageCreate &&
    match eventDataList with
    | [_] => false
    | _ => env.succeeds .messageSetMessageFormat && leavesMapFrom env 0 eventDataList

namespace BuildHandles

variable (env : BuildEnv) (index : Nat) (event : EventData) (message : AMQPMessage)
  (l : Ledger BuildObject)

/-! ### What is built -/

theorem addPartitionKeyToMessage_fst :
    (addPartitionKeyToMessage env message event l).1 =
      EventHubs.addPartitionKeyToMessage env message event := by
  unfold addPartitionKeyToMessage EventHubs.addPartitionKeyToMessage
  cases event.partitionKey with
  | none => rfl
  | some key =>
    dsimp only
    split_ifs <;> simp_all

theorem fillPropertiesMap_fst (i count : Nat) :
    (fillPropertiesMap env index i count l).1 = (List.range' i count).all fun i =>
      env.succeeds (.propertyKeyCreate index i) && env.succeeds (.propertyValueCreate index i) &&
        env.succeeds (.propertySet index i) := by
  induction count generalizing i l with
  | zero => rfl
  | succ count ih =>
    rw [fillPropertiesMap, List.range'_succ, List.all_cons]
    dsimp only
    split_ifs <;> simp_all

theorem createPropertiesMap_fst :
    (createPropertiesMap env index event l).1.map (Option.map Prod.snd) =
      EventHubs.createPropertiesMap env index event := by
  unfold createPropertiesMap EventHubs.createPropertiesMap
  dsimp only
  rw [fillPropertiesMap_fst, ← List.range_eq_range']
  split_ifs <;> rfl

theorem writeSection_fst (properties : Option (List (String × String))) :
    (writeSection env index event properties l).1 =
      if env.succeeds (.dataSize index) && env.succeeds (.malloc index) &&
          (properties.isNone || env.succeeds (.applicationPropertiesEncode index)) &&
          env.succeeds (.dataEncode index) && env.succeeds (.messageAddBodyAMQPData index) then
        some (propertiesBytes env properties ++
          env.encode (.data (event.buffer.take (UInt32.ofNat event.buffer.length).toNat)))
      else none := by
  unfold writeSection
  split_ifs <;> simp_all

theorem serialize_fst (properties : Option (List (String × String))) :
    (serialize env index event properties l).1 =
      (batchProperties env index properties).bind fun _ =>
        (writeSection env index event properties l).1 := by
  unfold serialize batchProperties
  cases properties with
  | none => rfl
  | some properties =>
    dsimp only
    split_ifs <;> simp_all [writeSection_fst]

theorem batchSection_fst :
    (batchSection env index event l).1 = EventHubs.batchSection env index event := by
  unfold batchSection EventHubs.batchSection
  by_cases hdata : (!env.succeeds (.eventDataGetData index)) = true
  · rw [if_pos hdata, if_pos hdata]
  rw [if_neg hdata, if_neg hdata, ← createPropertiesMap_fst env index event l]
  dsimp only
  cases (createPropertiesMap env index event l).1 with
  | none => rfl
  | some properties =>
    dsimp only [Option.map_some]
    by_cases hcreate : (!env.succeeds (.createData index)) = true
    · rw [if_pos hcreate, if_pos hcreate]
    rw [if_neg hcreate, if_neg hcreate, serialize_fst]
    cases hbytes : batchProperties env index (properties.map Prod.snd) with
    | none => rfl
    | some bytes =>
      dsimp only [Option.bind_some]
      rw [writeSection_fst, batchProperties_eq_some hbytes]

theorem batchSections_fst (events : List EventData) :
    (batchSections env index events l).1 = EventHubs.batchSections env index events := by
  induction events generalizing index l with
  | nil => rfl
  | cons event events ih =>
    rw [batchSections, EventHubs.batchSections]
    dsimp only
    rw [batchSection_fst]
    cases EventHubs.batchSection env index event with
    | none => rfl
    | some bytes => exact congrArg (Option.map (bytes :: ·)) (ih (index + 1) _)

theorem createSingleMessage_fst :
    (createSingleMessage env message event l).1 =
      EventHubs.createSingleMessage env message event := by
  unfold createSingleMessage EventHubs.createSingleMessage
  by_cases hdata : (!env.succeeds (.eventDataGetData 0)) = true
  · rw [if_pos hdata, if_pos hdata]
  rw [if_neg hdata, if_neg hdata]
  by_cases hbody : (!env.succeeds (.messageAddBodyAMQPData 0)) = true
  · rw [if_pos hbody, if_pos hbody]
  rw [if_neg hbody, if_neg hbody]
  dsimp only
  rw [← addPartitionKeyToMessage_fst env event _ l]
  generalize addPartitionKeyToMessage env _ event l = x
  obtain ⟨_ | message, l⟩ := x
  · rfl
  · dsimp only
    rw [← createPropertiesMap_fst env 0 event l]
    generalize createPropertiesMap env 0 event l = y
    obtain ⟨_ | _ | ⟨propertiesMap, properties⟩, l⟩ := y <;> rfl

theorem createBatchMessage_fst (events : List EventData) :
    (createBatchMessage env message events l).1 =
      EventHubs.createBatchMessage env message events := by
  unfold createBatchMessage EventHubs.createBatchMessage
  split_ifs
  · rfl
  · exact congrArg (Option.map _) (batchSections_fst env 0 l events)

/-- What is built is the message without its objects. -/
theorem buildMessage_fst (events : List EventData) :
    (buildMessage env events l).1.bind Prod.snd = EventHubs.buildMessage env events := by
  unfold buildMessage fillMessage EventHubs.buildMessage
  split_ifs
  · rfl
  · rcases events with _ | ⟨event, _ | ⟨event', events⟩⟩
    · exact createBatchMessage_fst env {} _ []
    · exact createSingleMessage_fst env event {} _
    · exact createBatchMessage_fst env {} _ (event :: event' :: events)

/-! ### What is left -/

open Ledger (Leaves)

theorem addPartitionKeyToMessage_leaves :
    Leaves l [] (addPartitionKeyToMessage env message event l).2 := by
  have hmap := (Leaves.refl l).create BuildObject.amqpValue
  have hname := hmap.create BuildObject.amqpValue
  have hvalue := hname.create BuildObject.amqpValue
  have hthree := hvalue.destroyAll_perm (List.reverse_perm [l.next, l.next + 1, l.next + 1 + 1])
  have hswap : [l.next + 1 + 1, l.next + 1, l.next, l.next + 1 + 1 + 1].Perm
      [l.next, l.next + 1, l.next + 1 + 1, l.next + 1 + 1 + 1] :=
    (List.reverse_perm [l.next, l.next + 1, l.next + 1 + 1]).append_right [l.next + 1 + 1 + 1]
  have hfour := (hvalue.create BuildObject.amqpValue).destroyAll_perm hswap
  unfold addPartitionKeyToMessage
  cases event.partitionKey with
  | none => exact .refl l
  | some key =>
    dsimp only
    by_cases hcreated : (!env.succeeds .partitionMapCreate) = true
    · rw [if_pos hcreated]
      exact .refl l
    rw [if_neg hcreated]
    by_cases hnamed : (!env.succeeds .partitionNameCreate) = true
    · rw [if_pos hnamed]
      exact hmap.destroyAll_perm (.refl [l.next])
    rw [if_neg hnamed]
    by_cases hvalued : (!env.succeeds .partitionValueCreate) = true
    · rw [if_pos hvalued]
      exact hname.destroyAll_perm (List.reverse_perm [l.next, l.next + 1])
    rw [if_neg hvalued]
    by_cases hset : (!env.succeeds .partitionMapSet) = true
    · rw [if_pos hset]
      exact hthree
    rw [if_neg hset]
    by_cases hannotated : (!env.succeeds .partitionAnnotationCreate) = true
    · rw [if_pos hannotated]
      exact hthree
    rw [if_neg hannotated]
    simpa only [Ledger.create_next] using hfour

theorem fillPropertiesMap_leaves (i count : Nat) :
    Leaves l [] (fillPropertiesMap env index i count l).2 := by
  induction count generalizing i l with
  | zero => exact .refl l
  | succ count ih =>
    have hkey := (Leaves.refl l).create BuildObject.amqpValue
    have hboth : Leaves l [] (((l.create .amqpValue).create .amqpValue).destroyAll
        [l.next, l.next + 1]) := (hkey.create BuildObject.amqpValue).destroyAll_perm (.refl _)
    rw [fillPropertiesMap]
    dsimp only
    by_cases hcreate : (!env.succeeds (.propertyKeyCreate index i)) = true
    · rw [if_pos hcreate]
      exact .refl l
    rw [if_neg hcreate]
    by_cases hvalue : (!env.succeeds (.propertyValueCreate index i)) = true
    · rw [if_pos hvalue]
      exact hkey.destroyAll_perm (.refl [l.next])
    rw [if_neg hvalue]
    by_cases hset : (!env.succeeds (.propertySet index i)) = true
    · rw [if_pos hset]
      exact hboth
    rw [if_neg hset]
    exact hboth.trans (ih _ (i + 1))

/-- The map that a caller gets, as what is left. -/
def mapLeft (x : Option (Option (ℕ × List (String × String)))) : List (ℕ × BuildObject) :=
  (x.join.map fun p => (p.1, BuildObject.amqpValue)).toList

/-- The map is left to the caller, who knows it exactly when the function succeeds. -/
theorem createPropertiesMap_leaves :
    Leaves l (mapLeft (createPropertiesMap env index event l).1)
      (createPropertiesMap env index event l).2 := by
  unfold createPropertiesMap
  dsimp only
  have hcreate := (Leaves.refl l).create BuildObject.amqpValue
  have hfill := hcreate.trans
    (fillPropertiesMap_leaves env index (l.create .amqpValue) 0 event.properties.length)
  split_ifs
  · exact .refl l
  · exact .refl l
  · exact .refl l
  · exact .refl l
  · exact hfill
  · exact hfill.destroyAll_perm (.refl [l.next])

theorem writeSection_leaves (properties : Option (List (String × String))) :
    Leaves l [] (writeSection env index event properties l).2 := by
  unfold writeSection
  split_ifs
  · exact .refl l
  · exact .refl l
  · exact Leaves.holding (.refl _)
  · exact Leaves.holding (.refl _)

theorem serialize_leaves (properties : Option (List (String × String))) :
    Leaves l [] (serialize env index event properties l).2 := by
  unfold serialize
  cases properties with
  | none => exact writeSection_leaves env index event l none
  | some properties =>
    dsimp only
    by_cases hcreate : (!env.succeeds (.createApplicationProperties index)) = true
    · rw [if_pos hcreate]
      exact .refl l
    rw [if_neg hcreate]
    refine Leaves.holding ?_
    split_ifs
    · exact .refl _
    · exact writeSection_leaves env index event _ (some properties)

/-- What is left when a flag is set: one AMQP value. -/
def valueLeft (left : Bool) (n : ℕ) : List (ℕ × BuildObject) :=
  if left then [(n, .amqpValue)] else []

/-- What one round of the loop of `create_batch_message` leaves. -/
theorem batchSection_leaves : ∃ n, Leaves l (valueLeft (sectionLeavesMap env index event) n)
    (batchSection env index event l).2 := by
  have hmap := createPropertiesMap_leaves env index event l
  unfold batchSection sectionLeavesMap
  rw [← createPropertiesMap_fst env index event l]
  cases hdata : env.succeeds (.eventDataGetData index) with
  | false => exact ⟨0, .refl l⟩
  | true =>
    rw [if_neg (by simp)]
    generalize createPropertiesMap env index event l = x at hmap ⊢
    obtain ⟨_ | map, k⟩ := x
    · refine ⟨0, ?_⟩
      cases env.succeeds (.createData index) <;> exact hmap
    · dsimp only
      cases env.succeeds (.createData index) with
      | false =>
        cases map with
        | none => exact ⟨0, hmap⟩
        | some p => exact ⟨p.1, hmap⟩
      | true =>
        have hdone := (hmap.create BuildObject.amqpValue).trans
          (serialize_leaves env index event (k.create .amqpValue) (map.map Prod.snd))
        refine ⟨0, ?_⟩
        cases map with
        | none => exact hdone.destroyAll_perm (.refl [k.next])
        | some p => exact hdone.destroyAll_perm (.refl [p.1, k.next])

/-- A round that goes through has got its data value. -/
theorem sectionLeavesMap_of_section {bytes : List UInt8}
    (h : EventHubs.batchSection env index event = some bytes) :
    sectionLeavesMap env index event = false := by
  unfold EventHubs.batchSection at h
  unfold sectionLeavesMap
  obtain ⟨-, h⟩ := Option.ite_none_left_eq_some.mp h
  cases hmap : EventHubs.createPropertiesMap env index event with
  | none => simp
  | some properties =>
    rw [hmap] at h
    obtain ⟨hcreate, -⟩ := Option.ite_none_left_eq_some.mp h
    simp [hcreate]

/-- What the loop of `create_batch_message` leaves. -/
theorem batchSections_leaves (events : List EventData) :
    ∃ n, Leaves l (valueLeft (leavesMapFrom env index events) n)
      (batchSections env index events l).2 := by
  induction events generalizing index l with
  | nil => exact ⟨0, .refl l⟩
  | cons event events ih =>
    obtain ⟨n, hsection⟩ := batchSection_leaves env index event l
    rw [batchSections, leavesMapFrom]
    dsimp only
    cases hbytes : (batchSection env index event l).1 with
    | none =>
      rw [batchSection_fst] at hbytes
      exact ⟨n, by simpa [hbytes] using hsection⟩
    | some bytes =>
      rw [batchSection_fst] at hbytes
      obtain ⟨m, hrest⟩ := ih (index + 1) (batchSection env index event l).2
      rw [sectionLeavesMap_of_section env index event hbytes] at hsection ⊢
      rw [hbytes]
      exact ⟨m, hsection.trans hrest⟩

theorem createSingleMessage_leaves :
    Leaves l [] (createSingleMessage env message event l).2 := by
  unfold createSingleMessage
  by_cases hdata : (!env.succeeds (.eventDataGetData 0)) = true
  · rw [if_pos hdata]
    exact .refl l
  rw [if_neg hdata]
  by_cases hbody : (!env.succeeds (.messageAddBodyAMQPData 0)) = true
  · rw [if_pos hbody]
    exact .refl l
  rw [if_neg hbody]
  dsimp only
  have hadd := addPartitionKeyToMessage_leaves env event
    { message with bodyData := message.bodyData ++ [event.buffer] } l
  generalize addPartitionKeyToMessage env _ event l = x at hadd ⊢
  obtain ⟨_ | message, k⟩ := x
  · exact hadd
  · dsimp only
    have hmap := hadd.trans (createPropertiesMap_leaves env 0 event k)
    generalize createPropertiesMap env 0 event k = y at hmap ⊢
    obtain ⟨_ | _ | ⟨propertiesMap, properties⟩, k⟩ := y
    · exact hmap
    · exact hmap
    · exact hmap.destroyAll_perm (.refl [propertiesMap])

/-- A message that is there, as what is left. -/
def messageLeft (message : Option ℕ) : List (ℕ × BuildObject) :=
  (message.map fun m => (m, BuildObject.message)).toList

@[simp]
theorem map_fst_messageLeft (message : Option ℕ) :
    (messageLeft message).map Prod.fst = message.toList := by
  cases message <;> rfl

/-- Whatever fails, nothing is destroyed that is not there, and nothing is left but the message and
the properties map of an event for which `amqpvalue_create_data` fails. -/
theorem buildMessage_leaves (events : List EventData) :
    ∃ n, Leaves l (messageLeft ((buildMessage env events l).1.map Prod.fst) ++
      valueLeft (leavesMap env events) n) (buildMessage env events l).2 := by
  have hbatch : ∀ (events : List EventData) (k : Ledger BuildObject),
      ∃ n, Leaves k (valueLeft
          (env.succeeds .messageSetMessageFormat && leavesMapFrom env 0 events) n)
        (createBatchMessage env {} events k).2 := by
    intro events k
    unfold createBatchMessage
    cases env.succeeds .messageSetMessageFormat with
    | false => exact ⟨0, .refl k⟩
    | true => exact batchSections_leaves env 0 k events
  unfold buildMessage fillMessage leavesMap
  cases env.succeeds .messageCreate with
  | false => exact ⟨0, .refl l⟩
  | true =>
    rw [if_neg (by simp)]
    rcases events with _ | ⟨event, _ | ⟨event', events⟩⟩
    · obtain ⟨n, h⟩ := hbatch [] (l.create .message)
      exact ⟨n, h.of_create⟩
    · exact ⟨0, (createSingleMessage_leaves env event {} (l.create .message)).of_create⟩
    · obtain ⟨n, h⟩ := hbatch (event :: event' :: events) (l.create .message)
      exact ⟨n, h.of_create⟩

end BuildHandles

namespace EventHubClientLL

open BuildHandles (messageLeft map_fst_messageLeft valueLeft buildMessage_leaves)

variable {σ ι : Type} (auth : AuthModule σ ι)

/-- The message that a round of the loop of `EventHubClient_LL_DoWork` builds. -/
def builds (s : SenderState σ) : SenderInput ι → Option (BuildEnv × List EventData)
  | .iterate env _ _ =>
    match s.control with
    | .loop (some n) =>
      (s.entry? n).bind fun e =>
        if e.currentStatus = .waitingToBeSent then some (env, e.eventDataList) else none
    | _ => none
  | _ => none

/-- A low-level sender with the objects of its messages. `message` is the message of the present
round while `messagesender_send_async` runs. -/
structure ObjectsState (σ : Type) where
  sender : SenderState σ
  message : Option ℕ := none
  objects : Ledger BuildObject := {}

/-- What a step creates: the message of the round that it begins. -/
def beginRound (x : ObjectsState σ) (i : SenderInput ι) : Option ℕ × Ledger BuildObject :=
  match builds x.sender i with
  | none => (x.message, x.objects)
  | some b =>
    let y := BuildHandles.buildMessage b.1 b.2 x.objects
    (y.1.map Prod.fst, y.2)

/-- `message_destroy`: at once when the message was not given to uAMQP, else as soon as
`messagesender_send_async` has returned. -/
def endRound (t : SenderState σ) (message : Option ℕ) (l : Ledger BuildObject) : ObjectsState σ :=
  if t.control.hand.isSome then ⟨t, message, l⟩ else ⟨t, none, l.destroyAll message.toList⟩

/-- The low-level sender with the objects of its messages. -/
def objectsMachine : Machine (ObjectsState σ) (SenderInput ι) where
  step x i := (step auth x.sender i).map fun t =>
    let y := beginRound x i
    endRound t y.1 y.2

/-- No data value is missing for an event with properties. -/
def KeepsData (x : ObjectsState σ) (i : SenderInput ι) : Prop :=
  ∀ b, builds x.sender i = some b → leavesMap b.1 b.2 = false

/-- Since `l`, the message in the hands of uAMQP and `made` have been left. -/
structure Holding (l : Ledger BuildObject) (made : List (ℕ × BuildObject)) (x : ObjectsState σ) :
    Prop where
  leaves : l.Leaves (messageLeft x.message ++ made) x.objects
  given : x.message.isSome = true → x.sender.control.hand.isSome = true

/-- A round begins in the loop, when no message is there. -/
theorem Holding.message_eq_none {l : Ledger BuildObject} {made : List (ℕ × BuildObject)}
    {x : ObjectsState σ} (hx : Holding l made x) {i : SenderInput ι}
    {b : BuildEnv × List EventData} (h : builds x.sender i = some b) : x.message = none := by
  have hhand : x.sender.control.hand = none := by
    unfold builds at h
    split at h
    · split at h
      · next hloop => rw [hloop]; rfl
      · cases h
    · cases h
  by_contra hsome
  have hgiven := hx.given (Option.isSome_iff_ne_none.mpr hsome)
  simp [hhand] at hgiven

theorem endRound_holding {l k : Ledger BuildObject} {made : List (ℕ × BuildObject)}
    {message : Option ℕ} (h : l.Leaves (messageLeft message ++ made) k) (t : SenderState σ) :
    Holding l made (endRound t message k) := by
  unfold endRound
  split_ifs with hhand
  · exact ⟨h, fun _ => hhand⟩
  · have hdestroyed := h.destroyAll
    rw [map_fst_messageLeft] at hdestroyed
    exact ⟨hdestroyed, by simp⟩

/-- What one step leaves. -/
theorem objectsStep_holding {l : Ledger BuildObject} {made : List (ℕ × BuildObject)}
    {x y : ObjectsState σ} {i : SenderInput ι} (hx : Holding l made x)
    (h : (objectsMachine auth).step x i = some y) :
    ∃ made', Holding l (made ++ made') y ∧ (made' = [] ↔ KeepsData x i) := by
  obtain ⟨t, -, rfl⟩ := Option.map_eq_some_iff.mp h
  unfold KeepsData beginRound
  cases hbuilds : builds x.sender i with
  | none => exact ⟨[], endRound_holding (by simpa using hx.leaves) t, by simp⟩
  | some b =>
    obtain ⟨n, hbuilt⟩ := buildMessage_leaves b.1 x.objects b.2
    have hkept := hx.leaves
    rw [hx.message_eq_none hbuilds] at hkept
    have hperm := List.perm_append_comm_assoc made
      (messageLeft ((BuildHandles.buildMessage b.1 b.2 x.objects).1.map Prod.fst))
      (valueLeft (leavesMap b.1 b.2) n)
    refine ⟨_, endRound_holding ((hkept.trans hbuilt).perm hperm) t, ?_⟩
    cases hleft : leavesMap b.1 b.2 <;> simp [valueLeft, hleft]

/-- What a run leaves. -/
theorem objectsRun_holding {l : Ledger BuildObject} {made : List (ℕ × BuildObject)}
    {x y : ObjectsState σ} {is : List (SenderInput ι)} (hx : Holding l made x)
    (h : (objectsMachine auth).run x is = some y) :
    ∃ made', Holding l (made ++ made') y ∧
      (made' = [] ↔ (objectsMachine auth).Meets KeepsData x is) := by
  induction is generalizing x made with
  | nil =>
    obtain rfl : x = y := Option.some.inj h
    exact ⟨[], by simpa using hx, by simp [Machine.Meets]⟩
  | cons i is ih =>
    rw [Machine.run_cons] at h
    obtain ⟨u, hu, huy⟩ := Option.bind_eq_some_iff.mp h
    obtain ⟨made', hstep, hiff⟩ := objectsStep_holding auth hx hu
    obtain ⟨made'', hrest, hiff'⟩ := ih hstep huy
    refine ⟨made' ++ made'', by simpa using hrest, ?_⟩
    rw [List.append_eq_nil_iff, hiff, hiff', Machine.Meets]
    refine and_congr_right fun _ => ⟨fun hm v hv => ?_, fun hm => hm u hu⟩
    exact Option.some.inj (hu.symm.trans hv) ▸ hm

/-- Two events with a property each are sent in one batch, and the data value of the second one
cannot be created. -/
def failingBatch : List (SenderInput AuthEnv) :=
  [.sendBatchAsync (some [some { buffer := [7], properties := [("a", "b")] },
      some { buffer := [8], properties := [("c", "d")] }]) (some 1) none { idleTimer := 10 },
    .doWork (doWorkAt 100), .onCBSPutTokenOperationComplete .ok { completeNow := some 101 },
    .uamqpReturn true, .doWork (doWorkAt 102), .doWork (doWorkAt 103),
    .onMessageSenderStateChanged .open .opening, .uamqpReturn true,
    .iterate { succeeds := fun call => call ≠ .createData 1 } 20 true]

end EventHubClientLL

end EventHubs
