import EventHubs.Library.Block
import EventHubs.Sender.PartitionKey
import Mathlib.Algebra.Group.Nat.Defs

/-!
# The framing of a batch

`create_batch_message` with the memory that it fills: for each event a block is allocated with the
sizes that uAMQP reports, and `encode_callback` copies to it the pieces that uAMQP emits, without a
test for the space that is left. Under what is assumed of uAMQP nothing is written outside, and the
function without its memory is `createBatchMessage`.

## Main definitions

* `FramingEnv`, `FramingEnv.Encodes` — the encoder, and what is assumed of it.
* `createBatchMessageOn` — the function with its blocks.
* `batchCalls`, `framed` — the calls that one event needs, and its data section.

## Main results

* `createBatchMessageOn_eq`, `createBatchMessage_eq_some_iff`.
* `createBatchMessageOn_frames`.
-/

namespace EventHubs

/-- The encoder of uAMQP: the sizes that `amqpvalue_get_encoded_size` reports, and the pieces that
a call of `amqpvalue_encode` gives to its callback. -/
structure FramingEnv extends BuildEnv where
  size : AMQPValue → Nat
  emits : BuildCall → AMQPValue → List (List UInt8)

/-- `amqpvalue_encode` emits the encoding in pieces, of the size that is reported; one that fails
emits no more than that. -/
structure FramingEnv.Encodes (env : FramingEnv) : Prop where
  whole : ∀ call value, env.succeeds call = true → (env.emits call value).flatten = env.encode value
  size : ∀ value, (env.encode value).length = env.size value
  partly : ∀ call value, (env.emits call value).flatten.length ≤ env.size value

/-- A block given to `encode_callback`, and whether all encoding to it succeeded. -/
structure EncodedBlock where
  block : Block UInt8
  encoded : Bool
  deriving DecidableEq

/-- `amqpvalue_encode` with `encode_callback`. -/
def encodeOn (env : FramingEnv) (call : BuildCall) (value : AMQPValue) (b : Block UInt8) :
    EncodedBlock :=
  { block := b.appendAll (env.emits call value), encoded := env.succeeds call }

/-- The size of the application properties of one event, 0 without properties. -/
def propertiesSize (env : FramingEnv) (index : Nat) (properties : Option (List (String × String))) :
    Option Nat :=
  match properties with
  | none => some 0
  | some properties =>
    if env.succeeds (.createApplicationProperties index) &&
        env.succeeds (.applicationPropertiesSize index) then
      some (env.size (.applicationProperties properties))
    else none

/-- The two calls of `amqpvalue_encode` on the block of one event. -/
def encodeEvent (env : FramingEnv) (index : Nat) (properties : Option (List (String × String)))
    (dataValue : AMQPValue) (b : Block UInt8) : EncodedBlock :=
  match properties with
  | none => encodeOn env (.dataEncode index) dataValue b
  | some properties =>
    let x := encodeOn env (.applicationPropertiesEncode index) (.applicationProperties properties) b
    if x.encoded then encodeOn env (.dataEncode index) dataValue x.block else x

/-- One round of the loop of `create_batch_message`: the data section that it adds, and the blocks
that it fills. -/
def batchSectionOn (env : FramingEnv) (index : Nat) (event : EventData) :
    Option (List UInt8) × List EncodedBlock :=
  if !env.succeeds (.eventDataGetData index) then (none, [])
  else
    match createPropertiesMap env.toBuildEnv index event with
    | none => (none, [])
    | some properties =>
      let length : UInt32 := .ofNat event.buffer.length
      let dataValue := AMQPValue.data (event.buffer.take length.toNat)
      if !env.succeeds (.createData index) then (none, [])
      else
        match propertiesSize env index properties with
        | none => (none, [])
        | some payloadLength =>
          if !env.succeeds (.dataSize index) then (none, [])
          else
            let payloadLength := payloadLength + env.size dataValue
            if !env.succeeds (.malloc index) then (none, [])
            else
              let x := encodeEvent env index properties dataValue (.alloc payloadLength)
              if x.encoded && env.succeeds (.messageAddBodyAMQPData index) then
                (x.block.read, [x])
              else (none, [x])

/-- The loop of `create_batch_message` from the event at `index` on. -/
def batchSectionsOn (env : FramingEnv) :
    Nat → List EventData → Option (List (List UInt8)) × List EncodedBlock
  | _, [] => (some [], [])
  | index, event :: rest =>
    let x := batchSectionOn env index event
    match x.1 with
    | none => (none, x.2)
    | some bytes =>
      let y := batchSectionsOn env (index + 1) rest
      (y.1.map (bytes :: ·), x.2 ++ y.2)

/-- `create_batch_message` with its blocks. -/
def createBatchMessageOn (env : FramingEnv) (message : AMQPMessage)
    (eventDataList : List EventData) : Option AMQPMessage × List EncodedBlock :=
  if !env.succeeds .messageSetMessageFormat then (none, [])
  else
    let x := batchSectionsOn env 0 eventDataList
    (x.1.map fun sections =>
      { message with
        messageFormat := some 0x80013700
        bodyData := message.bodyData ++ sections }, x.2)

/-- The calls that the property at `i` of the event at `index` needs. -/
def propertyCalls (index i : Nat) : List BuildCall :=
  [.propertyKeyCreate index i, .propertyValueCreate index i, .propertySet index i]

/-- The calls that an event of a batch needs. -/
def batchCalls (index : Nat) (event : EventData) : List BuildCall :=
  [.eventDataGetData index, .eventDataProperties index, .mapGetInternals index,
    .createData index, .dataSize index, .malloc index, .dataEncode index,
    .messageAddBodyAMQPData index] ++
  if event.properties = [] then []
  else
    [.propertiesMapCreate index, .createApplicationProperties index,
      .applicationPropertiesSize index, .applicationPropertiesEncode index] ++
    (List.range event.properties.length).flatMap (propertyCalls index)

/-- The data section of an event: its properties, if it has any, and its payload. -/
def framed (env : BuildEnv) (event : EventData) : List UInt8 :=
  (if event.properties = [] then []
    else env.encode (.applicationProperties event.properties)) ++
  env.encode (.data event.buffer)

/-! ### One event -/

section Event

variable {env : FramingEnv} {index : Nat} {event : EventData}

theorem encodeOn_holds (henc : env.Encodes) (call : BuildCall) (value : AMQPValue)
    {b : Block UInt8} {size : Nat} {as : List UInt8} (hb : b.Holds size as)
    (hroom : as.length + env.size value ≤ size) :
    (∃ bs, (encodeOn env call value b).block.Holds size bs) ∧
    (env.succeeds call = true →
      (encodeOn env call value b).block.Holds size (as ++ env.encode value)) := by
  have hfits : as.length + (env.emits call value).flatten.length ≤ size :=
    Nat.le_trans (Nat.add_le_add_left (henc.partly call value) _) hroom
  have hall := hb.appendAll hfits
  refine ⟨⟨_, hall⟩, fun hsucceeds => ?_⟩
  rw [← henc.whole call value hsucceeds]
  exact hall

/-- The bytes of the application properties of one event. -/
def propertiesBytes (env : BuildEnv) (properties : Option (List (String × String))) : List UInt8 :=
  properties.elim [] fun properties => env.encode (.applicationProperties properties)

theorem propertiesSize_eq (henc : env.Encodes) (properties : Option (List (String × String))) :
    propertiesSize env index properties =
      (batchProperties env.toBuildEnv index properties).map fun _ =>
        (propertiesBytes env.toBuildEnv properties).length := by
  cases properties with
  | none => rfl
  | some properties =>
    simp only [propertiesSize, batchProperties]
    split_ifs
    · exact congrArg some (henc.size _).symm
    · rfl

theorem batchProperties_eq_some {env : BuildEnv} {index : Nat}
    {properties : Option (List (String × String))} {bytes : List UInt8}
    (h : batchProperties env index properties = some bytes) :
    bytes = propertiesBytes env properties := by
  cases properties with
  | none => exact (Option.some.inj h).symm
  | some properties =>
    obtain ⟨-, h⟩ := Option.ite_none_right_eq_some.mp h
    exact (Option.some.inj h).symm

/-- The block of an event is not overrun; encoded whole, it is full. -/
theorem encodeEvent_spec (henc : env.Encodes) (index : Nat)
    (properties : Option (List (String × String)))
    (dataValue : AMQPValue) {size : Nat}
    (hsize : size = (propertiesBytes env.toBuildEnv properties).length + env.size dataValue) :
    let x := encodeEvent env index properties dataValue (.alloc size)
    x.block.overrun = false ∧
    x.encoded = ((properties.isNone || env.succeeds (.applicationPropertiesEncode index)) &&
      env.succeeds (.dataEncode index)) ∧
    (x.encoded = true →
      x.block.Holds size (propertiesBytes env.toBuildEnv properties ++ env.encode dataValue)) := by
  have hnew : (Block.alloc size : Block UInt8).Holds size [] := Block.holds_alloc size
  cases properties with
  | none =>
    obtain ⟨⟨bs, hbs⟩, hall⟩ := encodeOn_holds henc (.dataEncode index) dataValue
      hnew (by rw [hsize]; exact Nat.le_of_eq rfl)
    exact ⟨hbs.overrun, rfl, hall⟩
  | some properties =>
    have hbytes : (env.encode (.applicationProperties properties)).length =
        env.size (.applicationProperties properties) := henc.size _
    have hroom : ([] : List UInt8).length + env.size (.applicationProperties properties) ≤
      size := by
      rw [hsize, List.length_nil, Nat.zero_add, ← hbytes]
      exact Nat.le_add_right _ _
    obtain ⟨⟨bs, hbs⟩, hfirst⟩ :=
      encodeOn_holds henc (.applicationPropertiesEncode index) _ hnew hroom
    cases hsucceeds : env.succeeds (.applicationPropertiesEncode index) with
    | false =>
      have hx : encodeEvent env index (some properties) dataValue (.alloc size) =
          encodeOn env (.applicationPropertiesEncode index) (.applicationProperties properties)
            (.alloc size) := by
        simp [encodeEvent, encodeOn, hsucceeds]
      refine ⟨hx ▸ hbs.overrun, by rw [hx]; simp [encodeOn, hsucceeds], fun h => ?_⟩
      rw [hx] at h
      exact absurd (hsucceeds.symm.trans h) Bool.false_ne_true
    | true =>
      have hx : encodeEvent env index (some properties) dataValue (.alloc size) =
          encodeOn env (.dataEncode index) dataValue
            (encodeOn env (.applicationPropertiesEncode index) (.applicationProperties properties)
              (.alloc size)).block := by
        simp [encodeEvent, encodeOn, hsucceeds]
      obtain ⟨⟨bs', hbs'⟩, hall⟩ := encodeOn_holds henc (.dataEncode index) dataValue
        (hfirst hsucceeds) (by rw [hsize]; exact Nat.le_of_eq rfl)
      rw [hx]
      exact ⟨hbs'.overrun, rfl, hall⟩

/-- The data value of an event; the length of the payload is cast to 32 bits. -/
def payloadValue (event : EventData) : AMQPValue :=
  .data (event.buffer.take (UInt32.ofNat event.buffer.length).toNat)

/-- A round fails before it has a block, or encodes the event to one block. -/
theorem batchSectionOn_cases (env : FramingEnv) (henc : env.Encodes) (index : Nat)
    (event : EventData) :
    (batchSectionOn env index event = (none, []) ∧
      batchSection env.toBuildEnv index event = none) ∨
    ∃ properties x, createPropertiesMap env.toBuildEnv index event = some properties ∧
      x = encodeEvent env index properties (payloadValue event)
        (.alloc ((propertiesBytes env.toBuildEnv properties).length +
          env.size (payloadValue event))) ∧
      batchSectionOn env index event =
        (if x.encoded && env.succeeds (.messageAddBodyAMQPData index) then (x.block.read, [x])
          else (none, [x])) ∧
      batchSection env.toBuildEnv index event =
        if x.encoded && env.succeeds (.messageAddBodyAMQPData index) then
          some (propertiesBytes env.toBuildEnv properties ++ env.encode (payloadValue event))
        else none := by
  unfold batchSectionOn batchSection
  cases env.succeeds (.eventDataGetData index) with
  | false => exact Or.inl ⟨rfl, rfl⟩
  | true =>
    cases createPropertiesMap env.toBuildEnv index event with
    | none => exact Or.inl ⟨rfl, rfl⟩
    | some properties =>
      cases env.succeeds (.createData index) with
      | false => exact Or.inl ⟨rfl, rfl⟩
      | true =>
        simp only [Bool.not_true, Bool.false_eq_true, if_false, propertiesSize_eq henc]
        cases hproperties : batchProperties env.toBuildEnv index properties with
        | none => exact Or.inl ⟨rfl, rfl⟩
        | some bytes =>
          obtain rfl := batchProperties_eq_some hproperties
          cases env.succeeds (.dataSize index) with
          | false => exact Or.inl ⟨rfl, rfl⟩
          | true =>
            cases env.succeeds (.malloc index) with
            | false => exact Or.inl ⟨rfl, rfl⟩
            | true =>
              obtain ⟨-, hencoded, -⟩ :=
                encodeEvent_spec henc index properties (payloadValue event) rfl
              refine Or.inr ⟨properties, _, rfl, rfl, rfl, ?_⟩
              rw [hencoded]
              rfl

/-- Without its memory a round is that of `createBatchMessage`. Its block is not overrun; encoded
whole, it is full. A section that is added was encoded whole. -/
theorem batchSectionOn_spec (env : FramingEnv) (henc : env.Encodes) (index : Nat)
    (event : EventData) :
    (batchSectionOn env index event).1 = batchSection env.toBuildEnv index event ∧
    (∀ x ∈ (batchSectionOn env index event).2, x.block.overrun = false ∧
      (x.encoded = true → ∃ properties,
        createPropertiesMap env.toBuildEnv index event = some properties ∧
        x.block.cells = (propertiesBytes env.toBuildEnv properties ++
          env.encode (payloadValue event)).map some)) ∧
    ((batchSectionOn env index event).1.isSome = true →
      ∃ x, (batchSectionOn env index event).2 = [x] ∧ x.encoded = true) := by
  rcases batchSectionOn_cases env henc index event with
    ⟨hnone, hsection⟩ | ⟨properties, x, hmap, hx, heq, hsection⟩
  · rw [hnone, hsection]
    exact ⟨rfl, fun x hx => absurd hx List.not_mem_nil, nofun⟩
  · obtain ⟨hoverrun, -, hholds⟩ :=
      encodeEvent_spec henc index properties (payloadValue event) rfl
    rw [← hx] at hoverrun hholds
    have hblock : ∀ y ∈ [x], y.block.overrun = false ∧ (y.encoded = true → ∃ properties,
        createPropertiesMap env.toBuildEnv index event = some properties ∧
        y.block.cells = (propertiesBytes env.toBuildEnv properties ++
          env.encode (payloadValue event)).map some) := by
      intro y hy
      obtain rfl := List.mem_singleton.mp hy
      refine ⟨hoverrun, fun h => ⟨properties, hmap, (hholds h).full ?_⟩⟩
      rw [List.length_append, henc.size]
    rw [heq, hsection]
    by_cases hall : (x.encoded && env.succeeds (.messageAddBodyAMQPData index)) = true
    · rw [if_pos hall, if_pos hall]
      have hencoded := (Bool.and_eq_true_iff.mp hall).1
      exact ⟨(hholds hencoded).read, hblock, fun _ => ⟨x, rfl, hencoded⟩⟩
    · rw [if_neg hall, if_neg hall]
      exact ⟨rfl, hblock, nofun⟩

theorem forall_mem_propertyCalls {P : BuildCall → Prop} {i : Nat} :
    (∀ call ∈ propertyCalls index i, P call) ↔
      P (.propertyKeyCreate index i) ∧ P (.propertyValueCreate index i) ∧
        P (.propertySet index i) := by
  simp [propertyCalls]

/-- The properties map is created exactly when its calls succeed. -/
theorem createPropertiesMap_eq_some_iff {env : BuildEnv}
    {map : Option (List (String × String))} :
    createPropertiesMap env index event = some map ↔
      (env.succeeds (.eventDataProperties index) = true ∧
        env.succeeds (.mapGetInternals index) = true ∧
        (event.properties ≠ [] → env.succeeds (.propertiesMapCreate index) = true ∧
          ∀ i < event.properties.length, ∀ call ∈ propertyCalls index i,
            env.succeeds call = true)) ∧
      map = if event.properties = [] then none else some event.properties := by
  unfold createPropertiesMap
  by_cases hnil : event.properties = []
  · simp [hnil, eq_comm (a := map), and_assoc]
  · simp [hnil, forall_mem_propertyCalls, eq_comm (a := map), and_assoc]

theorem forall_mem_batchCalls {P : BuildCall → Prop} :
    (∀ call ∈ batchCalls index event, P call) ↔
      P (.eventDataGetData index) ∧
      (P (.eventDataProperties index) ∧ P (.mapGetInternals index) ∧
        (event.properties ≠ [] → P (.propertiesMapCreate index) ∧
          ∀ i < event.properties.length, ∀ call ∈ propertyCalls index i, P call)) ∧
      P (.createData index) ∧
      (event.properties ≠ [] →
        P (.createApplicationProperties index) ∧ P (.applicationPropertiesSize index)) ∧
      P (.dataSize index) ∧ P (.malloc index) ∧
      (event.properties ≠ [] → P (.applicationPropertiesEncode index)) ∧
      P (.dataEncode index) ∧ P (.messageAddBodyAMQPData index) := by
  unfold batchCalls
  by_cases hnil : event.properties = []
  · simp only [hnil, if_true, List.append_nil, List.forall_mem_cons, ne_eq, not_true_eq_false,
      false_imp_iff, and_true, true_and]
    simp only [List.not_mem_nil, false_imp_iff, implies_true, and_true]
    tauto
  · simp only [hnil, if_false, List.forall_mem_append, List.forall_mem_cons, ne_eq,
      not_false_eq_true, forall_const, List.forall_mem_flatMap, List.mem_range]
    simp only [List.not_mem_nil, false_imp_iff, implies_true, and_true]
    tauto

/-- A data section is made exactly when all calls that the event needs succeed. -/
theorem batchSection_eq_some_iff {env : BuildEnv} (hlen : event.buffer.length < 2 ^ 32)
    {bytes : List UInt8} :
    batchSection env index event = some bytes ↔
      (∀ call ∈ batchCalls index event, env.succeeds call = true) ∧ bytes = framed env event := by
  have htake : event.buffer.take (UInt32.ofNat event.buffer.length).toNat = event.buffer := by
    rw [UInt32.toNat_ofNat_of_lt' hlen, List.take_length]
  rw [forall_mem_batchCalls]
  unfold batchSection
  cases hmap : createPropertiesMap env index event with
  | none =>
    refine iff_of_false (by simp) ?_
    rintro ⟨⟨-, hproperties, -⟩, -⟩
    exact Option.some_ne_none _
      ((createPropertiesMap_eq_some_iff.mpr ⟨hproperties, rfl⟩).symm.trans hmap)
  | some properties =>
    obtain ⟨hcalls, rfl⟩ := createPropertiesMap_eq_some_iff.mp hmap
    simp only [hcalls, true_and, htake]
    by_cases hnil : event.properties = []
    · simp [hnil, batchProperties, framed, eq_comm (a := bytes), and_assoc]
    · by_cases hsized : (env.succeeds (.createApplicationProperties index) &&
          env.succeeds (.applicationPropertiesSize index)) = true
      · have hboth := Bool.and_eq_true_iff.mp hsized
        obtain ⟨hmapCreate, hfilled⟩ := hcalls.2.2 hnil
        rw [eq_comm (a := bytes)]
        simp [hnil, batchProperties, framed, hboth, hmapCreate, and_assoc]
        tauto
      · have hnot := mt Bool.and_eq_true_iff.mpr hsized
        simp [hnil, batchProperties, hnot]

end Event

/-! ### The batch -/

section Batch

variable {env : FramingEnv} {events : List EventData}

/-- Without its memory the loop is that of `createBatchMessage`, and no block is overrun. -/
theorem batchSectionsOn_spec (henc : env.Encodes) (hlen : ∀ e ∈ events, e.buffer.length < 2 ^ 32)
    (index : Nat) :
    (batchSectionsOn env index events).1 = batchSections env.toBuildEnv index events ∧
    (∀ x ∈ (batchSectionsOn env index events).2, x.block.overrun = false ∧
      (x.encoded = true →
        ∃ event ∈ events, x.block.cells = (framed env.toBuildEnv event).map some)) ∧
    ((batchSectionsOn env index events).1.isSome = true →
      ∀ x ∈ (batchSectionsOn env index events).2, x.encoded = true) := by
  induction events generalizing index with
  | nil =>
    exact ⟨rfl, fun x hx => absurd hx List.not_mem_nil, fun _ x hx => absurd hx List.not_mem_nil⟩
  | cons event rest ih =>
    rw [List.forall_mem_cons] at hlen
    obtain ⟨hsection, hblocks, hone⟩ := batchSectionOn_spec env henc index event
    obtain ⟨hrest, hrestBlocks, hrestEncoded⟩ := ih hlen.2 (index + 1)
    have hfirst : ∀ x ∈ (batchSectionOn env index event).2, x.block.overrun = false ∧
        (x.encoded = true → ∃ e ∈ event :: rest,
          x.block.cells = (framed env.toBuildEnv e).map some) := by
      intro x hx
      refine ⟨(hblocks x hx).1, fun hencoded => ⟨event, List.mem_cons_self, ?_⟩⟩
      obtain ⟨properties, hmap, hcells⟩ := (hblocks x hx).2 hencoded
      obtain ⟨-, rfl⟩ := createPropertiesMap_eq_some_iff.mp hmap
      rw [hcells, payloadValue, UInt32.toNat_ofNat_of_lt' hlen.1, List.take_length]
      unfold framed propertiesBytes
      split_ifs <;> rfl
    unfold batchSectionsOn batchSections
    rw [← hsection]
    generalize batchSectionOn env index event = x at hfirst hone
    obtain ⟨_ | bytes, blocks⟩ := x
    · exact ⟨rfl, hfirst, nofun⟩
    · refine ⟨congrArg (Option.map (bytes :: ·)) hrest, fun x hx => ?_, fun hsome x hx => ?_⟩
      · rcases List.mem_append.mp hx with hx | hx
        · exact hfirst x hx
        · refine ⟨(hrestBlocks x hx).1, fun hencoded => ?_⟩
          obtain ⟨e, he, hcells⟩ := (hrestBlocks x hx).2 hencoded
          exact ⟨e, List.mem_cons_of_mem _ he, hcells⟩
      · rcases List.mem_append.mp hx with hx | hx
        · obtain ⟨y, rfl, hy⟩ := hone rfl
          exact List.mem_singleton.mp hx ▸ hy
        · exact hrestEncoded (by simpa using hsome) x hx

theorem batchSections_eq_some_iff {env : BuildEnv} (hlen : ∀ e ∈ events, e.buffer.length < 2 ^ 32)
    {index : Nat} {sections : List (List UInt8)} :
    batchSections env index events = some sections ↔
      (∀ p ∈ events.zipIdx index, ∀ call ∈ batchCalls p.2 p.1, env.succeeds call = true) ∧
      sections = events.map (framed env) := by
  induction events generalizing index sections with
  | nil =>
    refine ⟨fun h => ⟨fun p hp => absurd hp List.not_mem_nil, (Option.some.inj h).symm⟩, ?_⟩
    rintro ⟨-, rfl⟩
    rfl
  | cons event rest ih =>
    rw [List.forall_mem_cons] at hlen
    rw [List.zipIdx_cons, List.forall_mem_cons, List.map_cons]
    unfold batchSections
    constructor
    · intro h
      cases hsection : batchSection env index event with
      | none => simp [hsection] at h
      | some bytes =>
        obtain ⟨hcalls, rfl⟩ := (batchSection_eq_some_iff hlen.1).mp hsection
        simp only [hsection, Option.map_eq_some_iff] at h
        obtain ⟨rest', hrest, rfl⟩ := h
        obtain ⟨hrestCalls, rfl⟩ := (ih hlen.2).mp hrest
        exact ⟨⟨hcalls, hrestCalls⟩, rfl⟩
    · rintro ⟨⟨hcalls, hrestCalls⟩, rfl⟩
      rw [(batchSection_eq_some_iff hlen.1).mpr ⟨hcalls, rfl⟩]
      exact congrArg (Option.map _) ((ih hlen.2).mpr ⟨hrestCalls, rfl⟩)

/-- The message is built exactly when the format and all calls of all events succeed. -/
theorem createBatchMessage_eq_some_iff (env : BuildEnv)
    (hlen : ∀ e ∈ events, e.buffer.length < 2 ^ 32) (message : AMQPMessage)
    {built : AMQPMessage} :
    createBatchMessage env message events = some built ↔
      (env.succeeds .messageSetMessageFormat = true ∧
        ∀ p ∈ events.zipIdx, ∀ call ∈ batchCalls p.2 p.1, env.succeeds call = true) ∧
      built = { message with
        messageFormat := some 0x80013700
        bodyData := message.bodyData ++ events.map (framed env) } := by
  unfold createBatchMessage
  cases env.succeeds .messageSetMessageFormat with
  | false => simp
  | true =>
    simp only [Bool.not_true, Bool.false_eq_true, if_false, Option.map_eq_some_iff,
      batchSections_eq_some_iff hlen, true_and]
    constructor
    · rintro ⟨sections, ⟨hcalls, rfl⟩, rfl⟩
      exact ⟨hcalls, rfl⟩
    · rintro ⟨hcalls, rfl⟩
      exact ⟨_, ⟨hcalls, rfl⟩, rfl⟩

/-- Without its blocks the function is `createBatchMessage`. -/
theorem createBatchMessageOn_eq (henc : env.Encodes)
    (hlen : ∀ e ∈ events, e.buffer.length < 2 ^ 32) (message : AMQPMessage) :
    (createBatchMessageOn env message events).1 =
      createBatchMessage env.toBuildEnv message events := by
  unfold createBatchMessageOn createBatchMessage
  rw [← (batchSectionsOn_spec henc hlen 0).1]
  cases env.succeeds .messageSetMessageFormat <;> rfl

end Batch

namespace EventHubClientLL

variable {σ ι : Type} (auth : AuthModule σ ι)

/-- An entry whose message is not built is not handed over. -/
theorem step_unbuilt_keeps {s t : SenderState σ} {n : Nat} {e : EventHubEventList}
    {env : BuildEnv} {currentTime : UInt64} {taken : Bool} (hloop : s.control = .loop (some n))
    (he : s.entry? n = some e) (hbuild : buildMessage env e.eventDataList = none)
    (hstep : (senderMachine auth).step s (.iterate env currentTime taken) = some t) (m : Nat)
    (built : AMQPMessage) (taken' : Bool) :
    SenderEvent.handedOver m built taken' ∉ t.log.drop s.log.length := by
  simp only [senderMachine, step, hloop, iterate, he, Option.some.injEq] at hstep
  subst hstep
  cases e.currentStatus with
  | waitingForAck => simp
  | waitingToBeSent =>
    rw [hbuild]
    dsimp only
    unfold SenderState.confirm
    cases e.callback <;> simp

/-- A batch of at least two events is framed as it should be: the message has the batch format and,
in order, one data section for each event; nothing is written outside a block, and an event that is
encoded fills its block exactly. If any call at any event fails there is no message, and then
`EventHubClient_LL_DoWork` hands none over. -/
theorem createBatchMessageOn_frames {env : FramingEnv} (henc : env.Encodes)
    {events : List EventData} (htwo : 2 ≤ events.length)
    (hlen : ∀ e ∈ events, e.buffer.length < 2 ^ 32) (message : AMQPMessage) :
    (∀ built, (createBatchMessageOn env message events).1 = some built →
      built.messageFormat = some 0x80013700 ∧
      built.bodyData = message.bodyData ++ events.map (framed env.toBuildEnv) ∧
      ∀ x ∈ (createBatchMessageOn env message events).2, x.encoded = true) ∧
    (∀ x ∈ (createBatchMessageOn env message events).2, x.block.overrun = false ∧
      (x.encoded = true →
        ∃ event ∈ events, x.block.cells = (framed env.toBuildEnv event).map some)) ∧
    ((env.succeeds .messageSetMessageFormat = false ∨
        ∃ p ∈ events.zipIdx, ∃ call ∈ batchCalls p.2 p.1, env.succeeds call = false) →
      (createBatchMessageOn env message events).1 = none) ∧
    ((createBatchMessageOn env {} events).1 = none →
      ∀ (s t : SenderState σ) (n : Nat) (e : EventHubEventList) (currentTime : UInt64)
        (taken : Bool), s.control = .loop (some n) → s.entry? n = some e →
        e.eventDataList = events →
        (senderMachine auth).step s (.iterate env.toBuildEnv currentTime taken) = some t →
        ∀ m built taken', SenderEvent.handedOver m built taken' ∉ t.log.drop s.log.length) := by
  obtain ⟨-, hblocks, hencoded⟩ := batchSectionsOn_spec henc hlen 0
  refine ⟨fun built h => ?_, ?_, fun hfails => ?_, fun hnone s t n e currentTime taken hloop he
    hevents hstep => ?_⟩
  · have hbuilt := h
    rw [createBatchMessageOn_eq henc hlen,
      createBatchMessage_eq_some_iff env.toBuildEnv hlen message] at h
    obtain ⟨⟨hformat, -⟩, rfl⟩ := h
    refine ⟨rfl, rfl, ?_⟩
    unfold createBatchMessageOn at hbuilt ⊢
    simp only [hformat, Bool.not_true, Bool.false_eq_true, if_false] at hbuilt ⊢
    exact hencoded (Option.isSome_iff_exists.mpr (by
      obtain ⟨sections, hsections, -⟩ := Option.map_eq_some_iff.mp hbuilt
      exact ⟨sections, hsections⟩))
  · unfold createBatchMessageOn
    cases env.succeeds .messageSetMessageFormat with
    | false => exact fun x hx => absurd hx List.not_mem_nil
    | true => exact hblocks
  · rw [createBatchMessageOn_eq henc hlen, Option.eq_none_iff_forall_ne_some]
    intro built hbuilt
    obtain ⟨⟨hformat, hall⟩, -⟩ :=
      (createBatchMessage_eq_some_iff env.toBuildEnv hlen message).mp hbuilt
    rcases hfails with hfails | ⟨p, hp, call, hcall, hfails⟩
    · exact Bool.false_ne_true (hfails.symm.trans hformat)
    · exact Bool.false_ne_true (hfails.symm.trans (hall p hp call hcall))
  · refine step_unbuilt_keeps auth hloop he ?_ hstep
    rw [createBatchMessageOn_eq henc hlen] at hnone
    obtain ⟨event, next, rest, rfl⟩ : ∃ event next rest, events = event :: next :: rest := by
      rcases events with _ | ⟨event, _ | ⟨next, rest⟩⟩
      · cases htwo
      · exact absurd htwo (Nat.not_succ_le_self 1)
      · exact ⟨event, next, rest, rfl⟩
    unfold buildMessage
    rw [hevents]
    split_ifs
    · rfl
    · exact hnone

/-- The AMQP encoding of short values: a described map of short strings, and described short
binary. -/
def encodeShort : AMQPValue → List UInt8
  | .applicationProperties properties =>
    let items := properties.flatMap fun p => [p.1, p.2].flatMap fun text =>
      0xA1 :: UInt8.ofNat text.length :: text.toList.map fun c => UInt8.ofNat c.toNat
    [0x00, 0x53, 0x74, 0xC1, UInt8.ofNat (items.length + 1), UInt8.ofNat (2 * properties.length)] ++
      items
  | .data bytes => [0x00, 0x53, 0x75, 0xA0, UInt8.ofNat bytes.length] ++ bytes

/-- The descriptor is emitted first. -/
def shortEnv : FramingEnv where
  encode := encodeShort
  size value := (encodeShort value).length
  emits _ value := [(encodeShort value).take 3, (encodeShort value).drop 3]

theorem shortEnv_encodes : shortEnv.Encodes where
  whole _ value _ := by simp [shortEnv]
  size _ := rfl
  partly _ value := by simp [shortEnv]

/-- Two events, one of them with a property. -/
def twoEvents : List EventData :=
  [{ buffer := [7], properties := [("k", "v")] }, { buffer := [8] }]

/-- The sections of their message. -/
theorem createBatchMessageOn_frames_two :
    ∃ built, (createBatchMessageOn shortEnv {} twoEvents).1 = some built ∧ built.bodyData =
      [[0x00, 0x53, 0x74, 0xC1, 0x07, 0x02, 0xA1, 0x01, 0x6B, 0xA1, 0x01, 0x76,
          0x00, 0x53, 0x75, 0xA0, 0x01, 0x07],
        [0x00, 0x53, 0x75, 0xA0, 0x01, 0x08]] := by
  have htwo : 2 ≤ twoEvents.length := Nat.le_refl 2
  obtain ⟨hbuilt, -⟩ := createBatchMessageOn_frames (EventHubAuthCBS.authModule fun _ => none)
    shortEnv_encodes htwo (by decide) {}
  exact ⟨_, rfl, (hbuilt _ rfl).2.1⟩

end EventHubClientLL


end EventHubs
