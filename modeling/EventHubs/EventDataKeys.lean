import EventHubs.Library.Machine
import EventHubs.Library.Ownership

/-!
# The partition keys of events

The functions of `eventdata.c` that create, use and delete the string in the field `partitionKey`.
The events lie in a table and the strings in a ledger; what a function does when an allocation fails
is part of it.

## Main definitions

* `EventDataStore` and its functions, under the names of `eventdata.c`.
* `eventDataMachine` — any sequence of calls on any number of events.
* `EventDataStore.KeysKept` — fields and strings fit together, and every key is the one last set.

## Main results

* `EventDataStore.run_keysKept_iff`.
* `EventDataStore.run_keeps_deleted_key` — a key that was deleted and stays in its field.
-/

namespace EventHubs

/-- `EVENTDATA_RESULT`. -/
inductive EventDataResult
  | ok
  | invalidArg
  | missingPropertyName
  | indexOutOfBounds
  | error
  deriving DecidableEq, Repr

/-- The calls of `eventdata.c` that can fail. -/
inductive EventDataCall
  | malloc
  | bufferNew
  | bufferBuild
  | bufferClone
  | mapCreate
  | mapClone
  | stringConstruct
  | stringClone
  deriving DecidableEq, Repr

/-- `EVENT_DATA` as it lies in memory: `partitionKey` is the handle of a string, `none` for NULL. -/
structure EventDataStruct where
  buffer : List UInt8 := []
  partitionKey : Option ℕ := none
  properties : List (String × String) := []
  enqueuedTimestampUTC : UInt64 := 0
  deriving DecidableEq, Repr

/-- What a call returns. Events are given by their number, `none` for NULL. -/
inductive EventDataReturn
  | created (event : Option ℕ)
  | keySet (event : Option ℕ) (partitionKey : Option String) (r : EventDataResult)
  | keyGot (event : Option ℕ) (partitionKey : Option String)
  | cloned (event clone : Option ℕ)
  | destroyed (event : Option ℕ)
  deriving DecidableEq, Repr

/-- The events, the strings of their keys, the handles that were read after they had been deleted,
and what the calls returned. -/
structure EventDataStore where
  events : ℕ → Option EventDataStruct := fun _ => none
  nextEvent : ℕ := 0
  strings : Ledger String := {}
  deletedReads : List ℕ := []
  log : List EventDataReturn := []

namespace EventDataStore

/-- The field `partitionKey` of an event. -/
def partitionKey (s : EventDataStore) (n : ℕ) : Option ℕ := (s.events n).bind (·.partitionKey)

/-- Write the field `partitionKey` of an event. -/
def writeKey (s : EventDataStore) (n : ℕ) (key : Option ℕ) : EventDataStore :=
  { s with
    events := Function.update s.events n
      ((s.events n).map fun e => { e with partitionKey := key }) }

/-- A new event. -/
def add (s : EventDataStore) (e : EventDataStruct) : EventDataStore :=
  { s with
    events := Function.update s.events s.nextEvent (some e)
    nextEvent := s.nextEvent + 1 }

/-- `STRING_delete`, which does nothing for NULL. -/
def stringDelete (s : EventDataStore) (h : Option ℕ) : EventDataStore :=
  { s with strings := s.strings.destroyIf h }

/-- `STRING_c_str`, and the reading half of `STRING_clone`. -/
def stringCStr (s : EventDataStore) (h : ℕ) : Option String × EventDataStore :=
  if h ∈ s.strings.handles then (s.strings.read h, s)
  else (none, { s with deletedReads := s.deletedReads ++ [h] })

/-- `EventData_CreateWithNewMemory`. -/
def createWithNewMemory (s : EventDataStore) (data : Option (List UInt8)) (length : ℕ)
    (env : EventDataCall → Bool) : Option ℕ × EventDataStore :=
  if length ≠ 0 && data.isNone then (none, s)
  else if !env .malloc then (none, s)
  else if !env .bufferNew then (none, s)
  else if length ≠ 0 && !env .bufferBuild then (none, s)
  else if !env .mapCreate then (none, s)
  else (some s.nextEvent, s.add { buffer := (data.getD []).take length })

/-- `EventData_GetPartitionKey`. -/
def getPartitionKey (s : EventDataStore) (event : Option ℕ) : Option String × EventDataStore :=
  match event with
  | none => (none, s)
  | some n =>
    match s.partitionKey n with
    | none => (none, s)
    | some h => s.stringCStr h

/-- `EventData_SetPartitionKey`. The old key is deleted first, and the field is written only when
there is a new one. -/
def setPartitionKey (s : EventDataStore) (event : Option ℕ) (partitionKey : Option String)
    (env : EventDataCall → Bool) : EventDataResult × EventDataStore :=
  match event with
  | none => (.invalidArg, s)
  | some n =>
    let s := s.stringDelete (s.partitionKey n)
    match partitionKey with
    | none => (.ok, s)
    | some text =>
      if env .stringConstruct then
        (.ok, { s with strings := s.strings.create text }.writeKey n (some s.strings.next))
      else (.ok, s.writeKey n none)

/-- The end of `EventData_Clone`: the properties are cloned, or what was made is deleted. -/
def cloneProperties (s : EventDataStore) (result : EventDataStruct) (env : EventDataCall → Bool) :
    Option ℕ × EventDataStore :=
  if env .mapClone then (some s.nextEvent, s.add result)
  else (none, s.stringDelete result.partitionKey)

/-- `EventData_Clone`. -/
def clone (s : EventDataStore) (event : Option ℕ) (env : EventDataCall → Bool) :
    Option ℕ × EventDataStore :=
  match event.bind s.events with
  | none => (none, s)
  | some srcData =>
    if !env .malloc then (none, s)
    else if !env .bufferClone then (none, s)
    else
      match srcData.partitionKey with
      | none => s.cloneProperties srcData env
      | some h =>
        match s.stringCStr h with
        | (none, s) => (none, s)
        | (some text, s) =>
          if env .stringClone then
            { s with strings := s.strings.create text }.cloneProperties
              { srcData with partitionKey := some s.strings.next } env
          else (none, s)

/-- `EventData_Destroy`. -/
def destroy (s : EventDataStore) (event : Option ℕ) : EventDataStore :=
  match event with
  | none => s
  | some n =>
    let s := s.stringDelete (s.partitionKey n)
    { s with events := Function.update s.events n none }

/-- Write down what a call returns. -/
def emit (s : EventDataStore) (r : EventDataReturn) : EventDataStore :=
  { s with log := s.log ++ [r] }

end EventDataStore

/-- The calls. -/
inductive EventDataInput
  | createWithNewMemory (data : Option (List UInt8)) (length : ℕ) (env : EventDataCall → Bool)
  | getPartitionKey (event : Option ℕ)
  | setPartitionKey (event : Option ℕ) (partitionKey : Option String) (env : EventDataCall → Bool)
  | clone (event : Option ℕ) (env : EventDataCall → Bool)
  | destroy (event : Option ℕ)

/-- The event that a call is given. -/
def EventDataInput.event : EventDataInput → Option ℕ
  | .createWithNewMemory _ _ _ => none
  | .getPartitionKey event => event
  | .setPartitionKey event _ _ => event
  | .clone event _ => event
  | .destroy event => event

namespace EventDataStore

/-- One call. -/
def call (s : EventDataStore) : EventDataInput → EventDataStore
  | .createWithNewMemory data length env =>
    let x := s.createWithNewMemory data length env
    x.2.emit (.created x.1)
  | .getPartitionKey event =>
    let x := s.getPartitionKey event
    x.2.emit (.keyGot event x.1)
  | .setPartitionKey event partitionKey env =>
    let x := s.setPartitionKey event partitionKey env
    x.2.emit (.keySet event partitionKey x.1)
  | .clone event env =>
    let x := s.clone event env
    x.2.emit (.cloned event x.1)
  | .destroy event => (s.destroy event).emit (.destroyed event)

/-- The users call the functions for events that exist, and for NULL. -/
def eventDataMachine : Machine EventDataStore EventDataInput where
  step s i := if i.event.all fun n => (s.events n).isSome then some (s.call i) else none

/-! ### What the users rely on -/

/-- What a return promises of the keys: a successful `EventData_SetPartitionKey` promises the key,
and a clone promises what its original promised. -/
def promise (p : ℕ → Option String) : EventDataReturn → ℕ → Option String
  | .keySet (some n) partitionKey r => Function.update p n (if r = .ok then partitionKey else none)
  | .cloned (some n) (some m) => Function.update p m (p n)
  | .destroyed (some n) => Function.update p n none
  | _ => p

/-- The keys that the calls have promised. -/
def promised (s : EventDataStore) : ℕ → Option String := s.log.foldl promise fun _ => none

/-- The field of every event is NULL or holds a live string of its own, no string was deleted twice
or read after it had been deleted, every promised key is there, and no key outlives the events. -/
structure KeysKept (s : EventDataStore) : Prop where
  live : ∀ n h, s.partitionKey n = some h → h ∈ s.strings.handles
  alone : ∀ m n h, s.partitionKey m = some h → s.partitionKey n = some h → m = n
  deletedOnce : s.strings.faults = []
  deletedReads : s.deletedReads = []
  kept : ∀ n key, s.promised n = some key → (s.getPartitionKey (some n)).1 = some key
  released : (∀ n, s.events n = none) → s.strings.live = []

/-- The key that a call sets can be set: there is one and it can be constructed, or there is none to
be set and none in the field. -/
def SetsKey (s : EventDataStore) : EventDataInput → Prop
  | .setPartitionKey (some n) none _ => s.partitionKey n = none
  | .setPartitionKey (some _) (some _) env => env .stringConstruct = true
  | _ => True

/-! ### The table of keys -/

/-- The keys in the events. -/
def keys (s : EventDataStore) : ℕ → Option String := s.strings.contents s.partitionKey

/-- Every field owns its string, numbers of events are not used twice, and nothing was read after it
had been deleted. -/
structure Sound (s : EventDataStore) : Prop where
  owned : s.strings.OwnedBy s.partitionKey
  fresh : ∀ n, s.nextEvent ≤ n → s.events n = none
  deletedReads : s.deletedReads = []

variable {s : EventDataStore} {n : ℕ} {env : EventDataCall → Bool}

theorem partitionKey_of_events_eq_none (h : s.events n = none) : s.partitionKey n = none := by
  rw [partitionKey, h, Option.bind_none]

theorem partitionKey_writeKey (hn : (s.events n).isSome) (key : Option ℕ) :
    (s.writeKey n key).partitionKey = Function.update s.partitionKey n key := by
  obtain ⟨e, he⟩ := Option.isSome_iff_exists.mp hn
  funext m
  by_cases hm : m = n
  · subst hm
    simp [partitionKey, writeKey, he]
  · simp [partitionKey, writeKey, hm]

theorem partitionKey_add (e : EventDataStruct) :
    (s.add e).partitionKey = Function.update s.partitionKey s.nextEvent e.partitionKey := by
  funext m
  by_cases hm : m = s.nextEvent
  · subst hm
    simp [partitionKey, add]
  · simp [partitionKey, add, hm]

theorem Sound.fresh_key (hs : Sound s) : s.partitionKey s.nextEvent = none :=
  partitionKey_of_events_eq_none (hs.fresh _ le_rfl)

theorem Sound.fresh_add (hs : Sound s) (e : EventDataStruct) :
    ∀ m, (s.add e).nextEvent ≤ m → (s.add e).events m = none := by
  intro m hm
  have hlt : s.nextEvent < m := hm
  exact (Function.update_of_ne hlt.ne' _ _).trans (hs.fresh m hlt.le)

/-- The table changes at one event only, and adds none. -/
theorem Sound.fresh_update (hs : Sound s) {e : Option EventDataStruct}
    (he : s.events n = none → e = none) :
    ∀ m, s.nextEvent ≤ m → Function.update s.events n e m = none := by
  intro m hm
  by_cases hmn : m = n
  · rw [hmn, Function.update_self]
    exact he (hmn ▸ hs.fresh m hm)
  · rw [Function.update_of_ne hmn]
    exact hs.fresh m hm

/-- Reading the key of an event. -/
theorem Sound.stringCStr (hs : Sound s) {h : ℕ} (hkey : s.partitionKey n = some h) :
    ∃ text, s.stringCStr h = (some text, s) ∧ s.keys n = some text := by
  obtain ⟨text, htext⟩ := hs.owned.contents_eq_some hkey
  refine ⟨text, ?_, htext⟩
  rw [Ledger.contents, hkey, Option.bind_some] at htext
  rw [EventDataStore.stringCStr, if_pos (hs.owned.live n h hkey), htext]

/-! ### The functions -/

theorem getPartitionKey_eq (hs : Sound s) (n : ℕ) :
    s.getPartitionKey (some n) = (s.keys n, s) := by
  unfold getPartitionKey
  dsimp only
  cases hkey : s.partitionKey n with
  | none => rw [keys, Ledger.contents, hkey, Option.bind_none]
  | some h =>
    obtain ⟨text, hread, hkeys⟩ := hs.stringCStr hkey
    rw [hkeys]
    exact hread

/-- An event is added, whose key is a string of its own. -/
theorem Sound.add (hs : Sound s) {e : EventDataStruct} {l : Ledger String}
    (howned : l.OwnedBy (Function.update s.partitionKey s.nextEvent e.partitionKey)) :
    Sound ({ s with strings := l }.add e) ∧
      ({ s with strings := l }.add e).keys =
        l.contents (Function.update s.partitionKey s.nextEvent e.partitionKey) := by
  have hkey : ({ s with strings := l }.add e).partitionKey =
      Function.update s.partitionKey s.nextEvent e.partitionKey :=
    partitionKey_add (s := { s with strings := l }) e
  refine ⟨⟨hkey ▸ howned, hs.fresh_add e, hs.deletedReads⟩, ?_⟩
  rw [keys, hkey]
  rfl

/-- An event without a key is added. -/
theorem Sound.add_keyless (hs : Sound s) {e : EventDataStruct} (he : e.partitionKey = none) :
    Sound (s.add e) ∧ (s.add e).keys = s.keys := by
  have hsame : Function.update s.partitionKey s.nextEvent e.partitionKey = s.partitionKey := by
    rw [he, ← hs.fresh_key, Function.update_eq_self]
  have hadd := hs.add (e := e) (l := s.strings) (by rw [hsame]; exact hs.owned)
  rw [hsame] at hadd
  exact hadd

theorem createWithNewMemory_spec (hs : Sound s) (data : Option (List UInt8)) (length : ℕ) :
    Sound (s.createWithNewMemory data length env).2 ∧
      (s.createWithNewMemory data length env).2.keys = s.keys ∧
      (s.createWithNewMemory data length env).2.log = s.log := by
  unfold createWithNewMemory
  split_ifs
  · exact ⟨hs, rfl, rfl⟩
  · exact ⟨hs, rfl, rfl⟩
  · exact ⟨hs, rfl, rfl⟩
  · exact ⟨hs, rfl, rfl⟩
  · exact ⟨hs, rfl, rfl⟩
  · obtain ⟨hsound, hkeys⟩ := hs.add_keyless (e := { buffer := (data.getD []).take length }) rfl
    exact ⟨hsound, hkeys, rfl⟩

/-- `EventData_SetPartitionKey` with a key, when the string can be constructed. -/
theorem setPartitionKey_spec (hs : Sound s) (hn : (s.events n).isSome) (text : String)
    (henv : env .stringConstruct = true) :
    Sound (s.setPartitionKey (some n) (some text) env).2 ∧
      (s.setPartitionKey (some n) (some text) env).2.keys =
        Function.update s.keys n (some text) := by
  simp only [setPartitionKey, henv, if_true]
  generalize hnew : some (s.stringDelete (s.partitionKey n)).strings.next = new
  have hkey : ({ s.stringDelete (s.partitionKey n) with
      strings := (s.stringDelete (s.partitionKey n)).strings.create text }.writeKey n
        new).partitionKey = Function.update s.partitionKey n new := partitionKey_writeKey hn new
  have howned := hs.owned.replace n text
  have hcontents := hs.owned.contents_replace n text
  subst hnew
  refine ⟨⟨hkey ▸ howned, ?_, hs.deletedReads⟩, ?_⟩
  · exact hs.fresh_update fun h => Option.map_eq_none_iff.mpr h
  · rw [keys, hkey]
    exact hcontents

/-- `EventData_Destroy`. -/
theorem destroy_spec (hs : Sound s) (n : ℕ) :
    Sound (s.destroy (some n)) ∧ (s.destroy (some n)).keys = Function.update s.keys n none := by
  have hkey : (s.destroy (some n)).partitionKey = Function.update s.partitionKey n none := by
    funext m
    by_cases hm : m = n
    · subst hm
      simp [partitionKey, destroy]
    · simp [partitionKey, destroy, stringDelete, hm]
  refine ⟨⟨hkey ▸ hs.owned.clear n, hs.fresh_update fun _ => rfl, hs.deletedReads⟩, ?_⟩
  · rw [keys, hkey]
    exact hs.owned.contents_clear n

/-- What `EventData_Clone` does: nothing, or it adds an event with the same key. -/
structure Cloned (s : EventDataStore) (n : ℕ) (x : Option ℕ × EventDataStore) : Prop where
  sound : Sound x.2
  keys : x.2.keys = x.1.elim s.keys fun m => Function.update s.keys m (s.keys n)
  log : x.2.log = s.log

/-- The clone of an event without a key. -/
theorem Sound.cloned_keyless (hs : Sound s) {srcData : EventDataStruct}
    (hsrc : s.partitionKey n = srcData.partitionKey) (hkey : srcData.partitionKey = none) :
    Cloned s n (s.cloneProperties srcData env) := by
  have hkeys : s.keys n = none := by rw [keys, Ledger.contents, hsrc, hkey, Option.bind_none]
  have hfresh : s.keys s.nextEvent = none := by
    rw [keys, Ledger.contents, hs.fresh_key, Option.bind_none]
  obtain ⟨hadd, hsame⟩ := hs.add_keyless hkey
  unfold cloneProperties
  split_ifs
  · refine ⟨hadd, hsame.trans ?_, rfl⟩
    rw [Option.elim_some, hkeys, ← hfresh, Function.update_eq_self]
  · rw [hkey]
    exact ⟨hs, rfl, rfl⟩

/-- The clone of an event with a key gets a string of its own, or the string is deleted again. -/
theorem Sound.cloned_key (hs : Sound s) (srcData : EventDataStruct) {text : String}
    (hkeys : s.keys n = some text) :
    Cloned s n ({ s with strings := s.strings.create text }.cloneProperties
      { srcData with partitionKey := some s.strings.next } env) := by
  unfold cloneProperties
  split_ifs
  · obtain ⟨hsound, hcontents⟩ := hs.add
      (e := { srcData with partitionKey := some s.strings.next })
      (hs.owned.give hs.fresh_key text)
    refine ⟨hsound, hcontents.trans ?_, rfl⟩
    rw [Option.elim_some, hkeys]
    exact hs.owned.contents_give text
  · have hback := (Ledger.Settles.refl (s.strings.create text)).bracket
    exact ⟨⟨hs.owned.settles hback, hs.fresh, hs.deletedReads⟩,
      Ledger.OwnedBy.contents_settles hback, rfl⟩

theorem clone_spec (hs : Sound s) (n : ℕ) : Cloned s n (s.clone (some n) env) := by
  unfold clone
  cases hn : (some n).bind s.events with
  | none => exact ⟨hs, rfl, rfl⟩
  | some srcData =>
    have hsrc : s.partitionKey n = srcData.partitionKey := by
      rw [partitionKey, show s.events n = some srcData from hn, Option.bind_some]
    cases hmalloc : env .malloc with
    | false => exact ⟨hs, rfl, rfl⟩
    | true =>
      cases hbuffer : env .bufferClone with
      | false => exact ⟨hs, rfl, rfl⟩
      | true =>
        simp only [Bool.not_true, Bool.false_eq_true, if_false]
        cases hkey : srcData.partitionKey with
        | none => exact hs.cloned_keyless hsrc hkey
        | some h =>
          obtain ⟨text, hread, hkeys⟩ := hs.stringCStr (hsrc.trans hkey)
          dsimp only
          rw [hread]
          dsimp only
          split_ifs
          · exact hs.cloned_key srcData hkeys
          · exact ⟨hs, rfl, rfl⟩

/-! ### Runs -/

/-- A function that writes nothing down itself returns. -/
theorem promised_emit {t : EventDataStore} (h : t.log = s.log) (r : EventDataReturn) :
    (t.emit r).promised = promise s.promised r := by
  rw [promised, emit, h, List.foldl_append]
  rfl

theorem Sound.emit (hs : Sound s) (r : EventDataReturn) : Sound (s.emit r) :=
  ⟨hs.owned, hs.fresh, hs.deletedReads⟩

/-- The table is sound, and every promised key is in it. -/
structure Upholds (s : EventDataStore) : Prop extends Sound s where
  kept : ∀ n key, s.promised n = some key → s.keys n = some key

/-- A key and a promise of it are written to one place. -/
theorem Upholds.update (hs : Upholds s) {t : EventDataStore} (ht : Sound t) {m : ℕ}
    {key kept : Option String} (hpromised : t.promised = Function.update s.promised m key)
    (hkeys : t.keys = Function.update s.keys m kept)
    (hkept : ∀ text, key = some text → kept = some text) : Upholds t := by
  refine ⟨ht, fun n text hn => ?_⟩
  rw [hpromised] at hn
  rw [hkeys]
  by_cases hnm : n = m
  · rw [hnm, Function.update_self] at hn ⊢
    exact hkept text hn
  · rw [Function.update_of_ne hnm] at hn ⊢
    exact hs.kept n text hn

/-- Keys and promises stay. -/
theorem Upholds.same (hs : Upholds s) {t : EventDataStore} (ht : Sound t)
    (hpromised : t.promised = s.promised) (hkeys : t.keys = s.keys) : Upholds t := by
  refine ⟨ht, fun n text hn => ?_⟩
  rw [hkeys]
  exact hs.kept n text (hpromised ▸ hn)

theorem Upholds.keysKept (hs : Upholds s) : KeysKept s where
  live := hs.owned.live
  alone := hs.owned.alone
  deletedOnce := hs.owned.faults
  deletedReads := hs.deletedReads
  kept n key hn := by rw [getPartitionKey_eq hs.toSound, hs.kept n key hn]
  released hnone := hs.owned.live_eq_nil fun n => partitionKey_of_events_eq_none (hnone n)

/-- A call for an event that exists. -/
theorem isSome_of_step {t : EventDataStore} {i : EventDataInput}
    (h : eventDataMachine.step s i = some t) :
    (∀ n, i.event = some n → (s.events n).isSome) ∧ t = s.call i := by
  obtain ⟨hall, ht⟩ := Option.ite_none_right_eq_some.mp h
  refine ⟨fun n hn => ?_, (Option.some.inj ht).symm⟩
  rw [hn] at hall
  exact hall

/-- Every call that sets a key that can be set upholds the table. -/
theorem Upholds.step (hs : Upholds s) {t : EventDataStore} {i : EventDataInput}
    (hsets : SetsKey s i) (h : eventDataMachine.step s i = some t) : Upholds t := by
  obtain ⟨hevent, rfl⟩ := isSome_of_step h
  cases i with
  | createWithNewMemory data length env =>
    have hcreate : Sound (s.createWithNewMemory data length env).2 ∧
        (s.createWithNewMemory data length env).2.keys = s.keys ∧
        (s.createWithNewMemory data length env).2.log = s.log :=
      createWithNewMemory_spec hs.toSound data length
    obtain ⟨hsound, hkeys, hlog⟩ := hcreate
    exact hs.same (hsound.emit _) (promised_emit hlog _) hkeys
  | getPartitionKey event =>
    cases event with
    | none => exact hs.same (hs.toSound.emit _) (promised_emit rfl _) rfl
    | some n =>
      unfold call
      dsimp only
      rw [getPartitionKey_eq hs.toSound]
      exact hs.same (hs.toSound.emit _) (promised_emit rfl _) rfl
  | setPartitionKey event partitionKey env =>
    cases event with
    | none => exact hs.same (hs.toSound.emit _) (promised_emit rfl _) rfl
    | some n =>
      cases partitionKey with
      | none =>
        have hfield : s.partitionKey n = none := hsets
        have hkeys : s.keys n = none := by rw [keys, Ledger.contents, hfield, Option.bind_none]
        have hsame : s.call (.setPartitionKey (some n) none env) =
            s.emit (.keySet (some n) none .ok) := by
          simp only [call, setPartitionKey, stringDelete, hfield]
          rfl
        rw [hsame]
        have hkept : s.keys = Function.update s.keys n none := by
          rw [← hkeys, Function.update_eq_self]
        exact hs.update (hs.toSound.emit _) (promised_emit rfl _) hkept (by simp)
      | some text =>
        obtain ⟨hsound, hkeys⟩ := setPartitionKey_spec hs.toSound (hevent n rfl) text hsets
        have hresult : (s.setPartitionKey (some n) (some text) env).1 = .ok ∧
            (s.setPartitionKey (some n) (some text) env).2.log = s.log := by
          simp only [setPartitionKey]
          split_ifs <;> exact ⟨rfl, rfl⟩
        refine hs.update (hsound.emit _) ((promised_emit hresult.2 _).trans ?_) hkeys fun _ => id
        rw [promise, hresult.1, if_pos rfl]
  | clone event env =>
    cases event with
    | none => exact hs.same (hs.toSound.emit _) (promised_emit rfl _) rfl
    | some n =>
      have hclone : Cloned s n (s.clone (some n) env) := clone_spec hs.toSound n
      unfold call
      dsimp only
      generalize s.clone (some n) env = x at hclone ⊢
      obtain ⟨_ | m, u⟩ := x
      · exact hs.same (hclone.sound.emit _) (promised_emit hclone.log _) hclone.keys
      · exact hs.update (hclone.sound.emit _) (promised_emit hclone.log _) hclone.keys
          (hs.kept n)
  | destroy event =>
    cases event with
    | none => exact hs.same (hs.toSound.emit _) (promised_emit rfl _) rfl
    | some n =>
      obtain ⟨hsound, hkeys⟩ := destroy_spec hs.toSound n
      exact hs.update (hsound.emit _) (promised_emit rfl _) hkeys (by simp)

/-- A call that sets a key that cannot be set leaves a deleted string in the field, or no key where
it promised one. -/
theorem not_keysKept_of_step {t : EventDataStore} {i : EventDataInput} (hsets : ¬ SetsKey s i)
    (h : eventDataMachine.step s i = some t) : ¬ KeysKept t := by
  obtain ⟨hevent, rfl⟩ := isSome_of_step h
  intro hkept
  unfold SetsKey at hsets
  split at hsets
  · next n env =>
    obtain ⟨old, hold⟩ := Option.ne_none_iff_exists'.mp hsets
    have hlive := hkept.live n old hold
    have hstrings : (s.call (.setPartitionKey (some n) none env)).strings =
        s.strings.destroy old := by
      simp only [call, setPartitionKey, stringDelete, hold]
      rfl
    rw [hstrings] at hlive
    exact s.strings.notMem_handles_destroy old hlive
  · next n text env =>
    have hfails : s.setPartitionKey (some n) (some text) env =
        (.ok, (s.stringDelete (s.partitionKey n)).writeKey n none) := by
      simp only [setPartitionKey, if_neg hsets]
    have hcall : s.call (.setPartitionKey (some n) (some text) env) =
        ((s.stringDelete (s.partitionKey n)).writeKey n none).emit
          (.keySet (some n) (some text) .ok) := by
      simp only [call, hfails]
    have hpromised : (s.call (.setPartitionKey (some n) (some text) env)).promised n =
        some text := by
      have hlog : ((s.stringDelete (s.partitionKey n)).writeKey n none).log = s.log := rfl
      rw [hcall, promised_emit hlog]
      exact Function.update_self ..
    have hkey : (s.call (.setPartitionKey (some n) (some text) env)).partitionKey n = none := by
      rw [hcall]
      exact (congrFun (partitionKey_writeKey (s := s.stringDelete (s.partitionKey n))
        (hevent n rfl) none) n).trans (Function.update_self ..)
    have hget := hkept.kept n text hpromised
    rw [getPartitionKey, hkey] at hget
    cases hget
  · exact hsets trivial

theorem upholds_empty : Upholds {} where
  owned := Ledger.OwnedBy.empty rfl rfl
  fresh _ _ := rfl
  deletedReads := rfl
  kept n key h := by cases h

/-- Along a sequence of calls on any number of events fields and strings fit together and every key
is the one last set, exactly when every call that sets a key sets one that can be set. -/
theorem run_keysKept_iff {is : List EventDataInput} {s : EventDataStore}
    (hrun : eventDataMachine.run {} is = some s) :
    (∀ js t, js <+: is → eventDataMachine.run {} js = some t → KeysKept t) ↔
      eventDataMachine.Meets SetsKey {} is :=
  Machine.forall_past_iff (fun _ _ _ hs hsets h => Upholds.step hs hsets h)
    (fun _ hs => Upholds.keysKept hs) (fun _ _ _ _ hsets h => not_keysKept_of_step hsets h)
    upholds_empty hrun

/-- An event gets two keys, is cloned and destroyed, and the clone is destroyed. -/
def keyedAndCloned : List EventDataInput :=
  [.createWithNewMemory (some [7]) 1 fun _ => true,
    .setPartitionKey (some 0) (some "first") fun _ => true,
    .setPartitionKey (some 0) (some "second") fun _ => true, .clone (some 0) fun _ => true,
    .destroy (some 0), .getPartitionKey (some 1), .destroy (some 1)]

/-- The keys along these calls. -/
theorem run_keysKept_keyedAndCloned :
    ∃ s, eventDataMachine.run {} keyedAndCloned = some s ∧
      EventDataReturn.keyGot (some 1) (some "second") ∈ s.log ∧
      ∀ js t, js <+: keyedAndCloned → eventDataMachine.run {} js = some t → KeysKept t := by
  refine ⟨_, rfl, by decide, ?_⟩
  have hrun : eventDataMachine.run {} keyedAndCloned = some _ := rfl
  refine (run_keysKept_iff hrun).mpr ?_
  simp [keyedAndCloned, Machine.Meets, SetsKey]

/-- A key that is set to NULL is deleted and stays in its field, is read by
`EventData_GetPartitionKey` and is deleted again by `EventData_Destroy`. A key that cannot be
constructed is not there although `EventData_SetPartitionKey` returns `EVENTDATA_OK`. -/
theorem run_keeps_deleted_key :
    (∃ s, eventDataMachine.run {} [.createWithNewMemory (some [7]) 1 fun _ => true,
        .setPartitionKey (some 0) (some "key") fun _ => true,
        .setPartitionKey (some 0) none fun _ => true, .getPartitionKey (some 0),
        .destroy (some 0)] = some s ∧
      s.deletedReads = [0] ∧ s.strings.faults = [0] ∧ ¬ KeysKept s) ∧
    ∃ s, eventDataMachine.run {} [.createWithNewMemory (some [7]) 1 fun _ => true,
        .setPartitionKey (some 0) (some "key") fun call => call ≠ .stringConstruct] = some s ∧
      s.log.getLast? = some (.keySet (some 0) (some "key") .ok) ∧
      (s.getPartitionKey (some 0)).1 = none ∧ ¬ KeysKept s := by
  refine ⟨⟨_, rfl, rfl, rfl, fun h => ?_⟩, ⟨_, rfl, rfl, rfl, fun h => ?_⟩⟩
  · cases h.deletedOnce
  · cases h.kept 0 "key" rfl

end EventDataStore

end EventHubs
