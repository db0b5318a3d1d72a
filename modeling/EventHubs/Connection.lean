import EventHubs.Receiver.Creation
import EventHubs.Sender.Creation

/-!
# One connection string for both sides

`EventHubClient_LL_CreateFromConnectionString` and `EventHubReceiver_LL_Create` read a connection
string in functions of their own. Here what they store is compared.

## Main definitions

* `Connection` — where to connect, and with which key.
* `Connection.DescribedBy` — the connection that a connection string and a path describe.

## Main results

* `EventHubClientLL.connection_eq_some`, `EventHubReceiverLL.connection_eq_some`.
* `create_same_connection`.
-/

namespace EventHubs

/-- Where to connect, and with which key. -/
structure Connection where
  hostName : Option String
  keyName : Option String
  key : Option String
  eventHubPath : Option String
  deriving DecidableEq, Repr

variable {σ : Type}

/-- The connection of a sender. -/
def EventHubClientLL.connection (c : EventHubClientLL σ) : Connection where
  hostName := c.hostName
  keyName := c.keyName
  key := c.keyValue
  eventHubPath := c.eventHubPath

/-- The connection of a receiver. -/
def EventHubReceiverLL.connection (r : EventHubReceiverLL σ) : Connection where
  hostName := r.connectionParams.hostName
  keyName := r.connectionParams.eventHubSharedAccessKeyName
  key := r.connectionParams.eventHubSharedAccessKey
  eventHubPath := r.connectionParams.eventHubPath

/-- The text and the path are there, the text gives entries, the entries describe the connection. -/
def Connection.DescribedBy (parse : CString → Option KVPMap) (connectionString : Option CString)
    (eventHubPath : Option String) (d : Connection) : Prop :=
  ∃ text path values host keyName key, connectionString = some text ∧ eventHubPath = some path ∧
    parse text = some values ∧ DescribesConnection values host keyName key ∧
    d = { hostName := some (String.ofList host)
          keyName := some (String.ofList keyName)
          key := some (String.ofList key)
          eventHubPath := some path }

variable {parse : CString → Option KVPMap} {connectionString : Option CString}
  {eventHubPath : Option String} {d : Connection}

/-- What a sender stores is what the connection string describes. -/
theorem EventHubClientLL.connection_eq_some :
    (createFromConnectionString (σ := σ) parse {} connectionString eventHubPath).map connection =
        some d ↔
      d.DescribedBy parse connectionString eventHubPath := by
  rw [Option.map_eq_some_iff]
  constructor
  · rintro ⟨c, hcreate, rfl⟩
    rcases connectionString with _ | text
    · cases hcreate
    rcases eventHubPath with _ | path
    · cases hcreate
    obtain ⟨values, host, keyName, key, hparse, hdescribes, rfl⟩ :=
      createFromConnectionString_eq_some.mp hcreate
    exact ⟨text, path, values, host, keyName, key, rfl, rfl, hparse, hdescribes, rfl⟩
  · rintro ⟨text, path, values, host, keyName, key, rfl, rfl, hparse, hdescribes, rfl⟩
    exact ⟨_, createFromConnectionString_eq_some.mpr
      ⟨values, host, keyName, key, hparse, hdescribes, rfl⟩, rfl⟩

/-- What a receiver stores is what the connection string describes. -/
theorem EventHubReceiverLL.connection_eq_some {consumerGroup partitionId : String} :
    (create (σ := σ) parse {} connectionString eventHubPath (some consumerGroup)
        (some partitionId)).map connection = some d ↔
      d.DescribedBy parse connectionString eventHubPath := by
  rw [Option.map_eq_some_iff]
  constructor
  · rintro ⟨r, hcreate, rfl⟩
    rcases connectionString with _ | text
    · cases hcreate
    rcases eventHubPath with _ | path
    · cases hcreate
    obtain ⟨values, host, keyName, key, hparse, hdescribes, rfl⟩ := create_eq_some.mp hcreate
    exact ⟨text, path, values, host, keyName, key, rfl, rfl, hparse, hdescribes, rfl⟩
  · rintro ⟨text, path, values, host, keyName, key, rfl, rfl, hparse, hdescribes, rfl⟩
    exact ⟨_, create_eq_some.mpr ⟨values, host, keyName, key, hparse, hdescribes, rfl⟩, rfl⟩

/-- When every call succeeds, a sender is created if and only if a receiver is, which is if and only
if the connection string describes a connection; and both store the same one. -/
theorem create_same_connection (σ τ : Type) (connectionstringparserParse : CString → Option KVPMap)
    (connectionString : Option CString) (eventHubPath : Option String)
    (consumerGroup partitionId : String) :
    let sender : Option (EventHubClientLL σ) :=
      EventHubClientLL.createFromConnectionString connectionstringparserParse {} connectionString
        eventHubPath
    let receiver : Option (EventHubReceiverLL τ) :=
      EventHubReceiverLL.create connectionstringparserParse {} connectionString eventHubPath
        (some consumerGroup) (some partitionId)
    (sender.isSome = true ↔ receiver.isSome = true) ∧
      (receiver.isSome = true ↔ ∃ d : Connection,
        d.DescribedBy connectionstringparserParse connectionString eventHubPath) ∧
      ∀ c r, sender = some c → receiver = some r →
        r.connection = c.connection ∧
          c.connection.DescribedBy connectionstringparserParse connectionString eventHubPath := by
  intro sender receiver
  have hsender (d : Connection) : sender.map EventHubClientLL.connection = some d ↔
      d.DescribedBy connectionstringparserParse connectionString eventHubPath :=
    EventHubClientLL.connection_eq_some
  have hreceiver (d : Connection) : receiver.map EventHubReceiverLL.connection = some d ↔
      d.DescribedBy connectionstringparserParse connectionString eventHubPath :=
    EventHubReceiverLL.connection_eq_some
  have hsame : sender.map EventHubClientLL.connection =
      receiver.map EventHubReceiverLL.connection := by
    ext d
    rw [hsender, hreceiver]
  refine ⟨?_, ?_, ?_⟩
  · rw [← Option.isSome_map (f := EventHubClientLL.connection), hsame, Option.isSome_map]
  · rw [← Option.isSome_map (f := EventHubReceiverLL.connection), Option.isSome_iff_exists]
    exact exists_congr hreceiver
  · intro c r hc hr
    have hd := (hsender c.connection).mp (by rw [hc]; rfl)
    rw [hc, hr] at hsame
    exact ⟨(Option.some.inj hsame).symm, hd⟩

end EventHubs
