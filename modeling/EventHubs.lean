import EventHubs.Library.Machine
import EventHubs.Library.Tokenizer
import EventHubs.SASToken.KVPParser
import EventHubs.SASToken.Parse
import EventHubs.SASToken.Grammar
import EventHubs.SASToken.TokenMap
import EventHubs.SASToken.RoundTrip
import EventHubs.SASToken.Malformed
import EventHubs.Library.Chronicle
import EventHubs.Library.Clock
import EventHubs.Library.Ledger
import EventHubs.Library.Block
import EventHubs.Auth.Handle
import EventHubs.Auth.Spec
import EventHubs.Auth.Run
import EventHubs.Auth.Expiry
import EventHubs.Auth.Polling
import EventHubs.Auth.Ownership
import EventHubs.Auth.Atomicity
import EventHubs.Auth.Session
import EventHubs.Library.Outbox
import EventHubs.Library.OutboxInvariant
import EventHubs.Sender.Message
import EventHubs.Sender.Stack
import EventHubs.Sender.Machine
import EventHubs.Sender.Cloning
import EventHubs.Sender.Framing
import EventHubs.Sender.Refinement
import EventHubs.Sender.Record
import EventHubs.Sender.Delivery
import EventHubs.Sender.PartitionKey
import EventHubs.Sender.Calls
import EventHubs.Sender.Release
import EventHubs.Sender.Mute
import EventHubs.Sender.Stage
import EventHubs.Sender.StackInvariant
import EventHubs.Sender.Authorized
import EventHubs.Sender.Session
import EventHubs.Receiver.Message
import EventHubs.Receiver.Stack
import EventHubs.Receiver.Machine
import EventHubs.Receiver.Spec
import EventHubs.Receiver.StackInvariant
import EventHubs.Receiver.Stage
import EventHubs.Receiver.Registration
import EventHubs.Receiver.Acceptance
import EventHubs.Receiver.Reception
import EventHubs.Receiver.Ending
import EventHubs.Receiver.Timeout
import EventHubs.Receiver.Session
import EventHubs.Receiver.Calls
import EventHubs.Threaded.Receiver
import EventHubs.Threaded.Spec
import EventHubs.RoundTrip
import EventHubs.TokenPuts
import EventHubs.Threaded.Dispatch
import EventHubs.Threaded.Release
import EventHubs.Threaded.Agreement
import EventHubs.Threaded.Atomicity
import EventHubs.Threaded.Sender
import EventHubs.Threaded.SenderSpec
import EventHubs.Threaded.SyncSend
import EventHubs.SASToken.KVPHandles
import EventHubs.SASToken.Elements
import EventHubs.SASToken.ParseHandles
import EventHubs.Endpoint
import EventHubs.Sender.Creation
import EventHubs.Receiver.Creation
import EventHubs.Connection
import EventHubs.ParsedToken
import EventHubs.SASToken.Reading
import EventHubs.Auth.Naming
import EventHubs.Sender.Waiting
import EventHubs.Receiver.Waiting
import EventHubs.TokenRefreshes
import EventHubs.Library.Ownership
import EventHubs.EventDataKeys
import EventHubs.Auth.Adjusted
import EventHubs.Auth.PutTime
import EventHubs.Receiver.Turn
import EventHubs.Receiver.PutTimeout
import EventHubs.Sender.Payloads
import EventHubs.Library.OutboxPass
import EventHubs.Sender.Progress
import EventHubs.Threaded.SenderRuns
import EventHubs.Sender.MessageHandles
import EventHubs.Sender.ReadBack
import EventHubs.Library.Scaffold
import EventHubs.Sender.Handles
import EventHubs.Sender.Ownership
import EventHubs.Sender.Lifetime
import EventHubs.SASToken.Fields
