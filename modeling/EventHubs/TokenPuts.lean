import EventHubs.Sender.Session
import EventHubs.Receiver.StackInvariant
import EventHubs.Receiver.Session

/-!
# The puts of senders and receivers

What holds of token sessions, read off the runs of the two low-level machines: at most one put is
outstanding on an auth handle and a completion finds the handle that records its token, and a
refresh token is presented from its acceptance on until the stack is torn down.

## Main definitions

* `PutsOne` — at most one put is outstanding, and the handle knows it.
* `CompletesOwn` — a put that completes is the one that the handle records.
* `KeepsToken` — the refresh token in force is presented and kept.
* `lastAccepted`, `PresentsLast` — the puts present the token that was accepted last.

## Main results

* `run_puts_one`.
* `run_keeps_token`, `run_forgets_token`.
-/

namespace EventHubs

open EventHubAuthCBS TokenSession

/-! ### At most one put -/

/-- Every put is made when none is outstanding on its handle, every put that completes is
outstanding and has not timed out, and a handle that waits for a completion has its put timeout
armed. -/
structure PutsOne (log : List TokenEvent) (handle : Option EventHubAuthCBSStruct) : Prop where
  log : Chronicle AtMostOne log
  armed : ∀ a, handle = some a → a.cbsStatus = .inProgress → a.cbOperation = .put

/-- A put can complete only on a handle that waits for it and records its token, and the completion
decides the status of this handle. -/
def CompletesOwn (log : List TokenEvent) (before after : Option EventHubAuthCBSStruct) : Prop :=
  ∃ a b p, before = some a ∧ after = some b ∧ (tokenView log).outstanding = some p ∧
    (tokenView log).timedOut = false ∧ a.cbsStatus = .inProgress ∧
    (b.cbsStatus = .ok ∨ b.cbsStatus = .failure) ∧
    a.sasTokenHandle.map (·.text) = some p.sasToken ∧ b.sasTokenHandle = a.sasTokenHandle

theorem TokenSession.Exclusive.putsOne {s : TokenSession} (hs : Exclusive s) :
    PutsOne s.log s.handle := ⟨hs.log, hs.armed⟩

theorem TokenSession.Exclusive.completesOwn {s : TokenSession} (hs : Exclusive s)
    {a : EventHubAuthCBSStruct} (ha : s.handle = some a) (hopen : s.closing = false)
    (hputs : 0 < s.outstandingPuts) (r : CBSOperationResult) (env : AuthEnv) :
    CompletesOwn s.log s.handle (some (onCBSPutTokenOperationComplete a r env).handle) := by
  have hsettled := hs.settled hopen a ha
  have hprogress : a.cbsStatus = .inProgress := by
    by_contra hquiet
    have hnone := (hsettled.quiet hquiet).1
    omega
  obtain ⟨-, p, hp, hrecorded⟩ := hsettled.busy hprogress
  refine ⟨a, _, p, ha, rfl, hp, hsettled.timedOut, hprogress, ?_, hrecorded, ?_⟩
  · obtain ⟨b, heq, hb, -⟩ := putComplete_answer a r env
    rw [heq]
    exact hb
  · cases r <;> rfl

/-- A put of a sender completes inside `connection_dowork`. -/
theorem EventHubClientLL.putComplete_step {σ ι : Type} {auth : AuthModule σ ι}
    {s t : SenderState σ} {r : CBSOperationResult} {env : ι}
    (h : step auth s (.onCBSPutTokenOperationComplete r env) = some t) :
    ∃ a, s.control = .uamqp .connectionDowork ∧ s.client.cbsHandle = some a ∧
      0 < s.outstandingPuts ∧
      t = EventHubClientLL.onCBSPutTokenOperationComplete auth s a r env := by
  simp only [step] at h
  split at h
  · next a hcall ha =>
    obtain ⟨hputs, ⟨⟩⟩ := Option.ite_none_right_eq_some.mp h
    exact ⟨a, hcall, ha, hputs, rfl⟩
  · cases h

/-- A put of a receiver completes inside `connection_dowork`. -/
theorem EventHubReceiverLL.putComplete_step {σ ι : Type} {auth : AuthModule σ ι}
    {s t : ReceiverState σ} {r : CBSOperationResult} {env : ι}
    (h : step auth s (.onCBSPutTokenOperationComplete r env) = some t) :
    ∃ a poll, s.control = .uamqp (.connectionDowork poll) ∧ s.client.cbsHandle = some a ∧
      0 < s.outstandingPuts ∧
      t = EventHubReceiverLL.onCBSPutTokenOperationComplete auth s a r env := by
  simp only [step] at h
  split at h
  · next poll a hcall ha =>
    obtain ⟨hputs, ⟨⟩⟩ := Option.ite_none_right_eq_some.mp h
    exact ⟨a, poll, hcall, ha, hputs, rfl⟩
  · cases h

variable (parse : String → Option (String × UInt64))

/-- In every run of a sender or a receiver at most one put is outstanding on an auth handle, and a
put that completes is the one whose token the handle records. -/
theorem run_puts_one :
    (∀ (c : EventHubClientLL EventHubAuthCBSStruct) (is : List (SenderInput AuthEnv))
        (s : SenderState EventHubAuthCBSStruct), EventHubClientLL.Created c →
      (EventHubClientLL.senderMachine (authModule parse)).run { client := c } is = some s →
      PutsOne s.tokenLog s.client.cbsHandle ∧ ∀ r env t,
        (EventHubClientLL.senderMachine (authModule parse)).step s
          (.onCBSPutTokenOperationComplete r env) = some t →
        CompletesOwn s.tokenLog s.client.cbsHandle t.client.cbsHandle) ∧
    (∀ (c : EventHubReceiverLL EventHubAuthCBSStruct) (is : List (ReceiverInput AuthEnv))
        (s : ReceiverState EventHubAuthCBSStruct), EventHubReceiverLL.Created c →
      (EventHubReceiverLL.receiverMachine (authModule parse)).run { client := c } is = some s →
      PutsOne s.tokenLog s.client.cbsHandle ∧ ∀ r env t,
        (EventHubReceiverLL.receiverMachine (authModule parse)).step s
          (.onCBSPutTokenOperationComplete r env) = some t →
        CompletesOwn s.tokenLog s.client.cbsHandle t.client.cbsHandle) := by
  refine ⟨fun c is s hc hrun ↦ ?_, fun c is s hc hrun ↦ ?_⟩
  · have hs := (EventHubClientLL.run_follows hc (Or.inl fun _ ↦ trivial) hrun :
      EventHubClientLL.Follows parse (fun _ ↦ True) _ s).exclusive
    refine ⟨hs.putsOne, fun r env t hstep ↦ ?_⟩
    obtain ⟨a, hcall, ha, hputs, rfl⟩ := EventHubClientLL.putComplete_step hstep
    have hopen : (s.session (!s.control.steady)).closing = false := by rw [hcall]; rfl
    exact hs.completesOwn ha hopen hputs r env
  · have hs := (EventHubReceiverLL.run_follows hc (Or.inl fun _ ↦ trivial) hrun :
      EventHubReceiverLL.Follows parse (fun _ ↦ True) _ s).toReached.exclusive
    refine ⟨hs.putsOne, fun r env t hstep ↦ ?_⟩
    obtain ⟨a, poll, hcall, ha, hputs, rfl⟩ := EventHubReceiverLL.putComplete_step hstep
    have hopen : (s.session (!s.control.steady)).closing = false := by rw [hcall]; rfl
    exact hs.completesOwn ha hopen hputs r env

/-- The first put of a sender and of a receiver completes. -/
theorem run_puts_one_first :
    (∃ s t, (EventHubClientLL.senderMachine (authModule fun _ ↦ none)).run
        { client := .createdFromConnectionString "name" "key" "host" "hub" "target" }
        [.doWork (EventHubClientLL.doWorkAt 100)] = some s ∧
      (EventHubClientLL.senderMachine (authModule fun _ ↦ none)).step s
        (.onCBSPutTokenOperationComplete .ok {}) = some t ∧
      CompletesOwn s.tokenLog s.client.cbsHandle t.client.cbsHandle) ∧
    ∃ s t, (EventHubReceiverLL.receiverMachine (authModule fun _ ↦ none)).run
        { client := .createdFromConnectionString "host" "hub" "name" "key" "group" "0" }
        (EventHubReceiverLL.authorised.take 2) = some s ∧
      (EventHubReceiverLL.receiverMachine (authModule fun _ ↦ none)).step s
        (.onCBSPutTokenOperationComplete .ok {}) = some t ∧
      CompletesOwn s.tokenLog s.client.cbsHandle t.client.cbsHandle := by
  refine ⟨⟨_, _, rfl, rfl, ?_⟩, ⟨_, _, rfl, rfl, ?_⟩⟩
  · exact ((run_puts_one fun _ ↦ none).1 _ [.doWork (EventHubClientLL.doWorkAt 100)] _
      (.fromConnectionString "name" "key" "host" "hub" "target") rfl).2 .ok {} _ rfl
  · exact ((run_puts_one fun _ ↦ none).2 _ (EventHubReceiverLL.authorised.take 2) _
      (.fromConnectionString "host" "hub" "name" "key" "group" "0") rfl).2 .ok {} _ rfl

/-! ### The refresh token in force -/

/-- The refresh token in force is presented by every put but the first one on a handle, and it waits
or is held by the handle, unless a tear-down is under way. -/
structure KeepsToken (base : EventHubAuthCBSConfig) (guarded : Prop) (log : List TokenEvent)
    (handle : Option EventHubAuthCBSStruct) (waiting : Option String) (steady : Bool) : Prop where
  presented : Chronicle (Presents parse base guarded) log
  kept : steady = true → ∀ a text, handle = some a → (tokenView log).inForce = some text →
    waiting = some text ∨ Holds parse a text

variable {parse} in
theorem TokenSession.Presenting.keepsToken {base : EventHubAuthCBSConfig} {guarded : Prop}
    {s : TokenSession} (hs : Presenting parse base guarded s) {steady : Bool}
    (hclosing : s.closing = !steady) :
    KeepsToken parse base guarded s.log s.handle s.extRefreshSASToken steady := by
  refine ⟨hs.log, fun hsteady a text ha hforce ↦ ?_⟩
  have hopen : s.closing = false := by simp [hclosing, hsteady]
  cases hwaiting : s.extRefreshSASToken with
  | none => exact Or.inr ((hs.keeping hopen a ha).later hwaiting text hforce)
  | some waiting => exact Or.inl ((hs.waiting waiting hwaiting).symm.trans hforce)

/-- In every run of a sender or a receiver that was created from a SAS token, the first put on an
auth handle presents this token, and every other put presents the refresh token in force. A sender
does not accept a refresh token before the first put. -/
theorem run_keeps_token (config : EventHubAuthCBSConfig)
    (hcred : config.credential = .sasTokenExt) :
    (∀ (targetAddress : String) (is : List (SenderInput AuthEnv))
        (s : SenderState EventHubAuthCBSStruct), config.mode = .sender →
      (EventHubClientLL.senderMachine (authModule parse)).run
        { client := EventHubClientLL.createdFromSASToken config targetAddress } is = some s →
      KeepsToken parse config True s.tokenLog s.client.cbsHandle s.client.extRefreshSASToken
        s.control.steady) ∧
    (∀ (is : List (ReceiverInput AuthEnv)) (s : ReceiverState EventHubAuthCBSStruct),
      config.mode = .receiver →
      (EventHubReceiverLL.receiverMachine (authModule parse)).run
        { client := EventHubReceiverLL.createdFromSASToken config } is = some s →
      KeepsToken parse config False s.tokenLog s.client.cbsHandle s.client.extRefreshSASToken
        s.control.steady) := by
  refine ⟨fun targetAddress is s hmode hrun ↦ ?_, fun is s hmode hrun ↦ ?_⟩
  · have hbased : EventHubClientLL.Based (FitsToken config)
        (EventHubClientLL.createdFromSASToken (σ := EventHubAuthCBSStruct) config targetAddress) :=
      Or.inr ⟨rfl, config, rfl, fun _ ↦ ⟨hcred, rfl, rfl⟩⟩
    have hfollows := EventHubClientLL.run_follows (.fromSASToken config targetAddress hmode) hbased
      hrun
    exact (Steps.presenting presenting_of_empty exclusive_of_empty hfollows.steps).keepsToken rfl
  · have hbased : EventHubReceiverLL.Based (FitsToken config)
        (EventHubReceiverLL.createdFromSASToken (σ := EventHubAuthCBSStruct) config) :=
      Or.inr ⟨config, rfl, fun _ ↦ ⟨hcred, rfl, rfl⟩⟩
    have hfollows := EventHubReceiverLL.run_follows (.fromSASToken config hmode) hbased hrun
    exact (Steps.presenting presenting_of_empty exclusive_of_empty hfollows.steps).keepsToken rfl

/-- The refresh token that was accepted last. -/
def lastAccepted (log : List TokenEvent) : Option String :=
  (log.filterMap fun
    | .refreshAccepted token => some token
    | _ => none).getLast?

/-- A put presents the refresh token that was accepted last, if one was. -/
def PresentsLast (past : List TokenEvent) : TokenEvent → Prop
  | .auth (.put p) => ∀ text, lastAccepted past = some text → p.sasToken = text
  | _ => True

/-- The configuration in a SAS token that a sender is created from. -/
def senderToken : EventHubAuthCBSConfig where
  hostName := some "host"
  eventHubPath := some "hub"
  senderPublisherId := some "publisher"
  extSASToken := some "first"
  extSASTokenURI := some "uri"
  extSASTokenExpTSInEpochSec := 50
  mode := .sender
  credential := .sasTokenExt

/-- A sender is brought up, a refresh token is accepted, and the stack is rebuilt after an error of
the message sender. -/
def reconnecting : List (SenderInput AuthEnv) :=
  [.doWork (EventHubClientLL.doWorkAt 100), .onCBSPutTokenOperationComplete .ok {},
    .uamqpReturn true, .doWork (EventHubClientLL.doWorkAt 101),
    .doWork (EventHubClientLL.doWorkAt 102), .onMessageSenderStateChanged .open .opening,
    .uamqpReturn true, .iterate {} 20 true, .onMessageSenderStateChanged .error .open,
    .uamqpReturn true, .refreshSASTokenAsync (some "second") { parsed := some senderToken },
    .doWork (EventHubClientLL.doWorkAt 103), .uamqpReturn true,
    .doWork (EventHubClientLL.doWorkAt 104)]

/-- The tokens along this run. -/
theorem run_keeps_token_reconnecting :
    ∃ s, (EventHubClientLL.senderMachine (authModule fun _ ↦ some ("uri", 60))).run
        { client := .createdFromSASToken senderToken "target" } reconnecting = some s ∧
      KeepsToken (fun _ ↦ some ("uri", 60)) senderToken True s.tokenLog s.client.cbsHandle
        s.client.extRefreshSASToken s.control.steady := by
  refine ⟨_, rfl, ?_⟩
  exact (run_keeps_token _ senderToken rfl).1 "target" reconnecting _ rfl rfl

/-- The configuration in a SAS token that a receiver is created from. -/
def receiverToken : EventHubAuthCBSConfig where
  hostName := some "host"
  eventHubPath := some "hub"
  receiverConsumerGroup := some "group"
  receiverPartitionId := some "0"
  extSASToken := some "first"
  extSASTokenURI := some "uri"
  extSASTokenExpTSInEpochSec := 50
  mode := .receiver
  credential := .sasTokenExt

/-- A reception is started, a refresh token is accepted before the stack is there, and the stack is
brought up. -/
def refreshedEarly : List (ReceiverInput AuthEnv) :=
  [.receiveFromStartTimestampAsync (some ⟨1, none⟩) (some ⟨2, none⟩) 0 {},
    .refreshSASTokenAsync (some "second") { parsed := some receiverToken },
    .doWork (EventHubReceiverLL.workAt 100)]

/-- The rebuilt stack of a sender presents the token given at creation: the refresh token was
deleted when the stack was torn down. So does the first put of a receiver, whose stack was never
torn down: the refresh token waits for the put to complete. -/
theorem run_forgets_token :
    (∃ s, (EventHubClientLL.senderMachine (authModule fun _ ↦ some ("uri", 60))).run
        { client := .createdFromSASToken senderToken "target" } reconnecting = some s ∧
      ¬Chronicle PresentsLast s.tokenLog) ∧
    ∃ s, (EventHubReceiverLL.receiverMachine (authModule fun _ ↦ some ("uri", 60))).run
        { client := .createdFromSASToken receiverToken } refreshedEarly = some s ∧
      .destroyed ∉ s.tokenLog ∧ .dropped ∉ s.tokenLog ∧ ¬Chronicle PresentsLast s.tokenLog := by
  constructor
  · refine ⟨_, rfl, fun h ↦ ?_⟩
    have hput := h [.created, .auth (.status none .ok .idle),
      .auth (.put ⟨"uri", "first", 100, 50, true⟩), .auth (.putComplete .ok),
      .auth (.status none .ok .ok), .auth (.status none .ok .ok), .refreshAccepted "second",
      .destroyed, .dropped, .created, .auth (.status none .ok .idle)]
      (.auth (.put ⟨"uri", "first", 104, 50, true⟩)) List.prefix_rfl "second" rfl
    exact absurd hput (by decide)
  · refine ⟨_, rfl, by decide, by decide, fun h ↦ ?_⟩
    have hput := h [.refreshAccepted "second", .created, .auth (.status none .ok .idle)]
      (.auth (.put ⟨"uri", "first", 100, 50, true⟩)) List.prefix_rfl "second" rfl
    exact absurd hput (by decide)

end EventHubs
