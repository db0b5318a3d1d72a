import EventHubs.Auth.Naming
import EventHubs.Sender.Session

/-!
# The refresh token that waits on a sender

Only `EventHubClient_LL_RefreshSASTokenAsync` makes a refresh token wait, and it takes no token but
those whose URI is that of the parsed configuration. Everything else leaves the token that waits, or
takes it away.

## Main definitions

* `EventHubClientLL.Spends` — the token that waits stays or is taken away.
* `EventHubClientLL.Admits` — what is known of the tokens with the right URI.
* `EventHubClientLL.Waiting` — what the sender validates against, and what waits.

## Main results

* `EventHubClientLL.run_waiting`.
-/

namespace EventHubs.EventHubClientLL

open SenderState EventHubAuthCBS Attempt

variable {σ ι : Type}

/-- The refresh token that waits stays or is taken away. -/
def Spends (s t : SenderState σ) : Prop :=
  t.client.extRefreshSASToken = s.client.extRefreshSASToken ∨
    t.client.extRefreshSASToken = none

namespace Spends

variable {s t u : SenderState σ}

theorem refl (s : SenderState σ) : Spends s s := .inl rfl

theorem trans (h : Spends s t) (h' : Spends t u) : Spends s u := by
  rcases h' with h' | h'
  · rcases h with h | h
    · exact .inl (h'.trans h)
    · exact .inr (h'.trans h)
  · exact .inr h'

theorem of_offstage (h : Offstage s t) : Spends s t := .inl h.extRefreshSASToken

theorem raise {r : EventHubClientErrorResult} {after : AfterErrorCb}
    {without : SenderState σ → SenderState σ} (h : Spends s (without s)) :
    Spends s (s.raise r after without) := by
  unfold SenderState.raise
  cases s.client.onErrorCb with
  | none => exact h
  | some callback => exact .refl s

theorem confirm (s : SenderState σ) (e : EventHubEventList) (cause : List SenderEvent)
    (r : EventHubClientConfirmationResult) (after : AfterConfirm) :
    Spends s (s.confirm e cause r after) := by
  unfold SenderState.confirm
  cases e.callback with
  | none => exact .refl s
  | some callback => exact .refl s

end Spends

variable (auth : AuthModule σ ι) {s t : SenderState σ}

/-! ### Bring-up and tear-down -/

theorem createHandle_spends (env : DoWorkEnv ι) (call : SenderCall) (field : StackField) :
    Frame Spends (createHandle (σ := σ) env call field) :=
  fun s => .inl (createHandle_unseen env call field s).extRefreshSASToken

theorem passHandle_spends (call : StackCall) (field : StackField) :
    Frame Spends (passHandle (σ := σ) call field) := Spends.refl

theorem createSASToken_spends (env : DoWorkEnv ι) :
    Frame Spends (createSASToken auth env) := by
  unfold createSASToken
  refine .bind .trans (.update fun s => ?_) fun _ => ?_
  · unfold writeAuthTimeout
    split_ifs <;> exact .inl rfl
  refine .bind .trans (passHandle_spends _ _) fun _ => ?_
  refine .bind .trans (.read .refl) fun _ => ?_
  refine .bind .trans (.update fun _ => .inl rfl) fun _ => .check .refl

theorem initializeUamqpStackCommon_spends (env : DoWorkEnv ι) :
    Frame Spends (initializeUamqpStackCommon auth env) := by
  unfold initializeUamqpStackCommon
  repeat' first
    | exact createSASToken_spends auth env
    | exact .check .refl
    | exact passHandle_spends _ _
    | exact createHandle_spends env _ _
    | refine .bind .trans ?_ fun _ => ?_

theorem initializeUamqpStack_spends (env : DoWorkEnv ι) :
    Frame Spends (initializeUamqpStack auth env) := by
  intro s
  unfold initializeUamqpStack
  split_ifs
  · refine Frame.bind .trans (.update fun _ => .inl rfl) (fun _ => ?_) s
    exact .bind .trans (initializeUamqpStackCommon_spends auth env) fun _ =>
      .update fun _ => .inl rfl
  · refine Frame.bind .trans (fun s => ?_) (fun _ => .update fun _ => .inl rfl) s
    exact .inl (initializeUamqpSenderStack_unseen env s).extRefreshSASToken

theorem finishDestroyUamqpStack_spends (s : SenderState σ) :
    Spends s (finishDestroyUamqpStack s) := .inr rfl

theorem afterDestroyUamqpStack_spends (s : SenderState σ) (after : AfterDestroy) :
    Spends s (afterDestroyUamqpStack s after) := by
  cases after with
  | initFailed => exact .raise (.refl s)
  | «return» => exact .refl s
  | destroy => exact .refl s

theorem destroyUamqpStack_spends (s : SenderState σ) (after : AfterDestroy) :
    Spends s (destroyUamqpStack s after) := by
  unfold destroyUamqpStack
  split_ifs
  · exact .refl s
  · exact (finishDestroyUamqpStack_spends s).trans (afterDestroyUamqpStack_spends _ after)

/-! ### `EventHubClient_LL_DoWork` -/

theorem refreshExtOrProceed_spends (s : SenderState σ) (a : σ) (env : DoWorkEnv ι) :
    Spends s (refreshExtOrProceed auth s a env).1 := by
  have hproceed : Spends s (refreshExtOrProceed.proceed s) := by
    unfold refreshExtOrProceed.proceed
    split_ifs <;> exact .refl s
  unfold refreshExtOrProceed
  cases s.client.extRefreshSASToken with
  | none => exact hproceed
  | some token =>
    dsimp only
    by_cases hcred : s.client.credential = .sasTokenExt
    · rw [if_pos hcred]
      exact .inr rfl
    · rw [if_neg hcred]
      exact hproceed

theorem handleSASTokenAuth_spends (s : SenderState σ) (env : DoWorkEnv ι) :
    Spends s (handleSASTokenAuth auth s env).1 := by
  unfold handleSASTokenAuth
  cases s.client.cbsHandle with
  | none => exact .refl s
  | some a =>
    have hstatus : Spends s ((s.passCBS .eventHubAuthCBSGetStatus).answer
        (auth.getStatus a env.status)) := .refl s
    dsimp only
    generalize (s.passCBS .eventHubAuthCBSGetStatus).answer (auth.getStatus a env.status) = t
      at hstatus ⊢
    split_ifs
    · exact hstatus
    · cases (auth.getStatus a env.status).value.2 with
      | ok => exact hstatus.trans (refreshExtOrProceed_spends auth t _ env)
      | _ => exact hstatus

theorem afterAuth_spends (s : SenderState σ) (outcome : AuthOutcome) :
    Spends s (afterAuth s outcome) := by
  unfold afterAuth openAndSend
  cases outcome with
  | failed => exact .raise (destroyUamqpStack_spends s _)
  | timeout => exact .raise (destroyUamqpStack_spends s _)
  | inProgress => exact .refl s
  | done =>
    dsimp only
    split_ifs <;> exact .refl s

theorem doWorkInitialized_spends (s : SenderState σ) (env : DoWorkEnv ι) :
    Spends s (doWorkInitialized auth s env) := by
  unfold doWorkInitialized
  split_ifs
  · exact destroyUamqpStack_spends s _
  · exact (handleSASTokenAuth_spends auth s env).trans (afterAuth_spends _ _)

theorem doWork_spends (s : SenderState σ) (env : DoWorkEnv ι) : Spends s (doWork auth s env) := by
  have hstart : Spends s (s.emit [.doWork]) := .refl s
  unfold doWork
  dsimp only
  generalize s.emit [.doWork] = s' at hstart ⊢
  split_ifs
  · have hinit := initializeUamqpStack_spends auth env s'
    generalize initializeUamqpStack auth env s' = x at hinit ⊢
    rcases x with ⟨_ | _, t⟩
    · exact hstart.trans (hinit.trans (destroyUamqpStack_spends t _))
    · exact hstart.trans (hinit.trans (doWorkInitialized_spends auth t env))
  · exact hstart.trans (doWorkInitialized_spends auth s' env)

/-! ### Steps -/

theorem iterate_spends (s : SenderState σ) (c : Option ℕ) (env : BuildEnv) (currentTime : UInt64)
    (taken : Bool) : Spends s (iterate s c env currentTime taken) := by
  unfold iterate
  cases c with
  | none => exact .refl s
  | some n =>
    dsimp only
    cases s.entry? n with
    | none => exact .refl s
    | some e =>
      dsimp only
      cases e.currentStatus with
      | waitingForAck => exact .refl s
      | waitingToBeSent =>
        dsimp only
        cases buildMessage env e.eventDataList with
        | none => exact .confirm s e _ _ _
        | some message =>
          dsimp only
          split_ifs
          · unfold expire
            cases e.callback with
            | none => exact .refl s
            | some callback => exact .trans (.inl rfl) (.confirm _ e _ _ _)
          · exact .inl rfl

theorem uamqpReturn_spends (s : SenderState σ) (ok : Bool) (call : UamqpCall) :
    Spends s (uamqpReturn s ok call) := by
  cases call with
  | messagesenderOpen => cases ok <;> exact .refl s
  | connectionDowork => exact .refl s
  | messagesenderDestroy after =>
    exact (finishDestroyUamqpStack_spends s).trans (afterDestroyUamqpStack_spends _ after)
  | messagesenderSendAsync n next taken =>
    unfold uamqpReturn
    dsimp only
    split_ifs
    · exact .refl s
    · cases s.entry? n with
      | none => exact .refl s
      | some e => exact .confirm s e _ _ _

/-- Only `EventHubClient_LL_RefreshSASTokenAsync` makes a refresh token wait. -/
theorem step_spends {i : SenderInput ι} (h : step auth s i = some t) :
    Spends s t ∨
      ∃ token env, i = .refreshSASTokenAsync token env ∧
        t = (refreshSASTokenAsync s token env).2 := by
  cases step_move auth h with
  | refreshSASTokenAsync token env => exact .inr ⟨token, env, rfl, rfl⟩
  | sendAsync event callback context env =>
    exact .inl (.of_offstage (queueing_offstage (sendAsync_cases s event callback context env)))
  | sendBatchAsync list callback context env =>
    exact .inl (.of_offstage (queueing_offstage (sendBatchAsync_cases s list callback context env)))
  | setField hf => exact .inl (.of_offstage (setField_offstage s hf))
  | doWork env => exact .inl (doWork_spends auth s env)
  | destroy => exact .inl (.trans (.inl rfl) (destroyUamqpStack_spends _ _))
  | iterate env currentTime taken => exact .inl (iterate_spends s _ env currentTime taken)
  | onMessageSendComplete r hcall =>
    exact .inl (.of_offstage (onMessageSendComplete_offstage hcall _ r))
  | onMessageSenderStateChanged newState previousState hcall hsender =>
    exact .inl (.of_offstage
      (onMessageSenderStateChanged_offstage hcall newState previousState hsender))
  | onCBSPutTokenOperationComplete => exact .inl (.refl s)
  | uamqpReturn ok => exact .inl (uamqpReturn_spends s ok _)
  | confirmReturn hconfirm => exact .inl (.of_offstage (confirmReturn_offstage hconfirm))
  | stateChangeReturn hchange =>
    exact .inl (.of_offstage (afterStateChange_offstage (by rw [hchange]; rfl) _))
  | @errorReturn after =>
    cases after with
    | uamqp call => exact .inl (.refl s)
    | tearDown => exact .inl (destroyUamqpStack_spends s _)
    | done => exact .inl (.refl s)
  | drain hdraining => exact .inl (.of_offstage (drain_offstage hdraining))

/-! ### Runs -/

/-- A refresh token for which `EventHubAuthCBS_SASTokenParse` finds the URI has the property. -/
def Admits (P : String → Prop) (uri : Option String) : SenderInput ι → Prop
  | .refreshSASTokenAsync (some token) env =>
    ∀ cfg, env.parsed = some cfg → cfg.extSASTokenURI = uri → P token
  | _ => True

/-- The URI that the sender validates refresh tokens against, and the token that waits. -/
structure Waiting (P : String → Prop) (uri : Option String) (c : EventHubClientLL σ) : Prop where
  uri : ∃ base, c.extSASTokenParseConfig = some base ∧ base.extSASTokenURI = uri
  waits : ∀ token, c.extRefreshSASToken = some token → P token

theorem Based.uri {uri : Option String} {c : EventHubClientLL σ}
    (h : Based (TokenSession.FitsURI uri) c) :
    ∃ base, c.extSASTokenParseConfig = some base ∧ base.extSASTokenURI = uri := by
  rcases h with h | ⟨-, base, hbase, hfits⟩
  · cases (h {}).1
  · exact ⟨base, hbase, (hfits 0).2⟩

variable {P : String → Prop} {uri : Option String}

/-- A refresh token is accepted. -/
theorem Waiting.refresh (h : Waiting P uri s.client) {token : Option String} {env : RefreshEnv}
    (hadmits : Admits (ι := ι) P uri (.refreshSASTokenAsync token env)) :
    ∀ text, (refreshSASTokenAsync s token env).2.client.extRefreshSASToken = some text →
      P text := by
  obtain ⟨base, hbase, huri⟩ := h.uri
  cases token with
  | none => exact h.waits
  | some token =>
    unfold refreshSASTokenAsync
    dsimp only
    cases hparsed : env.parsed with
    | none =>
      simp only [ite_self]
      exact h.waits
    | some cfg =>
      dsimp only
      split_ifs with _ _ _ hsame
      · exact h.waits
      · exact h.waits
      · exact h.waits
      · exact h.waits
      · exact h.waits
      · rintro text ⟨⟩
        rw [hbase, Option.bind_some, huri, ne_eq, not_not] at hsame
        exact hadmits cfg hparsed hsame

/-- In every run the handle has the URI that refresh tokens are validated against, and a refresh
token that waits has what is known of the tokens with this URI. -/
theorem run_waiting {parse : String → Option (String × UInt64)}
    {c : EventHubClientLL EventHubAuthCBSStruct} (hc : Created c)
    (hbased : Based (TokenSession.FitsURI uri) c) (hnone : c.extRefreshSASToken = none)
    {is : List (SenderInput AuthEnv)} {s : SenderState EventHubAuthCBSStruct}
    (hadmits : ∀ i ∈ is, Admits P uri i)
    (hrun : (senderMachine (authModule parse)).run { client := c } is = some s) :
    Waiting P uri s.client ∧
      ∀ a, s.client.cbsHandle = some a → a.extSASTokenURI.map (·.text) = uri := by
  have hstep : ∀ s i t, (StackInv s ∧
        Follows parse (TokenSession.FitsURI uri) (!s.control.steady) s ∧ Waiting P uri s.client) →
      Admits P uri i → (senderMachine (authModule parse)).step s i = some t →
      StackInv t ∧ Follows parse (TokenSession.FitsURI uri) (!t.control.steady) t ∧
        Waiting P uri t.client := by
    rintro s i t ⟨hstack, hfollows, hwaiting⟩ hi hstep
    have hnext := step_follows hfollows hstack hstep
    refine ⟨step_stackInv _ hstack hstep, hnext, hnext.based.uri, ?_⟩
    rcases step_spends _ hstep with (hsame | hgone) | ⟨token, env, rfl, rfl⟩
    · rw [hsame]
      exact hwaiting.waits
    · simp [hgone]
    · exact hwaiting.refresh hi
  obtain ⟨-, hfollows, hwaiting⟩ := Machine.run_invariant_of_meets hstep
    ⟨created_stackInv hc, created_follows hc hbased, hbased.uri, by simp [hnone]⟩
    (Machine.meets_of_forall_mem hadmits) hrun
  exact ⟨hwaiting, fun a ha => (TokenSession.Steps.names hfollows.steps a ha).2⟩

end EventHubs.EventHubClientLL
