import EventHubs.Sender.Ownership
import EventHubs.Sender.StackInvariant

/-!
# The lifetime of what a sender owns

Through any run, from creation to the end of `EventHubClient_LL_Destroy`, the fields of a client
hold all that is alive, and each object is destroyed once and before everything it was made from.
In the end nothing is left but the configuration that was parsed from a token, which
`EventHubClient_LL_Destroy` does not destroy.

## Main definitions

* `SenderHandles.Housed` — the objects agree with the fields of the client.
* `SenderHandles.Emptied` — what `EventHubClient_LL_Destroy` has left so far.

## Main results

* `SenderHandles.run_releases`.
-/

namespace EventHubs

namespace SenderControl

/-- The loop of `EventHubClient_LL_Destroy` has begun. -/
def drained : SenderControl → Bool
  | .draining => true
  | .confirming _ .draining => true
  | .destroyed => true
  | _ => false

theorem not_drained_of_working {c : SenderControl} (h : c.closing = false) : c.drained = false := by
  cases c with
  | confirming n after => cases after <;> first | rfl | cases h
  | draining => cases h
  | destroyed => cases h
  | _ => rfl

theorem not_drained_of_call {c : SenderControl} {call : UamqpCall} (h : c.call = some call) :
    c.drained = false := by
  cases c with
  | confirming n after => cases after <;> first | rfl | cases h
  | draining => cases h
  | destroyed => cases h
  | _ => rfl

end SenderControl

namespace SenderHandles

open Attempt EventHubClientLL Scaffold

variable {σ ι : Type}

/-! ### The objects of a running sender -/

section Housed

variable (auth : AuthModule σ ι) {c : EventHubClientLL σ} {locals : List SenderSlot}
  {x : SenderHandles σ}

/-- The scaffold is sound, and but for some locals it has what the client owns. -/
structure Housed (locals : List SenderSlot) (c : EventHubClientLL σ) (x : SenderHandles σ) :
    Prop extends Sound SenderSlot.parts x.2 where
  filled : ∀ k, k ∉ locals → (x.2.field k).isSome = owned c x.1 k

theorem Housed.of_holds (h : Holds SenderSlot.parts (owned c x.1) x.2) : Housed [] c x :=
  ⟨h.toSound, fun k _ => h.filled k⟩

theorem Housed.holds (h : Housed [] c x) : Holds SenderSlot.parts (owned c x.1) x.2 :=
  ⟨h.toSound, fun k => h.filled k List.not_mem_nil⟩

/-- The same fields of the client are not NULL. -/
structure SameFields (s t : SenderState σ) : Prop where
  stack : t.client.stack = s.client.stack
  cbsHandle : t.client.cbsHandle.isSome = s.client.cbsHandle.isSome
  extRefreshSASToken : t.client.extRefreshSASToken.isSome = s.client.extRefreshSASToken.isSome

theorem SameFields.owned_eq {s t : SenderState σ} (h : SameFields s t) :
    owned c t = owned c s := by
  funext k
  cases k with
  | stack field => exact congrArg (fun stack => (stack field).isSome) h.stack
  | cbsHandle => exact h.cbsHandle
  | extRefreshSASToken => exact h.extRefreshSASToken
  | _ => rfl

theorem Housed.of_same (h : Housed locals c x) {t : SenderState σ} (ht : SameFields x.1 t) :
    Housed locals c (t, x.2) :=
  ⟨h.toSound, fun k hk => (h.filled k hk).trans (congrFun ht.owned_eq k).symm⟩

theorem Housed.mono (h : Housed locals c x) {all : List SenderSlot} (hall : locals ⊆ all) :
    Housed all c x := ⟨h.toSound, fun k hk => h.filled k fun hmem => hk (hall hmem)⟩

/-- The result of a creating call is assigned. -/
theorem Housed.assign (h : Housed locals c x) {succeeds : Bool} (slot : SenderSlot)
    {t : SenderState σ} (hslot : slot ∉ locals) (hnone : owned c x.1 slot = false)
    (hparts : ∀ j ∈ slot.parts, j ∉ locals ∧ owned c x.1 j = true) {locals' : List SenderSlot}
    (hlocals : locals ⊆ locals')
    (ht : ∀ k, k ∉ locals' → owned c t k = Function.update (owned c x.1) slot succeeds k) :
    Housed locals' c (t, x.2.assign succeeds slot slot.parts) := by
  have hfree : x.2.field slot = none := by
    have hfilled := (h.filled slot hslot).trans hnone
    simpa using hfilled
  have hkept : ∀ k, k ∉ locals' → k ≠ slot → (x.2.field k).isSome = owned c t k :=
    fun k hk hne => by
      rw [ht k hk, Function.update_of_ne hne]
      exact h.filled k fun hmem => hk (hlocals hmem)
  cases succeeds with
  | false =>
    rw [Scaffold.assign, if_neg (by simp), void_of_none hfree]
    refine ⟨h.toSound, fun k hk => ?_⟩
    by_cases heq : k = slot
    · rw [ht k hk, heq, Function.update_self]
      exact congrArg Option.isSome hfree
    · exact hkept k hk heq
  | true =>
    rw [Scaffold.assign, if_pos rfl]
    refine ⟨h.toSound.make hfree fun j hj => ?_, fun k hk => ?_⟩
    · exact (h.filled j (hparts j hj).1).trans (hparts j hj).2
    · by_cases heq : k = slot
      · rw [ht k hk, heq, Function.update_self]
        simp [Scaffold.make]
      · simp only [Scaffold.make, Function.update_of_ne heq]
        exact hkept k hk heq

/-- Some fields are released. -/
theorem Housed.releaseAll (h : Housed locals c x) (ks : List SenderSlot) {t : SenderState σ}
    (hks : unwinds SenderSlot.table [] ks = true) (hlocals : locals ⊆ ks)
    (ht : ∀ k, owned c t k = (owned c x.1 k && k ∉ ks)) :
    Housed [] c (t, x.2.releaseAll ks) := by
  refine ⟨h.toSound.releaseAll (.of_table hks) fun _ hj => absurd hj List.not_mem_nil,
    fun k _ => ?_⟩
  rw [releaseAll_field, ht]
  by_cases hk : k ∈ ks
  · simp [hk]
  · simp [hk, h.filled k fun hmem => hk (hlocals hmem)]

/-! ### Bring-up -/

/-- The client, and the fields of the stack that are there. -/
def provided (fields : List StackField) : SenderSlot → Bool
  | .client => true
  | .stack field => field ∈ fields
  | _ => false

theorem owned_of_provided {fields : List StackField} {cbs : Bool} {s : SenderState σ}
    (h : Built fields cbs s) {k : SenderSlot} (hk : provided fields k = true) :
    owned c s k = true := by
  cases k with
  | client => rfl
  | stack field => exact (h.stack field).trans hk
  | _ => cases hk

theorem owned_store (s : SenderState σ) (field : StackField) (handle : Option Handle) :
    owned c (s.store field handle) =
      Function.update (owned c s) (.stack field) handle.isSome := by
  funext k
  by_cases hk : k = .stack field
  · subst hk
    simp [owned, SenderState.store]
  · rw [Function.update_of_ne hk]
    cases k with
    | stack other =>
      have hne : other ≠ field := fun heq => hk (congrArg _ heq)
      simp [owned, SenderState.store, hne]
    | _ => rfl

section Built

variable {fields : List StackField} {cbs : Bool}

theorem check_housed (b : Bool) (hsender : StackField.messageSender ∉ fields) :
    Spec (fun x : SenderHandles σ => Built fields cbs x.1 ∧ Housed locals c x) (onFst (check b))
      (fun _ x => Built fields cbs x.1 ∧ Housed locals c x)
      fun x => Halted x.1 ∧ Housed locals c x :=
  Over.onFst.spec (check_spec b hsender) fun _ _ h => h

theorem passHandle_housed (call : StackCall) {field : StackField} (hfield : field ∈ fields) :
    Spec (fun x : SenderHandles σ => Built fields cbs x.1 ∧ Housed locals c x)
      (onFst (passHandle call field)) (fun _ x => Built fields cbs x.1 ∧ Housed locals c x)
      fun x => Halted x.1 ∧ Housed locals c x :=
  Over.onFst.spec (passHandle_spec call hfield) fun _ _ h => h.of_same ⟨rfl, rfl, rfl⟩

theorem createHandle_housed (env : DoWorkEnv ι) (call : SenderCall) {field : StackField}
    (hfield : field ∉ fields) (hsender : StackField.messageSender ∉ fields)
    (hslot : ∀ j ∈ .stack field :: (SenderSlot.stack field).parts, j ∉ locals)
    (hparts : ∀ j ∈ (SenderSlot.stack field).parts, provided fields j = true) :
    Spec (fun x : SenderHandles σ => Built fields cbs x.1 ∧ Housed locals c x)
      (createHandle env call field) (fun _ x => Built (field :: fields) cbs x.1 ∧ Housed locals c x)
      fun x => Halted x.1 ∧ Housed locals c x := by
  refine (createHandle_over env call field).spec
    (EventHubClientLL.createHandle_spec env call hfield hsender) fun x hbuilt h => ?_
  refine h.assign _ (hslot _ List.mem_cons_self) ?_ (fun j hj =>
    ⟨hslot j (List.mem_cons_of_mem _ hj), owned_of_provided hbuilt (hparts j hj)⟩)
    (List.Subset.refl _) fun k _ => ?_
  · exact (hbuilt.stack field).trans (decide_eq_false hfield)
  · unfold EventHubClientLL.createHandle
    cases env.succeeds call with
    | true => exact congrFun (owned_store x.1 field (some x.1.nextHandle)) k
    | false => exact congrFun (owned_store x.1 field none) k

theorem createSASToken_over (env : DoWorkEnv ι) :
    Over (createSASToken auth env) (EventHubClientLL.createSASToken auth env) := by
  unfold createSASToken EventHubClientLL.createSASToken
  refine .bind .onFst fun _ => .bind .onFst fun _ => .bind .onFst fun _ => .bind .onFst fun _ => ?_
  exact .updateSnd_bind .onFst

theorem createSASToken_housed (env : DoWorkEnv ι) (hsession : StackField.session ∈ fields)
    (hsender : StackField.messageSender ∉ fields) :
    Spec (fun x : SenderHandles σ => Built fields false x.1 ∧ Housed [] c x)
      (createSASToken auth env) (fun _ x => Built fields true x.1 ∧ Housed [] c x)
      fun x => Halted x.1 ∧ Housed [] c x := by
  refine (createSASToken_over auth env).spec
    (EventHubClientLL.createSASToken_spec auth env hsession hsender) fun x hbuilt h => ?_
  have hparts : SenderSlot.parts .cbsHandle = [.stack .session] := by decide
  refine h.assign .cbsHandle List.not_mem_nil hbuilt.cbsHandle (fun j hj => ?_)
    (List.Subset.refl _) fun k _ => ?_
  · rw [hparts] at hj
    obtain rfl := List.mem_singleton.mp hj
    exact ⟨List.not_mem_nil, (hbuilt.stack .session).trans (decide_eq_true hsession)⟩
  · by_cases hk : k = .cbsHandle
    · subst hk
      rw [Function.update_self]
      rfl
    · rw [Function.update_of_ne hk]
      have hwrite : (writeAuthTimeout x.1.client).stack = x.1.client.stack ∧
          (writeAuthTimeout x.1.client).extRefreshSASToken = x.1.client.extRefreshSASToken := by
        unfold writeAuthTimeout
        split_ifs <;> exact ⟨rfl, rfl⟩
      cases k with
      | stack field => exact congrArg (fun stack => (stack field).isSome) hwrite.1
      | extRefreshSASToken => exact congrArg Option.isSome hwrite.2
      | cbsHandle => exact absurd rfl hk
      | _ => rfl

theorem construct_housed (succeeds : Bool) {slot : SenderSlot} (hsender : .messageSender ∉ fields)
    (hslot : slot ∈ [.source, .target]) (hlocals : slot ∉ locals) {all : List SenderSlot}
    (hall : slot :: locals ⊆ all) :
    Spec (fun x : SenderHandles σ => Built fields cbs x.1 ∧ Housed locals c x)
      (construct succeeds slot) (fun _ x => Built fields cbs x.1 ∧ Housed (slot :: locals) c x)
      fun x => Halted x.1 ∧ Housed all c x := by
  have hassign : ∀ x : SenderHandles σ, Housed locals c x →
      Housed (slot :: locals) c (x.1, x.2.assign succeeds slot slot.parts) := fun x h => by
    have hparts : slot.parts = [] ∧ owned c x.1 slot = false := by
      rcases List.mem_cons.mp hslot with rfl | hslot
      · exact ⟨by decide, rfl⟩
      · obtain rfl := List.mem_singleton.mp hslot
        exact ⟨by decide, rfl⟩
    refine h.assign _ hlocals hparts.2 (by simp [hparts.1]) (List.subset_cons_self _ _)
      fun k hk => ?_
    exact (Function.update_of_ne (fun heq => hk (by simp [heq])) _ _).symm
  rintro x ⟨hbuilt, h⟩
  cases succeeds with
  | true => exact ⟨hbuilt, hassign x h⟩
  | false => exact ⟨hbuilt.halted hsender, (hassign x h).mono hall⟩

end Built

theorem initializeUamqpStackCommon_housed (env : DoWorkEnv ι) :
    Spec (fun x : SenderHandles σ => Built [] false x.1 ∧ Housed [] c x)
      (initializeUamqpStackCommon auth env) (fun _ x => Built firstPhase true x.1 ∧ Housed [] c x)
      fun x => Halted x.1 ∧ Housed [] c x := by
  unfold initializeUamqpStackCommon
  repeat first
    | refine .bind (check_housed _ (by decide)) fun _ => ?_
    | refine .bind (passHandle_housed _ (by decide)) fun _ => ?_
    | refine .bind (createHandle_housed env _ (by decide) (by decide) (by decide) (by decide))
        fun _ => ?_
  exact createSASToken_housed auth env (by decide) (by decide)

/-- The source and the target are gone, whether the link and the message sender were made or not. -/
theorem initializeUamqpSenderStack_housed (env : DoWorkEnv ι) :
    Spec (fun x : SenderHandles σ => Built firstPhase true x.1 ∧ Housed [] c x)
      (initializeUamqpSenderStack env)
      (fun _ x => Built (.messageSender :: .link :: firstPhase) true x.1 ∧ Housed [] c x)
      fun x => Halted x.1 ∧ Housed [] c x := by
  unfold initializeUamqpSenderStack
  refine .bind (check_housed _ (by decide)) fun _ => ?_
  have hrelease : ∀ x : SenderHandles σ, Housed [.target, .source] c x →
      Housed [] c (x.1, x.2.releaseAll [.source, .target]) := fun x h => by
    refine h.releaseAll _ (by decide) (by decide) fun k => ?_
    cases k <;> simp [owned]
  refine Spec.afterwards (Q := fun _ x => Built (.messageSender :: .link :: firstPhase) true x.1 ∧
    Housed [.target, .source] c x) (F := fun x => Halted x.1 ∧ Housed [.target, .source] c x)
    ?_ (fun _ x h => ⟨h.1, hrelease x h.2⟩) fun x h => ⟨h.1, hrelease x h.2⟩
  refine .bind (construct_housed _ (by decide) (by decide) (by decide) (by decide)) fun _ => ?_
  refine .bind (construct_housed _ (by decide) (by decide) (by decide) (by decide)) fun _ => ?_
  repeat first
    | refine .bind (check_housed _ (by decide)) fun _ => ?_
    | refine .bind (passHandle_housed _ (by decide)) fun _ => ?_
    | refine .bind (createHandle_housed env _ (by decide) (by decide) (by decide) (by decide))
        fun _ => ?_
  exact createHandle_housed env _ (by decide) (by decide) (by decide) (by decide)

/-- Whether the bring-up succeeds or not, what it made is in the fields. -/
theorem initializeUamqpStack_housed (env : DoWorkEnv ι) :
    Spec (fun x : SenderHandles σ => (StackConsistent x.1.client ∧ x.1.control.sending = false ∧
        (∀ e ∈ x.1.log, e.sound = true) ∧ (x.1.client.amqpState = .uninitialized ∨
          x.1.client.amqpState = .pendingSenderCreate)) ∧ Housed [] c x)
      (initializeUamqpStack auth env) (fun _ x => Up x.1 ∧ Housed [] c x)
      fun x => Halted x.1 ∧ Housed [] c x := by
  refine (initializeUamqpStack_over auth env).spec
    (EventHubClientLL.initializeUamqpStack_spec auth env) ?_
  rintro x ⟨hs, hquiet, hsound, hstate⟩ h
  unfold initializeUamqpStack
  split_ifs with huninit
  · have hspec : Spec (fun x : SenderHandles σ => Built [] false x.1 ∧ Housed [] c x) (do
        onFst (setMessageSenderState .idle)
        initializeUamqpStackCommon auth env
        onFst (setAMQPState .pendingAuthorization)) (fun _ => Housed [] c) (Housed [] c) := by
      refine .bind (Q := fun _ x => Built [] false x.1 ∧ Housed [] c x) (fun x hx =>
        ⟨⟨hx.1.1, hx.1.2, hx.1.3, hx.1.4⟩, hx.2.of_same ⟨rfl, rfl, rfl⟩⟩) fun _ => ?_
      refine .bind ((initializeUamqpStackCommon_housed auth env).mono (fun _ h => h)
        (fun _ _ h => h) fun _ h => h.2) fun _ x hx => ?_
      exact hx.2.of_same ⟨rfl, rfl, rfl⟩
    exact hspec.always ⟨.of_uninitialized hs hquiet hsound huninit, h⟩
  · have hspec : Spec (fun x : SenderHandles σ => Built firstPhase true x.1 ∧ Housed [] c x) (do
        initializeUamqpSenderStack env
        onFst (setAMQPState .initialized)) (fun _ => Housed [] c) (Housed [] c) := by
      refine .bind ((initializeUamqpSenderStack_housed env).mono (fun _ h => h)
        (fun _ _ h => h) fun _ h => h.2) fun _ x hx => ?_
      exact hx.2.of_same ⟨rfl, rfl, rfl⟩
    exact hspec.always ⟨.of_pendingSenderCreate hs hquiet hsound (hstate.resolve_left huninit), h⟩

/-! ### Tear-down, authentication, refresh -/

theorem finishDestroyUamqpStack_housed (h : Housed [] c x) :
    Housed [] c (finishDestroyUamqpStack x) := by
  refine h.releaseAll stackSlots (by decide) (List.nil_subset _) fun k => ?_
  cases k with
  | stack field =>
    cases field <;> simp [owned, EventHubClientLL.finishDestroyUamqpStack, stackSlots]
  | _ => simp [owned, EventHubClientLL.finishDestroyUamqpStack, stackSlots]

theorem afterDestroyUamqpStack_housed (h : Housed [] c x) {after : AfterDestroy}
    (hafter : after ≠ .destroy) : Housed [] c (afterDestroyUamqpStack x after) := by
  unfold afterDestroyUamqpStack
  rw [if_neg hafter]
  refine h.of_same ?_
  cases after with
  | initFailed =>
    unfold EventHubClientLL.afterDestroyUamqpStack SenderState.raise
    cases x.1.client.onErrorCb <;> exact ⟨rfl, rfl, rfl⟩
  | «return» => exact ⟨rfl, rfl, rfl⟩
  | destroy => exact absurd rfl hafter

theorem destroyUamqpStack_housed (h : Housed [] c x) {after : AfterDestroy}
    (hafter : after ≠ .destroy) : Housed [] c (destroyUamqpStack x after) := by
  unfold destroyUamqpStack
  split_ifs
  · exact h.of_same ⟨rfl, rfl, rfl⟩
  · exact afterDestroyUamqpStack_housed (finishDestroyUamqpStack_housed h) hafter

theorem raise_housed (h : Housed [] c x) (r : EventHubClientErrorResult) :
    Housed [] c (raise x r) := by
  unfold raise
  cases x.1.client.onErrorCb with
  | none => exact destroyUamqpStack_housed h (by simp)
  | some callback => exact h.of_same ⟨rfl, rfl, rfl⟩

theorem afterAuth_housed (h : Housed [] c x) (outcome : AuthOutcome) :
    Housed [] c (afterAuth x outcome) := by
  cases outcome with
  | failed => exact raise_housed h _
  | timeout => exact raise_housed h _
  | inProgress => exact h.of_same ⟨rfl, rfl, rfl⟩
  | done =>
    refine h.of_same ?_
    unfold EventHubClientLL.afterAuth openAndSend
    split_ifs <;> exact ⟨rfl, rfl, rfl⟩

/-- What a call on the auth handle leaves. -/
theorem sameFields_answer {α : Type} {s : SenderState σ} {a : σ}
    (ha : s.client.cbsHandle = some a) (call : StackCall) (y : Answer σ α) :
    SameFields s ((s.passCBS call).answer y) :=
  ⟨rfl, by rw [ha]; rfl, rfl⟩

theorem refreshExtOrProceed_housed (h : Housed [] c x) {a : σ}
    (ha : x.1.client.cbsHandle = some a) (env : DoWorkEnv ι) :
    Housed [] c (refreshExtOrProceed auth x a env).1 := by
  unfold refreshExtOrProceed EventHubClientLL.refreshExtOrProceed
  have hproceed : SameFields x.1 (EventHubClientLL.refreshExtOrProceed.proceed x.1) := by
    unfold EventHubClientLL.refreshExtOrProceed.proceed
    split_ifs <;> exact ⟨rfl, rfl, rfl⟩
  cases htoken : x.1.client.extRefreshSASToken with
  | none => simpa using h.of_same hproceed
  | some token =>
    dsimp only
    by_cases hcred : x.1.client.credential = .sasTokenExt
    · have hboth : x.1.client.credential = .sasTokenExt ∧ (some token).isSome = true := ⟨hcred, rfl⟩
      rw [if_pos hcred, if_pos hboth]
      refine h.releaseAll [.extRefreshSASToken] (by decide) (List.nil_subset _)
        fun k => ?_
      cases k <;> simp [owned, SenderState.answer, SenderState.passCBS, SenderState.emit, ha]
    · rw [if_neg hcred, if_neg fun h => hcred h.1]
      exact h.of_same hproceed

theorem onStatus_housed (h : Housed [] c x) {a : σ} (ha : x.1.client.cbsHandle = some a)
    (env : DoWorkEnv ι) (status : EventHubAuthStatus) :
    Housed [] c (onStatus auth x a env status).1 := by
  unfold onStatus
  split_ifs with hok
  · exact refreshExtOrProceed_housed auth h ha env
  · cases status with
    | ok => exact absurd rfl hok
    | refreshRequired => exact h.of_same (sameFields_answer ha _ _)
    | idle => exact h.of_same (sameFields_answer ha _ _)
    | _ => exact h

theorem handleSASTokenAuth_housed (h : Housed [] c x) (env : DoWorkEnv ι) :
    Housed [] c (handleSASTokenAuth auth x env).1 := by
  unfold handleSASTokenAuth
  cases ha : x.1.client.cbsHandle with
  | none => exact h.of_same ⟨rfl, rfl, rfl⟩
  | some a =>
    dsimp only
    have hstatus := h.of_same (sameFields_answer ha .eventHubAuthCBSGetStatus
      (auth.getStatus a env.status))
    have ha' : ((x.1.passCBS .eventHubAuthCBSGetStatus).answer
        (auth.getStatus a env.status)).client.cbsHandle =
      some (auth.getStatus a env.status).handle := rfl
    split_ifs
    · exact hstatus
    · exact onStatus_housed auth hstatus ha' env _

theorem doWorkInitialized_housed (h : Housed [] c x) (env : DoWorkEnv ι) :
    Housed [] c (doWorkInitialized auth x env) := by
  unfold doWorkInitialized
  split_ifs
  · exact destroyUamqpStack_housed h (by simp)
  · exact afterAuth_housed (handleSASTokenAuth_housed auth h env) _

theorem doWork_housed (h : Housed [] c x) (hs : StackInv x.1) (hidle : x.1.control = .idle)
    (env : DoWorkEnv ι) : Housed [] c (doWork auth x env) := by
  have hquiet : (x.1.emit [.doWork]).control.sending = false := by
    simp only [SenderState.emit, hidle]
    rfl
  have hsound : ∀ e ∈ (x.1.emit [.doWork]).log, e.sound = true := sound_concat hs.sound rfl
  have hconsistent : StackConsistent (x.1.emit [.doWork]).client := hs.consistent
  have hhoused : Housed [] c (x.1.emit [.doWork], x.2) := h.of_same ⟨rfl, rfl, rfl⟩
  unfold doWork
  dsimp only
  split_ifs with hstate
  · have hinit := initializeUamqpStack_housed auth env (x.1.emit [.doWork], x.2)
      ⟨⟨hconsistent, hquiet, hsound, by simpa using hstate⟩, hhoused⟩
    generalize initializeUamqpStack auth env (x.1.emit [.doWork], x.2) = y at hinit ⊢
    rcases y with ⟨_ | _, t⟩
    · exact destroyUamqpStack_housed hinit.2 (by simp)
    · exact doWorkInitialized_housed auth hinit.2 env
  · exact doWorkInitialized_housed auth hhoused env

/-- The configuration that was parsed for a refresh is destroyed in any case. -/
theorem refreshSASTokenAsync_housed (h : Housed [] c x) (token : Option String)
    (env : RefreshEnv) : Housed [] c (refreshSASTokenAsync x token env) := by
  unfold refreshSASTokenAsync
  rcases token with _ | token
  · exact h
  by_cases hrefused : ((some token).isNone || x.1.client.credential ≠ .sasTokenExt ||
      x.1.client.amqpState ≠ .initialized || x.1.client.extRefreshSASToken.isSome) = true
  · rw [if_pos hrefused]
    rcases refreshSASTokenAsync_cases x.1 (some token) env with heq | ⟨_, -, hcred, hstate, hext, -⟩
    · rw [heq]
      exact h
    · simp [hcred, hstate, hext] at hrefused
  rw [if_neg hrefused]
  simp only [ne_eq, Option.isNone_some, Bool.false_or, Bool.or_eq_true, decide_eq_true_eq, not_or,
    not_not, Bool.not_eq_true] at hrefused
  obtain ⟨⟨hcred, hstate⟩, hext⟩ := hrefused
  have hrelease : ∀ {t : SenderState σ} {r : Scaffold SenderSlot},
      Housed [.refreshSASTokenCfg] c (t, r) → Housed [] c (t, r.release .refreshSASTokenCfg) :=
    fun h => h.releaseAll [.refreshSASTokenCfg] (by decide) (List.Subset.refl _)
      fun k => by cases k <;> simp [owned]
  have hparsed : ∀ b : Bool,
      Housed [.refreshSASTokenCfg] c (x.1, x.2.assign b .refreshSASTokenCfg []) := fun b =>
    h.assign .refreshSASTokenCfg List.not_mem_nil rfl
      (fun _ hj => absurd hj List.not_mem_nil) (List.nil_subset _)
      fun k hk => (Function.update_of_ne (fun heq => hk (by simp [heq])) _ _).symm
  have hnone : x.1.client.extRefreshSASToken = none := by simpa using hext
  simp only [EventHubClientLL.refreshSASTokenAsync, hcred, hstate, hnone]
  cases env.parsed with
  | none => exact hrelease (hparsed false)
  | some cfg =>
    dsimp only
    by_cases huri : cfg.extSASTokenURI ≠
        x.1.client.extSASTokenParseConfig.bind (·.extSASTokenURI)
    · rw [if_pos huri, if_pos huri]
      exact hrelease (hparsed true)
    rw [if_neg huri, if_neg huri]
    refine hrelease ((hparsed true).assign .extRefreshSASToken (by decide) hext
      (fun _ hj => absurd hj List.not_mem_nil) (List.Subset.refl _) fun k _ => ?_)
    by_cases hk : k = .extRefreshSASToken
    · subst hk
      rw [Function.update_self]
      cases hconstructs : env.constructs <;> simp [owned, hnone]
    · rw [Function.update_of_ne hk]
      cases hconstructs : env.constructs <;> cases k <;> first | rfl | exact absurd rfl hk

/-! ### The end of `EventHubClient_LL_Destroy` -/

/-- What is left while the loop of `EventHubClient_LL_Destroy` runs, and after it. -/
def left (c : EventHubClientLL σ) (control : SenderControl) : SenderSlot → Bool
  | .client => control ≠ .destroyed
  | .extSASTokenParseConfig => c.extSASTokenParseConfig.isSome
  | _ => false

/-- The fields were disposed of. They are not NULL, but no one looks at them again. -/
structure Emptied (c : EventHubClientLL σ) (x : SenderHandles σ) : Prop where
  amqpState : x.1.client.amqpState = .uninitialized
  kept : ∃ r, Holds SenderSlot.parts (left c x.1.control) r ∧ SameObjects x.2 r ∧
    (x.1.control ≠ .destroyed → x.2.field .client = r.field .client)

/-- The fields hold all that is alive, until the loop of `EventHubClient_LL_Destroy` begins. -/
structure Lasting (c : EventHubClientLL σ) (x : SenderHandles σ) : Prop where
  housed : x.1.control.drained = false → Housed [] c x
  emptied : x.1.control.drained = true → Emptied c x

theorem Lasting.of_housed (h : Housed [] c x) (hcontrol : x.1.control.drained = false) :
    Lasting c x := ⟨fun _ => h, fun hc => by simp [hcontrol] at hc⟩

theorem Lasting.of_emptied (h : Emptied c x) (hcontrol : x.1.control.drained = true) :
    Lasting c x := ⟨fun hc => by simp [hcontrol] at hc, fun _ => h⟩

/-- A step that has nothing to do with the objects. -/
structure Aside (s t : SenderState σ) : Prop extends SameFields s t where
  amqpState : t.client.amqpState = s.client.amqpState
  drained : t.control.drained = s.control.drained
  destroyed : t.control = .destroyed ↔ s.control = .destroyed

theorem Lasting.aside (h : Lasting c x) {t : SenderState σ} (ht : Aside x.1 t) :
    Lasting c (t, x.2) := by
  refine ⟨fun hc => (h.housed (ht.drained ▸ hc)).of_same ht.toSameFields, fun hc => ?_⟩
  obtain ⟨hstate, r, hr, hsame, hfield⟩ := h.emptied (ht.drained ▸ hc)
  refine ⟨ht.amqpState.trans hstate, r, ?_, hsame, fun hc => hfield fun heq => ?_⟩
  have hleft : left c t.control = left c x.1.control := by
    funext k
    cases k with
    | client => simp [left, ht.destroyed]
    | _ => rfl
  · exact hleft ▸ hr
  · exact hc (ht.destroyed.mpr heq)

theorem finish_lasting (h : Housed [] c x) :
    Lasting c (afterDestroyUamqpStack (finishDestroyUamqpStack x) .destroy) := by
  have hdown := finishDestroyUamqpStack_housed h
  have hnodup : ownSlots.Nodup := by decide
  refine .of_emptied ⟨rfl, (finishDestroyUamqpStack x).2.releaseAll ownSlots, ?_,
    disposeAll_eq _ hnodup, ?_⟩ rfl
  · have hleft : left c .draining = fun k =>
        owned c (finishDestroyUamqpStack x).1 k && decide (k ∉ ownSlots) := by
      funext k
      cases k <;> simp [left, owned, ownSlots, finishDestroyUamqpStack,
        EventHubClientLL.finishDestroyUamqpStack]
    refine (?_ : Holds SenderSlot.parts (left c .draining) _)
    rw [hleft]
    have hunwinds : Unwinds SenderSlot.parts [] ownSlots := .of_table (by decide)
    exact hdown.holds.releaseAll hunwinds fun _ hj => absurd hj List.not_mem_nil
  · intro _
    rw [releaseAll_field, if_neg (by decide)]
    exact congrFun (disposeAll_field _ _) _

theorem destroy_lasting (h : Housed [] c x) : Lasting c (destroy x) := by
  unfold destroy destroyUamqpStack
  have h' : Housed [] c ({ x.1 with destroying := true, log := x.1.log ++ [.destroying] }, x.2) :=
    h.of_same ⟨rfl, rfl, rfl⟩
  split_ifs
  · exact .of_housed (h'.of_same ⟨rfl, rfl, rfl⟩) rfl
  · exact finish_lasting h'

theorem destroyUamqpStack_lasting (h : Housed [] c x) {after : AfterDestroy}
    (hafter : after ≠ .destroy) : Lasting c (destroyUamqpStack x after) := by
  refine .of_housed (destroyUamqpStack_housed h hafter) (SenderControl.not_drained_of_working ?_)
  rw [destroyUamqpStack_fst]
  exact (destroyUamqpStack_working x.1 hafter).working

theorem drain_lasting (h : Lasting c x) (hdraining : x.1.control = .draining) :
    Lasting c (drain x) := by
  cases hevents : x.1.client.outgoingEvents with
  | nil =>
    obtain ⟨hstate, r, hr, hsame, hfield⟩ := h.emptied (by rw [hdraining]; rfl)
    have hdrain : drain x = ({ x.1 with control := .destroyed }, x.2.dispose .client) := by
      unfold drain EventHubClientLL.drain
      rw [if_pos hevents, hevents]
    rw [hdrain]
    refine .of_emptied ⟨hstate, r.release .client, ?_,
      hsame.dispose (hfield (by simp [hdraining])), by simp⟩ rfl
    have hleft : left c .destroyed =
        Function.update (left c x.1.control) .client false := by
      funext k
      cases k <;> simp [left]
    refine (?_ : Holds SenderSlot.parts (left c .destroyed) _)
    rw [hleft]
    refine hr.release fun j hj => ?_
    cases j <;> first | cases hj | exact List.not_mem_nil
  | cons e rest =>
    have hkeep : drain x = (EventHubClientLL.drain x.1, x.2) := by
      unfold drain
      rw [if_neg (by simp [hevents])]
    rw [hkeep]
    refine h.aside ?_
    unfold EventHubClientLL.drain
    rw [hevents]
    dsimp only
    cases hcb : e.callback with
    | none => exact ⟨⟨rfl, rfl, rfl⟩, rfl, rfl, Iff.rfl⟩
    | some callback =>
      simp only [SenderState.confirm, hcb]
      refine ⟨⟨rfl, rfl, rfl⟩, rfl, ?_, by simp [hdraining]⟩
      rw [hdraining]
      rfl

/-! ### Steps and runs -/

theorem Aside.of_running {s t : SenderState σ} (h : SameFields s t)
    (hstate : t.client.amqpState = s.client.amqpState) (hs : s.control.drained = false)
    (ht : t.control.drained = false) : Aside s t := by
  refine ⟨h, hstate, ht.trans hs.symm, fun hc => ?_, fun hc => ?_⟩
  · rw [hc] at ht
    cases ht
  · rw [hc] at hs
    cases hs

theorem SameFields.of_offstage {s t : SenderState σ} (h : SenderState.Offstage s t) :
    SameFields s t :=
  ⟨h.stack, congrArg Option.isSome h.cbsHandle, congrArg Option.isSome h.extRefreshSASToken⟩

theorem Aside.of_control_eq {s t : SenderState σ} (h : SenderState.Offstage s t)
    (hcontrol : t.control = s.control) : Aside s t :=
  ⟨.of_offstage h, h.amqpState, by rw [hcontrol], by rw [hcontrol]⟩

theorem confirm_aside {s t : SenderState σ} (h : SameFields s t)
    (hstate : t.client.amqpState = s.client.amqpState) (hs : s.control.drained = false)
    (e : EventHubEventList) (cause : List SenderEvent) (r : EventHubClientConfirmationResult)
    {after : AfterConfirm} (hafter : (SenderControl.confirming e.number after).drained = false) :
    Aside s (t.confirm e cause r after) := by
  unfold SenderState.confirm
  cases e.callback with
  | none => exact .of_running ⟨h.1, h.2, h.3⟩ hstate hs rfl
  | some callback => exact .of_running ⟨h.1, h.2, h.3⟩ hstate hs hafter

theorem iterate_aside {s : SenderState σ} {currentListEntry : Option ℕ}
    (hs : s.control = .loop currentListEntry) (env : BuildEnv) (currentTime : UInt64)
    (taken : Bool) : Aside s (iterate s currentListEntry env currentTime taken) := by
  have hloop : s.control.drained = false := by rw [hs]; rfl
  unfold iterate
  cases currentListEntry with
  | none => exact .of_running ⟨rfl, rfl, rfl⟩ rfl hloop rfl
  | some n =>
    dsimp only
    cases s.entry? n with
    | none => exact .of_running ⟨rfl, rfl, rfl⟩ rfl hloop rfl
    | some e =>
      dsimp only
      cases e.currentStatus with
      | waitingForAck => exact .of_running ⟨rfl, rfl, rfl⟩ rfl hloop rfl
      | waitingToBeSent =>
        dsimp only
        cases buildMessage env e.eventDataList with
        | none => exact confirm_aside ⟨rfl, rfl, rfl⟩ rfl hloop _ _ _ rfl
        | some message =>
          dsimp only
          split_ifs
          · unfold expire
            cases e.callback with
            | none => exact .of_running ⟨rfl, rfl, rfl⟩ rfl hloop rfl
            | some callback =>
              dsimp only
              refine confirm_aside ?_ ?_ hloop _ _ _ ?_
              exacts [⟨rfl, rfl, rfl⟩, rfl, rfl]
          · exact .of_running ⟨rfl, rfl, rfl⟩ rfl hloop rfl

theorem onMessageSendComplete_aside {s : SenderState σ} {call : UamqpCall}
    (hs : s.control = .uamqp call) (n : ℕ) (r : MessageSendResult) :
    Aside s (onMessageSendComplete s n r call) := by
  have hcall : s.control.drained = false := by rw [hs]; rfl
  unfold onMessageSendComplete
  cases s.entry? n with
  | none => exact .of_running ⟨rfl, rfl, rfl⟩ rfl hcall rfl
  | some e =>
    dsimp only
    cases e.callback with
    | none => exact .of_running ⟨rfl, rfl, rfl⟩ rfl hcall hcall
    | some callback =>
      dsimp only
      refine confirm_aside ?_ ?_ hcall _ _ _ ?_
      exacts [⟨rfl, rfl, rfl⟩, rfl, rfl]

theorem uamqpReturn_lasting (h : Lasting c x) {call : UamqpCall}
    (hs : x.1.control = .uamqp call) (ok : Bool) : Lasting c (uamqpReturn x ok call) := by
  have hrunning : x.1.control.drained = false := by rw [hs]; rfl
  cases call with
  | messagesenderOpen =>
    cases ok <;> exact h.aside (.of_running ⟨rfl, rfl, rfl⟩ rfl hrunning rfl)
  | messagesenderSendAsync n next taken =>
    refine h.aside ?_
    unfold EventHubClientLL.uamqpReturn
    cases taken with
    | true => exact .of_running ⟨rfl, rfl, rfl⟩ rfl hrunning rfl
    | false =>
      dsimp only
      rw [if_neg (by simp)]
      cases SenderState.entry? x.1 n with
      | none => exact .of_running ⟨rfl, rfl, rfl⟩ rfl hrunning rfl
      | some e =>
        exact confirm_aside ⟨rfl, rfl, rfl⟩ rfl hrunning _ _ _ rfl
  | connectionDowork => exact h.aside (.of_running ⟨rfl, rfl, rfl⟩ rfl hrunning rfl)
  | messagesenderDestroy after =>
    by_cases hafter : after = .destroy
    · subst hafter
      exact finish_lasting (h.housed hrunning)
    · have hdown := finishDestroyUamqpStack_housed (h.housed hrunning)
      refine .of_housed (afterDestroyUamqpStack_housed hdown hafter) ?_
      rcases afterDestroyUamqpStack_control (finishDestroyUamqpStack x).1 after with hc | hc | hc
      · exact (congrArg SenderControl.drained hc).trans rfl
      · exact (congrArg SenderControl.drained hc).trans rfl
      · exact absurd hc.1 hafter

theorem callbackReturn_lasting (h : Lasting c x) {t : SenderHandles σ}
    (hstep : step auth x .callbackReturn = some t) : Lasting c t := by
  simp only [step] at hstep
  cases hcontrol : x.1.control with
  | errorCb after =>
    have hrunning : x.1.control.drained = false := by rw [hcontrol]; rfl
    simp only [hcontrol, Option.some.injEq] at hstep
    subst hstep
    cases after with
    | uamqp call => exact h.aside (.of_running ⟨rfl, rfl, rfl⟩ rfl hrunning rfl)
    | tearDown => exact destroyUamqpStack_lasting (h.housed hrunning) (by simp)
    | done => exact h.aside (.of_running ⟨rfl, rfl, rfl⟩ rfl hrunning rfl)
  | confirming n after =>
    simp only [hcontrol, EventHubClientLL.step, Option.map_some, Option.some.injEq] at hstep
    subst hstep
    refine h.aside ?_
    have hoffstage := confirmReturn_offstage hcontrol
    refine ⟨.of_offstage hoffstage, hoffstage.amqpState, ?_, ?_⟩ <;> rw [hcontrol] <;>
      cases after <;> first | rfl | simp [confirmReturn]
  | stateChangeCb newState call =>
    simp only [hcontrol, EventHubClientLL.step, Option.map_some, Option.some.injEq] at hstep
    subst hstep
    have hcall : x.1.control.call = some call := by rw [hcontrol]; rfl
    have hoffstage := afterStateChange_offstage hcall newState
    exact h.aside (.of_running (.of_offstage hoffstage) hoffstage.amqpState
      (by rw [hcontrol]; rfl)
      (SenderControl.not_drained_of_call (afterStateChange_spec x.1 newState call).2.1))
  | _ => simp [hcontrol, EventHubClientLL.step] at hstep

/-- What has nothing to do with the objects leaves them alone. -/
theorem lasting_of_aside (h : Lasting c x) {o : Option (SenderState σ)} {t : SenderHandles σ}
    (hstep : o.map (·, x.2) = some t) (ho : ∀ u, o = some u → Aside x.1 u) : Lasting c t := by
  obtain ⟨u, hu, rfl⟩ := Option.map_eq_some_iff.mp hstep
  exact h.aside (ho u hu)

theorem refreshSASTokenAsync_lasting (h : Lasting c x) (token : Option String)
    (env : RefreshEnv) : Lasting c (refreshSASTokenAsync x token env) := by
  have hcontrol : (refreshSASTokenAsync x token env).1.control = x.1.control := by
    rcases refreshSASTokenAsync_cases x.1 token env with heq | ⟨text, -, -, -, -, heq⟩ <;>
      exact (congrArg SenderState.control heq).trans rfl
  refine ⟨fun hc => refreshSASTokenAsync_housed (h.housed (hcontrol ▸ hc)) token env,
    fun hc => ?_⟩
  -- the stack is gone, so the token is refused
  have hdown := (h.emptied (hcontrol ▸ hc)).amqpState
  have hsame : refreshSASTokenAsync x token env = x := by
    rcases refreshSASTokenAsync_cases x.1 token env with heq | ⟨text, -, -, hstate, -, -⟩
    · refine Prod.ext heq ?_
      unfold refreshSASTokenAsync
      rw [if_pos (by simp [hdown])]
    · simp [hdown] at hstate
  rw [hsame]
  exact h.emptied (hcontrol ▸ hc)

theorem step_lasting (h : Lasting c x) (hs : StackInv x.1) {i : SenderInput ι}
    {t : SenderHandles σ} (hstep : step auth x i = some t) : Lasting c t := by
  cases i with
  | refreshSASTokenAsync token env =>
    obtain ⟨-, ⟨⟩⟩ := Option.ite_none_right_eq_some.mp hstep
    exact refreshSASTokenAsync_lasting h token env
  | doWork env =>
    obtain ⟨hidle, ⟨⟩⟩ := Option.ite_none_right_eq_some.mp hstep
    obtain ⟨hcontrol, -⟩ : x.1.control = .idle ∧ x.1.destroying = false := by simpa using hidle
    have hhoused := h.housed (by rw [hcontrol]; rfl)
    refine .of_housed (doWork_housed auth hhoused hs hcontrol env)
      (SenderControl.not_drained_of_working ?_)
    rw [doWork_fst]
    exact (doWork_spec auth x.1 env).2.working
  | destroy =>
    obtain ⟨hidle, ⟨⟩⟩ := Option.ite_none_right_eq_some.mp hstep
    obtain ⟨hcontrol, -⟩ : x.1.control = .idle ∧ x.1.destroying = false := by simpa using hidle
    exact destroy_lasting (h.housed (by rw [hcontrol]; rfl))
  | uamqpReturn ok =>
    simp only [step] at hstep
    cases hcontrol : x.1.control <;> simp only [hcontrol, reduceCtorEq, Option.some.injEq] at hstep
    subst hstep
    exact uamqpReturn_lasting h hcontrol ok
  | callbackReturn => exact callbackReturn_lasting auth h hstep
  | drain =>
    simp only [step] at hstep
    cases hcontrol : x.1.control <;> simp only [hcontrol, reduceCtorEq, Option.some.injEq] at hstep
    subst hstep
    exact drain_lasting h hcontrol
  | sendAsync event callback context env =>
    refine lasting_of_aside h hstep fun u hu => ?_
    obtain ⟨-, ⟨⟩⟩ := Option.ite_none_right_eq_some.mp hu
    have hcases := sendAsync_cases x.1 event callback context env
    exact .of_control_eq (queueing_offstage hcases) (queueing_control hcases)
  | sendBatchAsync list callback context env =>
    refine lasting_of_aside h hstep fun u hu => ?_
    obtain ⟨-, ⟨⟩⟩ := Option.ite_none_right_eq_some.mp hu
    have hcases := sendBatchAsync_cases x.1 list callback context env
    exact .of_control_eq (queueing_offstage hcases) (queueing_control hcases)
  | setMessageTimeout timeout =>
    refine lasting_of_aside h hstep fun u hu => ?_
    obtain ⟨-, ⟨⟩⟩ := Option.ite_none_right_eq_some.mp hu
    exact .of_control_eq (setField_offstage x.1 ⟨fun _ => rfl⟩) rfl
  | setStateChangeCallback callback =>
    refine lasting_of_aside h hstep fun u hu => ?_
    obtain ⟨-, ⟨⟩⟩ := Option.ite_none_right_eq_some.mp hu
    exact .of_control_eq (setField_offstage x.1 ⟨fun _ => rfl⟩) rfl
  | setErrorCallback callback =>
    refine lasting_of_aside h hstep fun u hu => ?_
    obtain ⟨-, ⟨⟩⟩ := Option.ite_none_right_eq_some.mp hu
    exact .of_control_eq (setField_offstage x.1 ⟨fun _ => rfl⟩) rfl
  | setLogTrace on =>
    refine lasting_of_aside h hstep fun u hu => ?_
    obtain ⟨-, ⟨⟩⟩ := Option.ite_none_right_eq_some.mp hu
    exact .of_control_eq (setField_offstage x.1 ⟨fun _ => rfl⟩) rfl
  | iterate env currentTime taken =>
    refine lasting_of_aside h hstep fun u hu => ?_
    simp only [EventHubClientLL.step] at hu
    cases hcontrol : x.1.control <;> simp only [hcontrol, reduceCtorEq, Option.some.injEq] at hu
    subst hu
    exact iterate_aside hcontrol env currentTime taken
  | onMessageSendComplete n r =>
    refine lasting_of_aside h hstep fun u hu => ?_
    simp only [EventHubClientLL.step] at hu
    cases hcontrol : x.1.control <;>
      simp only [hcontrol, reduceCtorEq, Option.ite_none_right_eq_some] at hu
    obtain ⟨-, ⟨⟩⟩ := hu
    exact onMessageSendComplete_aside hcontrol n r
  | onMessageSenderStateChanged newState previousState =>
    refine lasting_of_aside h hstep fun u hu => ?_
    simp only [EventHubClientLL.step] at hu
    cases hcontrol : x.1.control <;>
      simp only [hcontrol, reduceCtorEq, Option.ite_none_right_eq_some] at hu
    obtain ⟨hsender, ⟨⟩⟩ := hu
    have hoffstage := onMessageSenderStateChanged_offstage hcontrol newState previousState hsender
    exact .of_running (.of_offstage hoffstage) hoffstage.amqpState (by rw [hcontrol]; rfl)
      (SenderControl.not_drained_of_call
        (onMessageSenderStateChanged_spec hcontrol newState previousState).2.1)
  | onCBSPutTokenOperationComplete r env =>
    refine lasting_of_aside h hstep fun u hu => ?_
    simp only [EventHubClientLL.step] at hu
    split at hu
    · next a hcontrol ha =>
      obtain ⟨-, ⟨⟩⟩ := Option.ite_none_right_eq_some.mp hu
      exact ⟨⟨rfl, by rw [ha]; rfl, rfl⟩, rfl, rfl, Iff.rfl⟩
    · cases hu

/-- What is left when the client is freed. -/
theorem Lasting.live_eq (h : Lasting c x) (hdestroyed : x.1.control = .destroyed) :
    x.2.ledger.live.map (fun p => p.2.1) =
      if c.extSASTokenParseConfig.isSome then [.extSASTokenParseConfig] else [] := by
  obtain ⟨-, r, hr, ⟨hledger, -⟩, -⟩ := h.emptied (by rw [hdestroyed]; rfl)
  have hnone : ∀ k, k ≠ .extSASTokenParseConfig → r.field k = none := fun k hk =>
    hr.field_eq_none (by cases k <;> first | rfl | simp_all [left])
  have hlive := congrArg (List.map Prod.snd) (hr.live_map_eq hnone)
  rw [List.map_map] at hlive
  have hfilled : (r.field .extSASTokenParseConfig).isSome = c.extSASTokenParseConfig.isSome :=
    hr.filled _
  rw [hledger, ← hfilled]
  refine hlive.trans ?_
  cases r.field .extSASTokenParseConfig <;> rfl

theorem Lasting.faults (h : Lasting c x) : x.2.ledger.faults = [] ∧ x.2.early = [] := by
  cases hdrained : x.1.control.drained with
  | false => exact ⟨(h.housed hdrained).faults, (h.housed hdrained).early⟩
  | true =>
    obtain ⟨-, r, hr, ⟨hledger, hearly⟩, -⟩ := h.emptied hdrained
    rw [hledger, hearly]
    exact ⟨hr.faults, hr.early⟩

end Housed

/-- A client that one of the two functions has created, and its objects. -/
inductive CreatedWith (c : EventHubClientLL σ) (r : Scaffold SenderSlot) : Prop
  | fromConnectionString (parse : CString → Option KVPMap) (env : SenderCreateEnv)
      (connectionString : Option CString) (eventHubPath : Option String)
      (h : createFromConnectionString parse env connectionString eventHubPath {} = (some c, r))
  | fromSASToken (parse : CString → Option EventHubAuthCBSConfig) (env : SenderCreateEnv)
      (token : Option CString) (h : createFromSASToken parse env token {} = (some c, r))

theorem CreatedWith.created {c : EventHubClientLL σ} {r : Scaffold SenderSlot}
    (h : CreatedWith c r) : Created c := by
  cases h with
  | fromConnectionString parse env connectionString eventHubPath h =>
    have hfst := createFromConnectionString_fst (σ := σ) parse env connectionString eventHubPath {}
    rw [h] at hfst
    exact created_of_createFromConnectionString hfst.symm
  | fromSASToken parse env token h =>
    have hfst := createFromSASToken_fst (σ := σ) parse env token {}
    rw [h] at hfst
    exact created_of_createFromSASToken hfst.symm

theorem CreatedWith.lasting {c : EventHubClientLL σ} {r : Scaffold SenderSlot}
    (h : CreatedWith c r) : Lasting c ({ client := c }, r) := by
  refine .of_housed (.of_holds ?_) rfl
  cases h with
  | fromConnectionString parse env connectionString eventHubPath h =>
    have howns := createFromConnectionString_owns (σ := σ) parse env connectionString eventHubPath
    rwa [h] at howns
  | fromSASToken parse env token h =>
    have howns := createFromSASToken_owns (σ := σ) parse env token
    rwa [h] at howns

/-- In a run from the creation of a client on nothing is destroyed twice, or while something that
was made from it is alive. Until the loop of `EventHubClient_LL_Destroy` begins, the fields that are
not NULL hold all that is alive. When the client is freed, the configuration that was parsed from a
token is all that is left. -/
theorem run_releases (auth : AuthModule σ ι) {c : EventHubClientLL σ} {r : Scaffold SenderSlot}
    (hc : CreatedWith c r) {is : List (SenderInput ι)} {x : SenderHandles σ}
    (hrun : (handlesMachine auth).run ({ client := c }, r) is = some x) :
    (senderMachine auth).run { client := c } is = some x.1 ∧
      x.2.ledger.faults = [] ∧ x.2.early = [] ∧
      (x.1.control.drained = false → Holds SenderSlot.parts (owned c x.1) x.2) ∧
      (x.1.control = .destroyed → x.2.ledger.live.map (fun p => p.2.1) =
        if c.extSASTokenParseConfig.isSome then [.extSASTokenParseConfig] else []) := by
  have hfst := run_map_fst auth ({ client := c }, r) is
  rw [hrun] at hfst
  have hinv : ∀ y i z, Lasting c y ∧ StackInv y.1 → (handlesMachine auth).step y i = some z →
      Lasting c z ∧ StackInv z.1 := fun y i z hy hstep => by
    have hfst : EventHubClientLL.step auth y.1 i = some z.1 := by
      rw [← step_map_fst auth y i, show step auth y i = some z from hstep]
      rfl
    exact ⟨step_lasting auth hy.1 hy.2 hstep, step_stackInv auth hy.2 hfst⟩
  obtain ⟨hx, -⟩ := Machine.run_invariant hinv ⟨hc.lasting, created_stackInv hc.created⟩ hrun
  exact ⟨hfst.symm, hx.faults.1, hx.faults.2, fun h => (hx.housed h).holds, hx.live_eq⟩

/-- What a sender's token contains. -/
def parsedToken : EventHubAuthCBSConfig where
  hostName := some "host"
  eventHubPath := some "hub"
  senderPublisherId := some "publisher"
  extSASToken := some "token"
  extSASTokenURI := some "uri"
  extSASTokenExpTSInEpochSec := 50
  mode := .sender
  credential := .sasTokenExt

/-- A sender is destroyed while a message and a refresh wait. -/
def destroyWaiting : List (SenderInput AuthEnv) :=
  [.sendAsync (some { buffer := [7] }) (some 1) (some 2) { idleTimer := 10 },
    .doWork (doWorkAt 100), .onCBSPutTokenOperationComplete .ok {}, .uamqpReturn true,
    .doWork (doWorkAt 101), .doWork (doWorkAt 102), .uamqpReturn false,
    .refreshSASTokenAsync (some "second") { parsed := some parsedToken }, .destroy,
    .uamqpReturn true, .drain, .callbackReturn, .drain]

/-- The configuration is left. -/
theorem run_releases_waiting :
    ∃ c r x, createFromSASToken (fun _ => some parsedToken) {} (some []) {} = (some c, r) ∧
      (handlesMachine (EventHubAuthCBS.authModule fun _ => some ("uri", 60))).run
        ({ client := c }, r) destroyWaiting = some x ∧
      x.1.control = .destroyed ∧ x.2.ledger.faults = [] ∧
      x.2.ledger.live.map (fun p => p.2.1) = [.extSASTokenParseConfig] := by
  refine ⟨_, _, _, rfl, rfl, rfl, ?_⟩
  have h := @run_releases _ _ (EventHubAuthCBS.authModule fun _ => some ("uri", 60)) _ _
    (.fromSASToken (fun _ => some parsedToken) {} (some []) rfl) destroyWaiting _ rfl
  exact ⟨h.2.1, h.2.2.2.2 rfl⟩

end SenderHandles

end EventHubs
