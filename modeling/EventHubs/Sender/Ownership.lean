import EventHubs.Sender.Handles

/-!
# What the creation of a sender leaves

`EventHubClient_LL_CreateFromConnectionString` and `EventHubClient_LL_CreateFromSASToken` create up
to eight objects one after the other, and each of the calls can fail. Whatever fails, a client that
is returned is all that is alive, with what it has, and when NULL is returned nothing is.

## Main definitions

* `SenderHandles.owned` — the fields that own something.
* `SenderHandles.Alive`, `SenderHandles.Within` — which fields hold something so far.
* `SenderHandles.Owns` — what a creating call returns and leaves.

## Main results

* `SenderHandles.create_owns`.
-/

namespace EventHubs

namespace SenderHandles

open Attempt EventHubClientLL Scaffold

variable {σ : Type}

/-- The fields that own something: what the client was created with, and what the stack has at
present. No local does between two steps. -/
def owned (c : EventHubClientLL σ) (s : SenderState σ) : SenderSlot → Bool
  | .client => true
  | .counter => true
  | .hostName => c.hostName.isSome
  | .keyName => c.keyName.isSome
  | .keyValue => c.keyValue.isSome
  | .targetAddress => c.targetAddress.isSome
  | .eventHubPath => c.eventHubPath.isSome
  | .senderPublisherId => c.senderPublisherId.isSome
  | .extSASTokenParseConfig => c.extSASTokenParseConfig.isSome
  | .stack field => (s.client.stack field).isSome
  | .cbsHandle => s.client.cbsHandle.isSome
  | .extRefreshSASToken => s.client.extRefreshSASToken.isSome
  | _ => false

/-! ### Creation -/

section Creation

variable {S : Type} {slots all ks : List SenderSlot} {slot : SenderSlot}
  {r : Scaffold SenderSlot}

/-- Exactly these fields hold something. -/
def Alive (slots : List SenderSlot) : Scaffold SenderSlot → Prop :=
  Holds SenderSlot.parts fun k => k ∈ slots

/-- No field but these holds something. -/
def Within (all : List SenderSlot) (r : Scaffold SenderSlot) : Prop :=
  ∃ w, Holds SenderSlot.parts w r ∧ ∀ k, w k = true → k ∈ all

theorem Alive.within (h : Alive slots r) (hall : slots ⊆ all) : Within all r :=
  ⟨_, h, fun _ hk => hall (of_decide_eq_true hk)⟩

theorem Alive.assign (h : Alive slots r) (succeeds : Bool) (hslot : slot ∉ slots)
    (hparts : slot.parts ⊆ slots) :
    Holds SenderSlot.parts (Function.update (fun k => decide (k ∈ slots)) slot succeeds)
      (r.assign succeeds slot slot.parts) :=
  Holds.assign h succeeds (by simpa using hslot) fun j hj => by simpa using hparts hj

/-- What a creating call leaves when it fails. -/
theorem Alive.failed (h : Alive slots r) (slot : SenderSlot) (hslot : slot ∉ slots)
    (hparts : slot.parts ⊆ slots) (hall : slots ⊆ all) :
    Within all (r.assign false slot slot.parts) := by
  refine ⟨_, h.assign false hslot hparts, fun k hk => ?_⟩
  by_cases heq : k = slot
  · simp [heq] at hk
  · rw [Function.update_of_ne heq] at hk
    exact hall (of_decide_eq_true hk)

theorem Alive.succeeded (h : Alive slots r) (slot : SenderSlot) (hslot : slot ∉ slots)
    (hparts : slot.parts ⊆ slots) : Alive (slot :: slots) (r.assign true slot slot.parts) := by
  have hfields : Function.update (fun k => decide (k ∈ slots)) slot true =
      fun k => decide (k ∈ slot :: slots) := by
    funext k
    by_cases hk : k = slot
    · simp [hk]
    · simp [hk]
  have h := h.assign true hslot hparts
  rwa [hfields] at h

theorem Within.disposeAll (h : Within all r) (ks : List SenderSlot) (hnodup : ks.Nodup)
    (hall : all ⊆ ks) (hleaves : ∀ k ∈ all, k.parts = []) : Cleared (r.disposeAll ks) := by
  obtain ⟨w, hw, hwithin⟩ := h
  exact hw.disposeLeaves (fun k hk => hleaves k (hwithin k hk)) hnodup
    fun k hk => hall (hwithin k hk)

theorem construct_alive (succeeds : Bool) (hslot : slot ∉ slots) (hparts : slot.parts ⊆ slots)
    (hall : slots ⊆ all) :
    Spec (fun x => Alive slots x.2) (construct (S := S) succeeds slot)
      (fun _ x => Alive (slot :: slots) x.2) (fun x => Within all x.2) := by
  intro x hx
  cases succeeds with
  | true => exact hx.succeeded slot hslot hparts
  | false => exact hx.failed slot hslot hparts hall

theorem onFst_alive {α : Type} {m : Attempt S α} (hall : slots ⊆ all) :
    Spec (fun x => Alive slots x.2) (onFst m) (fun _ x => Alive slots x.2)
      (fun x => Within all x.2) := by
  intro x hx
  have hrun : onFst m x = ((m x.1).1, (m x.1).2, x.2) := rfl
  rw [hrun]
  cases (m x.1).1 with
  | none => exact Alive.within hx hall
  | some a => exact hx

theorem clone_alive (succeeds : Bool) (text : Option String) (hslot : slot ∉ slots)
    (hparts : slot.parts ⊆ slots) (hall : slots ⊆ all) :
    Spec (fun x => Alive slots x.2) (fillFromSASToken.clone (σ := σ) succeeds text slot)
      (fun _ x => Alive (slot :: slots) x.2) (fun x => Within all x.2) := by
  intro x hx
  have hrun : fillFromSASToken.clone succeeds text slot x = ((operand succeeds text x.1).1,
    (operand succeeds text x.1).2,
    x.2.assign (operand succeeds text x.1).1.isSome slot slot.parts) := rfl
  rw [hrun]
  cases (operand succeeds text x.1).1 with
  | none => exact hx.failed slot hslot hparts hall
  | some a => exact hx.succeeded slot hslot hparts

theorem assembleTargetAddress_alive (env : SenderCreateEnv) (eventHubPath : String)
    (publisherId : Option String) (hslot : SenderSlot.targetAddress ∉ slots)
    (hall : .targetAddress :: slots ⊆ all) :
    Spec (fun x => Alive slots x.2)
      (assembleTargetAddress (σ := σ) env eventHubPath publisherId)
      (fun _ x => Alive (.targetAddress :: slots) x.2) (fun x => Within all x.2) :=
  .bind (construct_alive _ hslot (List.nil_subset _) (List.subset_of_cons_subset hall))
    fun _ => onFst_alive hall

/-- What a client made from a connection string has. -/
def connectionSlots : List SenderSlot :=
  [.eventHubPath, .targetAddress, .keyValue, .keyName, .hostName, .counter, .client]

/-- What a client made from a token has. -/
def tokenSlots : List SenderSlot :=
  [.targetAddress, .hostName, .eventHubPath, .senderPublisherId, .counter, .client,
    .extSASTokenParseConfig]

/-- The locals of `EventHubClient_LL_CreateFromConnectionString`. -/
def createLocals : List SenderSlot := [.connectionStringValuesMap, .connectionString]

theorem fillFromConnectionString_alive (env : SenderCreateEnv) (values : KVPMap)
    (eventHubPath : String) :
    Spec (fun x => Alive (.client :: createLocals) x.2)
      (fillFromConnectionString (σ := σ) env values eventHubPath)
      (fun _ x => Alive (connectionSlots ++ createLocals) x.2)
      (fun x => Within (connectionSlots ++ createLocals) x.2) := by
  unfold fillFromConnectionString
  repeat first
    | refine .bind (construct_alive _ (by decide) (by decide) (by decide)) fun _ => ?_
    | refine .bind (onFst_alive (by decide)) fun _ => ?_
  refine .bind (assembleTargetAddress_alive _ _ _ (by decide) (by decide)) fun _ => ?_
  exact .bind (construct_alive _ (by decide) (by decide) (by decide)) fun _ =>
    onFst_alive (by decide)

theorem fillFromSASToken_alive (env : SenderCreateEnv) (cfg : EventHubAuthCBSConfig) :
    Spec (fun x => Alive [.client, .extSASTokenParseConfig] x.2)
      (fillFromSASToken (σ := σ) env cfg) (fun _ x => Alive tokenSlots x.2)
      (fun x => Within tokenSlots x.2) := by
  unfold fillFromSASToken
  repeat first
    | refine .bind (construct_alive _ (by decide) (by decide) (by decide)) fun _ => ?_
    | refine .bind (clone_alive _ _ (by decide) (by decide) (by decide)) fun _ => ?_
    | refine .bind (onFst_alive (by decide)) fun _ => ?_
  exact .bind (assembleTargetAddress_alive _ _ _ (by decide) (by decide)) fun _ =>
    onFst_alive (by decide)

/-- A call that creates a client gives NULL and leaves nothing, or it gives a client, and what the
client has is all that is alive. -/
def Owns (x : Option (EventHubClientLL σ) × Scaffold SenderSlot) : Prop :=
  match x.1 with
  | none => Cleared x.2
  | some c => Holds SenderSlot.parts (owned c { client := c }) x.2

theorem Alive.owns {c : EventHubClientLL σ} (h : Alive slots r)
    (hc : ∀ k, decide (k ∈ slots) = owned c { client := c } k) : Owns (some c, r) := by
  have h' : Holds SenderSlot.parts (owned c { client := c }) r := funext hc ▸ h
  exact h'

/-- The string and the map are released last. -/
theorem release_createLocals (r : Scaffold SenderSlot) (ks : List SenderSlot) :
    SameObjects (((r.disposeAll ks).release .connectionStringValuesMap).release
        .connectionString) (r.disposeAll (ks ++ createLocals)) := by
  have hmap : SameObjects ((r.disposeAll ks).release .connectionStringValuesMap)
      ((r.disposeAll ks).dispose .connectionStringValuesMap) := .release ⟨rfl, rfl⟩ rfl
  have h := hmap.release (k := .connectionString) (by
    rw [release_field, dispose_field]
    exact Function.update_of_ne (by decide) _ _)
  unfold Scaffold.disposeAll at h ⊢
  rw [List.foldl_append]
  exact h

/-- A client made from a connection string, when the locals are gone. -/
theorem Alive.owns_of_release {c : EventHubClientLL σ} {host keyName key : CString}
    {eventHubPath : String} (h : Alive (connectionSlots ++ createLocals) r)
    (hc : c = describedClient host keyName key eventHubPath) :
    Owns (some c, (r.release .connectionStringValuesMap).release .connectionString) := by
  have hleaf : ∀ k ∈ createLocals, ∀ j, k ∉ SenderSlot.parts j := fun k hk j hj => by
    have hentry := mem_partsOf.mp hj
    revert hentry
    rcases List.mem_cons.mp hk with rfl | hk
    · simp [SenderSlot.table]
    · rcases List.mem_singleton.mp hk with rfl
      simp [SenderSlot.table]
  have h' := (Holds.release h fun j _ => hleaf .connectionStringValuesMap (by decide) j).release
    fun j _ => hleaf .connectionString (by decide) j
  subst hc
  refine (?_ : Holds SenderSlot.parts _ _)
  convert h' using 1
  funext k
  cases k <;> rfl

/-- `EventHubClient_LL_CreateFromConnectionString` keeps no local, and nothing when it fails. -/
theorem createFromConnectionString_owns (parse : CString → Option KVPMap) (env : SenderCreateEnv)
    (connectionString : Option CString) (eventHubPath : Option String) :
    Owns (createFromConnectionString (σ := σ) parse env connectionString eventHubPath {}) := by
  have hnew : Alive [] {} := .empty
  rcases connectionString with _ | connectionString
  · exact Cleared.empty
  rcases eventHubPath with _ | eventHubPath
  · exact Cleared.empty
  unfold createFromConnectionString
  dsimp only
  cases hconstruct : env.succeeds .constructConnectionString with
  | false =>
    exact (hnew.failed .connectionString (by decide) (by decide) (by decide)).disposeAll
      [] .nil (List.Subset.refl _) (by decide)
  | true =>
    have hstring := hnew.succeeded .connectionString (by decide) (by decide)
    rw [if_neg (by simp)]
    cases parse connectionString with
    | none =>
      have hwithin := hstring.failed .connectionStringValuesMap (by decide) (by decide)
        (List.Subset.refl _)
      exact (hwithin.disposeAll [.connectionString] (by decide) (by decide)
        (by decide)).of_sameObjects (.release ⟨rfl, rfl⟩ rfl)
    | some values =>
      have hmap := hstring.succeeded .connectionStringValuesMap (by decide) (by decide)
      dsimp only
      cases hmalloc : env.succeeds .malloc with
      | false =>
        have hwithin := hmap.failed .client (by decide) (by decide)
          (List.Subset.refl _)
        exact (hwithin.disposeAll createLocals (by decide) (by decide)
          (by decide)).of_sameObjects (release_createLocals _ [])
      | true =>
        have hclient : Alive (.client :: createLocals) (((({} : Scaffold SenderSlot).assign true
            .connectionString []).assign true .connectionStringValuesMap []).assign true .client
            []) := hmap.succeeded .client (by decide) (by decide)
        rw [if_neg (by simp)]
        generalize ((({} : Scaffold SenderSlot).assign true .connectionString []).assign true
          .connectionStringValuesMap []).assign true .client [] = r at hclient ⊢
        have hfill := fillFromConnectionString_alive (σ := σ) env values eventHubPath
          ({ state := {} }, r) hclient
        have hover := fillFromConnectionString_over (σ := σ) env values eventHubPath
          ({ state := {} }, r)
        generalize fillFromConnectionString env values eventHubPath ({ state := {} }, r) = y
          at hfill hover ⊢
        obtain ⟨_ | _, w, r⟩ := y
        · exact (Within.disposeAll hfill _ (by decide) (by decide) (by decide)).of_sameObjects
            (release_createLocals r _)
        · obtain ⟨_, _, _, -, hstate⟩ :=
            describes_of_fillFromConnectionString (Prod.ext hover.1.symm hover.2.symm)
          exact Alive.owns_of_release hfill hstate

/-- The client takes three strings from the configuration. -/
theorem isSome_of_fillFromSASToken {env : SenderCreateEnv} {cfg : EventHubAuthCBSConfig}
    {t : Filling σ}
    (h : EventHubClientLL.fillFromSASToken env cfg { state := {} } = (some (), t)) :
    cfg.hostName.isSome ∧ cfg.eventHubPath.isSome ∧ cfg.senderPublisherId.isSome := by
  simp only [EventHubClientLL.fillFromSASToken, run_check_eq_some, run_operand_eq_some,
    run_assign] at h
  obtain ⟨-, -, _, hpublisher, -, _, hpath, -, _, -, -, _, -, -, _, hhost, -⟩ := h
  rw [hpublisher, hpath, hhost]
  exact ⟨rfl, rfl, rfl⟩

/-- `EventHubClient_LL_CreateFromSASToken` keeps the configuration, and nothing when it fails. -/
theorem createFromSASToken_owns (parse : CString → Option EventHubAuthCBSConfig)
    (env : SenderCreateEnv) (eventHubSasToken : Option CString) :
    Owns (createFromSASToken (σ := σ) parse env eventHubSasToken {}) := by
  have hnew : Alive [] {} := .empty
  rcases eventHubSasToken with _ | token
  · exact Cleared.empty
  unfold createFromSASToken
  dsimp only
  cases parse token with
  | none =>
    exact (hnew.failed .extSASTokenParseConfig (by decide) (by decide)
      (by decide)).disposeAll [] .nil (List.Subset.refl _) (by decide)
  | some cfg =>
    have hconfig := hnew.succeeded .extSASTokenParseConfig (by decide) (by decide)
    dsimp only
    by_cases hmode : cfg.mode ≠ .sender
    · rw [if_pos hmode]
      exact (hconfig.within (List.Subset.refl _)).disposeAll [.extSASTokenParseConfig]
        (by decide) (by decide) (by decide)
    rw [if_neg hmode]
    cases hmalloc : env.succeeds .malloc with
    | false =>
      have hwithin := hconfig.failed .client (by decide) (by decide)
        (List.Subset.refl _)
      exact hwithin.disposeAll [.extSASTokenParseConfig] (by decide) (by decide)
        (by decide)
    | true =>
      have hclient : Alive [.client, .extSASTokenParseConfig] ((({} : Scaffold SenderSlot).assign
          true .extSASTokenParseConfig []).assign true .client []) :=
        hconfig.succeeded .client (by decide) (by decide)
      rw [if_neg (by simp)]
      generalize (({} : Scaffold SenderSlot).assign true .extSASTokenParseConfig []).assign true
        .client [] = r at hclient ⊢
      have hfill := fillFromSASToken_alive (σ := σ) env cfg ({ state := {} }, r) hclient
      have hover := fillFromSASToken_over (σ := σ) env cfg ({ state := {} }, r)
      generalize fillFromSASToken env cfg ({ state := {} }, r) = y at hfill hover ⊢
      obtain ⟨_ | _, w, r⟩ := y
      · exact Within.disposeAll hfill _ (by decide) (by decide) (by decide)
      · have hrun : EventHubClientLL.fillFromSASToken env cfg { state := {} } = (some (), w) :=
          Prod.ext hover.1.symm hover.2.symm
        obtain ⟨hhost, hpath, hpublisher⟩ := isSome_of_fillFromSASToken hrun
        obtain ⟨targetAddress, hstate⟩ := eq_of_fillFromSASToken hrun
        refine Alive.owns hfill fun k => ?_
        rw [hstate]
        cases k <;> simp [owned, createdFromSASToken, tokenSlots, hhost, hpath, hpublisher]

end Creation

/-- Whatever fails in one of the two functions, a client that they return is all that is alive, with
what it has, and when they return NULL nothing is. -/
theorem create_owns (connectionstringparserParse : CString → Option KVPMap)
    (sasTokenParse : CString → Option EventHubAuthCBSConfig) (env : SenderCreateEnv)
    (connectionString eventHubSasToken : Option CString) (eventHubPath : Option String) :
    Owns (createFromConnectionString (σ := σ) connectionstringparserParse env connectionString
        eventHubPath {}) ∧
      Owns (createFromSASToken (σ := σ) sasTokenParse env eventHubSasToken {}) :=
  ⟨createFromConnectionString_owns .., createFromSASToken_owns ..⟩

end SenderHandles

end EventHubs
