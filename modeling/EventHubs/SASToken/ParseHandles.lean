import EventHubs.Library.Ledger
import EventHubs.SASToken.Elements

/-!
# The handles of the token parser

`EventHubAuthCBS_SASTokenParse` with what it creates and deletes. Only the exit after the loop over
the segments deletes the string of the token and that of the URI when nothing is returned: the
exits before the loop leave them. `kvpParse` stands for `kvp_parser_parse` with the delimiters `=`
and `&`, which returns a new map or NULL.

## Main definitions

* `SASTokenObject` — what is created.
* `ConfigField`, `ConfigHandles` — the strings of a configuration.
* `EventHubAuthCBS.configDestroyOn`, `EventHubAuthCBS.sasTokenParseOn` — the functions with their
  handles.
* `EventHubAuthCBS.ReleasesAll` — what is deleted in the end.

## Main results

* `EventHubAuthCBS.sasTokenParseOn_fst` — the result without its handles.
* `EventHubAuthCBS.sasTokenParseOn_releases_iff` — when everything is deleted.
-/

namespace EventHubs

/-- What `EventHubAuthCBS_SASTokenParse` and the functions it calls create. -/
inductive SASTokenObject
  | string
  | tokenizer
  | map
  | config
  deriving DecidableEq, Repr

/-- The strings of `EVENTHUBAUTH_CBS_CONFIG`. -/
inductive ConfigField
  | hostName
  | eventHubPath
  | receiverConsumerGroup
  | receiverPartitionId
  | senderPublisherId
  | sharedAccessKeyName
  | sharedAccessKey
  | extSASToken
  | extSASTokenURI
  deriving DecidableEq, Repr

namespace ConfigField

/-- The order in which `EventHubAuthCBS_Config_Destroy` deletes them. -/
def destroyOrder : List ConfigField :=
  [.hostName, .eventHubPath, .receiverConsumerGroup, .receiverPartitionId, .senderPublisherId,
    .sharedAccessKeyName, .sharedAccessKey, .extSASToken, .extSASTokenURI]

/-- The text of a field; `none` is NULL. -/
def text (cfg : EventHubAuthCBSConfig) : ConfigField → Option String
  | hostName => cfg.hostName
  | eventHubPath => cfg.eventHubPath
  | receiverConsumerGroup => cfg.receiverConsumerGroup
  | receiverPartitionId => cfg.receiverPartitionId
  | senderPublisherId => cfg.senderPublisherId
  | sharedAccessKeyName => cfg.sharedAccessKeyName
  | sharedAccessKey => cfg.sharedAccessKey
  | extSASToken => cfg.extSASToken
  | extSASTokenURI => cfg.extSASTokenURI

/-- Assign to a field. -/
def set (cfg : EventHubAuthCBSConfig) (text : Option String) : ConfigField → EventHubAuthCBSConfig
  | hostName => { cfg with hostName := text }
  | eventHubPath => { cfg with eventHubPath := text }
  | receiverConsumerGroup => { cfg with receiverConsumerGroup := text }
  | receiverPartitionId => { cfg with receiverPartitionId := text }
  | senderPublisherId => { cfg with senderPublisherId := text }
  | sharedAccessKeyName => { cfg with sharedAccessKeyName := text }
  | sharedAccessKey => { cfg with sharedAccessKey := text }
  | extSASToken => { cfg with extSASToken := text }
  | extSASTokenURI => { cfg with extSASTokenURI := text }

theorem mem_destroyOrder (f : ConfigField) : f ∈ destroyOrder := by
  cases f <;> decide

theorem destroyOrder_nodup : destroyOrder.Nodup := by decide

variable {cfg : EventHubAuthCBSConfig} {f g : ConfigField} {t : Option String}

@[simp]
theorem text_set_self : f.text (f.set cfg t) = t := by cases f <;> rfl

theorem text_set_of_ne (h : g ≠ f) : g.text (f.set cfg t) = g.text cfg := by
  cases f <;> cases g <;> first | rfl | exact absurd rfl h

end ConfigField

/-- An `EVENTHUBAUTH_CBS_CONFIG`: its block and the handles in its fields. -/
structure ConfigHandles where
  block : ℕ
  strings : ConfigField → Option ℕ := fun _ => none

/-- The strings that some fields point to. -/
def ownedStrings (strings : ConfigField → Option ℕ) : List (ℕ × SASTokenObject) :=
  (ConfigField.destroyOrder.filterMap strings).map (·, .string)

/-- A configuration with its strings. -/
def ConfigHandles.owned (cfg : ConfigHandles) : List (ℕ × SASTokenObject) :=
  ownedStrings cfg.strings ++ [(cfg.block, .config)]

namespace EventHubAuthCBS

/-- `EventHubAuthCBS_Config_Destroy`. -/
def configDestroyOn (cfg : Option ConfigHandles) (l : Ledger SASTokenObject) :
    Ledger SASTokenObject :=
  match cfg with
  | none => l
  | some cfg =>
    (l.destroyAll (ConfigField.destroyOrder.filterMap cfg.strings)).destroy cfg.block

/-! ### The functions -/

section Functions

variable (kvpParse : CString → Option KVPMap) (tokenize : CString → List CString)

/-- `GetURIAndExpirationFromSASToken`, which destroys the map in the end. -/
def getURIAndExpirationOn (env : SASTokenParseEnv) (sasToken : CString)
    (l : Ledger SASTokenObject) : Option (CString × UInt64) × Ledger SASTokenObject :=
  if !strncmpIsZero sasTokenStart sasToken sasTokenStart.length then (none, l)
  else
    match kvpParse (sasToken.drop sasTokenStart.length) with
    | none => (none, l)
    | some tokenMap => l.holding .map fun l => (checkTokenMap env tokenMap, l)

/-- The locals of the loop over the segments, with the handles in the configuration. -/
structure SASTokenURIOn where
  state : SASTokenURIState := {}
  strings : ConfigField → Option ℕ := fun _ => none
  ledger : Ledger SASTokenObject

namespace SASTokenURIOn

/-- `isError = true`. -/
def fail (s : SASTokenURIOn) : SASTokenURIOn := { s with state := { s.state with isError := true } }

/-- `STRING_construct_n` into a field of the configuration, and what the loop does next. -/
def construct (s : SASTokenURIOn) (env : SASTokenParseEnv) (field : ConfigField)
    (text : Option String) (next : SASTokenURIState → SASTokenURIState) : SASTokenURIOn :=
  if !env.succeeds (.constructN s.state.elem) then s.fail
  else
    { state := next { s.state with result := field.set s.state.result text }
      strings := Function.update s.strings field (some s.ledger.next)
      ledger := s.ledger.create .string }

/-- The body of the loop over the segments. -/
def element (s : SASTokenURIOn) (env : SASTokenParseEnv) (token : CString) : SASTokenURIOn :=
  if !env.succeeds (.cStr s.state.elem) || token.length = 0 then s.fail
  else
    let text := some (String.ofList token)
    match s.state.elem with
    | .hostName => s.construct env .hostName text fun t => { t with elem := .eventHub }
    | .eventHub =>
      s.construct env .eventHubPath text fun t => { t with elem := .publisherOrConsumer }
    | .publisherOrConsumer =>
      if strncmpIsZero token publishers token.length then
        { s with
          state.result.mode := .sender
          state.elem := .publisherIdOrConsumerId }
      else if strncmpIsZero token consumerGroups token.length then
        { s with
          state.result.mode := .receiver
          state.elem := .publisherIdOrConsumerId }
      else s.fail
    | .publisherIdOrConsumerId =>
      if s.state.result.mode = .sender then
        s.construct env .senderPublisherId text fun t => { t with isDone := true }
      else s.construct env .receiverConsumerGroup text fun t => { t with elem := .partition }
    | .partition =>
      if !strncmpIsZero token partitions token.length then s.fail
      else { s with state.elem := .partitionId }
    | .partitionId => s.construct env .receiverPartitionId text fun t => { t with isDone := true }
    | .unknown => s.fail

/-- The loop over the segments. -/
def segments (env : SASTokenParseEnv) : List CString → SASTokenURIOn → SASTokenURIOn
  | [], s => s
  | token :: rest, s =>
    if s.state.isError || s.state.isDone then s else segments env rest (s.element env token)

end SASTokenURIOn

/-- `EventHubAuthCBS_SASTokenParse` from the creation of the tokenizer on: `sasTokenHandle` and
`uriHandle` are the strings of the token and of the URI, `config` is the block. -/
def fillConfigOn (env : SASTokenParseEnv) (extSASToken uriData : CString)
    (expirationTimestamp : UInt64) (sasTokenHandle uriHandle config : ℕ)
    (l : Ledger SASTokenObject) :
    Option (ConfigHandles × EventHubAuthCBSConfig) × Ledger SASTokenObject :=
  if !env.succeeds .tokenizerCreate then (none, l.destroy config)
  else
    l.holding .tokenizer fun l =>
      if !env.succeeds .newToken then (none, l.destroy config)
      else
        let s := SASTokenURIOn.segments env (tokenize uriData) { ledger := l.create .string }
        let l := s.ledger.destroy l.next
        if s.state.isError || !s.state.isDone then
          let l := (l.destroy uriHandle).destroy sasTokenHandle
          (none, configDestroyOn (some ⟨config, s.strings⟩) l)
        else
          let strings := Function.update s.strings .extSASTokenURI (some uriHandle)
          (some (⟨config, Function.update strings .extSASToken (some sasTokenHandle)⟩,
            { s.state.result with
              extSASTokenExpTSInEpochSec := expirationTimestamp
              extSASTokenURI := some (String.ofList uriData)
              extSASToken := some (String.ofList extSASToken)
              credential := .sasTokenExt }), l)

/-- `EventHubAuthCBS_SASTokenParse`; `none` is NULL. -/
def sasTokenParseOn (env : SASTokenParseEnv) (extSASToken : Option CString)
    (l : Ledger SASTokenObject) :
    Option (ConfigHandles × EventHubAuthCBSConfig) × Ledger SASTokenObject :=
  match extSASToken with
  | none => (none, l)
  | some extSASToken =>
    if !env.succeeds .constructToken then (none, l)
    else
      let sasTokenHandle := l.next
      let l := l.create .string
      if !env.succeeds .newURI then (none, l)
      else
        let uriHandle := l.next
        let x := getURIAndExpirationOn kvpParse env extSASToken (l.create .string)
        match x.1 with
        | none => (none, x.2)
        | some (uriData, expirationTimestamp) =>
          if !env.succeeds .malloc then (none, x.2)
          else
            fillConfigOn tokenize env extSASToken uriData expirationTimestamp sasTokenHandle
              uriHandle x.2.next (x.2.create .config)

end Functions

/-! ### The strings of a configuration -/

/-- One more value among those that a list of keys has. -/
theorem filterMap_update_perm {α : Type*} [DecidableEq α] {keys : List α} (hkeys : keys.Nodup)
    {g : α → Option ℕ} {a : α} (ha : a ∈ keys) (hnone : g a = none) (n : ℕ) :
    (keys.filterMap (Function.update g a (some n))).Perm (keys.filterMap g ++ [n]) := by
  obtain ⟨before, after, rfl⟩ := List.append_of_mem ha
  obtain ⟨-, hafter, hbefore⟩ := List.nodup_append.mp hkeys
  have hcongr : ∀ l : List α, a ∉ l →
      l.filterMap (Function.update g a (some n)) = l.filterMap g := fun l hl =>
    List.filterMap_congr fun b hb => Function.update_of_ne (ne_of_mem_of_not_mem hb hl) _ _
  have ha₁ : a ∉ before := fun h => hbefore a h a List.mem_cons_self rfl
  have ha₂ : a ∉ after := (List.nodup_cons.mp hafter).1
  rw [List.filterMap_append, List.filterMap_append, hcongr before ha₁,
    List.filterMap_cons_some (Function.update_self ..), hcongr after ha₂,
    List.filterMap_cons_none hnone, List.append_assoc]
  exact (List.perm_append_singleton n _).symm.append_left _

section Strings

variable {l m : Ledger SASTokenObject} {made : List (ℕ × SASTokenObject)}
  {strings : ConfigField → Option ℕ} {n : ℕ}

theorem ownedStrings_update {f : ConfigField} (hnone : strings f = none) (n : ℕ) :
    (ownedStrings (Function.update strings f (some n))).Perm
      (ownedStrings strings ++ [(n, .string)]) := by
  have hperm := filterMap_update_perm ConfigField.destroyOrder_nodup f.mem_destroyOrder hnone n
  simpa [ownedStrings] using hperm.map (·, SASTokenObject.string)

theorem map_fst_ownedStrings :
    (ownedStrings strings).map Prod.fst = ConfigField.destroyOrder.filterMap strings := by
  rw [ownedStrings, List.map_map]
  exact List.map_id _

/-- `EventHubAuthCBS_Config_Destroy` takes away the configuration and its strings. -/
theorem leaves_configDestroyOn {cfg : ConfigHandles} (h : l.Leaves (cfg.owned ++ made) m) :
    l.Leaves made (configDestroyOn (some cfg) m) := by
  rw [ConfigHandles.owned, List.append_assoc] at h
  have hstrings := h.destroyAll
  rw [map_fst_ownedStrings] at hstrings
  exact hstrings.destroy

end Strings

/-! ### The loop over the segments -/

namespace SASTokenURIOn

variable {env : SASTokenParseEnv} {s : SASTokenURIOn} {token : CString}

theorem construct_state (s : SASTokenURIOn) (field : ConfigField) (text : Option String)
    (next : SASTokenURIState → SASTokenURIState) :
    (s.construct env field text next).state =
      s.state.construct env (field.set s.state.result text) next := by
  unfold construct SASTokenURIState.construct
  split_ifs <;> rfl

theorem element_state (s : SASTokenURIOn) (token : CString) :
    (s.element env token).state = s.state.element env token := by
  obtain ⟨⟨elem, isError, isDone, result⟩, strings, ledger⟩ := s
  unfold element SASTokenURIState.element
  by_cases hread : (!env.succeeds (.cStr elem) || decide (token.length = 0)) = true
  · rw [if_pos hread, if_pos hread]
    rfl
  rw [if_neg hread, if_neg hread]
  cases elem with
  | hostName | eventHub | partitionId => exact construct_state ..
  | publisherOrConsumer | partition => dsimp only; split_ifs <;> rfl
  | publisherIdOrConsumerId => dsimp only; split_ifs <;> exact construct_state ..
  | unknown => rfl

/-- Without its handles the loop is that of the parser. -/
theorem segments_state (tokens : List CString) (s : SASTokenURIOn) :
    (segments env tokens s).state = SASTokenURIState.segments env tokens s.state := by
  induction tokens generalizing s with
  | nil => rfl
  | cons token rest ih =>
    rw [segments, SASTokenURIState.segments]
    split_ifs
    · rfl
    · rw [ih, element_state]

/-- The fields that are not NULL hold what the loop has created. -/
structure Held (l : Ledger SASTokenObject) (s : SASTokenURIOn) : Prop where
  points : ∀ f : ConfigField, (s.strings f).isSome = (f.text s.state.result).isSome
  leaves : l.Leaves (ownedStrings s.strings) s.ledger

variable {l : Ledger SASTokenObject}

/-- A field that is still NULL is filled. -/
theorem Held.construct (hs : Held l s) {field : ConfigField} {text : String}
    {next : SASTokenURIState → SASTokenURIState} (hnone : field.text s.state.result = none)
    (hnext : ∀ t, (next t).result = t.result) :
    Held l (s.construct env field (some text) next) := by
  have hfield : s.strings field = none := by
    have hpoints := hs.points field
    rwa [hnone, Option.isSome_none, Option.isSome_eq_false_iff, Option.isNone_iff_eq_none]
      at hpoints
  unfold SASTokenURIOn.construct
  split_ifs
  · exact ⟨hs.points, hs.leaves⟩
  · refine ⟨fun f => ?_, (hs.leaves.create .string).perm (ownedStrings_update hfield _).symm⟩
    dsimp only
    rw [hnext]
    by_cases hf : f = field
    · subst hf
      rw [Function.update_self, ConfigField.text_set_self]
      rfl
    · rw [Function.update_of_ne hf, ConfigField.text_set_of_ne hf]
      exact hs.points f

/-- The body of the loop over the segments. -/
theorem Held.element (hs : Held l s) (hfilled : Filled s.state.elem s.state.result) :
    Held l (s.element env token) := by
  obtain ⟨⟨elem, isError, isDone, result⟩, strings, ledger⟩ := s
  dsimp only at hfilled
  unfold SASTokenURIOn.element
  by_cases hread : (!env.succeeds (.cStr elem) || decide (token.length = 0)) = true
  · rw [if_pos hread]
    exact ⟨hs.points, hs.leaves⟩
  rw [if_neg hread]
  cases hfilled with
  | hostName | eventHub | partitionId => exact hs.construct rfl fun _ => rfl
  | publisherId | consumerId =>
    dsimp only
    split_ifs <;> exact hs.construct rfl fun _ => rfl
  | publisherOrConsumer | partition =>
    dsimp only
    split_ifs <;> exact ⟨hs.points, hs.leaves⟩

/-- The loop over the segments. -/
theorem Held.segments (tokens : List CString) (hs : Held l s) (hsound : s.state.Sound) :
    Held l (segments env tokens s) := by
  induction tokens generalizing s with
  | nil => exact hs
  | cons token rest ih =>
    rw [SASTokenURIOn.segments]
    split_ifs with hstop
    · exact hs
    · rw [Bool.not_eq_true, Bool.or_eq_false_iff] at hstop
      cases hsound with
      | error herror => exact absurd (herror.symm.trans hstop.1) (by simp)
      | filled hdone h =>
        refine ih (hs.element h) ?_
        rw [element_state]
        exact .element h hdone
      | done hdone => exact absurd (hdone.symm.trans hstop.2) (by simp)

end SASTokenURIOn

/-! ### What is deleted in the end -/

/-- When nothing is returned, nothing that was created is left; otherwise the configuration is,
with the strings in its fields, and `EventHubAuthCBS_Config_Destroy` takes these away. -/
structure ReleasesAll (l : Ledger SASTokenObject)
    (x : Option (ConfigHandles × EventHubAuthCBSConfig) × Ledger SASTokenObject) : Prop where
  none : x.1 = none → l.Leaves [] x.2
  owned : ∀ cfg config, x.1 = some (cfg, config) → l.Leaves cfg.owned x.2
  points : ∀ cfg config, x.1 = some (cfg, config) →
    ∀ f : ConfigField, (cfg.strings f).isSome = (f.text config).isSome
  destroyed : ∀ cfg config, x.1 = some (cfg, config) → l.Leaves [] (configDestroyOn (some cfg) x.2)

namespace ReleasesAll

variable {l m : Ledger SASTokenObject} {cfg : ConfigHandles} {config : EventHubAuthCBSConfig}

theorem faults {x : Option (ConfigHandles × EventHubAuthCBSConfig) × Ledger SASTokenObject}
    (h : ReleasesAll l x) : x.2.faults = l.faults := by
  obtain ⟨_ | ⟨cfg, config⟩, m⟩ := x
  · exact (h.none rfl).faults
  · exact (h.owned cfg config rfl).faults

theorem of_none (h : l.Leaves [] m) : ReleasesAll l (Option.none, m) where
  none _ := h
  owned _ _ h := by cases h
  points _ _ h := by cases h
  destroyed _ _ h := by cases h

theorem of_some (h : l.Leaves cfg.owned m)
    (hpoints : ∀ f : ConfigField, (cfg.strings f).isSome = (f.text config).isSome) :
    ReleasesAll l (some (cfg, config), m) where
  none h := by cases h
  owned _ _ hsome := by cases hsome; exact h
  points _ _ hsome := by cases hsome; exact hpoints
  destroyed _ _ hsome := by
    cases hsome
    exact leaves_configDestroyOn (by rwa [List.append_nil])

/-- Nothing is returned, but something is left. -/
theorem not_of_leaves {made : List (ℕ × SASTokenObject)} (hmade : made ≠ [])
    (h : l.Leaves made m) : ¬ ReleasesAll l (Option.none, m) := by
  intro hreleases
  have hnone := hreleases.none rfl
  refine hmade (h.eq_nil ?_)
  simpa using hnone.live

end ReleasesAll

section Releases

variable {kvpParse : CString → Option KVPMap} {tokenize : CString → List CString}
  {env : SASTokenParseEnv} {l m : Ledger SASTokenObject} {extSASToken uriData : CString}
  {expirationTimestamp : UInt64} {sasTokenHandle uriHandle config : ℕ}

/-- What `EventHubAuthCBS_SASTokenParse` holds when it comes to the tokenizer. -/
def heldBefore (sasTokenHandle uriHandle config : ℕ) : List (ℕ × SASTokenObject) :=
  [(config, .config), (uriHandle, .string), (sasTokenHandle, .string)]

/-- Without its tokenizer or the string for its tokens, the function gives up the block only. -/
theorem fillConfigOn_exit (tokenize : CString → List CString) (extSASToken uriData : CString)
    (expirationTimestamp : UInt64)
    (h : m.Leaves (heldBefore sasTokenHandle uriHandle config) l)
    (hfails : (env.succeeds .tokenizerCreate && env.succeeds .newToken) = false) :
    ∃ k, fillConfigOn tokenize env extSASToken uriData expirationTimestamp sasTokenHandle uriHandle
        config l = (none, k) ∧
      m.Leaves [(uriHandle, .string), (sasTokenHandle, .string)] k := by
  unfold fillConfigOn
  cases htokenizer : env.succeeds .tokenizerCreate with
  | false => exact ⟨_, rfl, h.destroy⟩
  | true =>
    have hnew : env.succeeds .newToken = false := by simpa [htokenizer] using hfails
    simp only [Ledger.holding, hnew]
    refine ⟨_, rfl, ?_⟩
    have hheld := (h.create .tokenizer).destroy
    exact (hheld.perm (List.perm_append_singleton _ _)).destroy

/-- What the loop holds, in the order in which the exit after the loop gives it up. -/
theorem heldBefore_perm {strings : List (ℕ × SASTokenObject)} {tokenizer : ℕ × SASTokenObject} :
    (heldBefore sasTokenHandle uriHandle config ++ [tokenizer] ++ strings).Perm
      ((uriHandle, .string) :: (sasTokenHandle, .string) ::
        (strings ++ [(config, .config)] ++ [tokenizer])) := by
  refine List.perm_iff_count.mpr fun x => ?_
  simp only [heldBefore, List.count_append, List.count_cons, List.count_nil]
  omega

/-- What the loop holds is the tokenizer and the configuration with all its strings. -/
theorem perm_owned {strings : ConfigField → Option ℕ} {tokenizer : ℕ × SASTokenObject}
    (huri : strings .extSASTokenURI = none) (htoken : strings .extSASToken = none) :
    ((uriHandle, .string) :: (sasTokenHandle, .string) ::
        (ownedStrings strings ++ [(config, .config)] ++ [tokenizer])).Perm
      (tokenizer :: ConfigHandles.owned
        ⟨config, Function.update (Function.update strings .extSASTokenURI (some uriHandle))
          .extSASToken (some sasTokenHandle)⟩) := by
  have htoken' : Function.update strings .extSASTokenURI (some uriHandle) .extSASToken = none := by
    rwa [Function.update_of_ne (by decide)]
  have huriPerm := ownedStrings_update huri uriHandle
  have htokenPerm := ownedStrings_update htoken' sasTokenHandle
  refine List.perm_iff_count.mpr fun x => ?_
  have huriCount := huriPerm.count_eq x
  have htokenCount := htokenPerm.count_eq x
  simp only [ConfigHandles.owned, List.count_append, List.count_cons, List.count_nil]
    at huriCount htokenCount ⊢
  omega

/-- From the loop on, everything is given up. -/
theorem fillConfigOn_releases (h : m.Leaves (heldBefore sasTokenHandle uriHandle config) l)
    (htokenizer : env.succeeds .tokenizerCreate = true)
    (hnew : env.succeeds .newToken = true) :
    ReleasesAll m (fillConfigOn tokenize env extSASToken uriData expirationTimestamp sasTokenHandle
      uriHandle config l) := by
  have hstart : SASTokenURIState.Sound {} := .filled rfl .hostName
  have hheld : SASTokenURIOn.Held ((l.create .tokenizer).create .string)
      (SASTokenURIOn.segments env (tokenize uriData)
        { ledger := (l.create .tokenizer).create .string }) :=
    .segments _ ⟨fun f => by cases f <;> rfl, .refl _⟩ hstart
  have hsound : SASTokenURIState.Sound (SASTokenURIOn.segments env (tokenize uriData)
      { ledger := (l.create .tokenizer).create .string }).state := by
    rw [SASTokenURIOn.segments_state]
    exact SASTokenURIState.segments_sound _ hstart
  simp only [fillConfigOn, htokenizer, Ledger.holding, hnew, Bool.not_true, Bool.false_eq_true,
    if_false]
  generalize SASTokenURIOn.segments env (tokenize uriData)
    { ledger := (l.create .tokenizer).create .string } = s at hheld hsound ⊢
  have hall := ((h.create .tokenizer).trans hheld.leaves.bracket).perm heldBefore_perm
  split_ifs with hstop
  · exact .of_none (leaves_configDestroyOn hall.destroy.destroy).destroy
  · obtain ⟨r, hr⟩ : ∃ r : Resource, s.state.result = r.config := by
      cases hsound with
      | error herror => simp [herror] at hstop
      | filled hdone => simp [hdone] at hstop
      | done _ r _ hresult => exact ⟨r, hresult⟩
    have hnull : ∀ f : ConfigField, f.text r.config = none → s.strings f = none := by
      intro f hf
      have hpoints := hheld.points f
      rwa [hr, hf, Option.isSome_none, Option.isSome_eq_false_iff, Option.isNone_iff_eq_none]
        at hpoints
    have huri : s.strings .extSASTokenURI = none := hnull _ (by cases r <;> rfl)
    have htoken : s.strings .extSASToken = none := hnull _ (by cases r <;> rfl)
    refine .of_some (hall.perm (perm_owned huri htoken)).destroy fun f => ?_
    cases f with
    | extSASToken | extSASTokenURI => rfl
    | _ => exact hheld.points _

/-- What `GetURIAndExpirationFromSASToken` reads, given what `kvp_parser_parse` returns. -/
def readToken (kvpParse : CString → Option KVPMap) (env : SASTokenParseEnv)
    (sasToken : CString) : Option (CString × UInt64) :=
  if !strncmpIsZero sasTokenStart sasToken sasTokenStart.length then none
  else (kvpParse (sasToken.drop sasTokenStart.length)).bind (checkTokenMap env)

/-- `GetURIAndExpirationFromSASToken` leaves nothing. -/
theorem getURIAndExpirationOn_spec (kvpParse : CString → Option KVPMap) (env : SASTokenParseEnv)
    (sasToken : CString) (l : Ledger SASTokenObject) :
    (getURIAndExpirationOn kvpParse env sasToken l).1 = readToken kvpParse env sasToken ∧
      l.Leaves [] (getURIAndExpirationOn kvpParse env sasToken l).2 := by
  unfold getURIAndExpirationOn readToken
  split_ifs
  · exact ⟨rfl, .refl l⟩
  · cases kvpParse (sasToken.drop sasTokenStart.length) with
    | none => exact ⟨rfl, .refl l⟩
    | some tokenMap => exact ⟨rfl, .holding (.refl _)⟩

/-- Every call before the loop over the segments succeeds. -/
def reachesLoop (kvpParse : CString → Option KVPMap) (env : SASTokenParseEnv)
    (sasToken : CString) : Bool :=
  env.succeeds .newURI && (readToken kvpParse env sasToken).isSome && env.succeeds .malloc &&
    env.succeeds .tokenizerCreate && env.succeeds .newToken

/-- The function with the strings of the token and of the URI, and with its block. -/
theorem sasTokenParseOn_eq_fillConfigOn (tokenize : CString → List CString)
    (l : Ledger SASTokenObject) (hconstruct : env.succeeds .constructToken = true)
    (huri : env.succeeds .newURI = true)
    (hread : readToken kvpParse env extSASToken = some (uriData, expirationTimestamp))
    (hmalloc : env.succeeds .malloc = true) :
    ∃ k sasTokenHandle uriHandle config,
      sasTokenParseOn kvpParse tokenize env (some extSASToken) l =
        fillConfigOn tokenize env extSASToken uriData expirationTimestamp sasTokenHandle uriHandle
          config k ∧
      l.Leaves (heldBefore sasTokenHandle uriHandle config) k := by
  obtain ⟨hfound, hnothing⟩ := getURIAndExpirationOn_spec kvpParse env extSASToken
    ((l.create .string).create .string)
  rw [hread] at hfound
  have hstring := (Ledger.Leaves.refl l).create SASTokenObject.string
  have hstrings := hstring.create SASTokenObject.string
  have hheld := (hstrings.trans hnothing).create SASTokenObject.config
  simp only [sasTokenParseOn, hconstruct, huri, hfound, hmalloc]
  refine ⟨_, _, _, _, rfl, hheld.perm (List.perm_iff_count.mpr fun x => ?_)⟩
  simp only [heldBefore, List.count_append, List.count_cons, List.count_nil]
  omega

/-- An exit before the loop leaves the string of the token. -/
theorem sasTokenParseOn_exit (tokenize : CString → List CString) (l : Ledger SASTokenObject)
    (hconstruct : env.succeeds .constructToken = true)
    (hloop : reachesLoop kvpParse env extSASToken = false) :
    ∃ made m, sasTokenParseOn kvpParse tokenize env (some extSASToken) l = (none, m) ∧
      made ≠ [] ∧ l.Leaves made m := by
  have hstring := (Ledger.Leaves.refl l).create SASTokenObject.string
  cases huri : env.succeeds .newURI with
  | false =>
    refine ⟨_, l.create .string, ?_, List.cons_ne_nil _ _, hstring⟩
    simp only [sasTokenParseOn, hconstruct, huri]
    rfl
  | true =>
    obtain ⟨hfound, hnothing⟩ := getURIAndExpirationOn_spec kvpParse env extSASToken
      ((l.create .string).create .string)
    have hheld := (hstring.create .string).trans hnothing
    cases hread : readToken kvpParse env extSASToken with
    | none =>
      refine ⟨_, _, ?_, by simp, hheld⟩
      rw [hread] at hfound
      simp only [sasTokenParseOn, hconstruct, huri, hfound]
      rfl
    | some found =>
      cases hmalloc : env.succeeds .malloc with
      | false =>
        refine ⟨_, _, ?_, by simp, hheld⟩
        rw [hread] at hfound
        simp only [sasTokenParseOn, hconstruct, huri, hfound, hmalloc]
        rfl
      | true =>
        obtain ⟨k, sasTokenHandle, uriHandle, config, heq, hbefore⟩ :=
          sasTokenParseOn_eq_fillConfigOn tokenize l hconstruct huri hread hmalloc
        have hfails : (env.succeeds .tokenizerCreate && env.succeeds .newToken) = false := by
          simpa [reachesLoop, huri, hread, hmalloc] using hloop
        obtain ⟨m, hm, hleft⟩ :=
          fillConfigOn_exit tokenize extSASToken found.1 found.2 hbefore hfails
        exact ⟨_, m, heq.trans hm, by simp, hleft⟩

/-- From the loop on everything is given up. -/
theorem sasTokenParseOn_releases (tokenize : CString → List CString)
    (l : Ledger SASTokenObject) (hconstruct : env.succeeds .constructToken = true)
    (hloop : reachesLoop kvpParse env extSASToken = true) :
    ReleasesAll l (sasTokenParseOn kvpParse tokenize env (some extSASToken) l) := by
  simp only [reachesLoop, Bool.and_eq_true, Option.isSome_iff_exists] at hloop
  obtain ⟨⟨⟨⟨huri, found, hread⟩, hmalloc⟩, htokenizer⟩, hnew⟩ := hloop
  obtain ⟨k, sasTokenHandle, uriHandle, config, heq, hbefore⟩ :=
    sasTokenParseOn_eq_fillConfigOn tokenize l hconstruct huri hread hmalloc
  rw [heq]
  exact fillConfigOn_releases hbefore htokenizer hnew

/-- `kvp_parser_parse` with the delimiters of a token. -/
def parseTokenMap (env : SASTokenParseEnv) (text : CString) : Option KVPMap :=
  kvpParserParse env.kvpParser (some text) (some "=".toList) (some "&".toList)

theorem readToken_parseTokenMap (env : SASTokenParseEnv) (sasToken : CString) :
    readToken (parseTokenMap env) env sasToken = getURIAndExpirationFromSASToken env sasToken := by
  unfold readToken getURIAndExpirationFromSASToken parseTokenMap
  split_ifs
  · rfl
  · cases kvpParserParse env.kvpParser (some (sasToken.drop sasTokenStart.length))
      (some "=".toList) (some "&".toList) <;> rfl

/-- What the function returns from the creation of the tokenizer on. -/
theorem fillConfigOn_fst (tokenize : CString → List CString) (l : Ledger SASTokenObject) :
    (fillConfigOn tokenize env extSASToken uriData expirationTimestamp sasTokenHandle uriHandle
        config l).1.map Prod.snd =
      if !env.succeeds .tokenizerCreate then none
      else if !env.succeeds .newToken then none
      else
        let s := SASTokenURIState.segments env (tokenize uriData) {}
        if s.isError || !s.isDone then none
        else
          some { s.result with
            extSASTokenExpTSInEpochSec := expirationTimestamp
            extSASTokenURI := some (String.ofList uriData)
            extSASToken := some (String.ofList extSASToken)
            credential := .sasTokenExt } := by
  unfold fillConfigOn
  cases htokenizer : env.succeeds .tokenizerCreate with
  | false => rfl
  | true =>
    cases hnew : env.succeeds .newToken with
    | false => simp [Ledger.holding]
    | true =>
      have hstate := @SASTokenURIOn.segments_state env (tokenize uriData)
        { ledger := (l.create .tokenizer).create .string }
      simp only [Ledger.holding, ← hstate, Bool.not_true, Bool.false_eq_true, if_false]
      split_ifs <;> rfl

/-- The result without its handles. -/
theorem sasTokenParseOn_fst (tokenize : CString → List CString) (env : SASTokenParseEnv)
    (extSASToken : Option CString) (l : Ledger SASTokenObject) :
    (sasTokenParseOn (parseTokenMap env) tokenize env extSASToken l).1.map Prod.snd =
      sasTokenParse tokenize env extSASToken := by
  cases extSASToken with
  | none => rfl
  | some token =>
    have hread := (getURIAndExpirationOn_spec (parseTokenMap env) env token
      ((l.create .string).create .string)).1
    rw [readToken_parseTokenMap] at hread
    simp only [sasTokenParseOn, sasTokenParse]
    cases env.succeeds .constructToken with
    | false => rfl
    | true =>
      cases env.succeeds .newURI with
      | false => rfl
      | true =>
        cases hfound : getURIAndExpirationFromSASToken env token with
        | none =>
          rw [hfound] at hread
          simp [hread]
        | some found =>
          rw [hfound] at hread
          cases env.succeeds .malloc with
          | false => simp [hread]
          | true => simp [hread, fillConfigOn_fst]

/-- Nothing is deleted twice. Everything is given up exactly when the token is NULL, its string
cannot be created, or every call before the loop over the segments succeeds. -/
theorem sasTokenParseOn_releases_iff (kvpParse : CString → Option KVPMap)
    (tokenize : CString → List CString) (env : SASTokenParseEnv) (extSASToken : Option CString)
    (l : Ledger SASTokenObject) :
    (sasTokenParseOn kvpParse tokenize env extSASToken l).2.faults = l.faults ∧
      (ReleasesAll l (sasTokenParseOn kvpParse tokenize env extSASToken l) ↔
        ∀ token ∈ extSASToken, env.succeeds .constructToken = true →
          reachesLoop kvpParse env token = true) := by
  cases extSASToken with
  | none => exact ⟨rfl, iff_of_true (.of_none (.refl l)) (by simp)⟩
  | some token =>
    cases hconstruct : env.succeeds .constructToken with
    | false =>
      simp only [sasTokenParseOn, hconstruct]
      exact ⟨rfl, iff_of_true (.of_none (.refl l)) (by simp)⟩
    | true =>
      cases hloop : reachesLoop kvpParse env token with
      | false =>
        obtain ⟨made, m, hm, hmade, hleft⟩ :=
          sasTokenParseOn_exit tokenize l hconstruct hloop
        rw [hm]
        exact ⟨hleft.faults, iff_of_false (ReleasesAll.not_of_leaves hmade hleft) (by simp [hloop])⟩
      | true =>
        have hreleases := sasTokenParseOn_releases tokenize l hconstruct hloop
        exact ⟨hreleases.faults, iff_of_true hreleases (by simp [hloop])⟩

/-- A text that is no token leaves two strings. -/
theorem sasTokenParseOn_leaves_strings :
    ¬ ReleasesAll {}
      (sasTokenParseOn (parseTokenMap {}) uriSegments {} (some "token".toList) {}) := by
  intro hreleases
  have hlive := (hreleases.none rfl).live.length_eq
  revert hlive
  decide

end Releases

end EventHubAuthCBS

end EventHubs
