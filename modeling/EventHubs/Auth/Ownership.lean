import EventHubs.Auth.Expiry
import Mathlib.Data.List.Perm.Basic

/-!
# Ownership of the strings of a handle

Each string that the module creates belongs to one field of its handle until it is deleted, with
one exception. For an external token `EventHubAuthCBS_Authenticate` stores in `sasTokenHandle` the
string that `extSASToken` holds already, so that one string has two owners, each of which deletes
it. A handle made from a shared access key never shares a string, and a handle with an external
token shares one exactly from its first authentication that gets past the clock on.

## Main definitions

* `StringHeap.Owns` — the strings alive are those of a list, each there once.
* `EventHubAuthCBSStruct.fields` — the string fields of a handle.
* `EventHubAuthCBS.SingleOwner` — every field owns its string alone.
* `EventHubAuthCBS.StopsBeforeToken`.

## Main results

* `EventHubAuthCBS.create_owned`, `EventHubAuthCBS.createCleanUp_owns` — creation and its failure.
* `EventHubAuthCBS.respond_owned` — one call.
* `EventHubAuthCBS.run_singleOwner_iff` — every run.
-/

namespace EventHubs

/-! ### Heaps of strings -/

namespace StringHeap

/-- The identities of the strings in a list of fields. -/
def names (fs : List (Option StringHandle)) : List Nat := fs.filterMap (Option.map (·.id))

/-- The strings alive are those of `ids`, each there once, and no string was deleted twice or
read after its deletion. -/
structure Owns (h : StringHeap) (ids : List Nat) : Prop where
  live : h.live.Perm ids
  nodup : ids.Nodup
  below : ∀ n ∈ ids, n < h.next
  clean : h.faults = []

@[simp]
theorem names_nil : names [] = [] := rfl

@[simp]
theorem names_none (fs : List (Option StringHandle)) : names (none :: fs) = names fs := rfl

@[simp]
theorem names_some (s : StringHandle) (fs : List (Option StringHandle)) :
    names (some s :: fs) = s.id :: names fs := rfl

theorem names_perm {fs gs : List (Option StringHandle)} (h : fs.Perm gs) :
    (names fs).Perm (names gs) :=
  h.filterMap _

/-- Storing `g` at a position frees what the position held. -/
theorem names_set {fs : List (Option StringHandle)} (n : Nat) {f : Option StringHandle}
    (hf : fs[n]? = some f) (g : Option StringHandle) :
    (names (g :: fs)).Perm (names (f :: fs.set n g)) := by
  obtain ⟨hlt, rfl⟩ := List.getElem?_eq_some_iff.mp hf
  have hold := (List.getElem_cons_eraseIdx_perm hlt).symm
  have hnew := (List.set_perm_cons_eraseIdx hlt g).symm
  exact names_perm ((hold.cons g).trans ((List.Perm.swap ..).trans (hnew.cons _)))

theorem mem_names {s : StringHandle} {fs : List (Option StringHandle)} (h : some s ∈ fs) :
    s.id ∈ names fs :=
  List.mem_filterMap.mpr ⟨some s, h, rfl⟩

namespace Owns

variable {h : StringHeap} {ids : List Nat}

theorem perm {js : List Nat} (howns : Owns h ids) (hperm : ids.Perm js) : Owns h js :=
  ⟨howns.live.trans hperm, hperm.nodup_iff.mp howns.nodup,
    fun n hn ↦ howns.below n (hperm.mem_iff.mpr hn), howns.clean⟩

theorem create (howns : Owns h ids) (text : String) :
    Owns (h.create text).2 ((h.create text).1.id :: ids) := by
  refine ⟨howns.live.cons h.next, List.nodup_cons.mpr ⟨fun hmem ↦ ?_, howns.nodup⟩,
    fun n hn ↦ ?_, howns.clean⟩
  · exact absurd (howns.below h.next hmem) (Nat.lt_irrefl _)
  · rcases List.mem_cons.mp hn with rfl | hn
    · exact Nat.lt_succ_self h.next
    · exact Nat.lt_succ_of_lt (howns.below n hn)

theorem delete {s : StringHandle} (howns : Owns h (s.id :: ids)) : Owns (h.delete s) ids := by
  have hlive : s.id ∈ h.live := howns.live.mem_iff.mpr (List.mem_cons_self ..)
  have hrest : (h.live.erase s.id).Perm ids := by
    simpa only [List.erase_cons_head] using howns.live.erase s.id
  rw [StringHeap.delete, if_pos hlive]
  exact ⟨hrest, howns.nodup.of_cons, fun n hn ↦ howns.below n (List.mem_cons_of_mem _ hn),
    howns.clean⟩

theorem deleteIf {f : Option StringHandle} {fs : List (Option StringHandle)}
    (howns : Owns h (names (f :: fs))) : Owns (h.deleteIf f) (names fs) := by
  cases f with
  | none => exact howns
  | some s => exact howns.delete

/-- Deleting the strings of all fields one after the other leaves no string. -/
theorem deleteAll (fs : List (Option StringHandle)) (howns : Owns h (names fs)) :
    Owns (fs.foldl StringHeap.deleteIf h) [] := by
  induction fs generalizing h with
  | nil => exact howns
  | cons f fs ih => exact ih howns.deleteIf

theorem touch {s : StringHandle} (howns : Owns h ids) (hs : s.id ∈ ids) : Owns (h.touch s) ids := by
  rwa [StringHeap.touch, if_pos (howns.live.mem_iff.mpr hs)]

theorem touchIf {f : Option StringHandle} (howns : Owns h ids)
    (hf : ∀ s, f = some s → s.id ∈ ids) : Owns (h.touchIf f) ids := by
  cases f with
  | none => exact howns
  | some s => exact howns.touch (hf s rfl)

end Owns

end StringHeap

open StringHeap

namespace EventHubAuthCBSStruct

/-- The string fields of a handle, in the order in which `EventHubAuthCBS_Destroy` deletes
them. -/
def fields (a : EventHubAuthCBSStruct) : List (Option StringHandle) :=
  [a.sasTokenHandle, a.encodedSASKeyValue, a.encodedURI, a.sharedAccessKeyName, a.extSASToken,
    a.extSASTokenURI, a.uri]

end EventHubAuthCBSStruct

namespace EventHubAuthCBS

open EventHubAuthCBSStruct Attempt

/-- The string fields that are not NULL hold distinct live strings, nothing was deleted twice or
read after its deletion, and `EventHubAuthCBS_Destroy` deletes every string exactly once. -/
structure SingleOwner (a : EventHubAuthCBSStruct) : Prop where
  distinct : (names a.fields).Nodup
  live : ∀ n ∈ names a.fields, n ∈ a.strings.live
  clean : a.strings.faults = []
  allDeleted : (destroy a).live = []
  deletedOnce : (destroy a).faults = []

/-- The strings alive are those of the fields, each in one field, and a handle with an external
token has not taken it over. -/
structure Owned (a : EventHubAuthCBSStruct) : Prop where
  owns : a.strings.Owns (names a.fields)
  notShared : a.credential = .sasTokenExt → a.sasTokenHandle = none

theorem Owned.singleOwner {a : EventHubAuthCBSStruct} (h : Owned a) : SingleOwner a := by
  have hdestroy : (destroy a).Owns [] := Owns.deleteAll a.fields h.owns
  exact ⟨h.owns.nodup, fun n hn ↦ h.owns.live.mem_iff.mpr hn, h.owns.clean,
    List.perm_nil.mp hdestroy.live, hdestroy.clean⟩

/-- A string in two fields is not owned alone. -/
theorem not_singleOwner_of_shared {a : EventHubAuthCBSStruct} {s : StringHandle}
    (htaken : a.sasTokenHandle = some s) (hext : a.extSASToken = some s) : ¬ SingleOwner a := by
  intro h
  have hdistinct := h.distinct
  rw [fields, htaken, names_some] at hdistinct
  exact (List.nodup_cons.mp hdistinct).1 (mem_names (by simp [hext]))

/-! ### Creation -/

/-- The fields that the clean-up of a failed `EventHubAuthCBS_Create` deletes are all that hold a
string then. -/
theorem createCleanUp_owns {a : EventHubAuthCBSStruct} (howns : a.strings.Owns (names a.fields))
    (htoken : a.sasTokenHandle = none) : (createCleanUp a).Owns [] := by
  refine Owns.deleteAll [a.encodedSASKeyValue, a.encodedURI, a.sharedAccessKeyName, a.uri,
    a.extSASToken, a.extSASTokenURI] ?_
  rw [fields, htoken, names_none] at howns
  have hmoved : ([a.extSASToken, a.extSASTokenURI] ++ [a.uri]).Perm
      ([a.uri] ++ [a.extSASToken, a.extSASTokenURI]) := List.perm_append_comm
  exact howns.perm (names_perm
    (hmoved.append_left [a.encodedSASKeyValue, a.encodedURI, a.sharedAccessKeyName]))

/-- What holds of the structure while `EventHubAuthCBS_Create` fills it. -/
def Filling (a : EventHubAuthCBSStruct) : Prop :=
  a.strings.Owns (names a.fields) ∧ a.sasTokenHandle = none

theorem concatURI_filling {a : EventHubAuthCBSStruct} (h : Filling a) (part : String) :
    Filling (a.concatURI part) := by
  have hnames : names (a.concatURI part).fields = names a.fields := by
    rcases huri : a.uri with _ | u <;>
      simp only [fields, concatURI, huri, names, List.filterMap, Option.map]
  exact ⟨hnames ▸ h.1, h.2⟩

/-- A new string for the empty field at position `n` is owned by that field. -/
theorem newString_owns {a b : EventHubAuthCBSStruct} {text : String} (n : Nat)
    (howns : a.strings.Owns (names a.fields)) (hempty : a.fields[n]? = some none)
    (hstrings : b.strings = (a.strings.create text).2)
    (hnew : b.fields = a.fields.set n (some (a.strings.create text).1)) :
    b.strings.Owns (names b.fields) := by
  rw [hstrings, hnew]
  exact (howns.create text).perm (names_set n hempty (some _))

theorem createExtStrings_filling (cfg : EventHubAuthCBSConfig) (env : AuthEnv) :
    Spec (fun a ↦ Filling a ∧ a.extSASToken = none ∧ a.extSASTokenURI = none)
      (createExtStrings cfg env) (fun _ ↦ Filling) Filling := by
  refine Spec.bind (Q := fun _ a ↦ Filling a ∧ a.extSASToken = none ∧ a.extSASTokenURI = none)
    (Spec.update fun a h ↦ h) fun _ ↦ ?_
  refine Spec.bind (Spec.keep fun _ h ↦ h.1) fun _ ↦ ?_
  refine Spec.bind (Q := fun _ a ↦ Filling a ∧ a.extSASTokenURI = none)
    (Spec.update ?_) fun _ ↦ ?_
  · rintro a ⟨⟨howns, htaken⟩, htoken, huri⟩
    refine ⟨⟨?_, htaken⟩, huri⟩
    exact newString_owns 4 howns (by rw [fields, htoken]; rfl) rfl rfl
  refine Spec.bind (Spec.keep fun _ h ↦ h.1) fun _ ↦ Spec.update ?_
  rintro a ⟨⟨howns, htaken⟩, huri⟩
  refine ⟨?_, htaken⟩
  exact newString_owns 5 howns (by rw [fields, huri]; rfl) rfl rfl

/-- What holds of the structure from its creation until its `uri` is complete. -/
def FillingURI (a : EventHubAuthCBSStruct) : Prop :=
  Filling a ∧ a.sharedAccessKeyName = none ∧ a.encodedURI = none ∧ a.encodedSASKeyValue = none

/-- One `STRING_concat` on the `uri`. -/
theorem concat_filling (b : Bool) (part : String) :
    Spec FillingURI (do check b; update fun a ↦ a.concatURI part) (fun _ ↦ FillingURI) Filling :=
  Spec.bind (Spec.keep fun _ h ↦ h.1) fun _ ↦ Spec.update fun _ h ↦
    ⟨concatURI_filling h.1 part, h.2⟩

theorem concat_bind_filling {b : Bool} {part : String} {m : Attempt EventHubAuthCBSStruct Unit}
    (hm : Spec FillingURI m (fun _ ↦ FillingURI) Filling) :
    Spec FillingURI (do check b; update fun a ↦ a.concatURI part; m) (fun _ ↦ FillingURI)
      Filling :=
  Spec.bind (Spec.keep fun _ h ↦ h.1) fun _ ↦
    Spec.bind (Spec.update (Q := fun _ ↦ FillingURI) fun _ h ↦
      ⟨concatURI_filling h.1 part, h.2⟩) fun _ ↦ hm

theorem createURI_filling (cfg : EventHubAuthCBSConfig) (env : AuthEnv) :
    Spec (fun a ↦ FillingURI a ∧ a.uri = none) (createURI cfg env) (fun _ ↦ FillingURI)
      Filling := by
  refine Spec.bind (Spec.keep fun _ h ↦ h.1.1) fun _ ↦ ?_
  refine Spec.bind (Q := fun _ ↦ FillingURI) (Spec.update ?_) fun _ ↦ ?_
  · rintro a ⟨⟨⟨howns, htaken⟩, hrest⟩, huri⟩
    exact ⟨⟨newString_owns 6 howns (by rw [fields, huri]; rfl) rfl rfl, htaken⟩, hrest⟩
  refine concat_bind_filling (concat_bind_filling (concat_bind_filling ?_))
  split_ifs
  · exact concat_bind_filling (concat_bind_filling (concat_bind_filling (concat_filling _ _)))
  · cases cfg.senderPublisherId with
    | none => exact Spec.pure fun _ h ↦ h
    | some publisher => exact concat_bind_filling (concat_filling _ _)

theorem createAutoStrings_filling (cfg : EventHubAuthCBSConfig) (env : AuthEnv) :
    Spec (fun a ↦ FillingURI a ∧ a.uri = none) (createAutoStrings cfg env) (fun _ ↦ Filling)
      Filling := by
  refine Spec.bind (createURI_filling cfg env) fun _ ↦ ?_
  refine Spec.bind (Spec.keep fun _ h ↦ h.1) fun _ ↦ ?_
  refine Spec.bind (Q := fun _ a ↦ Filling a ∧ a.encodedURI = none ∧ a.encodedSASKeyValue = none)
    (Spec.update ?_) fun _ ↦ ?_
  · rintro a ⟨⟨howns, htaken⟩, hname, hrest⟩
    exact ⟨⟨newString_owns 3 howns (by rw [fields, hname]; rfl) rfl rfl, htaken⟩, hrest⟩
  refine Spec.bind (Spec.keep fun _ h ↦ h.1) fun _ ↦ ?_
  refine Spec.bind (Q := fun _ a ↦ Filling a ∧ a.encodedSASKeyValue = none)
    (Spec.update ?_) fun _ ↦ ?_
  · rintro a ⟨⟨howns, htaken⟩, hencoded, hrest⟩
    exact ⟨⟨newString_owns 2 howns (by rw [fields, hencoded]; rfl) rfl rfl, htaken⟩, hrest⟩
  refine Spec.bind (Spec.keep fun _ h ↦ h.1) fun _ ↦ ?_
  refine Spec.bind (Spec.keep fun _ h ↦ h.1) fun _ ↦ ?_
  refine Spec.bind (Spec.keep fun _ h ↦ h.1) fun _ ↦ Spec.update ?_
  rintro a ⟨⟨howns, htaken⟩, hkey⟩
  exact ⟨newString_owns 1 howns (by rw [fields, hkey]; rfl) rfl rfl, htaken⟩

/-- Creation fills the structure string by string, and stops with the strings so far owned. -/
theorem createFields_filling (cfg : EventHubAuthCBSConfig) (env : AuthEnv) :
    Spec (fun a ↦ a = {}) (createFields cfg env) (fun _ ↦ Filling) Filling := by
  have hempty : Filling {} := ⟨⟨.refl _, List.nodup_nil, nofun, rfl⟩, rfl⟩
  have hstrings : Spec (fun a ↦ a = {}) (createStrings cfg env) (fun _ ↦ Filling) Filling := by
    unfold createStrings
    split_ifs
    · refine (createExtStrings_filling cfg env).mono ?_ (fun _ _ h ↦ h) fun _ h ↦ h
      rintro a rfl
      exact ⟨hempty, rfl, rfl⟩
    · refine (createAutoStrings_filling cfg env).mono ?_ (fun _ _ h ↦ h) fun _ h ↦ h
      rintro a rfl
      exact ⟨⟨hempty, rfl, rfl, rfl⟩, rfl⟩
  refine Spec.bind hstrings fun _ ↦ ?_
  refine Spec.bind (Spec.keep fun _ h ↦ h) fun _ ↦ ?_
  refine Spec.bind (Q := fun _ ↦ Filling) (Spec.update fun _ h ↦ h) fun _ ↦ ?_
  refine Spec.bind (Spec.keep fun _ h ↦ h) fun _ ↦ Spec.update fun a h ↦ ⟨?_, rfl⟩
  have hfields : (initialise cfg a).fields = a.fields := by
    rw [fields, fields, h.2]
    rfl
  rw [hfields]
  exact h.1

/-- A created handle owns its strings. -/
theorem create_owned {cfg : EventHubAuthCBSConfig} {session : Option Handle} {env : AuthEnv}
    {a : EventHubAuthCBSStruct} (h : create cfg session env = .ok a) : Owned a := by
  unfold create at h
  split_ifs at h
  rcases hfields : createFields cfg env {} with ⟨_ | _, b⟩
  · simp [hfields] at h
  · simp only [hfields, Except.ok.injEq] at h
    subst h
    have hfilled := (createFields_filling cfg env).of_eq_some rfl hfields
    exact ⟨hfilled.1, fun _ ↦ hfilled.2⟩

/-- A failed creation leaves no string. -/
theorem create_leaves_none {cfg : EventHubAuthCBSConfig} {session : Option Handle}
    {env : AuthEnv} {heap : StringHeap} (h : create cfg session env = .error heap) :
    heap.Owns [] := by
  have hnone : StringHeap.Owns {} [] := ⟨.refl _, List.nodup_nil, nofun, rfl⟩
  unfold create at h
  split_ifs at h
  · exact Except.error.inj h ▸ hnone
  · exact Except.error.inj h ▸ hnone
  rcases hfields : createFields cfg env {} with ⟨_ | _, b⟩
  · simp only [hfields, Except.error.injEq] at h
    subst h
    have hfilled := (createFields_filling cfg env).of_eq_none rfl hfields
    exact createCleanUp_owns hfilled.1 hfilled.2
  · simp [hfields] at h

/-! ### One call -/

/-- An authentication on a handle with an external token stops before it stores the token: at a
put in progress, at a failing clock or because the token has not expired. -/
def StopsBeforeToken (a : EventHubAuthCBSStruct) (env : AuthEnv) : Prop :=
  ∀ now, a.credential = .sasTokenExt → a.cbsStatus ≠ .inProgress → env.putNow = some now →
    now < a.extSASTokenExpTSInEpochSec

theorem putToken_fields (a : EventHubAuthCBSStruct) (now : UInt64)
    (token uri : Option StringHandle) (env : AuthEnv) :
    (putToken a now token uri env).handle.fields = a.fields.set 0 token ∧
      (putToken a now token uri env).handle.sasTokenHandle = token ∧
      (putToken a now token uri env).handle.credential = a.credential := by
  unfold putToken
  cases uri with
  | none => exact ⟨rfl, rfl, rfl⟩
  | some u =>
    cases token with
    | none => dsimp only; split_ifs <;> exact ⟨rfl, rfl, rfl⟩
    | some t => dsimp only; split_ifs <;> exact ⟨rfl, rfl, rfl⟩

/-- The tail that puts the token reads strings that are alive. -/
theorem putToken_owns {a : EventHubAuthCBSStruct} {ids : List Nat} {token uri : Option StringHandle}
    (howns : (a.strings.deleteIf a.sasTokenHandle).Owns ids)
    (htoken : ∀ t, token = some t → t.id ∈ ids) (huri : ∀ u, uri = some u → u.id ∈ ids)
    (now : UInt64) (env : AuthEnv) : (putToken a now token uri env).handle.strings.Owns ids := by
  unfold putToken
  cases uri with
  | none => exact howns
  | some u =>
    have hread := howns.touch (huri u rfl)
    cases token with
    | none => dsimp only; split_ifs <;> exact hread
    | some t =>
      have hboth := hread.touch (htoken t rfl)
      dsimp only
      split_ifs
      · exact hread
      · exact hboth
      · exact hboth
      · exact hboth

/-- A new token from a shared access key takes the place of the one before. -/
theorem putToken_auto_owned {a b : EventHubAuthCBSStruct} (h : Owned a) {text : String}
    (hstrings : b.strings = (a.strings.create text).2) (hfields : b.fields = a.fields)
    (hcred : b.credential = .sasTokenAuto) (now : UInt64) (env : AuthEnv) :
    Owned (putToken b now (some (a.strings.create text).1) a.uri env).handle := by
  have hfirst : a.fields[0]? = some a.sasTokenHandle := rfl
  have hcreated := (h.owns.create text).perm
    (names_set 0 hfirst (some (a.strings.create text).1))
  have hold : b.sasTokenHandle = a.sasTokenHandle := (List.cons.inj hfields).1
  obtain ⟨hnewFields, -, hsame⟩ := putToken_fields b now (some (a.strings.create text).1) a.uri env
  refine ⟨?_, fun hext ↦ ?_⟩
  · rw [hnewFields, hfields]
    refine putToken_owns (hstrings ▸ hold ▸ hcreated.deleteIf) (fun t ht ↦ ?_) (fun u hu ↦ ?_)
      now env
    · exact mem_names (by simp [fields, ht])
    · exact mem_names (by simp [fields, hu])
  · rw [hsame] at hext
    simp [hcred] at hext

theorem authenticate_owned {a : EventHubAuthCBSStruct} (h : Owned a) {env : AuthEnv}
    (hstops : StopsBeforeToken a env) : Owned (authenticate a env).handle := by
  by_cases hprogress : a.cbsStatus = .inProgress
  · rw [authenticate_inProgress hprogress]
    exact h
  cases hnow : env.putNow with
  | none =>
    rw [authenticate_noReading hprogress hnow]
    exact h
  | some now =>
    cases hcred : a.credential with
    | unknown =>
      rw [authenticate_unknown hprogress hcred hnow]
      exact h
    | sasTokenExt =>
      rw [authenticate_ext hprogress hcred hnow, if_pos (hstops now hcred hprogress hnow)]
      exact h
    | sasTokenAuto =>
      rw [authenticate_auto_eq hprogress hcred hnow]
      split_ifs
      · exact ⟨h.owns, h.notShared⟩
      · refine putToken_auto_owned h (b := { a with
          sasTokenCreateTimestamp := now
          strings := (createSASToken { a with sasTokenCreateTimestamp := now } now env).2 })
          ?_ rfl hcred now env
        rfl

/-- An authentication on an external token that does not stop shares the token. -/
theorem authenticate_shares {a : EventHubAuthCBSStruct} (h : WellFormed a) {env : AuthEnv}
    (hstops : ¬ StopsBeforeToken a env) : ¬ SingleOwner (authenticate a env).handle := by
  simp only [StopsBeforeToken, not_forall] at hstops
  obtain ⟨now, hcred, hidle, hnow, hexpired⟩ := hstops
  obtain ⟨token, htoken⟩ := Option.isSome_iff_exists.mp (h.token hcred)
  rw [authenticate_ext hidle hcred hnow, if_neg hexpired]
  refine not_singleOwner_of_shared (s := token) ?_ ?_
  · rw [(putToken_fields ..).2.1, htoken]
  · rw [(putToken_keeps ..).2.extSASToken, htoken]

variable (parse : String → Option (String × UInt64))

/-- The clean-up of a refresh that stops after it has made both of its strings. -/
theorem bothDeleted_owns {h : StringHeap} {ids : List Nat} {s u : StringHandle}
    (howns : h.Owns (u.id :: s.id :: ids)) : ((h.delete s).delete u).Owns ids :=
  (howns.perm (List.Perm.swap ..)).delete.delete

/-- Installing an external token replaces the one before, or leaves the strings as they were. -/
theorem installRefreshToken_owned {a : EventHubAuthCBSStruct} (h : Owned a) (text : String)
    (env : AuthEnv) : Owned (installRefreshToken parse a text env).2 := by
  have hkept : ∀ {heap : StringHeap}, heap.Owns (names a.fields) →
      Owned { a with strings := heap } := fun howns ↦ ⟨howns, h.notShared⟩
  have hfirst := h.owns.create text
  have hsecond := (hfirst.create "").touch (s := (a.strings.create text).1) (by simp)
  have hcompared := (hsecond.touchIf (f := a.extSASTokenURI) fun s hs ↦
    List.mem_cons_of_mem _ (List.mem_cons_of_mem _ (mem_names (by simp [fields, hs])))).touch
    (List.mem_cons_self ..)
  unfold installRefreshToken
  split_ifs
  · exact h
  · exact hkept hfirst.delete
  · exact hkept (bothDeleted_owns hsecond)
  · exact hkept (bothDeleted_owns hsecond)
  · cases parse text with
    | none => exact hkept (bothDeleted_owns hsecond)
    | some found =>
      dsimp only
      split_ifs
      · exact hkept (bothDeleted_owns hcompared)
      · refine ⟨?_, h.notShared⟩
        have hfield : a.fields[4]? = some a.extSASToken := rfl
        have hmoved := (names_set 4 hfield (some (a.strings.create text).1)).cons
          ((a.strings.create text).2.create "").1.id
        have hfront := names_perm (List.Perm.swap a.extSASToken
          (some ((a.strings.create text).2.create "").1)
          (a.fields.set 4 (some (a.strings.create text).1)))
        exact ((hcompared.perm (hmoved.trans hfront)).deleteIf).delete

theorem update_owned {a : EventHubAuthCBSStruct} (h : Owned a) (reading : Option UInt64) :
    Owned (updateEventHubAuthACBSStatus a reading).2 := by
  rw [updateEventHubAuthACBSStatus_eq]
  exact ⟨h.owns, h.notShared⟩

/-- A call ends with an authentication on a handle that owns its strings, or makes none and leaves
such a handle. -/
theorem respond_cases {a : EventHubAuthCBSStruct} (h : Owned a) (i : AuthInput) :
    (∃ b env, authenticateCall parse a i = some (b, env) ∧ Owned b ∧
      (respond parse a i).1 = (authenticate b env).handle) ∨
    authenticateCall parse a i = none ∧ Owned (respond parse a i).1 := by
  cases i with
  | authenticate env => exact Or.inl ⟨a, env, rfl, h, rfl⟩
  | getStatus env => exact Or.inr ⟨rfl, update_owned h env.statusNow⟩
  | onCBSPutTokenOperationComplete r env =>
    cases r <;> exact Or.inr ⟨rfl, h.owns, h.notShared⟩
  | refresh token env =>
    simp only [respond, refresh, authenticateCall]
    cases hcred : a.credential with
    | unknown => exact Or.inr ⟨rfl, h⟩
    | sasTokenExt =>
      cases token with
      | none => exact Or.inr ⟨rfl, h⟩
      | some text =>
        have hinstalled := installRefreshToken_owned parse h text env
        rcases hinstall : installRefreshToken parse a text env with ⟨_ | _, b⟩
        · rw [hinstall] at hinstalled
          exact Or.inr ⟨by simp [hinstall], by simpa [hinstall] using hinstalled⟩
        · rw [hinstall] at hinstalled
          exact Or.inl ⟨b, env, by simp [hinstall], hinstalled, by simp [hinstall]⟩
    | sasTokenAuto =>
      have hupdated := update_owned h env.statusNow
      generalize updateEventHubAuthACBSStatus a env.statusNow = u at hupdated ⊢
      obtain ⟨_ | _, b⟩ := u
      · exact Or.inr ⟨rfl, hupdated⟩
      · by_cases hrequired : b.cbsStatus = .refreshRequired
        · exact Or.inl ⟨b, env, by simp [hrequired], hupdated, by simp [hrequired]⟩
        · exact Or.inr ⟨by simp [hrequired], by simpa [hrequired] using hupdated⟩

variable {parse}

/-- A call whose authentication stops before it stores an external token keeps the ownership. -/
theorem respond_owned {s : AuthState} {i : AuthInput} (h : Owned s.handle)
    (hstops : OnAuthenticate parse StopsBeforeToken s i) : Owned (respond parse s.handle i).1 := by
  rcases respond_cases parse h i with ⟨b, env, hcall, hb, heq⟩ | ⟨-, howned⟩
  · rw [heq]
    exact authenticate_owned hb (hstops b env hcall)
  · exact howned

/-- A call whose authentication stores an external token leaves a string with two owners. -/
theorem respond_shares {s : AuthState} {i : AuthInput} (hwell : WellFormed s.handle)
    (h : Owned s.handle) (hstops : ¬ OnAuthenticate parse StopsBeforeToken s i) :
    ¬ SingleOwner (respond parse s.handle i).1 := by
  rcases respond_cases parse h i with ⟨b, env, hcall, -, heq⟩ | ⟨hcall, -⟩
  · rw [heq]
    refine authenticate_shares (authenticateCall_wellFormed hwell hcall).1 fun hb ↦ hstops ?_
    intro c e hce
    obtain ⟨rfl, rfl⟩ := Prod.mk.inj (Option.some.inj (hcall.symm.trans hce))
    exact hb
  · exact absurd (fun c e hce ↦ by simp [hcall] at hce) hstops

/-! ### Runs -/

/-- All along a run of a created handle every field owns its string alone, and destroying the
handle would delete every string once, exactly when each authentication on an external token
stops before it stores the token. -/
theorem run_singleOwner_iff {cfg : EventHubAuthCBSConfig} {session : Option Handle} {env : AuthEnv}
    {h : EventHubAuthCBSStruct} (hcreate : create cfg session env = .ok h) {is : List AuthInput}
    {t : AuthState} (hrun : (authMachine parse).run ⟨h, []⟩ is = some t) :
    (∀ js u, js <+: is → (authMachine parse).run ⟨h, []⟩ js = some u → SingleOwner u.handle) ↔
      (authMachine parse).Meets (OnAuthenticate parse StopsBeforeToken) ⟨h, []⟩ is :=
  Machine.forall_past_iff (P := fun s ↦ WellFormed s.handle ∧ Owned s.handle)
    (fun _ i _ hs hstops hstep ↦ step_eq hstep ▸
      ⟨respond_wellFormed hs.1 i, respond_owned hs.2 hstops⟩)
    (fun _ hs ↦ hs.2.singleOwner)
    (fun _ _ _ hs hstops hstep ↦ step_eq hstep ▸ respond_shares hs.1 hs.2 hstops)
    ⟨create_wellFormed hcreate, create_owned hcreate⟩ hrun

/-- No call on a handle is refused. -/
theorem run_total (parse : String → Option (String × UInt64)) (s : AuthState)
    (is : List AuthInput) :
    ∃ t, (authMachine parse).run s is = some t := by
  induction is generalizing s with
  | nil => exact ⟨s, rfl⟩
  | cons i is ih => exact ih _

/-- A handle with a shared access key authenticates, the put completes, and it authenticates
again. -/
theorem run_singleOwner_auto :
    ∃ h t, create autoConfig (some 0) {} = .ok h ∧
      (authMachine fun _ ↦ none).run ⟨h, []⟩ [.authenticate { putNow := some 2000 },
        .onCBSPutTokenOperationComplete .ok {}, .authenticate { putNow := some 3000 }] = some t ∧
      SingleOwner t.handle := by
  have hcreate : create autoConfig (some 0) {} = .ok _ := rfl
  obtain ⟨t, hrun⟩ := run_total (fun _ ↦ none) ⟨_, []⟩ _
  refine ⟨_, t, hcreate, hrun, ?_⟩
  refine (run_singleOwner_iff hcreate hrun).mpr ?_ _ t (List.prefix_refl _) hrun
  refine ⟨?_, fun _ hs ↦ Option.some.inj hs ▸ ⟨?_, fun _ ht ↦ Option.some.inj ht ▸ ⟨?_, fun _ _ ↦
    trivial⟩⟩⟩
  all_goals
    intro a env hcall now hcred
    simp [authenticateCall] at hcall
  all_goals
    obtain ⟨rfl, rfl⟩ := hcall
    exact absurd hcred (by decide)

/-- The expired external token is put: `extSASToken` and `sasTokenHandle` hold one string, and
`EventHubAuthCBS_Destroy` deletes it twice. When the put completes first, a second
authentication deletes the string and then reads it. -/
theorem run_deletes_twice :
    ∃ h t u, create extConfig (some 0) {} = .ok h ∧
      (authMachine fun _ ↦ none).run ⟨h, []⟩ [.authenticate { putNow := some 2000 }] = some t ∧
      t.handle.sasTokenHandle = t.handle.extSASToken ∧ t.handle.strings.faults = [] ∧
      (destroy t.handle).faults ≠ [] ∧ ¬ SingleOwner t.handle ∧
      (authMachine fun _ ↦ none).run t [.onCBSPutTokenOperationComplete .ok {},
        .authenticate { putNow := some 2000 }] = some u ∧
      u.handle.strings.faults ≠ [] ∧ ¬ SingleOwner u.handle := by
  refine ⟨_, _, _, rfl, rfl, rfl, rfl, by decide, fun h ↦ ?_, rfl, by decide, fun h ↦ ?_⟩
  · exact absurd h.deletedOnce (by decide)
  · exact absurd h.clean (by decide)

end EventHubAuthCBS

end EventHubs
