import EventHubs.Auth.Ownership

/-!
# What a failed authentication step leaves

`EventHubAuthCBS_Authenticate` writes the time of creation before it creates the token, and the
token, the time of the put and the operation before it puts; `EventHubAuthCBS_Refresh` installs an
external token before it authenticates. A step that fails after a write leaves the handle as it was
only when the write changed nothing.

The text of a string field counts as kept when the string, if it was alive, is still alive.

## Main definitions

* `KeepsText`, `LeftAlone` — what a failed step should leave.
* `EventHubAuthCBS.HarmlessAuthenticate`, `EventHubAuthCBS.HarmlessRefresh` — the exact conditions.
* `EventHubAuthCBS.Strung` — the invariant on strings behind them.

## Main results

* `EventHubAuthCBS.authenticate_leftAlone_iff`, `EventHubAuthCBS.refresh_leftAlone_iff`.
* `EventHubAuthCBS.run_failsAtomically_iff`.
-/

namespace EventHubs

namespace StringHeap

variable (h : StringHeap) (s : StringHandle)

@[simp]
theorem create_live (text : String) : (h.create text).2.live = h.next :: h.live := rfl

@[simp]
theorem create_id (text : String) : (h.create text).1.id = h.next := rfl

@[simp]
theorem create_next (text : String) : (h.create text).2.next = h.next + 1 := rfl

@[simp]
theorem delete_live : (h.delete s).live = h.live.erase s.id := by
  unfold delete
  split_ifs with hmem
  · rfl
  · exact (List.erase_of_not_mem hmem).symm

@[simp]
theorem delete_next : (h.delete s).next = h.next := by
  unfold delete
  split_ifs <;> rfl

@[simp]
theorem touch_live : (h.touch s).live = h.live := by
  unfold touch
  split_ifs <;> rfl

@[simp]
theorem touch_next : (h.touch s).next = h.next := by
  unfold touch
  split_ifs <;> rfl

@[simp]
theorem touchIf_live (f : Option StringHandle) : (h.touchIf f).live = h.live := by
  cases f with
  | none => rfl
  | some s => exact h.touch_live s

@[simp]
theorem touchIf_next (f : Option StringHandle) : (h.touchIf f).next = h.next := by
  cases f with
  | none => rfl
  | some s => exact h.touch_next s

@[simp]
theorem deleteIf_next (f : Option StringHandle) : (h.deleteIf f).next = h.next := by
  cases f with
  | none => rfl
  | some s => exact h.delete_next s

variable {h}

/-- In a list without repetition what is left after a deletion is what was alive and has another
identity. -/
theorem mem_deleteIf_live (hnodup : h.live.Nodup) {f : Option StringHandle} {n : Nat} :
    n ∈ (h.deleteIf f).live ↔ n ∈ h.live ∧ ∀ s, f = some s → n ≠ s.id := by
  cases f with
  | none => simp [deleteIf]
  | some s =>
    rw [deleteIf, delete_live, hnodup.mem_erase_iff, and_comm]
    simp

end StringHeap

open StringHeap

/-- A string field keeps its text: NULL stays NULL, a string has the same text, and if it was alive
the string that is there now is alive. -/
structure KeepsText (h : StringHeap) (f : Option StringHandle) (h' : StringHeap)
    (f' : Option StringHandle) : Prop where
  text : f'.map (·.text) = f.map (·.text)
  alive : ∀ s s', f = some s → f' = some s' → s.id ∈ h.live → s'.id ∈ h'.live

/-- The handle `a` is as it was, up to a status that the clock has moved. -/
structure LeftAlone (a b : EventHubAuthCBSStruct) : Prop where
  cbsStatus : ∃ reading,
    b.cbsStatus = (EventHubAuthCBS.updateEventHubAuthACBSStatus a reading).2.cbsStatus
  cbOperation : b.cbOperation = a.cbOperation
  sasTokenCreateTimestamp : b.sasTokenCreateTimestamp = a.sasTokenCreateTimestamp
  sasTokenPutTime : b.sasTokenPutTime = a.sasTokenPutTime
  extSASTokenExpTSInEpochSec : b.extSASTokenExpTSInEpochSec = a.extSASTokenExpTSInEpochSec
  sasTokenHandle : KeepsText a.strings a.sasTokenHandle b.strings b.sasTokenHandle
  extSASToken : KeepsText a.strings a.extSASToken b.strings b.extSASToken

namespace EventHubAuthCBS

open EventHubAuthCBSStruct

/-- What holds of the strings of a handle in every run: identities are below the next one and not
repeated, and a live `sasTokenHandle` is the external token or no external token is its string. -/
structure Strung (a : EventHubAuthCBSStruct) : Prop where
  nodup : a.strings.live.Nodup
  below : ∀ n ∈ a.strings.live, n < a.strings.next
  token : ∀ s, a.sasTokenHandle = some s → s.id < a.strings.next
  ext : ∀ s, a.extSASToken = some s → s.id < a.strings.next
  shared : a.credential = .sasTokenExt → ∀ s, a.sasTokenHandle = some s →
    s.id ∈ a.strings.live → a.extSASToken = some s
  apart : a.credential = .sasTokenAuto → ∀ s e, a.sasTokenHandle = some s →
    a.extSASToken = some e → s.id ≠ e.id

variable {a : EventHubAuthCBSStruct}

theorem Strung.of_strings (h : Strung a) {b : EventHubAuthCBSStruct}
    (hlive : b.strings.live = a.strings.live) (hnext : a.strings.next ≤ b.strings.next)
    (htoken : b.sasTokenHandle = a.sasTokenHandle) (hext : b.extSASToken = a.extSASToken)
    (hcredential : b.credential = a.credential) : Strung b where
  nodup := hlive ▸ h.nodup
  below n hn := Nat.lt_of_lt_of_le (h.below n (hlive ▸ hn)) hnext
  token s hs := Nat.lt_of_lt_of_le (h.token s (htoken ▸ hs)) hnext
  ext s hs := Nat.lt_of_lt_of_le (h.ext s (hext ▸ hs)) hnext
  shared hc s hs hlives := by
    rw [hext]
    exact h.shared (hcredential ▸ hc) s (htoken ▸ hs) (hlive ▸ hlives)
  apart hc s e hs he := h.apart (hcredential ▸ hc) s e (htoken ▸ hs) (hext ▸ he)

/-- A created handle. -/
theorem Owned.strung {a : EventHubAuthCBSStruct} (h : Owned a) (hnone : a.sasTokenHandle = none) :
    Strung a where
  nodup := h.owns.live.nodup_iff.mpr h.owns.nodup
  below n hn := h.owns.below n (h.owns.live.mem_iff.mp hn)
  token s hs := absurd (hnone.symm.trans hs) nofun
  ext s hs := h.owns.below s.id (mem_names (by simp [fields, hs]))
  shared _ s hs := absurd (hnone.symm.trans hs) nofun
  apart _ s _ hs := absurd (hnone.symm.trans hs) nofun

theorem create_strung {cfg : EventHubAuthCBSConfig} {session : Option Handle} {env : AuthEnv}
    (h : create cfg session env = .ok a) : Strung a := by
  refine (create_owned h).strung ?_
  unfold create at h
  split_ifs at h
  rcases hfields : createFields cfg env {} with ⟨_ | _, b⟩
  · simp [hfields] at h
  · simp only [hfields, Except.ok.injEq] at h
    obtain ⟨c, rfl, -⟩ := (createFields_spec cfg env).of_eq_some True.intro hfields
    exact h ▸ rfl

/-! ### The tail that puts the token -/

/-- The strings that `EventHubAuthCBS_Authenticate` reads for its put can be read. -/
def readsStrings (uri : Option StringHandle) (env : AuthEnv) : Bool :=
  uri.isSome && env.succeeds .cStrURI && env.succeeds .cStrSASToken

/-- What the tail that puts the token `t` leaves. -/
structure PutOutcome (a : EventHubAuthCBSStruct) (now : UInt64) (t : StringHandle)
    (uri : Option StringHandle) (env : AuthEnv)
    (x : Answer EventHubAuthCBSStruct EventHubAuthResult) : Prop where
  ok : x.value = .ok ↔ readsStrings uri env = true ∧ env.succeeds .cbsPutTokenAsync = true
  status : x.value ≠ .ok → x.handle.cbsStatus = a.cbsStatus
  token : x.handle.sasTokenHandle = some t
  live : x.handle.strings.live = (a.strings.deleteIf a.sasTokenHandle).live
  next : x.handle.strings.next = a.strings.next
  stamp : x.handle.sasTokenCreateTimestamp = a.sasTokenCreateTimestamp
  put : readsStrings uri env = true →
    x.handle.sasTokenPutTime = now ∧ x.handle.cbOperation = .put
  unput : readsStrings uri env = false →
    x.handle.sasTokenPutTime = a.sasTokenPutTime ∧ x.handle.cbOperation = a.cbOperation

theorem putToken_outcome (a : EventHubAuthCBSStruct) (now : UInt64) (t : StringHandle)
    (uri : Option StringHandle) (env : AuthEnv) :
    PutOutcome a now t uri env (putToken a now (some t) uri env) := by
  unfold putToken
  cases uri with
  | none =>
    exact ⟨by simp [readsStrings], fun _ => rfl, rfl, rfl, by simp, rfl, nofun,
      fun _ => ⟨rfl, rfl⟩⟩
  | some u =>
    cases hURI : env.succeeds .cStrURI with
    | false =>
      exact ⟨by simp [readsStrings, hURI], fun _ => rfl, rfl, by simp, by simp, rfl,
        by simp [readsStrings, hURI], fun _ => ⟨rfl, rfl⟩⟩
    | true =>
      cases hToken : env.succeeds .cStrSASToken with
      | false =>
        exact ⟨by simp [readsStrings, hToken], fun _ => rfl, rfl, by simp, by simp, rfl,
          by simp [readsStrings, hToken], fun _ => ⟨rfl, rfl⟩⟩
      | true =>
        have hreads : readsStrings (some u) env = true := by simp [readsStrings, hURI, hToken]
        cases hput : env.succeeds .cbsPutTokenAsync with
        | false =>
          exact ⟨by simp [hput], fun _ => rfl, rfl, by simp, by simp, rfl, fun _ => ⟨rfl, rfl⟩,
            by simp [hreads]⟩
        | true =>
          exact ⟨by simp [hreads, hput], fun hne => absurd rfl hne, rfl, by simp, by simp, rfl,
            fun _ => ⟨rfl, rfl⟩, by simp [hreads]⟩

/-! ### Strings in runs -/

/-- An external token is stored in `sasTokenHandle` as well. -/
theorem putToken_ext_strung (h : Strung a) (hcredential : a.credential = .sasTokenExt)
    {t : StringHandle} (ht : a.extSASToken = some t) (now : UInt64) (uri : Option StringHandle)
    (env : AuthEnv) : Strung (putToken a now (some t) uri env).handle := by
  have hout := putToken_outcome a now t uri env
  obtain ⟨hconfig, htoken⟩ := putToken_keeps a now (some t) uri env
  generalize putToken a now (some t) uri env = x at *
  have hmem : ∀ n ∈ x.handle.strings.live, n ∈ a.strings.live := fun n hn =>
    ((mem_deleteIf_live h.nodup).mp (hout.live ▸ hn)).1
  refine ⟨?_, fun n hn => ?_, fun s hs => ?_, fun s hs => ?_, fun _ s hs _ => ?_, fun hc => ?_⟩
  · rw [hout.live]
    cases a.sasTokenHandle with
    | none => exact h.nodup
    | some s =>
      rw [deleteIf, delete_live]
      exact h.nodup.erase _
  · rw [hout.next]
    exact h.below n (hmem n hn)
  · obtain rfl := Option.some.inj (hout.token.symm.trans hs)
    rw [hout.next]
    exact h.ext t ht
  · rw [hout.next]
    exact h.ext s (htoken.extSASToken ▸ hs)
  · obtain rfl := Option.some.inj (hout.token.symm.trans hs)
    rw [htoken.extSASToken]
    exact ht
  · rw [hconfig.credential, hcredential] at hc
    cases hc

/-- A new token takes the place of the one before. -/
theorem putToken_auto_strung (h : Strung a) (hcredential : a.credential = .sasTokenAuto)
    (now : UInt64) (text : String) (uri : Option StringHandle) (env : AuthEnv) :
    Strung (putToken { a with
      sasTokenCreateTimestamp := now
      strings := (a.strings.create text).2 } now
        (some (a.strings.create text).1) uri env).handle := by
  have hout := putToken_outcome { a with
    sasTokenCreateTimestamp := now
    strings := (a.strings.create text).2 } now (a.strings.create text).1 uri env
  obtain ⟨hconfig, htoken⟩ := putToken_keeps { a with
    sasTokenCreateTimestamp := now
    strings := (a.strings.create text).2 } now (some (a.strings.create text).1) uri env
  generalize putToken { a with
    sasTokenCreateTimestamp := now
    strings := (a.strings.create text).2 } now (some (a.strings.create text).1) uri env = x at *
  have hnodup : (a.strings.next :: a.strings.live).Nodup :=
    List.nodup_cons.mpr ⟨fun hmem => Nat.lt_irrefl _ (h.below _ hmem), h.nodup⟩
  have hmem : ∀ n ∈ x.handle.strings.live, n ∈ a.strings.next :: a.strings.live := fun n hn =>
    ((mem_deleteIf_live (h := (a.strings.create text).2) hnodup).mp (hout.live ▸ hn)).1
  have hnext : x.handle.strings.next = a.strings.next + 1 := hout.next
  have hnew : ∀ s, x.handle.sasTokenHandle = some s → s.id = a.strings.next := fun s hs => by
    obtain rfl := Option.some.inj (hout.token.symm.trans hs)
    rfl
  refine ⟨?_, fun n hn => ?_, fun s hs => ?_, fun s hs => ?_, fun hc => ?_, fun _ s e hs he => ?_⟩
  · rw [hout.live]
    cases a.sasTokenHandle with
    | none => exact hnodup
    | some s =>
      rw [deleteIf, delete_live]
      exact hnodup.erase _
  · rw [hnext]
    rcases List.mem_cons.mp (hmem n hn) with rfl | hn
    · exact Nat.lt_succ_self _
    · exact Nat.lt_succ_of_lt (h.below n hn)
  · rw [hnext, hnew s hs]
    exact Nat.lt_succ_self _
  · rw [hnext]
    exact Nat.lt_succ_of_lt (h.ext s (htoken.extSASToken ▸ hs))
  · rw [hconfig.credential] at hc
    exact absurd (hcredential.symm.trans hc) nofun
  · rw [hnew s hs]
    exact Nat.ne_of_gt (h.ext e (htoken.extSASToken ▸ he))

theorem authenticate_strung (hwell : WellFormed a) (h : Strung a) (env : AuthEnv) :
    Strung (authenticate a env).handle := by
  by_cases hprogress : a.cbsStatus = .inProgress
  · rw [authenticate_inProgress hprogress]
    exact h
  cases hnow : env.putNow with
  | none =>
    rw [authenticate_noReading hprogress hnow]
    exact h
  | some now =>
    cases hcred : a.credential with
    | unknown => exact absurd hcred hwell.known
    | sasTokenExt =>
      rw [authenticate_ext hprogress hcred hnow]
      obtain ⟨t, ht⟩ := Option.isSome_iff_exists.mp (hwell.token hcred)
      split_ifs
      · exact h
      · rw [ht]
        exact putToken_ext_strung h hcred ht now _ env
    | sasTokenAuto =>
      rw [authenticate_auto_eq hprogress hcred hnow]
      split_ifs
      · exact h.of_strings rfl (Nat.le_refl _) rfl rfl rfl
      · exact putToken_auto_strung h hcred now _ a.uri env

section Parse

variable {parse : String → Option (String × UInt64)}

/-- The calls with which `EventHubAuthCBS_Refresh` takes a token over succeed, and the token is for
the URI of the handle. -/
def Installs (parse : String → Option (String × UInt64)) (a : EventHubAuthCBSStruct) (text : String)
    (env : AuthEnv) (expiry : UInt64) : Prop :=
  env.succeeds .cloneRefreshToken = true ∧ env.succeeds .newRefreshTokenURI = true ∧
    env.succeeds .cStrRefreshToken = true ∧
    env.succeeds .getURIAndExpirationFromSASToken = true ∧
    ∃ uri, parse text = some (uri, expiry) ∧ a.extSASTokenURI.map (·.text) = some uri

/-- The outcomes of taking a token over, with the strings that are alive then. -/
inductive Installed (parse : String → Option (String × UInt64)) (a : EventHubAuthCBSStruct)
    (text : String) (env : AuthEnv) : Bool × EventHubAuthCBSStruct → Prop
  | refused {heap : StringHeap} (hno : ∀ expiry, ¬ Installs parse a text env expiry)
      (hlive : heap.live = a.strings.live) (hnext : a.strings.next ≤ heap.next) :
    Installed parse a text env (false, { a with strings := heap })
  | taken {heap : StringHeap} {t : StringHandle} {expiry : UInt64}
      (hinstalls : Installs parse a text env expiry) (htext : t.text = text)
      (hfresh : t.id = a.strings.next)
      (hlive : heap.live = t.id :: (a.strings.deleteIf a.extSASToken).live)
      (hnext : heap.next = a.strings.next + 2) :
    Installed parse a text env (true, { a with
      strings := heap
      extSASToken := some t
      extSASTokenExpTSInEpochSec := expiry })

theorem installRefreshToken_installed (h : Strung a) (text : String) (env : AuthEnv) :
    Installed parse a text env (installRefreshToken parse a text env) := by
  unfold installRefreshToken
  split_ifs with hclone hnew hcStr hget
  · exact .refused (fun expiry hi => by simp [hi.1] at hclone) rfl (Nat.le_refl _)
  · refine .refused (fun expiry hi => by simp [hi.2.1] at hnew) (by simp) (by simp)
  · refine .refused (fun expiry hi => by simp [hi.2.2.1] at hcStr) ?_ (by simp; omega)
    simp
  · refine .refused (fun expiry hi => by simp [hi.2.2.2.1] at hget) ?_ (by simp; omega)
    simp
  · cases hparse : parse text with
    | none =>
      refine .refused (fun expiry hi => ?_) ?_ (by simp; omega)
      · obtain ⟨-, -, -, -, uri, hfound, -⟩ := hi
        exact absurd (hparse.symm.trans hfound) nofun
      · simp
    | some found =>
      dsimp only
      split_ifs with huri
      · refine .refused (fun expiry hi => ?_) ?_ (by simp; omega)
        · obtain ⟨-, -, -, -, uri, hfound, hsame⟩ := hi
          rw [hparse] at hfound
          obtain ⟨rfl, rfl⟩ := Prod.mk.inj (Option.some.inj hfound)
          exact huri hsame
        · simp
      · refine .taken ?_ rfl rfl ?_ ?_
        · exact ⟨by simpa using hclone, by simpa using hnew, by simpa using hcStr,
            by simpa using hget, found.1, hparse, not_not.mp huri⟩
        · cases hext : a.extSASToken with
          | none => simp [deleteIf]
          | some e =>
            have hlt : e.id < a.strings.next := h.ext e hext
            have hfirst : a.strings.next + 1 ≠ e.id := by omega
            have hsecond : a.strings.next ≠ e.id := by omega
            simp [deleteIf, hfirst, hsecond]
        · simp

/-- Once a token was taken over, what `sasTokenHandle` holds is dead. -/
theorem not_live_of_taken (h : Strung a) (hcredential : a.credential = .sasTokenExt)
    {heap : StringHeap} {t s : StringHandle} (hfresh : t.id = a.strings.next)
    (hlive : heap.live = t.id :: (a.strings.deleteIf a.extSASToken).live)
    (hs : a.sasTokenHandle = some s) : s.id ∉ heap.live := by
  intro hmem
  rw [hlive] at hmem
  rcases List.mem_cons.mp hmem with hid | hmem
  · exact Nat.ne_of_lt (h.token s hs) (hid.trans hfresh)
  · obtain ⟨halive, hother⟩ := (mem_deleteIf_live h.nodup).mp hmem
    exact hother s (h.shared hcredential s hs halive) rfl

theorem installed_strung (h : Strung a) (hcredential : a.credential = .sasTokenExt) {text : String}
    {env : AuthEnv} {x : Bool × EventHubAuthCBSStruct} (hx : Installed parse a text env x) :
    Strung x.2 := by
  cases hx with
  | refused hno hlive hnext => exact h.of_strings hlive hnext rfl rfl rfl
  | @taken heap t expiry hinstalls htext hfresh hlive hnext =>
    have hold : ∀ n ∈ (a.strings.deleteIf a.extSASToken).live, n ∈ a.strings.live := fun n hn =>
      ((mem_deleteIf_live h.nodup).mp hn).1
    refine ⟨?_, fun n hn => ?_, fun s hs => ?_, fun s hs => ?_, fun _ s hs halive => ?_,
      fun hc => ?_⟩
    · change heap.live.Nodup
      rw [hlive, List.nodup_cons]
      refine ⟨fun hmem => Nat.ne_of_lt (h.below _ (hold _ hmem)) hfresh, ?_⟩
      cases a.extSASToken with
      | none => exact h.nodup
      | some e =>
        rw [deleteIf, delete_live]
        exact h.nodup.erase _
    · change n < heap.next
      replace hn : n ∈ heap.live := hn
      rw [hlive] at hn
      rw [hnext]
      rcases List.mem_cons.mp hn with rfl | hn
      · omega
      · have hlt := h.below n (hold n hn)
        omega
    · change s.id < heap.next
      have hlt := h.token s hs
      omega
    · change s.id < heap.next
      obtain rfl := Option.some.inj hs
      omega
    · exact absurd halive (not_live_of_taken h hcredential hfresh hlive hs)
    · exact absurd (hcredential.symm.trans hc) nofun

theorem refresh_strung (hwell : WellFormed a) (h : Strung a) (token : Option String)
    (env : AuthEnv) : Strung (refresh parse a token env).handle := by
  have hupdated : Strung (updateEventHubAuthACBSStatus a env.statusNow).2 := by
    rw [updateEventHubAuthACBSStatus_eq]
    exact h.of_strings rfl (Nat.le_refl _) rfl rfl rfl
  have hupdatedWell := hwell.of_same (updateEventHubAuthACBSStatus_sameConfig a env.statusNow)
    (updateEventHubAuthACBSStatus_sameToken a env.statusNow)
  unfold refresh
  cases hcred : a.credential with
  | unknown => exact h
  | sasTokenAuto =>
    dsimp only
    split_ifs
    · exact hupdated
    · exact hupdated
    · exact authenticate_strung hupdatedWell hupdated env
  | sasTokenExt =>
    cases token with
    | none => exact h
    | some text =>
      have hinstalled : Installed parse a text env _ := installRefreshToken_installed h text env
      have hstrung := installed_strung h hcred hinstalled
      dsimp only
      generalize installRefreshToken parse a text env = x at hinstalled hstrung
      cases hinstalled with
      | refused hno hlive hnext => exact hstrung
      | taken hinstalls htext hfresh hlive hnext =>
        refine authenticate_strung ?_ hstrung env
        exact hwell.of_newToken ⟨rfl, rfl, rfl, rfl, rfl⟩ rfl

theorem respond_strung (hwell : WellFormed a) (h : Strung a) (i : AuthInput) :
    Strung (respond parse a i).1 := by
  cases i with
  | authenticate env => exact authenticate_strung hwell h env
  | refresh token env => exact refresh_strung hwell h token env
  | getStatus env =>
    change Strung (updateEventHubAuthACBSStatus a env.statusNow).2
    rw [updateEventHubAuthACBSStatus_eq]
    exact h.of_strings rfl (Nat.le_refl _) rfl rfl rfl
  | onCBSPutTokenOperationComplete r env =>
    cases r <;> exact h.of_strings rfl (Nat.le_refl _) rfl rfl rfl

/-- In every run the strings of a handle are as the invariant says. -/
theorem run_strung {s t : AuthState} {is : List AuthInput}
    (hs : WellFormed s.handle ∧ Strung s.handle) (hrun : (authMachine parse).run s is = some t) :
    WellFormed t.handle ∧ Strung t.handle :=
  Machine.run_invariant (P := fun s => WellFormed s.handle ∧ Strung s.handle)
    (fun _ i _ h hstep => step_eq hstep ▸ ⟨respond_wellFormed h.1 i, respond_strung h.1 h.2 i⟩)
    hs hrun

end Parse

/-! ### Authentication -/

/-- The strings are read and the put is accepted. -/
def Puts (uri : Option StringHandle) (env : AuthEnv) : Prop :=
  readsStrings uri env = true ∧ env.succeeds .cbsPutTokenAsync = true

/-- A put at `now` is what the handle says already. -/
def PutThere (a : EventHubAuthCBSStruct) (now : UInt64) : Prop :=
  a.sasTokenPutTime = now ∧ a.cbOperation = .put

/-- A put that is there already changes neither its time nor the operation. -/
theorem PutOutcome.there {now : UInt64} {t : StringHandle} {uri : Option StringHandle}
    {env : AuthEnv} {x : Answer EventHubAuthCBSStruct EventHubAuthResult}
    (h : PutOutcome a now t uri env x) (hput : readsStrings uri env = true → PutThere a now) :
    x.handle.sasTokenPutTime = a.sasTokenPutTime ∧ x.handle.cbOperation = a.cbOperation := by
  cases hreads : readsStrings uri env with
  | false => exact h.unput hreads
  | true =>
    obtain ⟨htime, hop⟩ := h.put hreads
    exact ⟨htime.trans (hput hreads).1.symm, hop.trans (hput hreads).2.symm⟩

/-- The text of the token that `SASToken_Create` makes. -/
def newTokenText (a : EventHubAuthCBSStruct) (now : UInt64) (env : AuthEnv) : String :=
  env.sasTokenCreate (a.encodedSASKeyValue.map (·.text)) (a.encodedURI.map (·.text))
    (a.sharedAccessKeyName.map (·.text)) (now + a.sasTokenExpirationTimeInSec.toUInt64)

/-- An authentication that gets past the clock puts its token, or all that it writes before it
fails is there already. For an external token that takes a `sasTokenHandle` with the text of the
token that was freed before. -/
def HarmlessAuthenticate (a : EventHubAuthCBSStruct) (env : AuthEnv) : Prop :=
  ∀ now, a.cbsStatus ≠ .inProgress → env.putNow = some now →
    (a.credential = .sasTokenExt → a.extSASTokenExpTSInEpochSec ≤ now →
      Puts a.extSASTokenURI env ∨
      (∃ s, a.sasTokenHandle = some s ∧ s.id ∉ a.strings.live ∧
        a.extSASToken.map (·.text) = some s.text) ∧
      (readsStrings a.extSASTokenURI env = true → PutThere a now)) ∧
    (a.credential = .sasTokenAuto →
      env.succeeds .sasTokenCreate = true ∧ Puts a.uri env ∨
      a.sasTokenCreateTimestamp = now ∧
      (env.succeeds .sasTokenCreate = true →
        a.sasTokenHandle.map (·.text) = some (newTokenText a now env) ∧
        (readsStrings a.uri env = true → PutThere a now)))

theorem leftAlone_refl (a : EventHubAuthCBSStruct) : LeftAlone a a where
  cbsStatus := ⟨none, by rw [updateEventHubAuthACBSStatus_none]⟩
  cbOperation := rfl
  sasTokenCreateTimestamp := rfl
  sasTokenPutTime := rfl
  extSASTokenExpTSInEpochSec := rfl
  sasTokenHandle := ⟨rfl, fun s s' hs hs' halive => Option.some.inj (hs.symm.trans hs') ▸ halive⟩
  extSASToken := ⟨rfl, fun s s' hs hs' halive => Option.some.inj (hs.symm.trans hs') ▸ halive⟩

/-- The tail that puts an external token. -/
theorem putToken_ext_leftAlone_iff (h : Strung a) (hcredential : a.credential = .sasTokenExt)
    {t : StringHandle} (ht : a.extSASToken = some t) (now : UInt64) (uri : Option StringHandle)
    (env : AuthEnv) {x : Answer EventHubAuthCBSStruct EventHubAuthResult}
    (hx : x = putToken a now (some t) uri env) (hfails : ¬ Puts uri env) :
    LeftAlone a x.handle ↔
      (∃ s, a.sasTokenHandle = some s ∧ s.id ∉ a.strings.live ∧
        a.extSASToken.map (·.text) = some s.text) ∧
      (readsStrings uri env = true → PutThere a now) := by
  have hout := hx ▸ putToken_outcome a now t uri env
  have hkeeps := (hx ▸ putToken_keeps a now (some t) uri env :
    SameConfig a x.handle ∧ SameToken a x.handle)
  have hstatus := hout.status (mt hout.ok.mp hfails)
  constructor
  · intro hleft
    refine ⟨?_, fun hreads => ?_⟩
    · have htext := hleft.sasTokenHandle.text
      rw [hout.token] at htext
      obtain ⟨s, hs, hst⟩ := Option.map_eq_some_iff.mp htext.symm
      refine ⟨s, hs, fun halive => ?_, by rw [ht]; exact congrArg some hst.symm⟩
      -- a live `sasTokenHandle` is the external token, which was just deleted
      obtain rfl : t = s := Option.some.inj (ht.symm.trans (h.shared hcredential s hs halive))
      have hdead := hleft.sasTokenHandle.alive t t hs hout.token halive
      rw [hout.live, mem_deleteIf_live h.nodup] at hdead
      exact hdead.2 t hs rfl
    · obtain ⟨htime, hop⟩ := hout.put hreads
      exact ⟨hleft.sasTokenPutTime.symm.trans htime, hleft.cbOperation.symm.trans hop⟩
  · rintro ⟨⟨s, hs, hdead, htext⟩, hput⟩
    rw [ht] at htext
    have hsame : x.handle.sasTokenPutTime = a.sasTokenPutTime ∧
        x.handle.cbOperation = a.cbOperation := hout.there hput
    refine ⟨⟨none, ?_⟩, hsame.2, hout.stamp, hsame.1, hkeeps.2.expiry, ⟨?_, ?_⟩, ⟨?_, ?_⟩⟩
    · rw [updateEventHubAuthACBSStatus_none, hstatus]
    · rw [hout.token, hs]
      exact htext
    · intro s' _ hs' _ halive
      obtain rfl := Option.some.inj (hs.symm.trans hs')
      exact absurd halive hdead
    · rw [hkeeps.2.extSASToken]
    · intro e e' he he' halive
      obtain rfl : e = e' := Option.some.inj (he.symm.trans (hkeeps.2.extSASToken ▸ he'))
      rw [hout.live, mem_deleteIf_live h.nodup]
      refine ⟨halive, fun s' hs' hid => ?_⟩
      obtain rfl := Option.some.inj (hs.symm.trans hs')
      exact hdead (hid ▸ halive)

/-- The tail that puts a new token. -/
theorem putToken_auto_leftAlone_iff (h : Strung a) (hcredential : a.credential = .sasTokenAuto)
    (now : UInt64) (text : String) (uri : Option StringHandle) (env : AuthEnv)
    {x : Answer EventHubAuthCBSStruct EventHubAuthResult}
    (hx : x = putToken { a with
      sasTokenCreateTimestamp := now
      strings := (a.strings.create text).2 } now (some (a.strings.create text).1) uri env)
    (hfails : ¬ Puts uri env) :
    LeftAlone a x.handle ↔
      a.sasTokenCreateTimestamp = now ∧ a.sasTokenHandle.map (·.text) = some text ∧
      (readsStrings uri env = true → PutThere a now) := by
  have hout := hx ▸ putToken_outcome { a with
    sasTokenCreateTimestamp := now
    strings := (a.strings.create text).2 } now (a.strings.create text).1 uri env
  have htoken : x.handle.extSASToken = a.extSASToken ∧
      x.handle.extSASTokenExpTSInEpochSec = a.extSASTokenExpTSInEpochSec := by
    obtain ⟨-, hkeeps⟩ := putToken_keeps { a with
      sasTokenCreateTimestamp := now
      strings := (a.strings.create text).2 } now (some (a.strings.create text).1) uri env
    rw [hx]
    exact ⟨hkeeps.extSASToken, hkeeps.expiry⟩
  have hstatus : x.handle.cbsStatus = a.cbsStatus := hout.status (mt hout.ok.mp hfails)
  have hstamp : x.handle.sasTokenCreateTimestamp = now := hout.stamp
  have hlive : ∀ n, n ∈ x.handle.strings.live ↔
      n ∈ a.strings.next :: a.strings.live ∧ ∀ s, a.sasTokenHandle = some s → n ≠ s.id := by
    intro n
    rw [hout.live]
    refine mem_deleteIf_live (h := (a.strings.create text).2) ?_
    exact List.nodup_cons.mpr ⟨fun hmem => Nat.lt_irrefl _ (h.below _ hmem), h.nodup⟩
  constructor
  · intro hleft
    refine ⟨hleft.sasTokenCreateTimestamp.symm.trans hstamp, ?_, fun hreads => ?_⟩
    · have htext := hleft.sasTokenHandle.text
      rw [hout.token] at htext
      exact htext.symm
    · obtain ⟨htime, hop⟩ := hout.put hreads
      exact ⟨hleft.sasTokenPutTime.symm.trans htime, hleft.cbOperation.symm.trans hop⟩
  · rintro ⟨hstampThere, htext, hput⟩
    have hsame : x.handle.sasTokenPutTime = a.sasTokenPutTime ∧
        x.handle.cbOperation = a.cbOperation := hout.there hput
    refine ⟨⟨none, ?_⟩, hsame.2, hstamp.trans hstampThere.symm, hsame.1, htoken.2, ⟨?_, ?_⟩,
      ⟨by rw [htoken.1], ?_⟩⟩
    · rw [updateEventHubAuthACBSStatus_none, hstatus]
    · rw [hout.token, htext]
      rfl
    · intro s s' hs hs' _
      obtain rfl := Option.some.inj (hout.token.symm.trans hs')
      refine (hlive _).mpr ⟨List.mem_cons_self, fun s₀ hs₀ => ?_⟩
      exact Nat.ne_of_gt (h.token s₀ hs₀)
    · intro e e' he he' halive
      obtain rfl : e = e' := Option.some.inj (he.symm.trans (htoken.1 ▸ he'))
      refine (hlive _).mpr ⟨List.mem_cons_of_mem _ halive, fun s hs => ?_⟩
      exact (h.apart hcredential s e hs he).symm

/-- A property that is left alone when it fails, where it succeeds exactly under `P` and is
otherwise left alone exactly under `Q`. -/
theorem failure_iff {P Q L : Prop} {r : EventHubAuthResult} (hok : r = .ok ↔ P)
    (hleft : ¬ P → (L ↔ Q)) : (r ≠ .ok → L) ↔ P ∨ Q := by
  rw [ne_eq, hok]
  by_cases hP : P
  · simp [hP]
  · simp [hP, hleft hP]

theorem authenticate_leftAlone_iff (hwell : WellFormed a) (h : Strung a) (env : AuthEnv) :
    ((authenticate a env).value ≠ .ok → LeftAlone a (authenticate a env).handle) ↔
      HarmlessAuthenticate a env := by
  by_cases hprogress : a.cbsStatus = .inProgress
  · rw [authenticate_inProgress hprogress]
    exact iff_of_true (fun _ => leftAlone_refl a) fun _ hidle => absurd hprogress hidle
  cases hnow : env.putNow with
  | none =>
    rw [authenticate_noReading hprogress hnow]
    exact iff_of_true (fun _ => leftAlone_refl a) fun _ _ hsome =>
      absurd (hnow.symm.trans hsome) nofun
  | some now =>
    have hcondition : HarmlessAuthenticate a env ↔
        (a.credential = .sasTokenExt → a.extSASTokenExpTSInEpochSec ≤ now →
          Puts a.extSASTokenURI env ∨
          (∃ s, a.sasTokenHandle = some s ∧ s.id ∉ a.strings.live ∧
            a.extSASToken.map (·.text) = some s.text) ∧
          (readsStrings a.extSASTokenURI env = true → PutThere a now)) ∧
        (a.credential = .sasTokenAuto →
          env.succeeds .sasTokenCreate = true ∧ Puts a.uri env ∨
          a.sasTokenCreateTimestamp = now ∧
          (env.succeeds .sasTokenCreate = true →
            a.sasTokenHandle.map (·.text) = some (newTokenText a now env) ∧
            (readsStrings a.uri env = true → PutThere a now))) := by
      simp [HarmlessAuthenticate, hprogress, hnow]
    rw [hcondition]
    cases hcred : a.credential with
    | unknown => exact absurd hcred hwell.known
    | sasTokenExt =>
      simp only [reduceCtorEq, false_imp_iff, and_true, true_imp_iff]
      rw [authenticate_ext hprogress hcred hnow]
      obtain ⟨t, ht⟩ := Option.isSome_iff_exists.mp (hwell.token hcred)
      by_cases hearly : now < a.extSASTokenExpTSInEpochSec
      · rw [if_pos hearly]
        exact iff_of_true (fun _ => leftAlone_refl a) fun hle =>
          absurd hearly (UInt64.not_lt.mpr hle)
      · rw [if_neg hearly, imp_iff_right (UInt64.not_lt.mp hearly)]
        have hleft := fun hfails =>
          putToken_ext_leftAlone_iff h hcred ht now a.extSASTokenURI env rfl hfails
        rw [ht] at hleft ⊢
        exact failure_iff (putToken_outcome a now t a.extSASTokenURI env).ok hleft
    | sasTokenAuto =>
      simp only [reduceCtorEq, false_imp_iff, true_and, true_imp_iff]
      rw [authenticate_auto_eq hprogress hcred hnow]
      cases hcreate : env.succeeds .sasTokenCreate with
      | false =>
        have hstamp : LeftAlone a { a with sasTokenCreateTimestamp := now } ↔
            a.sasTokenCreateTimestamp = now := by
          refine ⟨fun hleft => hleft.sasTokenCreateTimestamp.symm, ?_⟩
          rintro rfl
          exact leftAlone_refl a
        simpa using hstamp
      | true =>
        have hleft := fun hfails =>
          putToken_auto_leftAlone_iff h hcred now (newTokenText a now env) a.uri env rfl hfails
        have hiff := failure_iff (putToken_outcome { a with
          sasTokenCreateTimestamp := now
          strings := (a.strings.create (newTokenText a now env)).2 } now
          (a.strings.create (newTokenText a now env)).1 a.uri env).ok hleft
        simp only [Bool.not_true, Bool.false_eq_true, if_false, true_and, true_imp_iff]
        exact hiff

/-! ### Refresh -/

/-- An authentication stops before it stores a token: at a put in progress, at a failing clock or
at the comparison with the expiry. -/
def StopsEarly (a : EventHubAuthCBSStruct) (env : AuthEnv) (expiry : UInt64) : Prop :=
  a.cbsStatus = .inProgress ∨ ∀ now, env.putNow = some now → now < expiry

/-- A refresh that takes the external token `text` over puts it, or all that it writes before it
fails is there already: the token, its expiry and, with a `sasTokenHandle` that is not freed by
this, what the authentication writes. -/
def HarmlessTaking (a : EventHubAuthCBSStruct) (text : String) (expiry : UInt64) (env : AuthEnv) :
    Prop :=
  ¬ StopsEarly a env expiry ∧ Puts a.extSASTokenURI env ∨
  a.extSASToken.map (·.text) = some text ∧ a.extSASTokenExpTSInEpochSec = expiry ∧
  (StopsEarly a env expiry → ∀ s, a.sasTokenHandle = some s → s.id ∉ a.strings.live) ∧
  (¬ StopsEarly a env expiry → a.sasTokenHandle.map (·.text) = some text ∧
    (readsStrings a.extSASTokenURI env = true →
      ∀ now, env.putNow = some now → PutThere a now))

/-- A refresh that takes an external token over does so harmlessly; a refresh from a shared access
key authenticates harmlessly. -/
def HarmlessRefresh (parse : String → Option (String × UInt64)) (a : EventHubAuthCBSStruct)
    (token : Option String) (env : AuthEnv) : Prop :=
  (a.credential = .sasTokenExt → ∀ text expiry, token = some text →
    Installs parse a text env expiry → HarmlessTaking a text expiry env) ∧
  (a.credential = .sasTokenAuto →
    (updateEventHubAuthACBSStatus a env.statusNow).1 = true →
    (updateEventHubAuthACBSStatus a env.statusNow).2.cbsStatus = .refreshRequired →
    HarmlessAuthenticate { a with cbsStatus := .refreshRequired } env)

section Parse

variable {parse : String → Option (String × UInt64)}

/-- A failed authentication leaves the status to the clock. -/
theorem authenticate_status {env : AuthEnv} (hfails : (authenticate a env).value ≠ .ok) :
    (authenticate a env).handle.cbsStatus = a.cbsStatus := by
  have hspec := authenticate_spec a env
  generalize authenticate a env = x at hspec hfails
  cases hspec with
  | refused hr hstatus hop => exact hstatus
  | @putMade p _ _ _ _ _ _ hstatus =>
    rw [hstatus]
    refine if_neg fun haccepted => ?_
    simp [haccepted] at hfails

/-- The clock may move the status before an authentication that fails. -/
theorem leftAlone_update_iff {reading : Option UInt64} {s : EventHubAuthStatus}
    (hs : (updateEventHubAuthACBSStatus a reading).2 = { a with cbsStatus := s })
    {b : EventHubAuthCBSStruct} (hb : b.cbsStatus = s) :
    LeftAlone { a with cbsStatus := s } b ↔ LeftAlone a b := by
  constructor
  · intro h
    exact { h with cbsStatus := ⟨reading, by rw [hs]; exact hb⟩ }
  · intro h
    exact { h with cbsStatus := ⟨none, by rw [updateEventHubAuthACBSStatus_none]; exact hb⟩ }

theorem refresh_auto_leftAlone_iff (hwell : WellFormed a) (h : Strung a)
    (hcred : a.credential = .sasTokenAuto) (token : Option String) (env : AuthEnv) :
    ((refresh parse a token env).value ≠ .ok → LeftAlone a (refresh parse a token env).handle) ↔
      ((updateEventHubAuthACBSStatus a env.statusNow).1 = true →
        (updateEventHubAuthACBSStatus a env.statusNow).2.cbsStatus = .refreshRequired →
        HarmlessAuthenticate { a with cbsStatus := .refreshRequired } env) := by
  have hmoved := updateEventHubAuthACBSStatus_eq a env.statusNow
  have hleft : LeftAlone a (updateEventHubAuthACBSStatus a env.statusNow).2 := by
    refine (leftAlone_update_iff hmoved rfl).mp ?_
    rw [← hmoved]
    exact leftAlone_refl _
  rcases hupdate : updateEventHubAuthACBSStatus a env.statusNow with ⟨read, b⟩
  rw [hupdate] at hmoved hleft
  replace hmoved : b = { a with cbsStatus := b.cbsStatus } := hmoved
  have hrefresh : refresh parse a token env =
      if !read then ⟨.error, b, []⟩
      else if b.cbsStatus ≠ .refreshRequired then ⟨.notPermited, b, []⟩
      else authenticate b env := by
    simp only [refresh, hcred, hupdate]
  rw [hrefresh]
  cases read with
  | false => exact iff_of_true (fun _ => hleft) (by simp)
  | true =>
    by_cases hrequired : b.cbsStatus = .refreshRequired
    · rw [hrequired] at hmoved
      subst hmoved
      simp only [Bool.not_true, Bool.false_eq_true, if_false, ne_eq, not_true, true_imp_iff]
      rw [← authenticate_leftAlone_iff
        (hwell.of_same (b := { a with cbsStatus := .refreshRequired }) ⟨rfl, rfl, rfl, rfl, rfl⟩
          ⟨rfl, rfl⟩) (h.of_strings rfl (Nat.le_refl _) rfl rfl rfl) env]
      refine forall_congr' fun hfails => ?_
      have hmoved : (updateEventHubAuthACBSStatus a env.statusNow).2 =
          { a with cbsStatus := .refreshRequired } := congrArg Prod.snd hupdate
      exact (leftAlone_update_iff hmoved (authenticate_status hfails)).symm
    · simp only [Bool.not_true, Bool.false_eq_true, if_false, ne_eq, if_pos hrequired]
      exact iff_of_true (fun _ => hleft) fun _ hr => absurd hr hrequired

/-- Taking a token over and then stopping. -/
theorem leftAlone_of_taken_iff (h : Strung a) (hcredential : a.credential = .sasTokenExt)
    {heap : StringHeap} {t : StringHandle} (expiry : UInt64) (hfresh : t.id = a.strings.next)
    (hlive : heap.live = t.id :: (a.strings.deleteIf a.extSASToken).live) :
    LeftAlone a { a with
      strings := heap
      extSASToken := some t
      extSASTokenExpTSInEpochSec := expiry } ↔
    a.extSASToken.map (·.text) = some t.text ∧ a.extSASTokenExpTSInEpochSec = expiry ∧
      ∀ s, a.sasTokenHandle = some s → s.id ∉ a.strings.live := by
  constructor
  · intro hleft
    refine ⟨hleft.extSASToken.text.symm, hleft.extSASTokenExpTSInEpochSec.symm, ?_⟩
    intro s hs halive
    exact not_live_of_taken h hcredential hfresh hlive hs
      (hleft.sasTokenHandle.alive s s hs hs halive)
  · rintro ⟨htext, hexpiry, hdead⟩
    refine ⟨⟨none, by rw [updateEventHubAuthACBSStatus_none]⟩, rfl, rfl, rfl, hexpiry.symm,
      ⟨rfl, fun s _ hs _ halive => absurd halive (hdead s hs)⟩, ⟨htext.symm, ?_⟩⟩
    intro e e' _ he' _
    obtain rfl := Option.some.inj he'
    change t.id ∈ heap.live
    rw [hlive]
    exact List.mem_cons_self

/-- Taking a token over and failing to put it. -/
theorem putToken_taken_leftAlone_iff (h : Strung a) (hcredential : a.credential = .sasTokenExt)
    {heap : StringHeap} {t : StringHandle} (expiry : UInt64) (hfresh : t.id = a.strings.next)
    (hlive : heap.live = t.id :: (a.strings.deleteIf a.extSASToken).live)
    (now : UInt64) (env : AuthEnv) {x : Answer EventHubAuthCBSStruct EventHubAuthResult}
    (hx : x = putToken { a with
      strings := heap
      extSASToken := some t
      extSASTokenExpTSInEpochSec := expiry } now (some t) a.extSASTokenURI env)
    (hfails : ¬ Puts a.extSASTokenURI env) :
    LeftAlone a x.handle ↔
      a.extSASToken.map (·.text) = some t.text ∧ a.extSASTokenExpTSInEpochSec = expiry ∧
      a.sasTokenHandle.map (·.text) = some t.text ∧
      (readsStrings a.extSASTokenURI env = true → PutThere a now) := by
  have hout := hx ▸ putToken_outcome { a with
    strings := heap
    extSASToken := some t
    extSASTokenExpTSInEpochSec := expiry } now t a.extSASTokenURI env
  obtain ⟨hext, hexp⟩ : x.handle.extSASToken = some t ∧
      x.handle.extSASTokenExpTSInEpochSec = expiry := by
    obtain ⟨-, hkeeps⟩ := putToken_keeps { a with
      strings := heap
      extSASToken := some t
      extSASTokenExpTSInEpochSec := expiry } now (some t) a.extSASTokenURI env
    rw [hx]
    exact ⟨hkeeps.extSASToken, hkeeps.expiry⟩
  have hstatus : x.handle.cbsStatus = a.cbsStatus := hout.status (mt hout.ok.mp hfails)
  -- the `sasTokenHandle` that the put deletes is dead, so the new token stays alive
  have halive : t.id ∈ x.handle.strings.live := by
    rw [hout.live]
    have hmem : t.id ∈ heap.live := hlive ▸ List.mem_cons_self
    change t.id ∈ (heap.deleteIf a.sasTokenHandle).live
    cases hs : a.sasTokenHandle with
    | none => exact hmem
    | some s =>
      rw [deleteIf, delete_live, List.erase_of_not_mem]
      · exact hmem
      · exact not_live_of_taken h hcredential hfresh hlive hs
  constructor
  · intro hleft
    refine ⟨?_, hleft.extSASTokenExpTSInEpochSec.symm.trans hexp, ?_, fun hreads => ?_⟩
    · have htext := hleft.extSASToken.text
      rw [hext] at htext
      exact htext.symm
    · have htext := hleft.sasTokenHandle.text
      rw [hout.token] at htext
      exact htext.symm
    · obtain ⟨htime, hop⟩ := hout.put hreads
      exact ⟨hleft.sasTokenPutTime.symm.trans htime, hleft.cbOperation.symm.trans hop⟩
  · rintro ⟨htext, hexpiry, htoken, hput⟩
    have hsame : x.handle.sasTokenPutTime = a.sasTokenPutTime ∧
        x.handle.cbOperation = a.cbOperation := hout.there hput
    refine ⟨⟨none, ?_⟩, hsame.2, hout.stamp, hsame.1, hexp.trans hexpiry.symm, ⟨?_, ?_⟩,
      ⟨?_, ?_⟩⟩
    · rw [updateEventHubAuthACBSStatus_none, hstatus]
    · rw [hout.token, htoken]
      rfl
    · intro s s' _ hs' _
      obtain rfl := Option.some.inj (hout.token.symm.trans hs')
      exact halive
    · rw [hext, htext]
      rfl
    · intro e e' _ he' _
      obtain rfl := Option.some.inj (hext.symm.trans he')
      exact halive

/-- Taking a token over and authenticating with it. -/
theorem authenticate_taken_leftAlone_iff (h : Strung a) (hcredential : a.credential = .sasTokenExt)
    {heap : StringHeap} {t : StringHandle} (expiry : UInt64) (hfresh : t.id = a.strings.next)
    (hlive : heap.live = t.id :: (a.strings.deleteIf a.extSASToken).live) (env : AuthEnv)
    {x : Answer EventHubAuthCBSStruct EventHubAuthResult}
    (hx : x = authenticate { a with
      strings := heap
      extSASToken := some t
      extSASTokenExpTSInEpochSec := expiry } env) :
    (x.value ≠ .ok → LeftAlone a x.handle) ↔ HarmlessTaking a t.text expiry env := by
  have htaken := leftAlone_of_taken_iff h hcredential expiry hfresh hlive
  have hput := fun now =>
    putToken_taken_leftAlone_iff (x := x) h hcredential expiry hfresh hlive now env
  have hok := fun now => (putToken_outcome { a with
    strings := heap
    extSASToken := some t
    extSASTokenExpTSInEpochSec := expiry } now t a.extSASTokenURI env).ok
  generalize hb : ({ a with
    strings := heap
    extSASToken := some t
    extSASTokenExpTSInEpochSec := expiry } : EventHubAuthCBSStruct) = b at *
  have hstatus : b.cbsStatus = a.cbsStatus := hb ▸ rfl
  have hcred : b.credential = .sasTokenExt := hb ▸ hcredential
  have hext : b.extSASToken = some t := hb ▸ rfl
  have huri : b.extSASTokenURI = a.extSASTokenURI := hb ▸ rfl
  have hexp : b.extSASTokenExpTSInEpochSec = expiry := hb ▸ rfl
  -- an authentication that stops leaves what was taken over
  have hstop : StopsEarly a env expiry → x.value ≠ .ok → x.handle = b →
      ((x.value ≠ .ok → LeftAlone a x.handle) ↔ HarmlessTaking a t.text expiry env) := by
    intro hearly hfails hhandle
    rw [hhandle, imp_iff_right hfails, htaken]
    simp [HarmlessTaking, hearly]
  by_cases hprogress : b.cbsStatus = .inProgress
  · rw [authenticate_inProgress hprogress] at hx
    exact hstop (.inl (hstatus ▸ hprogress)) (hx ▸ nofun) (hx ▸ rfl)
  cases hnow : env.putNow with
  | none =>
    rw [authenticate_noReading hprogress hnow] at hx
    exact hstop (.inr (by simp [hnow])) (hx ▸ nofun) (hx ▸ rfl)
  | some now =>
    rw [authenticate_ext hprogress hcred hnow, hext, huri, hexp] at hx
    by_cases hlt : now < expiry
    · rw [if_pos hlt] at hx
      exact hstop (.inr (by simp [hnow, hlt])) (hx ▸ nofun) (hx ▸ rfl)
    · rw [if_neg hlt] at hx
      have hreaches : ¬ StopsEarly a env expiry := by
        rintro (hin | hall)
        · exact hprogress (hstatus.trans hin)
        · exact hlt (hall now hnow)
      rw [failure_iff (hx ▸ hok now) (hput now hx)]
      simp [HarmlessTaking, hreaches, hnow, Puts]

theorem refresh_ext_leftAlone_iff (h : Strung a) (hcred : a.credential = .sasTokenExt)
    (token : Option String) (env : AuthEnv) :
    ((refresh parse a token env).value ≠ .ok → LeftAlone a (refresh parse a token env).handle) ↔
      ∀ text expiry, token = some text → Installs parse a text env expiry →
        HarmlessTaking a text expiry env := by
  cases token with
  | none =>
    have hrefresh : refresh parse a none env = ⟨.invalidArg, a, []⟩ := by simp only [refresh, hcred]
    rw [hrefresh]
    exact iff_of_true (fun _ => leftAlone_refl a) (by simp)
  | some text =>
    have hinstalled : Installed parse a text env _ := installRefreshToken_installed h text env
    rcases hinstall : installRefreshToken parse a text env with ⟨taken, b⟩
    have hrefresh : refresh parse a (some text) env =
        if taken then authenticate b env else ⟨.error, b, []⟩ := by
      cases taken <;> simp [refresh, hcred, hinstall]
    rw [hrefresh]
    rw [hinstall] at hinstalled
    cases hinstalled with
    | @refused heap hno hlive hnext =>
      refine iff_of_true (fun _ => ?_) fun t expiry ht hinstalls => ?_
      · refine ⟨⟨none, by rw [updateEventHubAuthACBSStatus_none]; rfl⟩, rfl, rfl, rfl, rfl,
          ⟨rfl, fun s s' hs hs' halive => ?_⟩, ⟨rfl, fun s s' hs hs' halive => ?_⟩⟩
        all_goals
          obtain rfl := Option.some.inj (hs.symm.trans hs')
          exact (hlive ▸ halive : s.id ∈ heap.live)
      · exact absurd (Option.some.inj ht ▸ hinstalls) (hno expiry)
    | @taken heap t expiry hinstalls htext hfresh hlive hnext =>
      subst htext
      rw [if_pos rfl, authenticate_taken_leftAlone_iff h hcred expiry hfresh hlive env rfl]
      constructor
      · rintro hharmless _ expiry' ⟨⟩ ⟨-, -, -, -, uri', hparse', -⟩
        obtain ⟨-, -, -, -, uri, hparse, -⟩ := hinstalls
        obtain ⟨-, rfl⟩ := Prod.mk.inj (Option.some.inj (hparse'.symm.trans hparse))
        exact hharmless
      · exact fun hharmless => hharmless _ _ rfl hinstalls

theorem refresh_leftAlone_iff (hwell : WellFormed a) (h : Strung a) (token : Option String)
    (env : AuthEnv) :
    ((refresh parse a token env).value ≠ .ok → LeftAlone a (refresh parse a token env).handle) ↔
      HarmlessRefresh parse a token env := by
  cases hcred : a.credential with
  | unknown => exact absurd hcred hwell.known
  | sasTokenExt =>
    rw [refresh_ext_leftAlone_iff h hcred]
    simp [HarmlessRefresh, hcred]
  | sasTokenAuto =>
    rw [refresh_auto_leftAlone_iff hwell h hcred]
    simp [HarmlessRefresh, hcred]

/-- On a handle that any run of a created one has reached, a failed call leaves the handle as it
was exactly when the call is harmless. -/
theorem run_failsAtomically_iff {cfg : EventHubAuthCBSConfig} {session : Option Handle}
    {env : AuthEnv} {h : EventHubAuthCBSStruct} (hcreate : create cfg session env = .ok h)
    {is : List AuthInput} {t : AuthState} (hrun : (authMachine parse).run ⟨h, []⟩ is = some t)
    (token : Option String) (callEnv : AuthEnv) :
    (((authenticate t.handle callEnv).value ≠ .ok →
        LeftAlone t.handle (authenticate t.handle callEnv).handle) ↔
      HarmlessAuthenticate t.handle callEnv) ∧
    (((refresh parse t.handle token callEnv).value ≠ .ok →
        LeftAlone t.handle (refresh parse t.handle token callEnv).handle) ↔
      HarmlessRefresh parse t.handle token callEnv) := by
  obtain ⟨hwell, hstrung⟩ := run_strung ⟨create_wellFormed hcreate, create_strung hcreate⟩ hrun
  exact ⟨authenticate_leftAlone_iff hwell hstrung callEnv,
    refresh_leftAlone_iff hwell hstrung token callEnv⟩

/-- A refresh ten seconds after the put is not permitted and changes nothing. -/
theorem run_failsAtomically_early :
    ∃ h t, create autoConfig (some 0) {} = .ok h ∧
      (authMachine fun _ => none).run ⟨h, []⟩ [.authenticate { putNow := some 1000 },
        .onCBSPutTokenOperationComplete .ok {}] = some t ∧
      (refresh (fun _ => none) t.handle none { statusNow := some 1010 }).value = .notPermited ∧
      LeftAlone t.handle
        (refresh (fun _ => none) t.handle none { statusNow := some 1010 }).handle := by
  have hcreate : create autoConfig (some 0) {} = .ok _ := rfl
  refine ⟨_, ⟨_, _⟩, hcreate, rfl, by decide, ?_⟩
  refine ((@run_failsAtomically_iff (fun _ => none) _ _ _ _ hcreate [.authenticate
    { putNow := some 1000 }, .onCBSPutTokenOperationComplete .ok {}] ⟨_, _⟩ rfl none _).2.mpr ?_)
    (by decide)
  exact ⟨fun hext => absurd hext (by decide), fun _ _ hrequired => absurd hrequired (by decide)⟩

/-- The token created at second 1000 is due at second 3900, and `SASToken_Create` fails: the token
in force now counts as created at second 3900, and is not reported as expired at second 4600. On a
handle with an external token a refresh at second 2000 with a token for second 5000 is refused, and
the handle keeps that token and its expiry. -/
theorem run_failsHalfway :
    ∃ h t u v, create autoConfig (some 0) {} = .ok h ∧
      (authMachine fun _ => none).run ⟨h, []⟩ [.authenticate { putNow := some 1000 },
        .onCBSPutTokenOperationComplete .ok {}] = some t ∧
      refresh (fun _ => none) t.handle none
        { statusNow := some 3900
          putNow := some 3900
          succeeds := fun c => decide (c ≠ .sasTokenCreate) } = u ∧
      u.value = .error ∧ t.handle.sasTokenCreateTimestamp = 1000 ∧
      u.handle.sasTokenCreateTimestamp = 3900 ∧ ¬ LeftAlone t.handle u.handle ∧
      (getStatus t.handle { statusNow := some 4600 }).value.2 = .expired ∧
      (getStatus u.handle { statusNow := some 4600 }).value.2 = .refreshRequired ∧
      ∃ e, create extConfig (some 0) {} = .ok e ∧
        refresh (fun _ => some ("uri", 5000)) e (some "new") { putNow := some 2000 } = v ∧
        v.value = .error ∧ e.extSASTokenExpTSInEpochSec = 1000 ∧
        v.handle.extSASTokenExpTSInEpochSec = 5000 ∧ ¬ LeftAlone e v.handle := by
  refine ⟨_, _, _, _, rfl, rfl, rfl, by decide, by decide, by decide, fun h => ?_, by decide,
    by decide, _, rfl, rfl, by decide, by decide, by decide, fun h => ?_⟩
  · exact absurd h.sasTokenCreateTimestamp (by decide)
  · exact absurd h.extSASTokenExpTSInEpochSec (by decide)

end Parse

end EventHubAuthCBS

end EventHubs
