import EventHubs.Auth.Session

/-!
# The URI of an auth handle

An auth handle for an external token keeps the URI that it was created with, whatever tokens it is
refreshed with, and `EventHubAuthCBS_Refresh` compares the URI of a refresh token with this one.

## Main definitions

* `TokenSession.Names` — the URI of the present handle.

## Main results

* `EventHubAuthCBS.installRefreshToken_iff` — when a refresh token is taken.
* `TokenSession.Steps.names` — the URI stays.
-/

namespace EventHubs

namespace EventHubAuthCBS

open EventHubAuthCBSStruct

variable (parse : String → Option (String × UInt64)) {a : EventHubAuthCBSStruct} {env : AuthEnv}

/-- When no call fails, a refresh token is taken if its URI is that of the handle. -/
theorem installRefreshToken_iff (hall : ∀ call, env.succeeds call = true) (token : String) :
    (installRefreshToken parse a token env).1 = true ↔
      ∃ uri expiry, parse token = some (uri, expiry) ∧
        a.extSASTokenURI.map (·.text) = some uri := by
  simp only [installRefreshToken, hall, Bool.not_true, Bool.false_eq_true, if_false]
  cases parse token with
  | none => simp
  | some found =>
    obtain ⟨uri, expiry⟩ := found
    simp only [Option.some.injEq, Prod.mk.injEq]
    by_cases huri : a.extSASTokenURI.map (·.text) = some uri
    · simp only [if_neg (not_not.mpr huri)]
      exact iff_of_true trivial ⟨uri, expiry, ⟨rfl, rfl⟩, huri⟩
    · simp only [if_pos huri]
      refine iff_of_false Bool.false_ne_true ?_
      rintro ⟨_, _, ⟨rfl, rfl⟩, h⟩
      exact huri h

theorem getStatus_sameConfig (a : EventHubAuthCBSStruct) (env : AuthEnv) :
    SameConfig a (getStatus a env).handle :=
  updateEventHubAuthACBSStatus_sameConfig a env.statusNow

theorem refresh_sameConfig (a : EventHubAuthCBSStruct) (token : Option String) (env : AuthEnv) :
    SameConfig a (refresh parse a token env).handle := by
  have hspec := refresh_spec parse a token env
  generalize refresh parse a token env = x at hspec
  cases hspec with
  | refused _ hconfig => exact hconfig
  | external _ _ _ hconfig _ _ _ heq =>
    rw [heq]
    exact hconfig.trans (authenticate_keeps _ env).1
  | automatic _ _ heq =>
    rw [heq]
    exact (updateEventHubAuthACBSStatus_sameConfig a env.statusNow).trans
      (authenticate_keeps _ env).1

theorem putComplete_sameConfig (a : EventHubAuthCBSStruct) (r : CBSOperationResult)
    (env : AuthEnv) : SameConfig a (onCBSPutTokenOperationComplete a r env).handle := by
  obtain ⟨b, heq, -, hconfig, -⟩ := TokenSession.putComplete_answer a r env
  rw [heq]
  exact hconfig

end EventHubAuthCBS

namespace TokenSession

open EventHubAuthCBS EventHubAuthCBSStruct

/-- The configuration is for an external token with this URI. -/
def FitsURI (uri : Option String) (cfg : EventHubAuthCBSConfig) : Prop :=
  cfg.credential = .sasTokenExt ∧ cfg.extSASTokenURI = uri

/-- The handle is for an external token with this URI. -/
def Names (uri : Option String) (s : TokenSession) : Prop :=
  ∀ a, s.handle = some a → a.credential = .sasTokenExt ∧ a.extSASTokenURI.map (·.text) = uri

variable {parse : String → Option (String × UInt64)} {guarded : Prop} {uri : Option String}
  {s t : TokenSession}

/-- A call on the handle changes neither. -/
theorem Names.of_same (hs : Names uri s) {a b : EventHubAuthCBSStruct} (ha : s.handle = some a)
    (hsame : SameConfig a b) (ht : t.handle = some b) : Names uri t := by
  intro c hc
  obtain rfl := Option.some.inj (ht.symm.trans hc)
  rw [hsame.credential, hsame.extURI]
  exact hs a ha

theorem Step.names (hs : Names uri s) (h : Step parse (FitsURI uri) guarded s t) :
    Names uri t := by
  have hnone : ∀ {u : TokenSession}, u.handle = none → Names uri u := by
    intro u hu a ha
    rw [hu] at ha
    cases ha
  cases h with
  | refreshAccepted => exact hs
  | @create cfg session env a hcreate hfits =>
    have hnew := create_spec hcreate
    have hcred := hnew.credential.trans hfits.1
    obtain ⟨_, huri, -, hcfg, -, htext, -⟩ := hnew.ext hcred
    intro b hb
    obtain rfl := Option.some.inj hb
    exact ⟨hcred, htext.trans (hcfg.symm.trans hfits.2)⟩
  | getStatus env closing ha => exact hs.of_same ha (getStatus_sameConfig _ env) rfl
  | authenticate env closing ha => exact hs.of_same ha (authenticate_keeps _ env).1 rfl
  | refreshAuto env closing ha => exact hs.of_same ha (refresh_sameConfig parse _ none env) rfl
  | @refreshExt _ token env closing ha =>
    exact hs.of_same ha (refresh_sameConfig parse _ (some token) env) rfl
  | putComplete r env ha => exact hs.of_same ha (putComplete_sameConfig _ r env) rfl
  | close => exact hs
  | destroy => exact hnone rfl
  | drop h => exact hnone h
  | destroyAndDrop => exact hnone rfl

theorem Steps.names (h : Steps parse (FitsURI uri) guarded {} s) : Names uri s := by
  induction h with
  | refl => rintro a ⟨⟩
  | tail _ hstep ih => exact hstep.names ih

end TokenSession

end EventHubs
