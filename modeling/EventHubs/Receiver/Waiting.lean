import EventHubs.Receiver.Turn

/-!
# The refresh token that waits on a receiver

As for a sender, only `EventHubReceiver_LL_RefreshSASTokenAsync` makes a refresh token wait, and it
takes no token but those whose URI is that of the parsed configuration.

## Main definitions

* `EventHubReceiverLL.Admits` — what is known of the tokens with the right URI.
* `EventHubReceiverLL.Waiting` — what the receiver validates against, and what waits.

## Main results

* `EventHubReceiverLL.run_waiting`.
-/

namespace EventHubs.EventHubReceiverLL

open ReceiverState EventHubAuthCBS

variable {parse : String → Option (String × UInt64)} {s t : ReceiverState EventHubAuthCBSStruct}

/-- Only `EventHubReceiver_LL_RefreshSASTokenAsync` makes a refresh token wait. -/
theorem step_spends {i : ReceiverInput AuthEnv} (h : step (authModule parse) s i = some t) :
    Spends s t ∨
      ∃ token env, i = .refreshSASTokenAsync token env ∧
        t = (refreshSASTokenAsync s token env).2 := by
  rcases step_turn h with hturn | hrefresh | ⟨-, hspends⟩
  · exact .inl hturn.spends
  · exact .inr hrefresh
  · exact .inl hspends

/-- A refresh token for which `EventHubAuthCBS_SASTokenParse` finds the URI has the property. -/
def Admits (P : String → Prop) (uri : Option String) : ReceiverInput AuthEnv → Prop
  | .refreshSASTokenAsync (some token) env =>
    ∀ cfg, env.parsed = some cfg → cfg.extSASTokenURI = uri → P token
  | _ => True

/-- The URI that the receiver validates refresh tokens against, and the token that waits. -/
structure Waiting (P : String → Prop) (uri : Option String)
    (c : EventHubReceiverLL EventHubAuthCBSStruct) : Prop where
  uri : ∃ base, c.connectionParams.extSASTokenConfig = some base ∧ base.extSASTokenURI = uri
  waits : ∀ token, c.extRefreshSASToken = some token → P token

theorem Based.uri {uri : Option String} {c : EventHubReceiverLL EventHubAuthCBSStruct}
    (h : Based (TokenSession.FitsURI uri) c) :
    ∃ base, c.connectionParams.extSASTokenConfig = some base ∧ base.extSASTokenURI = uri := by
  rcases h with h | ⟨base, hbase, hfits⟩
  · cases (h {}).1
  · exact ⟨base, hbase, (hfits 0).2⟩

variable {P : String → Prop} {uri : Option String}

/-- A refresh token is accepted. -/
theorem Waiting.refresh (h : Waiting P uri s.client) {token : Option String} {env : RefreshEnv}
    (hadmits : Admits P uri (.refreshSASTokenAsync token env)) :
    ∀ text, (refreshSASTokenAsync s token env).2.client.extRefreshSASToken = some text →
      P text := by
  obtain ⟨base, hbase, huri⟩ := h.uri
  rcases refreshSASTokenAsync_cases s token env with
    ⟨r, -, heq⟩ | ⟨text, config, cfg, rfl, hconfig, -, -, hparsed, hsame, heq⟩
  · rw [heq]
    exact h.waits
  · rw [heq]
    rintro _ ⟨⟩
    obtain rfl := Option.some.inj (hbase.symm.trans hconfig)
    exact hadmits cfg hparsed (hsame.trans huri)

/-- In every run the handle has the URI that refresh tokens are validated against, and a refresh
token that waits has what is known of the tokens with this URI. -/
theorem run_waiting {c : EventHubReceiverLL EventHubAuthCBSStruct} (hc : Created c)
    (hbased : Based (TokenSession.FitsURI uri) c) {is : List (ReceiverInput AuthEnv)}
    (hadmits : ∀ i ∈ is, Admits P uri i)
    (hrun : (receiverMachine (authModule parse)).run { client := c } is = some s) :
    Waiting P uri s.client ∧
      ∀ a, s.client.cbsHandle = some a → a.extSASTokenURI.map (·.text) = uri := by
  have hstep : ∀ s i t, (Follows parse (TokenSession.FitsURI uri) (!s.control.steady) s ∧
        Waiting P uri s.client) →
      Admits P uri i → (receiverMachine (authModule parse)).step s i = some t →
      Follows parse (TokenSession.FitsURI uri) (!t.control.steady) t ∧ Waiting P uri t.client := by
    rintro s i t ⟨hfollows, hwaiting⟩ hi hstep
    have hnext := step_follows hfollows hstep
    refine ⟨hnext, hnext.based.uri, ?_⟩
    rcases step_spends hstep with (hsame | hgone) | ⟨token, env, rfl, rfl⟩
    · rw [hsame]
      exact hwaiting.waits
    · simp [hgone]
    · exact hwaiting.refresh hi
  have hnone : c.extRefreshSASToken = none := by cases hc <;> rfl
  obtain ⟨hfollows, hwaiting⟩ := Machine.run_invariant_of_meets hstep
    ⟨created_follows hc hbased, hbased.uri, by simp [hnone]⟩
    (Machine.meets_of_forall_mem hadmits) hrun
  exact ⟨hwaiting, fun a ha => (TokenSession.Steps.names hfollows.steps a ha).2⟩

end EventHubs.EventHubReceiverLL
