import EventHubs.SASToken.Parse

/-!
# What the loop over the segments has filled

The loop of `EventHubAuthCBS_SASTokenParse` fills the configuration element by element, and any of
its calls may fail. When it comes to an element, the fields of the elements before are there, and
nothing else is; when it is done without an error, the configuration names a resource.

## Main definitions

* `EventHubAuthCBS.Filled` — the configuration when the loop comes to an element.
* `EventHubAuthCBS.Resource.Named` — no part of the resource is empty.
* `EventHubAuthCBS.SASTokenURIState.Sound` — what holds before and after each segment.

## Main results

* `EventHubAuthCBS.SASTokenURIState.segments_sound`.
-/

namespace EventHubs.EventHubAuthCBS

/-- What has been filled when the loop comes to an element. -/
inductive Filled : SASTokenURIElement → EventHubAuthCBSConfig → Prop
  | hostName : Filled .hostName {}
  | eventHub (host : CString) (hhost : host ≠ []) :
    Filled .eventHub { hostName := some (String.ofList host) }
  | publisherOrConsumer (host path : CString) (hhost : host ≠ []) (hpath : path ≠ []) :
    Filled .publisherOrConsumer
      { hostName := some (String.ofList host), eventHubPath := some (String.ofList path) }
  | publisherId (host path : CString) (hhost : host ≠ []) (hpath : path ≠ []) :
    Filled .publisherIdOrConsumerId
      { mode := .sender, hostName := some (String.ofList host),
        eventHubPath := some (String.ofList path) }
  | consumerId (host path : CString) (hhost : host ≠ []) (hpath : path ≠ []) :
    Filled .publisherIdOrConsumerId
      { mode := .receiver, hostName := some (String.ofList host),
        eventHubPath := some (String.ofList path) }
  | partition (host path group : CString) (hhost : host ≠ []) (hpath : path ≠ [])
      (hgroup : group ≠ []) :
    Filled .partition
      { mode := .receiver, hostName := some (String.ofList host),
        eventHubPath := some (String.ofList path),
        receiverConsumerGroup := some (String.ofList group) }
  | partitionId (host path group : CString) (hhost : host ≠ []) (hpath : path ≠ [])
      (hgroup : group ≠ []) :
    Filled .partitionId
      { mode := .receiver, hostName := some (String.ofList host),
        eventHubPath := some (String.ofList path),
        receiverConsumerGroup := some (String.ofList group) }

/-- No part of the resource is empty. -/
def Resource.Named : Resource → Prop
  | .sender hostName eventHubPath senderPublisherId =>
    hostName ≠ [] ∧ eventHubPath ≠ [] ∧ senderPublisherId ≠ []
  | .receiver hostName eventHubPath receiverConsumerGroup receiverPartitionId =>
    hostName ≠ [] ∧ eventHubPath ≠ [] ∧ receiverConsumerGroup ≠ [] ∧ receiverPartitionId ≠ []

namespace SASTokenURIState

/-- What holds before and after each segment. -/
inductive Sound : SASTokenURIState → Prop
  | error {s : SASTokenURIState} (herror : s.isError = true) : Sound s
  | filled {s : SASTokenURIState} (hdone : s.isDone = false) (h : Filled s.elem s.result) : Sound s
  | done {s : SASTokenURIState} (hdone : s.isDone = true) (r : Resource) (hr : r.Named)
      (hresult : s.result = r.config) : Sound s

variable {env : SASTokenParseEnv} {s : SASTokenURIState} {token : CString}

/-- A field is filled when its `STRING_construct_n` succeeds. -/
theorem Sound.construct {result : EventHubAuthCBSConfig}
    {next : SASTokenURIState → SASTokenURIState}
    (h : Sound (next { s with result := result })) : Sound (s.construct env result next) := by
  unfold SASTokenURIState.construct
  split_ifs
  · exact .error rfl
  · exact h

/-- The body of the loop over the segments. -/
theorem Sound.element (hs : Filled s.elem s.result) (hdone : s.isDone = false) :
    Sound (s.element env token) := by
  obtain ⟨elem, isError, isDone, result⟩ := s
  dsimp only at hs hdone
  subst hdone
  unfold SASTokenURIState.element
  by_cases hread : (!env.succeeds (.cStr elem) || decide (token.length = 0)) = true
  · rw [if_pos hread]
    exact .error rfl
  have htoken : token ≠ [] := by
    rintro rfl
    simp at hread
  rw [if_neg hread]
  cases hs with
  | hostName => exact .construct (.filled rfl (.eventHub token htoken))
  | eventHub host hhost =>
    exact .construct (.filled rfl (.publisherOrConsumer host token hhost htoken))
  | publisherOrConsumer host path hhost hpath =>
    dsimp only
    split_ifs
    · exact .filled rfl (.publisherId host path hhost hpath)
    · exact .filled rfl (.consumerId host path hhost hpath)
    · exact .error rfl
  | publisherId host path hhost hpath =>
    dsimp only
    rw [if_pos rfl]
    exact .construct (.done rfl (.sender host path token) ⟨hhost, hpath, htoken⟩ rfl)
  | consumerId host path hhost hpath =>
    dsimp only
    rw [if_neg (by simp)]
    exact .construct (.filled rfl (.partition host path token hhost hpath htoken))
  | partition host path group hhost hpath hgroup =>
    dsimp only
    split_ifs
    · exact .error rfl
    · exact .filled rfl (.partitionId host path group hhost hpath hgroup)
  | partitionId host path group hhost hpath hgroup =>
    exact .construct
      (.done rfl (.receiver host path group token) ⟨hhost, hpath, hgroup, htoken⟩ rfl)

/-- The loop over the segments. -/
theorem segments_sound (tokens : List CString) (hs : Sound s) : Sound (segments env tokens s) := by
  induction tokens generalizing s with
  | nil => exact hs
  | cons token rest ih =>
    rw [segments]
    split_ifs with hstop
    · exact hs
    · rw [Bool.not_eq_true, Bool.or_eq_false_iff] at hstop
      refine ih ?_
      cases hs with
      | error herror => exact absurd (herror.symm.trans hstop.1) (by simp)
      | filled hdone h => exact .element h hdone
      | done hdone => exact absurd (hdone.symm.trans hstop.2) (by simp)

end SASTokenURIState

end EventHubs.EventHubAuthCBS
