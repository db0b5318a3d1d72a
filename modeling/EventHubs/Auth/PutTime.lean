import EventHubs.Auth.Session

/-!
# When the outstanding put was made

`CheckPutTimeoutStatus` counts from `sasTokenPutTime`. While a put is outstanding on a handle, this
is the second at which it was made, unless the handle has given the put up.

## Main definitions

* `TokenSession.Dates` — what a call that may make a put stores.
* `TokenSession.Pending` — the handle knows when its outstanding put was made.

## Main results

* `TokenSession.Steps.pending`.
-/

namespace EventHubs.TokenSession

open EventHubAuthCBS

/-- The call makes no put, or one that the handle, if it was accepted, waits for from its second
on. -/
inductive Dates {α : Type} : Answer EventHubAuthCBSStruct α → Prop
  | silent {r : α} {b : EventHubAuthCBSStruct} : Dates ⟨r, b, []⟩
  | made {r : α} {b : EventHubAuthCBSStruct} {p : PutToken}
      (hwaits : p.accepted = true → b.cbsStatus = .inProgress ∧ b.sasTokenPutTime = p.now) :
    Dates ⟨r, b, [.put p]⟩

theorem authenticate_dates (a : EventHubAuthCBSStruct) (env : AuthEnv) :
    Dates (authenticate a env) := by
  have hspec := authenticate_spec a env
  generalize authenticate a env = x at hspec
  cases hspec with
  | refused => exact .silent
  | putMade _ _ _ _ _ hstatus _ htime =>
    exact .made fun haccepted => ⟨by rw [hstatus, if_pos haccepted], htime⟩

variable {parse : String → Option (String × UInt64)}

theorem refresh_dates (a : EventHubAuthCBSStruct) (token : Option String) (env : AuthEnv) :
    Dates (refresh parse a token env) := by
  have hspec := refresh_spec parse a token env
  generalize refresh parse a token env = x at hspec
  cases hspec with
  | refused => exact .silent
  | external _ _ _ _ _ _ _ heq => exact heq ▸ authenticate_dates _ env
  | automatic _ _ heq => exact heq ▸ authenticate_dates _ env

/-- The handle waits for the put that is outstanding and knows when it was made, or has given it
up. -/
def Pending (s : TokenSession) : Prop :=
  ∀ a p, s.handle = some a → (tokenView s.log).outstanding = some p →
    a.cbsStatus = .timeout ∨ a.cbsStatus = .inProgress ∧ a.sasTokenPutTime = p.now

variable {fits : EventHubAuthCBSConfig → Prop} {guarded : Prop} {s t : TokenSession}

theorem Pending.of_none (hnone : s.handle = none) : Pending s := fun a p ha => by
  cases hnone.symm.trans ha

/-- A call that may make a put, on a handle without an outstanding one. -/
theorem Pending.answer {α : Type} {x : Answer EventHubAuthCBSStruct α} (hx : Dates x)
    (hnone : (tokenView s.log).outstanding = none) (waiting : Option String) (closing : Bool) :
    Pending { s.answer x with extRefreshSASToken := waiting, closing := closing } := by
  intro b q hb hq
  cases hx with
  | silent => simp [TokenSession.answer, hnone] at hq
  | @made r c p hwaits =>
    obtain rfl := Option.some.inj hb
    have hput : p.accepted = true ∧ p = q := by
      simpa [TokenSession.answer, TokenView.see, hnone] using hq
    obtain ⟨haccepted, rfl⟩ := hput
    exact .inr (hwaits haccepted)

/-- `EventHubAuthCBS_GetStatus` leaves an outstanding put alone or gives it up. -/
theorem Pending.getStatus (hs : Pending s) {a : EventHubAuthCBSStruct} (ha : s.handle = some a)
    (env : AuthEnv) (closing : Bool) :
    Pending { s.answer (EventHubAuthCBS.getStatus a env) with closing := closing } := by
  intro b p hb hp
  obtain rfl := Option.some.inj hb
  have hbefore : (tokenView s.log).outstanding = some p := by
    simpa [TokenSession.answer, EventHubAuthCBS.getStatus, TokenView.see] using hp
  have hkeep := updateEventHubAuthACBSStatus_eq a env.statusNow
  simp only [EventHubAuthCBS.getStatus]
  rcases updateEventHubAuthACBSStatus_status a env.statusNow with h | ⟨-, h⟩ | ⟨-, hold, -⟩
  · rw [hkeep, h]
    exact hs a p ha hbefore
  · exact .inl h
  · rcases hs a p ha hbefore with h | ⟨h, -⟩ <;> rw [h] at hold <;>
      rcases hold with h | h <;> cases h

theorem Step.pending (hs : Pending s) (hexclusive : Exclusive s)
    (h : Step parse fits guarded s t) : Pending t := by
  have hquiet : ∀ {a}, s.handle = some a → s.closing = false → a.cbsStatus ≠ .inProgress →
      (tokenView s.log).outstanding = none :=
    fun ha hopen hne => ((hexclusive.settled hopen _ ha).quiet hne).2
  cases h with
  | refreshAccepted token hnone hguard =>
    intro a p ha hp
    exact hs a p ha (by simpa [TokenView.see] using hp)
  | create hcreate hfits hnone hopen hwaits =>
    intro a p ha hp
    simp [TokenView.see] at hp
  | getStatus env closing ha hopen hgood => exact hs.getStatus ha env closing
  | authenticate env closing ha hopen hidle hgood =>
    exact .answer (authenticate_dates _ env) (hquiet ha hopen (by simp [hidle])) _ _
  | refreshAuto env closing ha hopen hrequired hgood =>
    exact .answer (refresh_dates _ _ env) (hquiet ha hopen (by simp [hrequired])) _ _
  | refreshExt env closing ha hopen hok htoken hgood =>
    exact .answer (refresh_dates _ _ env) (hquiet ha hopen (by simp [hok])) _ _
  | @putComplete a r env ha hopen hputs =>
    obtain ⟨b, heq, -⟩ := putComplete_answer a r env
    intro c p hc hp
    rw [heq] at hp
    simp [TokenSession.answer, TokenView.see] at hp
  | close => exact hs
  | destroy hguard => exact .of_none rfl
  | drop hnone => exact .of_none hnone
  | destroyAndDrop => exact .of_none rfl

/-- Along the steps of a session the handle knows when its outstanding put was made. -/
theorem Steps.pending (h : Steps parse fits guarded {} t) : Pending t := by
  induction h with
  | refl => exact .of_none rfl
  | tail hsteps hstep ih => exact hstep.pending ih (Steps.exclusive exclusive_of_empty hsteps)

end EventHubs.TokenSession
