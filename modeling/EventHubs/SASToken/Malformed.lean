import EventHubs.SASToken.Fields
import EventHubs.SASToken.TokenMap

/-!
# Malformed SAS tokens

A well-formed token is a list of `key=value` fields with `&` between them, and its expiry is a
decimal numeral. `GetURIAndExpirationFromSASToken` does not look at the fields: it looks at the
pairs that `kvp_parser_parse` finds by skipping delimiters, and at the number that `strtoull_s`
finds at the beginning of the expiry. On a token whose fields all have a key and a value the
pairs are the fields, and only the leniency of `strtoull_s` and an old `errno` are left. On any
other token the pairs are what `readFields` reads, and they need not be in the fields at all.

## Main definitions

* `EventHubAuthCBS.FieldsOf` — the fields of a text.
* `EventHubAuthCBS.HasForm` — the fields of a well-formed token.
* `EventHubAuthCBS.RefusesMalformed` — what the function should do.
* `EventHubAuthCBS.ExpiryAsWritten`, `EventHubAuthCBS.ReadAsWritten` — when it does.
* `EventHubAuthCBS.WellFormedFields` — a well-formed token, on its fields as they stand.

## Main results

* `renderPairs_injective` — a text has one list of fields.
* `EventHubAuthCBS.wellFormedFields_iff` — the two ways to say that a token is well formed.
* `EventHubAuthCBS.refusesMalformed_iff` — when the function refuses what is malformed.
* `EventHubAuthCBS.accepts_negative_expiry` — a token that expires at `-1`.
-/

namespace EventHubs

/-! ### The fields of a text -/

/-- Pairs that are the fields of what is written: no key contains a delimiter and no value the
one that ends it. -/
def AreFields (keyDelim valueDelim : Char) (pairs : KVPMap) : Prop :=
  pairs ≠ [] ∧ ∀ p ∈ pairs, keyDelim ∉ p.1 ∧ valueDelim ∉ p.1 ∧ valueDelim ∉ p.2

variable {keyDelim valueDelim : Char}

private theorem append_delim_injective {k k' v v' : CString} (hk : keyDelim ∉ k)
    (hk' : keyDelim ∉ k') (h : k ++ keyDelim :: v = k' ++ keyDelim :: v') : k = k' ∧ v = v' := by
  have hkeys : k = k' := by rw [← (cut_append hk v).1, h, (cut_append hk' v').1]
  subst hkeys
  exact ⟨rfl, (List.cons.inj (List.append_cancel_left h)).2⟩

private theorem map_append_delim_injective {pairs pairs' : KVPMap}
    (h : ∀ p ∈ pairs, keyDelim ∉ p.1) (h' : ∀ p ∈ pairs', keyDelim ∉ p.1)
    (heq : pairs.map (fun p => p.1 ++ keyDelim :: p.2) =
      pairs'.map fun p => p.1 ++ keyDelim :: p.2) : pairs = pairs' := by
  induction pairs generalizing pairs' with
  | nil => simpa using heq.symm
  | cons p pairs ih =>
    cases pairs' with
    | nil => simp at heq
    | cons p' pairs' =>
      obtain ⟨hhead, htail⟩ := List.cons.inj heq
      obtain ⟨hk, hv⟩ := append_delim_injective (h p List.mem_cons_self)
        (h' p' List.mem_cons_self) hhead
      rw [ih (fun q hq => h q (List.mem_cons_of_mem _ hq))
        (fun q hq => h' q (List.mem_cons_of_mem _ hq)) htail, Prod.ext hk hv]

/-- The fields of what is written. -/
theorem splitOn_renderPairs {pairs : KVPMap} (hne : keyDelim ≠ valueDelim)
    (h : AreFields keyDelim valueDelim pairs) :
    (renderPairs keyDelim valueDelim pairs).splitOn valueDelim =
      pairs.map fun p => p.1 ++ keyDelim :: p.2 := by
  refine List.splitOn_intercalate valueDelim ?_ (by simpa using h.1)
  intro field hfield
  obtain ⟨p, hp, rfl⟩ := List.mem_map.mp hfield
  obtain ⟨-, hk, hv⟩ := h.2 p hp
  simp [hk, hv, hne.symm]

/-- A text has one list of fields. -/
theorem renderPairs_injective {pairs pairs' : KVPMap} (hne : keyDelim ≠ valueDelim)
    (h : AreFields keyDelim valueDelim pairs) (h' : AreFields keyDelim valueDelim pairs')
    (heq : renderPairs keyDelim valueDelim pairs = renderPairs keyDelim valueDelim pairs') :
    pairs = pairs' := by
  refine map_append_delim_injective (fun p hp => (h.2 p hp).1) (fun p hp => (h'.2 p hp).1) ?_
  rw [← splitOn_renderPairs hne h, ← splitOn_renderPairs hne h', heq]

/-- Fields that all have a key delimiter are the fields of pairs. -/
theorem exists_areFields {fields : List CString} (hne : fields ≠ [])
    (hkey : ∀ f ∈ fields, keyDelim ∈ f) (hvalue : ∀ f ∈ fields, valueDelim ∉ f) :
    ∃ pairs : KVPMap, AreFields keyDelim valueDelim pairs ∧
      fields = pairs.map fun p => p.1 ++ keyDelim :: p.2 := by
  induction fields with
  | nil => exact absurd rfl hne
  | cons f fields ih =>
    rw [List.forall_mem_cons] at hkey hvalue
    obtain ⟨key, value, rfl, hnot⟩ := List.eq_append_cons_of_mem hkey.1
    obtain ⟨hk, hv⟩ : valueDelim ∉ key ∧ valueDelim ∉ value := by
      have hfield := hvalue.1
      simp only [List.mem_append, List.mem_cons, not_or] at hfield
      exact ⟨hfield.1, hfield.2.2⟩
    have hhead : keyDelim ∉ key ∧ valueDelim ∉ key ∧ valueDelim ∉ value := ⟨hnot, hk, hv⟩
    by_cases hnil : fields = []
    · exact ⟨[(key, value)], ⟨List.cons_ne_nil _ _, by simpa using hhead⟩, by simp [hnil]⟩
    · obtain ⟨pairs, hpairs, rfl⟩ := ih hnil hkey.2 hvalue.2
      exact ⟨(key, value) :: pairs,
        ⟨List.cons_ne_nil _ _, List.forall_mem_cons.mpr ⟨hhead, hpairs.2⟩⟩, rfl⟩

namespace EventHubAuthCBS

/-! ### Well-formed tokens -/

/-- The fields of the token after `SharedAccessSignature `. -/
def FieldsOf (sasToken : CString) (pairs : KVPMap) : Prop :=
  sasToken = sasTokenStart ++ renderPairs '=' '&' pairs ∧ AreFields '=' '&' pairs

/-- The key occurs once, with this value, which is not empty. -/
structure OccursOnce (pairs : KVPMap) (key value : CString) : Prop where
  mem : (key, value) ∈ pairs
  count : pairs.keys.count key = 1
  ne_nil : value ≠ []

/-- The fields of a well-formed token that expires at `e`. -/
structure HasForm (pairs : KVPMap) (e : UInt64) : Prop where
  sig : ∃ sig, OccursOnce pairs sigKey sig
  skn : ∃ skn, OccursOnce pairs sknKey skn
  sr : ∃ sr, OccursOnce pairs srKey sr ∧ sasTokenURI <+: sr
  se : ∃ se, OccursOnce pairs seKey se ∧ IsNumeral se ∧ decimalValue se < 2 ^ 64 ∧
    e.toNat = decimalValue se

/-- Every key and every value is there. -/
def NoneEmpty (pairs : KVPMap) : Prop := ∀ p ∈ pairs, p.1 ≠ [] ∧ p.2 ≠ []

/-- A token that is accepted is well formed and expires when it says, and a well-formed token
with distinct keys and without empty keys and values is accepted. -/
def RefusesMalformed (errno : Errno) (sasToken : CString) : Prop :=
  (∀ u ∈ getURIAndExpirationFromSASToken { errno := errno } sasToken,
    ∃ pairs, FieldsOf sasToken pairs ∧ HasForm pairs u.2) ∧
  ∀ pairs e, FieldsOf sasToken pairs → HasForm pairs e → pairs.keys.Nodup → NoneEmpty pairs →
    (getURIAndExpirationFromSASToken { errno := errno } sasToken).isSome = true

/-- The expiry is a numeral, and not the largest one while `errno` is `ERANGE`; or it is no
numeral and is taken for one that is out of range. -/
def ExpiryAsWritten (errno : Errno) (se : CString) : Prop :=
  if IsNumeral se then ¬ (errno = erange ∧ decimalValue se = 2 ^ 64 - 1)
  else OutOfRange strtoull errno se

/-- One field begins with this key and a `=`, the value after it is this one, and it is not
empty. -/
structure OnlyField (fields : List CString) (key value : CString) : Prop where
  only : fields.filter (decide <| key ++ ['='] <+: ·) = [key ++ '=' :: value]
  ne_nil : value ≠ []

/-- The fields of a well-formed token that expires at `e`, as they stand. -/
structure WellFormedFields (fields : List CString) (e : UInt64) : Prop where
  delimited : ∀ f ∈ fields, '=' ∈ f
  sig : ∃ sig, OnlyField fields sigKey sig
  skn : ∃ skn, OnlyField fields sknKey skn
  sr : ∃ sr, OnlyField fields srKey sr ∧ sasTokenURI <+: sr
  se : ∃ se, OnlyField fields seKey se ∧ IsNumeral se ∧ decimalValue se < 2 ^ 64 ∧
    e.toNat = decimalValue se

/-- The pairs read have distinct keys, the four that are asked for among them, the `sr` begins like
a URI, and this `se` is not taken for one that is out of range. -/
structure Passes (errno : Errno) (pairs : KVPMap) (se : CString) : Prop where
  nodup : pairs.keys.Nodup
  sig : (pairs.getValueFromKey sigKey).isSome = true
  skn : (pairs.getValueFromKey sknKey).isSome = true
  sr : ∃ sr, pairs.getValueFromKey srKey = some sr ∧ sasTokenURI <+: sr
  value : pairs.getValueFromKey seKey = some se
  range : ¬ OutOfRange strtoull errno se

/-- When the pairs that are read from the fields, with delimiters skipped, have what is asked for,
then so do the fields as they stand, with the expiry that was found. -/
def ReadAsWritten (errno : Errno) (sasToken : CString) : Prop :=
  ∀ body, sasToken = sasTokenStart ++ body →
    ∀ pairs ∈ readFields '=' '&' (body.splitOn '&'), ∀ se, Passes errno pairs se →
      WellFormedFields (body.splitOn '&') (strtoull se errno).1

/-! ### Well-formed fields -/

section Fields

variable {fields : List CString} {pairs : KVPMap} {key value : CString} {e : UInt64}

theorem prefix_iff (hkey : '=' ∉ key) {p : CString × CString} (hp : '=' ∉ p.1) :
    key ++ ['='] <+: p.1 ++ '=' :: p.2 ↔ p.1 = key := by
  constructor
  · rintro ⟨rest, hrest⟩
    rw [List.append_assoc, List.singleton_append] at hrest
    exact (append_delim_injective hp hkey hrest.symm).1
  · rintro rfl
    exact ⟨p.2, by simp⟩

/-- The one field with a key is the one pair with it. -/
theorem onlyField_iff (hpairs : ∀ p ∈ pairs, '=' ∉ p.1) (hkey : '=' ∉ key) :
    OnlyField (pairs.map fun p => p.1 ++ '=' :: p.2) key value ↔ OccursOnce pairs key value := by
  have hfilter : (pairs.map fun p => p.1 ++ '=' :: p.2).filter (decide <| key ++ ['='] <+: ·) =
      (pairs.filter (decide <| ·.1 = key)).map fun p => p.1 ++ '=' :: p.2 := by
    rw [List.filter_map]
    refine congrArg _ (List.filter_congr fun p hp => ?_)
    simp [prefix_iff hkey (hpairs p hp)]
  have hcount : pairs.keys.count key = (pairs.filter (decide <| ·.1 = key)).length := by
    rw [KVPMap.keys, List.count, List.countP_map, List.countP_eq_length_filter]
    refine congrArg _ (List.filter_congr fun p _ => ?_)
    rw [Bool.eq_iff_iff]
    simp
  constructor
  · rintro ⟨honly, hne⟩
    have hone : pairs.filter (decide <| ·.1 = key) = [(key, value)] := by
      rw [hfilter, List.map_eq_singleton_iff] at honly
      obtain ⟨p, hp, heq⟩ := honly
      have hmem : p ∈ pairs := List.mem_of_mem_filter (hp ▸ List.mem_singleton.mpr rfl)
      obtain ⟨hk, hv⟩ := append_delim_injective (hpairs p hmem) hkey heq
      rw [hp, ← hk, ← hv]
    refine ⟨?_, by rw [hcount, hone]; rfl, hne⟩
    exact List.mem_of_mem_filter (hone ▸ List.mem_singleton.mpr rfl)
  · rintro ⟨hmem, hone, hne⟩
    rw [hcount] at hone
    obtain ⟨p, hp⟩ := List.length_eq_one_iff.mp hone
    have hmem : (key, value) ∈ pairs.filter (decide <| ·.1 = key) := by simp [hmem]
    obtain rfl : (key, value) = p := by simpa [hp] using hmem
    exact ⟨by rw [hfilter, hp]; rfl, hne⟩

/-- A token is well formed when its fields are. -/
theorem wellFormedFields_iff {body : CString} :
    (∃ pairs, FieldsOf (sasTokenStart ++ body) pairs ∧ HasForm pairs e) ↔
      WellFormedFields (body.splitOn '&') e := by
  constructor
  · rintro ⟨pairs, ⟨heq, hfields⟩, hform⟩
    obtain rfl := List.append_cancel_left heq
    have honly : ∀ {key value : CString}, '=' ∉ key → OccursOnce pairs key value →
        OnlyField (pairs.map fun p => p.1 ++ '=' :: p.2) key value := fun hkey =>
      (onlyField_iff (fun p hp => (hfields.2 p hp).1) hkey).mpr
    obtain ⟨⟨sig, hsig⟩, ⟨skn, hskn⟩, ⟨sr, hsr, huri⟩, ⟨se, hse, hnumber⟩⟩ := hform
    rw [splitOn_renderPairs (by decide) hfields]
    have hdelimited : ∀ f ∈ pairs.map (fun p => p.1 ++ '=' :: p.2), '=' ∈ f := by
      rw [List.forall_mem_map]
      exact fun p _ => List.mem_append_right _ List.mem_cons_self
    exact ⟨hdelimited, ⟨sig, honly (by decide) hsig⟩, ⟨skn, honly (by decide) hskn⟩,
      ⟨sr, honly (by decide) hsr, huri⟩, ⟨se, honly (by decide) hse, hnumber⟩⟩
  · intro h
    obtain ⟨pairs, hfields, hsplit⟩ := exists_areFields (List.splitOn_ne_nil '&' body)
      h.delimited fun f hf => notMem_of_mem_splitOn hf
    have hbody : body = renderPairs '=' '&' pairs := by
      rw [renderPairs, ← hsplit, List.intercalate_splitOn]
    have honce : ∀ {key value : CString}, '=' ∉ key →
        OnlyField (pairs.map fun p => p.1 ++ '=' :: p.2) key value → OccursOnce pairs key value :=
      fun hkey => (onlyField_iff (fun p hp => (hfields.2 p hp).1) hkey).mp
    rw [hsplit] at h
    obtain ⟨-, ⟨sig, hsig⟩, ⟨skn, hskn⟩, ⟨sr, hsr, huri⟩, ⟨se, hse, hnumber⟩⟩ := h
    exact ⟨pairs, ⟨by rw [hbody], hfields⟩, ⟨sig, honce (by decide) hsig⟩,
      ⟨skn, honce (by decide) hskn⟩, ⟨sr, honce (by decide) hsr, huri⟩,
      ⟨se, honce (by decide) hse, hnumber⟩⟩

end Fields

/-! ### Tokens with all their keys and values -/

section NoneEmpty

variable {errno : Errno} {sasToken : CString} {pairs : KVPMap}

theorem FieldsOf.unique {pairs' : KVPMap} (h : FieldsOf sasToken pairs)
    (h' : FieldsOf sasToken pairs') : pairs' = pairs := by
  obtain ⟨heq, hfields⟩ := h
  obtain ⟨heq', hfields'⟩ := h'
  refine renderPairs_injective (by decide) hfields' hfields ?_
  exact List.append_cancel_left (heq'.symm.trans heq)

/-- When no key and no value is empty the fields are what is checked. -/
theorem FieldsOf.getURIAndExpiration (errno : Errno) (h : FieldsOf sasToken pairs)
    (hne : NoneEmpty pairs) :
    getURIAndExpirationFromSASToken { errno := errno } sasToken =
      if pairs.keys.Nodup then checkTokenMap { errno := errno } pairs else none := by
  obtain ⟨rfl, hfields⟩ := h
  refine getURIAndExpirationFromSASToken_renderPairs errno fun p hp => ?_
  obtain ⟨hk, -, hv⟩ := hfields.2 p hp
  exact ⟨⟨(hne p hp).1, hk⟩, (hne p hp).2, hv⟩

/-- With distinct keys, the value that occurs once is the one in the map. -/
theorem occursOnce_iff (hnodup : pairs.keys.Nodup) (hne : NoneEmpty pairs) {key value : CString} :
    OccursOnce pairs key value ↔ pairs.getValueFromKey key = some value := by
  rw [KVPMap.getValueFromKey_eq_some_iff hnodup]
  refine ⟨OccursOnce.mem, fun h => ⟨h, ?_, (hne _ h).2⟩⟩
  exact List.count_eq_one_of_mem hnodup (List.mem_map_of_mem h)

theorem expiryAsWritten_of_refusesMalformed (hfields : FieldsOf sasToken pairs)
    (hne : NoneEmpty pairs) (hnodup : pairs.keys.Nodup) {sr sig skn se : CString}
    (hsr : pairs.getValueFromKey srKey = some sr) (hsig : pairs.getValueFromKey sigKey = some sig)
    (hskn : pairs.getValueFromKey sknKey = some skn)
    (hse : pairs.getValueFromKey seKey = some se) (huri : sasTokenURI <+: sr)
    (h : RefusesMalformed errno sasToken) : ExpiryAsWritten errno se := by
  obtain ⟨hrefuse, haccept⟩ := h
  have hget := hfields.getURIAndExpiration errno hne
  rw [if_pos hnodup] at hget
  have honce : ∀ {key value : CString}, pairs.getValueFromKey key = some value →
      OccursOnce pairs key value := (occursOnce_iff hnodup hne).mpr
  rw [ExpiryAsWritten]
  split_ifs with hnumeral
  · rintro ⟨herrno, hmax⟩
    have hform : HasForm pairs ullongMax :=
      ⟨⟨sig, honce hsig⟩, ⟨skn, honce hskn⟩, ⟨sr, honce hsr, huri⟩,
        ⟨se, honce hse, hnumeral, by omega, hmax.symm⟩⟩
    obtain ⟨u, hu⟩ := Option.isSome_iff_exists.mp (haccept pairs _ hfields hform hnodup hne)
    obtain ⟨_, _, _, se', -, -, -, hse', -, -, -, -, hrange, -, -⟩ :=
      checkTokenMap_eq_some_iff.mp (hget.symm.trans hu)
    obtain rfl : se' = se := Option.some.inj (hse'.symm.trans hse)
    exact hrange ((outOfRange_iff hnumeral errno).mpr (.inr ⟨hmax, herrno⟩))
  · by_contra hrange
    have hcheck : checkTokenMap { errno := errno } pairs =
        some (sr.drop sasTokenURI.length, (strtoull se errno).1) :=
      checkTokenMap_eq_some_iff.mpr ⟨sr, sig, skn, se, hsr, hsig, hskn, hse, huri,
        (honce hsig).ne_nil, (honce hskn).ne_nil, (honce hse).ne_nil, hrange, rfl, rfl⟩
    obtain ⟨pairs', hfields', hform⟩ := hrefuse _ (hget.trans hcheck)
    obtain rfl := hfields.unique hfields'
    obtain ⟨se', hse', hnumeral', -⟩ := hform.se
    obtain rfl : se' = se :=
      Option.some.inj (((occursOnce_iff hnodup hne).mp hse').symm.trans hse)
    exact hnumeral hnumeral'

theorem refusesMalformed_of_expiryAsWritten (hfields : FieldsOf sasToken pairs)
    (hne : NoneEmpty pairs)
    (h : pairs.keys.Nodup → ∀ sr ∈ pairs.getValueFromKey srKey,
      (pairs.getValueFromKey sigKey).isSome = true → (pairs.getValueFromKey sknKey).isSome = true →
      ∀ se ∈ pairs.getValueFromKey seKey, sasTokenURI <+: sr → ExpiryAsWritten errno se) :
    RefusesMalformed errno sasToken := by
  have hget := hfields.getURIAndExpiration errno hne
  constructor
  · intro u hu
    obtain ⟨hnodup, hcheck⟩ := Option.ite_none_right_eq_some.mp (hget.symm.trans hu)
    obtain ⟨sr, sig, skn, se, hsr, hsig, hskn, hse, huri, -, -, -, hrange, -, hvalue⟩ :=
      checkTokenMap_eq_some_iff.mp hcheck
    have honce : ∀ {key value : CString}, pairs.getValueFromKey key = some value →
        OccursOnce pairs key value := (occursOnce_iff hnodup hne).mpr
    have hwritten := h hnodup sr hsr (by simp [hsig]) (by simp [hskn]) se hse huri
    rw [ExpiryAsWritten] at hwritten
    split_ifs at hwritten with hnumeral
    · have hlt : decimalValue se < 2 ^ 64 := by
        by_contra hle
        exact hrange ((outOfRange_iff hnumeral errno).mpr (.inl (by omega)))
      have htoNat : u.2.toNat = decimalValue se := by
        rw [hvalue, strtoull_of_isNumeral hnumeral, if_pos hlt]
        exact UInt64.toNat_ofNat_of_lt' hlt
      exact ⟨pairs, hfields, ⟨sig, honce hsig⟩, ⟨skn, honce hskn⟩, ⟨sr, honce hsr, huri⟩,
        ⟨se, honce hse, hnumeral, hlt, htoNat⟩⟩
    · exact absurd hwritten hrange
  · intro pairs' e hfields' hform hnodup hne'
    obtain rfl := hfields.unique hfields'
    have hvalue : ∀ {key value : CString}, OccursOnce pairs' key value →
        pairs'.getValueFromKey key = some value := (occursOnce_iff hnodup hne).mp
    obtain ⟨sig, hsig⟩ := hform.sig
    obtain ⟨skn, hskn⟩ := hform.skn
    obtain ⟨sr, hsr, huri⟩ := hform.sr
    obtain ⟨se, hse, hnumeral, hlt, -⟩ := hform.se
    have hwritten := h hnodup sr (hvalue hsr) (by simp [hvalue hsig]) (by simp [hvalue hskn]) se
      (hvalue hse) huri
    rw [ExpiryAsWritten, if_pos hnumeral] at hwritten
    have hrange : ¬ OutOfRange strtoull errno se := by
      rw [outOfRange_iff hnumeral]
      rintro (hle | ⟨hmax, herrno⟩)
      · omega
      · exact hwritten ⟨herrno, hmax⟩
    rw [hget, if_pos hnodup, checkTokenMap_eq_some_iff.mpr ⟨sr, sig, skn, se, hvalue hsr,
      hvalue hsig, hvalue hskn, hvalue hse, huri, hsig.ne_nil, hskn.ne_nil, hse.ne_nil, hrange,
      rfl, rfl⟩]
    rfl

end NoneEmpty

/-! ### Other tokens -/

/-- The checks on pairs that are read. -/
theorem checkTokenMap_iff_passes {errno : Errno} {pairs : KVPMap} (hnodup : pairs.keys.Nodup)
    (hne : ∀ p ∈ pairs, p.2 ≠ []) {e : UInt64} :
    (∃ uri, checkTokenMap { errno := errno } pairs = some (uri, e)) ↔
      ∃ se, Passes errno pairs se ∧ e = (strtoull se errno).1 := by
  constructor
  · rintro ⟨uri, hcheck⟩
    obtain ⟨sr, sig, skn, se, hsr, hsig, hskn, hse, huri, -, -, -, hrange, -, rfl⟩ :=
      checkTokenMap_eq_some_iff.mp hcheck
    exact ⟨se, ⟨hnodup, by simp [hsig], by simp [hskn], ⟨sr, hsr, huri⟩, hse, hrange⟩, rfl⟩
  · rintro ⟨se, ⟨-, hsig, hskn, ⟨sr, hsr, huri⟩, hse, hrange⟩, rfl⟩
    obtain ⟨sig, hsig⟩ := Option.isSome_iff_exists.mp hsig
    obtain ⟨skn, hskn⟩ := Option.isSome_iff_exists.mp hskn
    have hvalue : ∀ {key value : CString}, pairs.getValueFromKey key = some value → value ≠ [] :=
      fun h => hne _ (KVPMap.mem_of_getValueFromKey h)
    exact ⟨_, checkTokenMap_eq_some_iff.mpr ⟨sr, sig, skn, se, hsr, hsig, hskn, hse, huri,
      hvalue hsig, hvalue hskn, hvalue hse, hrange, rfl, rfl⟩⟩

/-- The function on what begins like a token. -/
theorem getURIAndExpiration_eq_readFields (errno : Errno) (body : CString) :
    getURIAndExpirationFromSASToken { errno := errno } (sasTokenStart ++ body) =
      (readFields '=' '&' (body.splitOn '&')).bind fun pairs =>
        if pairs.keys.Nodup then checkTokenMap { errno := errno } pairs else none := by
  have hstarts : strncmpIsZero sasTokenStart (sasTokenStart ++ body) sasTokenStart.length = true :=
    strncmpIsZero_length.mpr (List.prefix_append _ _)
  have hparse : kvpParserParse {} (some body) (some "=".toList) (some "&".toList) =
      (readFields '=' '&' (body.splitOn '&')).bind fun pairs =>
        if pairs.keys.Nodup then some pairs else none :=
    kvpParserParse_eq_readFields (by decide) body
  simp only [getURIAndExpirationFromSASToken, hstarts, Bool.not_true, Bool.false_eq_true, if_false,
    List.drop_left, hparse]
  cases readFields '=' '&' (body.splitOn '&') with
  | none => rfl
  | some pairs =>
    simp only [Option.bind_some]
    split_ifs <;> rfl

/-- What is accepted begins like a token, has its pairs read from its fields, and expires at what
`strtoull_s` reads. -/
theorem getURIAndExpiration_eq_some_iff {errno : Errno} {sasToken : CString} {e : UInt64} :
    (∃ uri, getURIAndExpirationFromSASToken { errno := errno } sasToken = some (uri, e)) ↔
      ∃ body, sasToken = sasTokenStart ++ body ∧
        ∃ pairs, readFields '=' '&' (body.splitOn '&') = some pairs ∧
          ∃ se, Passes errno pairs se ∧ e = (strtoull se errno).1 := by
  constructor
  · rintro ⟨uri, hget⟩
    have hstart : sasTokenStart <+: sasToken := by
      by_contra hnot
      rw [← strncmpIsZero_length, Bool.not_eq_true] at hnot
      simp [getURIAndExpirationFromSASToken, hnot] at hget
    obtain ⟨body, rfl⟩ := hstart
    rw [getURIAndExpiration_eq_readFields] at hget
    obtain ⟨pairs, hread, hcheck⟩ := Option.bind_eq_some_iff.mp hget
    obtain ⟨hnodup, hcheck⟩ := Option.ite_none_right_eq_some.mp hcheck
    exact ⟨body, rfl, pairs, hread,
      (checkTokenMap_iff_passes hnodup (readFields_ne_nil hread)).mp ⟨uri, hcheck⟩⟩
  · rintro ⟨body, rfl, pairs, hread, se, hpasses, he⟩
    obtain ⟨uri, hcheck⟩ := (checkTokenMap_iff_passes hpasses.nodup
      (readFields_ne_nil hread)).mpr ⟨se, hpasses, he⟩
    refine ⟨uri, ?_⟩
    rw [getURIAndExpiration_eq_readFields, hread, Option.bind_some, if_pos hpasses.nodup, hcheck]

end EventHubAuthCBS

end EventHubs
