import EventHubs.SASToken.TokenMap
import Mathlib.Data.List.Perm.Basic

/-!
# Writing a SAS token and parsing it

A token is written from a resource, a signature, a key name and an expiry, in any order of its
four pairs. Parsing gives the resource and the expiry back, except that the delimiter `%2f` of
the URI is handed to a tokenizer that takes its characters one by one: a name in which the digit
`2` or the letter `f` occurs is cut there.

## Main definitions

* `EventHubAuthCBS.Resource.uri`, `EventHubAuthCBS.tokenPairs` — what is written.
* `EventHubAuthCBS.Resource.Unreserved` — names that need no escaping.
* `EventHubAuthCBS.Recovers` — a configuration with what was written.

## Main results

* `EventHubAuthCBS.recovers_iff` — when parsing gives back what was written.
* `EventHubAuthCBS.default_consumer_group_lost` — a token with the consumer group `$Default`'s
  letters.
-/

namespace EventHubs

namespace EventHubAuthCBS

/-! ### What is written -/

namespace Resource

/-- The names of the host, the path and the entity. -/
def names : Resource → List CString
  | .sender host path publisher => [host, path, publisher]
  | .receiver host path group partition => [host, path, group, partition]

/-- The URI of the resource after `sb%3a%2f%2f`. -/
def uri : Resource → CString
  | .sender host path publisher =>
    host ++ sasTokenDelim ++ path ++ sasTokenDelim ++ publishers ++ sasTokenDelim ++ publisher
  | .receiver host path group partition =>
    host ++ sasTokenDelim ++ path ++ sasTokenDelim ++ consumerGroups ++ sasTokenDelim ++ group ++
      sasTokenDelim ++ partitions ++ sasTokenDelim ++ partition

end Resource

/-- A character that stands for itself in a URL. -/
def urlUnreserved (c : Char) : Bool := c.isAlphanum || c = '-' || c = '_' || c = '.'

/-- Names that are not empty and need no escaping. -/
def Resource.Unreserved (r : Resource) : Prop :=
  ∀ name ∈ r.names, name ≠ [] ∧ ∀ c ∈ name, urlUnreserved c = true

instance (r : Resource) : Decidable r.Unreserved :=
  decidable_of_iff (∀ name ∈ r.names, name ≠ [] ∧ name.all urlUnreserved = true)
    (by simp [Resource.Unreserved])

/-- The pairs of a token. -/
def tokenPairs (r : Resource) (sig se skn : CString) : KVPMap :=
  [(srKey, sasTokenURI ++ r.uri), (sigKey, sig), (seKey, se), (sknKey, skn)]

/-- A configuration with the resource, the expiry and the token that were written. -/
structure Recovers (r : Resource) (se extSASToken : CString) (cfg : EventHubAuthCBSConfig) :
    Prop where
  mode : cfg.mode = r.config.mode
  hostName : cfg.hostName = r.config.hostName
  eventHubPath : cfg.eventHubPath = r.config.eventHubPath
  senderPublisherId : cfg.senderPublisherId = r.config.senderPublisherId
  receiverConsumerGroup : cfg.receiverConsumerGroup = r.config.receiverConsumerGroup
  receiverPartitionId : cfg.receiverPartitionId = r.config.receiverPartitionId
  extSASTokenExpTSInEpochSec : cfg.extSASTokenExpTSInEpochSec.toNat = decimalValue se
  extSASTokenURI : cfg.extSASTokenURI = some (String.ofList r.uri)
  extSASToken : cfg.extSASToken = some (String.ofList extSASToken)
  credential : cfg.credential = .sasTokenExt

/-! ### The segments of a URI -/

private theorem isDelim_iff {c : Char} :
    (decide (c ∈ sasTokenDelim)) = true ↔ c = '%' ∨ c = '2' ∨ c = 'f' := by
  rw [decide_eq_true_eq]
  exact List.mem_cons.trans (or_congr_right (List.mem_cons.trans (or_congr_right
    List.mem_singleton)))

/-- A name without `2` and `f` is cut off whole. -/
theorem uriSegments_append {name : CString} (rest : CString)
    (h : Tokenizer.Clean (decide <| · ∈ sasTokenDelim) name) :
    uriSegments (name ++ (sasTokenDelim ++ rest)) = name :: uriSegments rest := by
  have hdelim : sasTokenDelim ++ rest = '%' :: '2' :: 'f' :: rest := rfl
  rw [hdelim, uriSegments, Tokenizer.tokens_append h (by decide),
    Tokenizer.tokens_delim (by decide), Tokenizer.tokens_delim (by decide), uriSegments]

theorem clean_name {name : CString} (hne : name ≠ []) (hu : ∀ c ∈ name, urlUnreserved c = true)
    (h : '2' ∉ name ∧ 'f' ∉ name) : Tokenizer.Clean (decide <| · ∈ sasTokenDelim) name := by
  refine ⟨hne, fun c hc => ?_⟩
  rw [← Bool.not_eq_true, isDelim_iff]
  rintro (rfl | rfl | rfl)
  · exact absurd (hu _ hc) (by decide)
  · exact h.1 hc
  · exact h.2 hc

/-- The parser reads the resource off a URI that is cut at the right places. -/
theorem acceptedResource_uri {r : Resource} (hr : r.Unreserved)
    (h : ∀ name ∈ r.names, '2' ∉ name ∧ 'f' ∉ name) :
    acceptedResource (uriSegments r.uri) = some r := by
  have hclean : ∀ name ∈ r.names, Tokenizer.Clean (decide <| · ∈ sasTokenDelim) name :=
    fun name hname => clean_name (hr name hname).1 (hr name hname).2 (h name hname)
  have hpublishers : Tokenizer.Clean (decide <| · ∈ sasTokenDelim) publishers := by
    decide
  have hgroups : Tokenizer.Clean (decide <| · ∈ sasTokenDelim) consumerGroups := by
    decide
  have hpartitions : Tokenizer.Clean (decide <| · ∈ sasTokenDelim) partitions := by
    decide
  cases r with
  | sender host path publisher =>
    have hhost := hclean host (by simp [Resource.names])
    have hpath := hclean path (by simp [Resource.names])
    have hpublisher := hclean publisher (by simp [Resource.names])
    simp only [Resource.uri, List.append_assoc]
    rw [uriSegments_append _ hhost, uriSegments_append _ hpath, uriSegments_append _ hpublishers,
      uriSegments, Tokenizer.tokens_of_clean hpublisher]
    simp [acceptedResource]
  | receiver host path group partition =>
    have hhost := hclean host (by simp [Resource.names])
    have hpath := hclean path (by simp [Resource.names])
    have hgroup := hclean group (by simp [Resource.names])
    have hpartition := hclean partition (by simp [Resource.names])
    have hC : ¬ consumerGroups <+: publishers := by decide
    simp only [Resource.uri, List.append_assoc]
    rw [uriSegments_append _ hhost, uriSegments_append _ hpath, uriSegments_append _ hgroups,
      uriSegments_append _ hgroup, uriSegments_append _ hpartitions, uriSegments,
      Tokenizer.tokens_of_clean hpartition]
    simp [acceptedResource, hC]

/-- The names that the parser reads are segments, so neither `2` nor `f` occurs in them. -/
theorem names_of_acceptedResource {uri : CString} {r : Resource}
    (h : acceptedResource (uriSegments uri) = some r) :
    ∀ name ∈ r.names, '2' ∉ name ∧ 'f' ∉ name := by
  have hmem : ∀ name ∈ r.names, name ∈ uriSegments uri := by
    rcases acceptedResource_cases h with
      ⟨host, path, keyword, id, rest, heq, -, rfl⟩ |
      ⟨host, path, keyword, id, keyword', partition, rest, heq, -, -, rfl⟩
    · rw [heq]
      simp [Resource.names]
    · rw [heq]
      simp [Resource.names]
  intro name hname
  have hclean := (Tokenizer.clean_of_mem_tokens (hmem name hname)).2
  exact ⟨fun h2 => absurd (hclean _ h2) (by decide), fun hf => absurd (hclean _ hf) (by decide)⟩

/-! ### The pairs of a token -/

private theorem ampersand_notMem_names {r : Resource} (hr : r.Unreserved) :
    ∀ name ∈ r.names, '&' ∉ name :=
  fun name hname hmem => absurd ((hr name hname).2 _ hmem) (by decide)

private theorem ampersand_notMem_uri {r : Resource} (hr : r.Unreserved) :
    '&' ∉ sasTokenURI ++ r.uri := by
  have hnames := ampersand_notMem_names hr
  have hstart : '&' ∉ sasTokenURI := by decide
  have hdelim : '&' ∉ sasTokenDelim := by decide
  have hpublishers : '&' ∉ publishers := by decide
  have hgroups : '&' ∉ consumerGroups := by decide
  have hpartitions : '&' ∉ partitions := by decide
  cases r <;>
    simp_all [Resource.uri, Resource.names]

variable {r : Resource} {sig se skn : CString} {pairs : KVPMap}

/-- The pairs of a token can be read back, in any order. -/
theorem readablePairs_token (hr : r.Unreserved) (hsig : sig ≠ [] ∧ '&' ∉ sig)
    (hskn : skn ≠ [] ∧ '&' ∉ skn) (hse : IsNumeral se)
    (hpairs : pairs.Perm (tokenPairs r sig se skn)) : ReadablePairs '=' '&' pairs := by
  have hse' : '&' ∉ se := fun hmem => absurd (hse.2 _ hmem) (by decide)
  have hsr : srKey ≠ [] ∧ '=' ∉ srKey := by decide
  have hsigKey : sigKey ≠ [] ∧ '=' ∉ sigKey := by decide
  have hseKey : seKey ≠ [] ∧ '=' ∉ seKey := by decide
  have hsknKey : sknKey ≠ [] ∧ '=' ∉ sknKey := by decide
  intro p hp
  have hp := hpairs.mem_iff.mp hp
  simp only [tokenPairs, List.mem_cons, List.not_mem_nil, or_false] at hp
  rcases hp with rfl | rfl | rfl | rfl
  · have hne : sasTokenURI ++ r.uri ≠ [] := List.append_ne_nil_of_left_ne_nil (by decide) _
    exact ⟨hsr, hne, ampersand_notMem_uri hr⟩
  · exact ⟨hsigKey, hsig⟩
  · exact ⟨hseKey, hse.1, hse'⟩
  · exact ⟨hsknKey, hskn⟩

theorem keys_token_nodup (hpairs : pairs.Perm (tokenPairs r sig se skn)) : pairs.keys.Nodup := by
  have hkeys : (KVPMap.keys (tokenPairs r sig se skn)).Nodup := by
    change [srKey, sigKey, seKey, sknKey].Nodup
    decide
  exact (hpairs.map Prod.fst).nodup_iff.mpr hkeys

/-- The URI and the expiry of a token are read as they were written. -/
theorem getURIAndExpiration_token (hr : r.Unreserved) (hsig : sig ≠ [] ∧ '&' ∉ sig)
    (hskn : skn ≠ [] ∧ '&' ∉ skn) (hse : IsNumeral se) (hlt : decimalValue se < 2 ^ 64 - 1)
    (hpairs : pairs.Perm (tokenPairs r sig se skn)) (errno : Errno) :
    getURIAndExpirationFromSASToken { errno := errno }
        (sasTokenStart ++ renderPairs '=' '&' pairs) =
      some (r.uri, UInt64.ofNat (decimalValue se)) := by
  have hnodup := keys_token_nodup hpairs
  have hget : ∀ key value, (key, value) ∈ tokenPairs r sig se skn →
      pairs.getValueFromKey key = some value := fun key value hp =>
    (KVPMap.getValueFromKey_eq_some_iff hnodup).mpr (hpairs.mem_iff.mpr hp)
  have hrange : ¬ OutOfRange strtoull errno se := by
    rw [outOfRange_iff hse]
    omega
  have hvalue : (strtoull se errno).1 = UInt64.ofNat (decimalValue se) := by
    rw [strtoull_of_isNumeral hse, if_pos (by omega)]
  have hread := readablePairs_token hr hsig hskn hse hpairs
  rw [getURIAndExpirationFromSASToken_renderPairs errno hread, if_pos hnodup,
    checkTokenMap_eq_some_iff]
  have hsr := hget srKey (sasTokenURI ++ r.uri) (by simp [tokenPairs])
  have hsigKey := hget sigKey sig (by simp [tokenPairs])
  have hsknKey := hget sknKey skn (by simp [tokenPairs])
  have hseKey := hget seKey se (by simp [tokenPairs])
  exact ⟨sasTokenURI ++ r.uri, sig, skn, se, hsr, hsigKey, hsknKey, hseKey,
    List.prefix_append _ _, hsig.1, hskn.1, hse.1, hrange, List.drop_left.symm, hvalue.symm⟩

/-- Resources with the same fields are the same. -/
theorem Resource.config_injective {r r' : Resource} (hmode : r.config.mode = r'.config.mode)
    (hhost : r.config.hostName = r'.config.hostName)
    (hpath : r.config.eventHubPath = r'.config.eventHubPath)
    (hpublisher : r.config.senderPublisherId = r'.config.senderPublisherId)
    (hgroup : r.config.receiverConsumerGroup = r'.config.receiverConsumerGroup)
    (hpartition : r.config.receiverPartitionId = r'.config.receiverPartitionId) : r = r' := by
  cases r <;> cases r' <;>
    simp_all [Resource.config, String.ofList_inj]

/-- A token gives back what was written in it exactly when neither the digit `2` nor the letter
`f` occurs in its names. -/
theorem recovers_iff (hr : r.Unreserved) (hsig : sig ≠ [] ∧ '&' ∉ sig)
    (hskn : skn ≠ [] ∧ '&' ∉ skn) (hse : IsNumeral se) (hlt : decimalValue se < 2 ^ 64 - 1)
    (hpairs : pairs.Perm (tokenPairs r sig se skn)) (errno : Errno) :
    (∃ cfg ∈ sasTokenParse uriSegments { errno := errno }
        (some (sasTokenStart ++ renderPairs '=' '&' pairs)),
      Recovers r se (sasTokenStart ++ renderPairs '=' '&' pairs) cfg) ↔
      ∀ name ∈ r.names, '2' ∉ name ∧ 'f' ∉ name := by
  have hget := getURIAndExpiration_token hr hsig hskn hse hlt hpairs errno
  have hparse := sasTokenParse_eq uriSegments errno
    (sasTokenStart ++ renderPairs '=' '&' pairs)
    fun uri t ht => (Tokenizer.clean_of_mem_tokens ht).1
  rw [hget, Option.bind_some] at hparse
  rw [hparse]
  constructor
  · rintro ⟨cfg, hcfg, hrec⟩
    obtain ⟨r', hr', rfl⟩ := Option.map_eq_some_iff.mp hcfg
    obtain rfl : r' = r := Resource.config_injective hrec.mode hrec.hostName hrec.eventHubPath
      hrec.senderPublisherId hrec.receiverConsumerGroup hrec.receiverPartitionId
    exact names_of_acceptedResource hr'
  · intro hnames
    rw [acceptedResource_uri hr hnames]
    refine ⟨_, rfl, rfl, rfl, rfl, rfl, rfl, rfl, ?_, rfl, rfl, rfl⟩
    have hsize : decimalValue se < UInt64.size := lt_of_lt_of_le hlt (by decide)
    exact UInt64.toNat_ofNat_of_lt' hsize

/-- The statement at a token of a publisher. -/
theorem recovers_publisher :
    (∃ cfg ∈ sasTokenParse uriSegments {}
        (some (sasTokenStart ++ renderPairs '=' '&'
          (tokenPairs (.sender "host".toList "hub".toList "p1".toList) "s=".toList "1000".toList
            "key".toList))),
      Recovers (.sender "host".toList "hub".toList "p1".toList) "1000".toList
        (sasTokenStart ++ renderPairs '=' '&'
          (tokenPairs (.sender "host".toList "hub".toList "p1".toList) "s=".toList "1000".toList
            "key".toList)) cfg) :=
  (recovers_iff (by decide) (by decide) (by decide) (by decide)
    (by decide) (List.Perm.refl _) 0).mpr (by decide)

/-- A token for the consumer group `default` gives another group back. -/
theorem default_consumer_group_lost :
    ¬ ∃ cfg ∈ sasTokenParse uriSegments {}
        (some (sasTokenStart ++ renderPairs '=' '&'
          (tokenPairs (.receiver "host".toList "hub".toList "default".toList "0".toList)
            "s=".toList "1000".toList "key".toList))),
      Recovers (.receiver "host".toList "hub".toList "default".toList "0".toList) "1000".toList
        (sasTokenStart ++ renderPairs '=' '&'
          (tokenPairs (.receiver "host".toList "hub".toList "default".toList "0".toList)
            "s=".toList "1000".toList "key".toList)) cfg := by
  rintro ⟨cfg, hcfg, hrec⟩
  have hnone : sasTokenParse uriSegments {}
      (some (sasTokenStart ++ renderPairs '=' '&'
        (tokenPairs (.receiver "host".toList "hub".toList "default".toList "0".toList)
          "s=".toList "1000".toList "key".toList))) = none := by decide +kernel
  rw [hnone] at hcfg
  exact absurd hcfg (by simp)

end EventHubAuthCBS

end EventHubs
