import EventHubs.SASToken.Parse

/-!
# The resource grammar of a SAS token

The requirement document wants the third segment of the URI to be `publishers`, with a fourth
one after it, or `ConsumerGroups`, with `Partitions` as the fifth and a sixth one after that. The
parser compares a segment with its keyword over the length of the segment, so every prefix of
the keyword passes as well. Beyond these near misses it accepts the documented grammar only.

## Main definitions

* `EventHubAuthCBS.DocumentedSender`, `EventHubAuthCBS.DocumentedReceiver` — the grammar.
* `EventHubAuthCBS.AcceptsDocumentedGrammar` — what the parser should do.
* `EventHubAuthCBS.NearMiss` — segments with a shortened keyword.

## Main results

* `EventHubAuthCBS.acceptsDocumentedGrammar_iff` — the grammar is met away from the near misses.
* `EventHubAuthCBS.accepts_shortened_keyword` — a token with the keyword `p`.
-/

namespace EventHubs

namespace EventHubAuthCBS

/-- The segments of a sender. -/
def DocumentedSender (segments : List CString) : Prop :=
  segments[2]? = some publishers ∧ 4 ≤ segments.length

/-- The segments of a receiver. -/
def DocumentedReceiver (segments : List CString) : Prop :=
  segments[2]? = some consumerGroups ∧ segments[4]? = some partitions ∧ 6 ≤ segments.length

/-- A configuration with the mode and the fields of a sender. -/
structure SenderFields (segments : List CString) (cfg : EventHubAuthCBSConfig) : Prop where
  mode : cfg.mode = .sender
  hostName : cfg.hostName = segments[0]?.map String.ofList
  eventHubPath : cfg.eventHubPath = segments[1]?.map String.ofList
  senderPublisherId : cfg.senderPublisherId = segments[3]?.map String.ofList
  receiverConsumerGroup : cfg.receiverConsumerGroup = none
  receiverPartitionId : cfg.receiverPartitionId = none

/-- A configuration with the mode and the fields of a receiver. -/
structure ReceiverFields (segments : List CString) (cfg : EventHubAuthCBSConfig) : Prop where
  mode : cfg.mode = .receiver
  hostName : cfg.hostName = segments[0]?.map String.ofList
  eventHubPath : cfg.eventHubPath = segments[1]?.map String.ofList
  senderPublisherId : cfg.senderPublisherId = none
  receiverConsumerGroup : cfg.receiverConsumerGroup = segments[3]?.map String.ofList
  receiverPartitionId : cfg.receiverPartitionId = segments[5]?.map String.ofList

/-- A configuration is returned exactly when the URI and the expiry could be read and the
segments are in the grammar, and then it has their fields. -/
def AcceptsDocumentedGrammar (tokenize : CString → List CString) (env : SASTokenParseEnv)
    (extSASToken : CString) : Prop :=
  ((sasTokenParse tokenize env (some extSASToken)).isSome = true ↔
    ∃ u ∈ getURIAndExpirationFromSASToken env extSASToken,
      DocumentedSender (tokenize u.1) ∨ DocumentedReceiver (tokenize u.1)) ∧
  ∀ u ∈ getURIAndExpirationFromSASToken env extSASToken,
    ∀ cfg ∈ sasTokenParse tokenize env (some extSASToken),
      (DocumentedSender (tokenize u.1) → SenderFields (tokenize u.1) cfg) ∧
      (DocumentedReceiver (tokenize u.1) → ReceiverFields (tokenize u.1) cfg)

instance (segments : List CString) : Decidable (DocumentedSender segments) :=
  inferInstanceAs (Decidable (_ ∧ _))

instance (segments : List CString) : Decidable (DocumentedReceiver segments) :=
  inferInstanceAs (Decidable (_ ∧ _))

/-- Enough segments for a sender, with a proper prefix of the keyword. -/
def NearMissSender (segments : List CString) : Prop :=
  4 ≤ segments.length ∧ ∃ t ∈ segments[2]?, t <+: publishers ∧ t ≠ publishers

/-- Enough segments for a receiver, with prefixes of the keywords of which one is proper. -/
def NearMissReceiver (segments : List CString) : Prop :=
  6 ≤ segments.length ∧ ∃ t ∈ segments[2]?, ∃ t' ∈ segments[4]?,
    t <+: consumerGroups ∧ t' <+: partitions ∧ (t ≠ consumerGroups ∨ t' ≠ partitions)

instance (segments : List CString) : Decidable (NearMissSender segments) :=
  inferInstanceAs (Decidable (_ ∧ _))

instance (segments : List CString) : Decidable (NearMissReceiver segments) :=
  inferInstanceAs (Decidable (_ ∧ _))

/-- Segments that are not in the grammar but look like it as far as they go. -/
def NearMiss (segments : List CString) : Prop :=
  NearMissSender segments ∨ NearMissReceiver segments

instance (segments : List CString) : Decidable (NearMiss segments) :=
  inferInstanceAs (Decidable (_ ∨ _))

/-- The keywords begin with different letters. -/
private theorem not_prefix_publishers {t : CString} (ht : t ≠ []) (hc : t <+: consumerGroups) :
    ¬ t <+: publishers := by
  intro hp
  obtain ⟨c, t, rfl⟩ := List.exists_cons_of_ne_nil ht
  have hc : c = 'C' := (List.cons_prefix_cons.mp hc).1
  have hp : c = 'p' := (List.cons_prefix_cons.mp hp).1
  exact absurd (hc.symm.trans hp) (by decide)

section Accepted

variable {segments : List CString}

/-- Segments that are accepted are in the grammar or a near miss. -/
theorem documented_or_nearMiss (h : (acceptedResource segments).isSome = true) :
    (DocumentedSender segments ∨ DocumentedReceiver segments) ∨ NearMiss segments := by
  obtain ⟨r, hr⟩ := Option.isSome_iff_exists.mp h
  rcases acceptedResource_cases hr with
    ⟨host, path, keyword, id, rest, rfl, hp, -⟩ |
    ⟨host, path, keyword, id, keyword', partition, rest, rfl, hc, hk, -⟩
  · by_cases heq : keyword = publishers
    · exact .inl (.inl ⟨congrArg some heq, by simp⟩)
    · exact .inr (.inl ⟨by simp, keyword, rfl, hp, heq⟩)
  · by_cases heq : keyword = consumerGroups ∧ keyword' = partitions
    · exact .inl (.inr ⟨congrArg some heq.1, congrArg some heq.2, by simp⟩)
    · exact .inr (.inr ⟨by simp, keyword, rfl, keyword', rfl, hc, hk, not_and_or.mp heq⟩)

/-- The segments of a sender are accepted with the fields they name. -/
theorem DocumentedSender.accepted (h : DocumentedSender segments) :
    ∃ r, acceptedResource segments = some r ∧ SenderFields segments r.config := by
  obtain ⟨hkeyword, hlength⟩ := h
  match segments, hkeyword, hlength with
  | host :: path :: keyword :: id :: rest, hkeyword, _ =>
    obtain rfl : keyword = publishers := by simpa using hkeyword
    exact ⟨.sender host path id, by simp [acceptedResource], rfl, rfl, rfl, rfl, rfl, rfl⟩
  | [], _, h | [_], _, h | [_, _], _, h | [_, _, _], _, h => simp at h

/-- The segments of a receiver are accepted with the fields they name. -/
theorem DocumentedReceiver.accepted (h : DocumentedReceiver segments) :
    ∃ r, acceptedResource segments = some r ∧ ReceiverFields segments r.config := by
  obtain ⟨hkeyword, hpartitions, hlength⟩ := h
  match segments, hkeyword, hpartitions, hlength with
  | host :: path :: keyword :: id :: keyword' :: partition :: rest, hkeyword, hpartitions, _ =>
    obtain rfl : keyword = consumerGroups := by simpa using hkeyword
    obtain rfl : keyword' = partitions := by simpa using hpartitions
    have hp : ¬ consumerGroups <+: publishers := by decide
    exact ⟨.receiver host path id partition, by simp [acceptedResource, hp], rfl, rfl, rfl, rfl,
      rfl, rfl⟩
  | [], _, _, h | [_], _, _, h | [_, _], _, _, h | [_, _, _], _, _, h | [_, _, _, _], _, _, h
    | [_, _, _, _, _], _, _, h => simp at h

/-- Near misses are accepted. -/
theorem NearMiss.accepted (hne : ∀ t ∈ segments, t ≠ []) (h : NearMiss segments) :
    (acceptedResource segments).isSome = true := by
  rcases h with ⟨hlength, t, ht, hprefix, -⟩ | ⟨hlength, t, ht, t', ht', hprefix, hprefix', -⟩
  · rcases segments with _ | ⟨host, _ | ⟨path, _ | ⟨keyword, _ | ⟨id, rest⟩⟩⟩⟩
    case cons.cons.cons.cons =>
      obtain rfl : keyword = t := by simpa using ht
      simp [acceptedResource, hprefix]
    all_goals simp at hlength
  · rcases segments with _ | ⟨host, _ | ⟨path, _ | ⟨keyword, _ | ⟨id, _ | ⟨keyword', _ |
      ⟨partition, rest⟩⟩⟩⟩⟩⟩
    case cons.cons.cons.cons.cons.cons =>
      obtain rfl : keyword = t := by simpa using ht
      obtain rfl : keyword' = t' := by simpa using ht'
      have hp := not_prefix_publishers (hne keyword (by simp)) hprefix
      simp [acceptedResource, hp, hprefix, hprefix']
    all_goals simp at hlength

/-- Near misses are not in the grammar. -/
theorem NearMiss.not_documented (h : NearMiss segments) :
    ¬ (DocumentedSender segments ∨ DocumentedReceiver segments) := by
  have hC : ¬ consumerGroups <+: publishers := by decide
  have hP : ¬ publishers <+: consumerGroups := by decide
  rcases h with ⟨-, t, ht, hprefix, hproper⟩ | ⟨-, t, ht, t', ht', hprefix, hprefix', hproper⟩
  · rintro (⟨hkeyword, -⟩ | ⟨hkeyword, -, -⟩)
    · exact hproper (Option.some.inj (ht.symm.trans hkeyword))
    · obtain rfl : t = consumerGroups := Option.some.inj (ht.symm.trans hkeyword)
      exact hC hprefix
  · rintro (⟨hkeyword, -⟩ | ⟨hkeyword, hpartitions, -⟩)
    · obtain rfl : t = publishers := Option.some.inj (ht.symm.trans hkeyword)
      exact hP hprefix
    · have heq : t = consumerGroups := Option.some.inj (ht.symm.trans hkeyword)
      have heq' : t' = partitions := Option.some.inj (ht'.symm.trans hpartitions)
      exact hproper.elim (· heq) (· heq')

end Accepted

/-- The grammar is met exactly when the segments of a token whose URI and expiry can be read are
no near miss. -/
theorem acceptsDocumentedGrammar_iff (tokenize : CString → List CString)
    (htokenize : ∀ uri, ∀ t ∈ tokenize uri, t ≠ []) (errno : Errno) (extSASToken : CString) :
    AcceptsDocumentedGrammar tokenize { errno := errno } extSASToken ↔
      ¬ ∃ u ∈ getURIAndExpirationFromSASToken { errno := errno } extSASToken,
        NearMiss (tokenize u.1) := by
  have heq := sasTokenParse_eq tokenize errno extSASToken htokenize
  cases hget : getURIAndExpirationFromSASToken { errno := errno } extSASToken with
  | none =>
    rw [hget, Option.bind_none] at heq
    simp [AcceptsDocumentedGrammar, hget, heq]
  | some u =>
    rw [hget, Option.bind_some] at heq
    simp only [AcceptsDocumentedGrammar, hget, heq, Option.isSome_map, Option.mem_def,
      Option.some.injEq, exists_eq_left', forall_eq']
    constructor
    · rintro ⟨hsome, -⟩ hnear
      exact hnear.not_documented (hsome.mp (hnear.accepted (htokenize u.1)))
    · intro hnear
      refine ⟨⟨fun h => (documented_or_nearMiss h).resolve_right hnear, ?_⟩, ?_⟩
      · rintro (h | h)
        · obtain ⟨r, hr, -⟩ := h.accepted
          simp [hr]
        · obtain ⟨r, hr, -⟩ := h.accepted
          simp [hr]
      · intro cfg hcfg
        obtain ⟨r, hr, rfl⟩ := Option.map_eq_some_iff.mp hcfg
        constructor
        · intro h
          obtain ⟨r', hr', hf⟩ := h.accepted
          obtain rfl : r' = r := Option.some.inj (hr'.symm.trans hr)
          exact ⟨hf.1, hf.2, hf.3, hf.4, hf.5, hf.6⟩
        · intro h
          obtain ⟨r', hr', hf⟩ := h.accepted
          obtain rfl : r' = r := Option.some.inj (hr'.symm.trans hr)
          exact ⟨hf.1, hf.2, hf.3, hf.4, hf.5, hf.6⟩

/-- The statement at a token of a publisher, cut at its delimiters. -/
theorem acceptsDocumentedGrammar_publisher :
    AcceptsDocumentedGrammar uriSegments {}
      "SharedAccessSignature sr=sb%3a%2f%2fh%2fe%2fpublishers%2fp&sig=s&se=1&skn=k".toList :=
  (acceptsDocumentedGrammar_iff uriSegments
    (fun _ _ ht => (Tokenizer.clean_of_mem_tokens ht).1) 0 _).mpr (by decide +kernel)

/-- A token whose keyword is `p` is taken for a sender's. -/
theorem accepts_shortened_keyword :
    ¬ AcceptsDocumentedGrammar uriSegments {}
      "SharedAccessSignature sr=sb%3a%2f%2fh%2fe%2fp%2fx&sig=s&se=1&skn=k".toList := by
  rintro ⟨haccepts, -⟩
  have hsome := haccepts.mp (by decide +kernel)
  exact absurd hsome (by decide +kernel)

end EventHubAuthCBS

end EventHubs
