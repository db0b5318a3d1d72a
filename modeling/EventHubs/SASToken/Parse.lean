import EventHubs.Auth.Types
import EventHubs.SASToken.KVPParser
import Mathlib.Algebra.Group.Nat.Defs

/-!
# Parsing a SAS token

`EventHubAuthCBS_SASTokenParse` and `GetURIAndExpirationFromSASToken` of `eventhubauth.c`. The
segments of the resource URI are those that `tokenize` yields, which stands for the calls of
`STRING_TOKENIZER_get_next_token` with the delimiter `%2f`. The conversion of the expiry is part of
the outside, and that of the C library unless it is said otherwise.

## Main definitions

* `strtoull`, `strncmpIsZero` — the C library.
* `SASTokenCall`, `SASTokenParseEnv` — the outside.
* `EventHubAuthCBS.getURIAndExpirationFromSASToken`, `EventHubAuthCBS.sasTokenParse`.
* `EventHubAuthCBS.Resource`, `EventHubAuthCBS.acceptedResource` — what the loop makes of the
  segments.

## Main results

* `EventHubAuthCBS.sasTokenParse_eq` — parsing, when no call fails.
-/

namespace EventHubs

/-! ### The C library -/

/-- `errno`. -/
abbrev Errno := ℕ

/-- `ERANGE`. -/
def erange : Errno := 34

/-- `ULLONG_MAX`. -/
def ullongMax : UInt64 := 18446744073709551615

/-- `isspace`. -/
def isSpace (c : Char) : Bool := c = ' ' || (9 ≤ c.toNat && c.toNat ≤ 13)

/-- The number that decimal digits stand for. -/
def decimalValue (digits : CString) : ℕ :=
  digits.foldl (fun n c => 10 * n + (c.toNat - '0'.toNat)) 0

/-- The sign in front of a number: whether it is a minus, and what follows it. -/
def strtoullSign (text : CString) : Bool × CString :=
  match text with
  | '-' :: rest => (true, rest)
  | '+' :: rest => (false, rest)
  | _ => (false, text)

/-- `strtoull(nptr, NULL, 10)`: spaces, a sign, digits; whatever follows is not looked at. A number
out of range sets `errno`, any other leaves it alone. -/
def strtoull (nptr : CString) (errno : Errno) : UInt64 × Errno :=
  let (negative, text) := strtoullSign (nptr.dropWhile isSpace)
  let n := decimalValue (text.takeWhile Char.isDigit)
  if n < 2 ^ 64 then (if negative then -UInt64.ofNat n else UInt64.ofNat n, errno)
  else (ullongMax, erange)

/-- `strncmp(s1, s2, n) == 0`. -/
def strncmpIsZero : CString → CString → ℕ → Bool
  | _, _, 0 => true
  | [], [], _ + 1 => true
  | c :: s1, d :: s2, n + 1 => c = d && strncmpIsZero s1 s2 n
  | _, _, _ + 1 => false

theorem strncmpIsZero_iff {s1 s2 : CString} {n : ℕ} :
    strncmpIsZero s1 s2 n = true ↔ s1.take n = s2.take n := by
  induction s1, s2, n using strncmpIsZero.induct with
  | case1 | case2 => simp [strncmpIsZero]
  | case3 c s1 d s2 n ih => simp [strncmpIsZero, ih]
  | case4 s1 s2 n hnil hcons =>
    rw [strncmpIsZero.eq_4 _ _ _ hnil hcons]
    cases s1 with
    | nil =>
      cases s2 with
      | nil => exact (hnil rfl rfl).elim
      | cons d s2 => simp
    | cons c s1 =>
      cases s2 with
      | nil => simp
      | cons d s2 => exact (hcons c s1 d s2 rfl rfl).elim

/-- Compared over its own length, a string passes as soon as it is a prefix. -/
theorem strncmpIsZero_length {s1 s2 : CString} :
    strncmpIsZero s1 s2 s1.length = true ↔ s1 <+: s2 := by
  rw [strncmpIsZero_iff, List.take_length, List.prefix_iff_eq_take]

/-! ### The outside -/

/-- `SASTOKEN_URI_ELEMENT`. -/
inductive SASTokenURIElement
  | hostName
  | eventHub
  | publisherOrConsumer
  | publisherIdOrConsumerId
  | partition
  | partitionId
  | unknown
  deriving DecidableEq, Repr

/-- The calls of `EventHubAuthCBS_SASTokenParse` and `GetURIAndExpirationFromSASToken` that can
fail; those of the loop come with the element they are made for. -/
inductive SASTokenCall
  | constructToken
  | newURI
  | copyURI
  | malloc
  | tokenizerCreate
  | newToken
  | cStr (elem : SASTokenURIElement)
  | constructN (elem : SASTokenURIElement)
  deriving DecidableEq, Repr

/-- What the environment contributes to one call of `EventHubAuthCBS_SASTokenParse`: the outcome
of the calls it makes, the value of `errno` on entry, and the conversion `strtoull_s` with what it
does to `errno`. -/
structure SASTokenParseEnv where
  errno : Errno := 0
  strtoullS : CString → Errno → UInt64 × Errno := strtoull
  succeeds : SASTokenCall → Bool := fun _ => true
  kvpParser : KVPParserEnv := {}

namespace EventHubAuthCBS

/-! ### `GetURIAndExpirationFromSASToken` -/

/-- `sasTokenStart`. -/
def sasTokenStart : CString := "SharedAccessSignature ".toList

/-- `sasTokenURI`. -/
def sasTokenURI : CString := "sb%3a%2f%2f".toList

/-- `sasTokenDelim`. -/
def sasTokenDelim : CString := "%2f".toList

/-- The key of the URI. -/
def srKey : CString := "sr".toList

/-- The key of the signature. -/
def sigKey : CString := "sig".toList

/-- The key of the key name. -/
def sknKey : CString := "skn".toList

/-- The key of the expiry. -/
def seKey : CString := "se".toList

/-- The keyword of a sender's URI. -/
def publishers : CString := "publishers".toList

/-- The first keyword of a receiver's URI. -/
def consumerGroups : CString := "ConsumerGroups".toList

/-- The second keyword of a receiver's URI. -/
def partitions : CString := "Partitions".toList

/-- The checks of `GetURIAndExpirationFromSASToken` on what `kvp_parser_parse` has read. -/
def checkTokenMap (env : SASTokenParseEnv) (tokenMap : KVPMap) : Option (CString × UInt64) :=
  match tokenMap.getValueFromKey srKey with
  | none => none
  | some uri =>
    if uri.length = 0 then none
    else if !strncmpIsZero sasTokenURI uri sasTokenURI.length then none
    else if !env.succeeds .copyURI then none
    else
      match tokenMap.getValueFromKey sigKey with
      | none => none
      | some sig =>
        if sig.length = 0 then none
        else
          match tokenMap.getValueFromKey sknKey with
          | none => none
          | some skn =>
            if skn.length = 0 then none
            else
              match tokenMap.getValueFromKey seKey with
              | none => none
              | some expirationTS =>
                if expirationTS.length = 0 then none
                else
                  let converted := env.strtoullS expirationTS env.errno
                  if converted.1 = ullongMax && converted.2 = erange then none
                  else some (uri.drop sasTokenURI.length, converted.1)

/-- `GetURIAndExpirationFromSASToken`: the URI and the expiry it stores when it returns 0. -/
def getURIAndExpirationFromSASToken (env : SASTokenParseEnv) (sasToken : CString) :
    Option (CString × UInt64) :=
  if !strncmpIsZero sasTokenStart sasToken sasTokenStart.length then none
  else
    match kvpParserParse env.kvpParser (some (sasToken.drop sasTokenStart.length))
      (some "=".toList) (some "&".toList) with
    | none => none
    | some tokenMap => checkTokenMap env tokenMap

/-! ### `EventHubAuthCBS_SASTokenParse` -/

/-- The locals of the loop over the segments and the configuration it fills. -/
structure SASTokenURIState where
  elem : SASTokenURIElement := .hostName
  isError : Bool := false
  isDone : Bool := false
  result : EventHubAuthCBSConfig := {}

namespace SASTokenURIState

/-- `STRING_construct_n` into a field of the configuration, and what the loop does next. -/
def construct (s : SASTokenURIState) (env : SASTokenParseEnv) (result : EventHubAuthCBSConfig)
    (next : SASTokenURIState → SASTokenURIState) : SASTokenURIState :=
  if !env.succeeds (.constructN s.elem) then { s with isError := true }
  else next { s with result := result }

/-- The body of the loop over the segments. -/
def element (s : SASTokenURIState) (env : SASTokenParseEnv) (token : CString) :
    SASTokenURIState :=
  if !env.succeeds (.cStr s.elem) || token.length = 0 then { s with isError := true }
  else
    let text := some (String.ofList token)
    match s.elem with
    | .hostName =>
      s.construct env { s.result with hostName := text } fun s => { s with elem := .eventHub }
    | .eventHub =>
      s.construct env { s.result with eventHubPath := text } fun s =>
        { s with elem := .publisherOrConsumer }
    | .publisherOrConsumer =>
      -- the length is that of the segment, not that of the keyword
      if strncmpIsZero token publishers token.length then
        { s with result := { s.result with mode := .sender }, elem := .publisherIdOrConsumerId }
      else if strncmpIsZero token consumerGroups token.length then
        { s with result := { s.result with mode := .receiver }, elem := .publisherIdOrConsumerId }
      else { s with isError := true }
    | .publisherIdOrConsumerId =>
      if s.result.mode = .sender then
        s.construct env { s.result with senderPublisherId := text } fun s =>
          { s with isDone := true }
      else
        s.construct env { s.result with receiverConsumerGroup := text } fun s =>
          { s with elem := .partition }
    | .partition =>
      if !strncmpIsZero token partitions token.length then { s with isError := true }
      else { s with elem := .partitionId }
    | .partitionId =>
      s.construct env { s.result with receiverPartitionId := text } fun s =>
        { s with isDone := true }
    | .unknown => { s with isError := true }

/-- The loop over the segments. -/
def segments (env : SASTokenParseEnv) : List CString → SASTokenURIState → SASTokenURIState
  | [], s => s
  | token :: rest, s =>
    if s.isError || s.isDone then s else segments env rest (s.element env token)

end SASTokenURIState

variable (tokenize : CString → List CString)

/-- `EventHubAuthCBS_SASTokenParse`; `none` is NULL. -/
def sasTokenParse (env : SASTokenParseEnv) (extSASToken : Option CString) :
    Option EventHubAuthCBSConfig :=
  match extSASToken with
  | none => none
  | some extSASToken =>
    if !env.succeeds .constructToken then none
    else if !env.succeeds .newURI then none
    else
      match getURIAndExpirationFromSASToken env extSASToken with
      | none => none
      | some (uriData, expirationTimestamp) =>
        if !env.succeeds .malloc then none
        else if !env.succeeds .tokenizerCreate then none
        else if !env.succeeds .newToken then none
        else
          let s := SASTokenURIState.segments env (tokenize uriData) {}
          if s.isError || !s.isDone then none
          else
            some { s.result with
              extSASTokenExpTSInEpochSec := expirationTimestamp
              extSASTokenURI := some (String.ofList uriData)
              extSASToken := some (String.ofList extSASToken)
              credential := .sasTokenExt }

/-- The segments of a URI, cut at the characters of `sasTokenDelim`. -/
def uriSegments (uri : CString) : List CString :=
  Tokenizer.tokens (decide <| · ∈ sasTokenDelim) uri

/-! ### What the loop makes of the segments -/

/-- The entity that a token authorizes. -/
inductive Resource
  | sender (hostName eventHubPath senderPublisherId : CString)
  | receiver (hostName eventHubPath receiverConsumerGroup receiverPartitionId : CString)
  deriving DecidableEq

/-- The fields of the configuration that name the entity. -/
def Resource.config : Resource → EventHubAuthCBSConfig
  | .sender host path publisher =>
    { mode := .sender, hostName := some (String.ofList host),
      eventHubPath := some (String.ofList path),
      senderPublisherId := some (String.ofList publisher) }
  | .receiver host path group partition =>
    { mode := .receiver, hostName := some (String.ofList host),
      eventHubPath := some (String.ofList path),
      receiverConsumerGroup := some (String.ofList group),
      receiverPartitionId := some (String.ofList partition) }

/-- The resource that the loop reads off the segments: a keyword passes when it is a prefix of
the expected one. -/
def acceptedResource : List CString → Option Resource
  | host :: path :: keyword :: id :: rest =>
    if keyword <+: publishers then some (.sender host path id)
    else if keyword <+: consumerGroups then
      match rest with
      | keyword :: partition :: _ =>
        if keyword <+: partitions then some (.receiver host path id partition) else none
      | _ => none
    else none
  | _ => none

/-- The segments of which the loop accepts the beginning. -/
theorem acceptedResource_cases {tokens : List CString} {r : Resource}
    (h : acceptedResource tokens = some r) :
    (∃ host path keyword id rest, tokens = host :: path :: keyword :: id :: rest ∧
      keyword <+: publishers ∧ r = .sender host path id) ∨
    ∃ host path keyword id keyword' partition rest,
      tokens = host :: path :: keyword :: id :: keyword' :: partition :: rest ∧
      keyword <+: consumerGroups ∧ keyword' <+: partitions ∧
      r = .receiver host path id partition := by
  match tokens, h with
  | host :: path :: keyword :: id :: rest, h =>
    by_cases hp : keyword <+: publishers
    · have hr : Resource.sender host path id = r := by simpa [acceptedResource, hp] using h
      exact .inl ⟨host, path, keyword, id, rest, rfl, hp, hr.symm⟩
    · by_cases hc : keyword <+: consumerGroups
      · match rest, h with
        | [], h | [_], h => simp [acceptedResource, hp, hc] at h
        | keyword' :: partition :: rest, h =>
          have hr : keyword' <+: partitions ∧ Resource.receiver host path id partition = r := by
            simpa [acceptedResource, hp, hc] using h
          exact .inr ⟨host, path, keyword, id, keyword', partition, rest, rfl, hc, hr.1, hr.2.symm⟩
      · simp [acceptedResource, hp, hc] at h
  | [], h | [_], h | [_, _], h | [_, _, _], h => simp [acceptedResource] at h

namespace SASTokenURIState

variable {errno : Errno} {token : CString}

/-- With a segment that is not empty and no failing call, the body is its `switch`. -/
theorem element_eq (s : SASTokenURIState) (ht : token ≠ []) :
    s.element { errno := errno } token =
      match s.elem with
      | .hostName =>
        { s with
          result := { s.result with hostName := some (String.ofList token) }
          elem := .eventHub }
      | .eventHub =>
        { s with
          result := { s.result with eventHubPath := some (String.ofList token) }
          elem := .publisherOrConsumer }
      | .publisherOrConsumer =>
        if token <+: publishers then
          { s with result := { s.result with mode := .sender }, elem := .publisherIdOrConsumerId }
        else if token <+: consumerGroups then
          { s with result := { s.result with mode := .receiver }, elem := .publisherIdOrConsumerId }
        else { s with isError := true }
      | .publisherIdOrConsumerId =>
        if s.result.mode = .sender then
          { s with
            result := { s.result with senderPublisherId := some (String.ofList token) }
            isDone := true }
        else
          { s with
            result := { s.result with receiverConsumerGroup := some (String.ofList token) }
            elem := .partition }
      | .partition =>
        if token <+: partitions then { s with elem := .partitionId }
        else { s with isError := true }
      | .partitionId =>
        { s with
          result := { s.result with receiverPartitionId := some (String.ofList token) }
          isDone := true }
      | .unknown => { s with isError := true } := by
  simp only [element, construct, strncmpIsZero_length, List.length_eq_zero_iff, ht]
  cases s.elem with
  | partition =>
    by_cases h : token <+: partitions
    · simp [strncmpIsZero_length.mpr h, h]
    · simp [strncmpIsZero_length.not.mpr h, h]
  | hostName => rfl
  | eventHub => rfl
  | publisherOrConsumer => rfl
  | publisherIdOrConsumerId => rfl
  | partitionId => rfl
  | unknown => rfl

/-- The loop stops once `isError` or `isDone` is set. -/
theorem segments_stopped {env : SASTokenParseEnv} {s : SASTokenURIState} (tokens : List CString)
    (h : (s.isError || s.isDone) = true) : segments env tokens s = s := by
  cases tokens with
  | nil => rfl
  | cons token rest => rw [segments, if_pos h]

theorem segments_cons {env : SASTokenParseEnv} {s : SASTokenURIState} (rest : List CString)
    (h : (s.isError || s.isDone) = false) :
    segments env (token :: rest) s = segments env rest (s.element env token) := by
  rw [segments, if_neg (by simp [h])]

/-- What is returned after the loop, apart from the fields that do not depend on it. -/
def outcome (s : SASTokenURIState) : Option EventHubAuthCBSConfig :=
  if s.isError || !s.isDone then none else some s.result

/-- The loop from the third segment on, when the first two are there. -/
private theorem segments_entity {host path : CString} (rest : List CString)
    (hhost : host ≠ []) (hpath : path ≠ []) :
    segments { errno := errno } (host :: path :: rest) {} =
      segments { errno := errno } rest
        { elem := .publisherOrConsumer
          result := { hostName := some (String.ofList host),
                      eventHubPath := some (String.ofList path) } } := by
  rw [segments_cons _ rfl, element_eq _ hhost, segments_cons _ rfl, element_eq _ hpath]

/-- The loop over the segments of a receiver, from the fifth on. -/
private theorem segments_partition {cfg : EventHubAuthCBSConfig} {rest : List CString}
    (h : ∀ t ∈ rest, t ≠ []) :
    outcome (segments { errno := errno } rest { elem := .partition, result := cfg }) =
      match rest with
      | keyword :: partition :: _ =>
        if keyword <+: partitions then
          some { cfg with receiverPartitionId := some (String.ofList partition) }
        else none
      | _ => none := by
  match rest, h with
  | [], _ => rfl
  | [keyword], h =>
    rw [segments_cons _ rfl, element_eq _ (h keyword (by simp))]
    by_cases hk : keyword <+: partitions
    · simp only [hk, if_true]
      rfl
    · simp only [hk, if_false]
      rfl
  | keyword :: partition :: rest, h =>
    rw [segments_cons _ rfl, element_eq _ (h keyword (by simp))]
    by_cases hk : keyword <+: partitions
    · simp only [hk, if_true]
      rw [segments_cons _ rfl, element_eq _ (h partition (by simp)), segments_stopped _ rfl]
      rfl
    · simp only [hk, if_false]
      rw [segments_stopped _ rfl]
      rfl

/-- The loop accepts the segments that name a resource by its keywords' prefixes. -/
theorem outcome_segments {tokens : List CString} (h : ∀ t ∈ tokens, t ≠ []) :
    outcome (segments { errno := errno } tokens {}) =
      (acceptedResource tokens).map Resource.config := by
  match tokens, h with
  | [], _ => rfl
  | [host], h =>
    rw [segments_cons _ rfl, element_eq _ (h host (by simp))]
    rfl
  | host :: path :: rest, h =>
    rw [segments_entity rest (h host (by simp)) (h path (by simp))]
    match rest, h with
    | [], _ => rfl
    | keyword :: rest, h =>
      rw [segments_cons _ rfl, element_eq _ (h keyword (by simp))]
      match rest, h with
      | [], _ =>
        by_cases hp : keyword <+: publishers
        · simp only [hp, if_true]
          rfl
        · by_cases hc : keyword <+: consumerGroups
          · simp only [hp, hc, if_true, if_false]
            rfl
          · simp only [hp, hc, if_false]
            rfl
      | id :: rest, h =>
        have hid : id ≠ [] := h id (by simp)
        by_cases hp : keyword <+: publishers
        · simp only [hp, if_true, acceptedResource]
          rw [segments_cons _ rfl, element_eq _ hid, segments_stopped _ rfl]
          rfl
        · by_cases hc : keyword <+: consumerGroups
          · simp only [hp, hc, if_true, if_false, acceptedResource]
            rw [segments_cons _ rfl, element_eq _ hid]
            refine (segments_partition fun t ht => h t (by simp [ht])).trans ?_
            match rest with
            | [] => rfl
            | [_] => rfl
            | keyword' :: _ :: _ =>
              by_cases hk : keyword' <+: partitions
              · simp only [hk, if_true]
                rfl
              · simp only [hk, if_false]
                rfl
          · simp only [hp, hc, if_false, acceptedResource]
            rw [segments_stopped _ rfl]
            rfl

end SASTokenURIState

/-- `EventHubAuthCBS_SASTokenParse` when no call fails: the resource that the segments name, with
the token, its URI and its expiry. -/
theorem sasTokenParse_eq (errno : Errno) (extSASToken : CString)
    (h : ∀ uri, ∀ t ∈ tokenize uri, t ≠ []) :
    sasTokenParse tokenize { errno := errno } (some extSASToken) =
      (getURIAndExpirationFromSASToken { errno := errno } extSASToken).bind fun u =>
        (acceptedResource (tokenize u.1)).map fun r =>
          { r.config with
            extSASTokenExpTSInEpochSec := u.2
            extSASTokenURI := some (String.ofList u.1)
            extSASToken := some (String.ofList extSASToken)
            credential := .sasTokenExt } := by
  cases hget : getURIAndExpirationFromSASToken { errno := errno } extSASToken with
  | none => simp [sasTokenParse, hget]
  | some u =>
    have hloop :
        (SASTokenURIState.segments { errno := errno } (tokenize u.1) {}).outcome =
          (acceptedResource (tokenize u.1)).map Resource.config :=
      SASTokenURIState.outcome_segments (h u.1)
    simp only [SASTokenURIState.outcome] at hloop
    simp only [sasTokenParse, hget, Option.bind_some, Bool.not_true, Bool.false_eq_true, if_false]
    generalize SASTokenURIState.segments { errno := errno } (tokenize u.1) {} = s at hloop ⊢
    cases hr : acceptedResource (tokenize u.1) with
    | none =>
      rw [hr] at hloop
      by_cases hstop : (s.isError || !s.isDone) = true
      · simp [hstop]
      · simp [hstop] at hloop
    | some r =>
      rw [hr] at hloop
      obtain ⟨hstop, hresult⟩ := Option.ite_none_left_eq_some.mp hloop
      have hresult : s.result = r.config := Option.some.inj hresult
      rw [if_neg hstop, hresult]
      rfl

end EventHubAuthCBS

end EventHubs
