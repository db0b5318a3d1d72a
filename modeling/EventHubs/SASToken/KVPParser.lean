import EventHubs.Library.Tokenizer
import Mathlib.Data.List.Nodup

/-!
# The key/value parser

`kvp_parser.c`. One tokenizer is searched for a key and then for a value until no further key is
found. A text is the list of its characters before the terminating zero.

## Main definitions

* `stringTokenizerGetNextToken`, `KVPMap.add`, `KVPMap.getValueFromKey` — the utility library.
* `KVPCall`, `KVPParserEnv` — the outside.
* `kvpParseInternal`, `kvpParserParse`.
* `renderPairs` — pairs written with the two delimiters.

## Main results

* `kvpParseLoop_done`, `kvpParseLoop_stuck`, `kvpParseLoop_pair` — the loop, one iteration at a
  time.
* `kvpParserParse_renderPairs` — the pairs that were written are read, unless a key repeats.
-/

namespace EventHubs

/-- The characters of a C string. -/
abbrev CString := List Char

/-- `STRING_TOKENIZER_get_next_token`: the delimiters are a set of characters. -/
def stringTokenizerGetNextToken (cursor delimiters : CString) : Option (CString × CString) :=
  Tokenizer.next (decide <| · ∈ delimiters) cursor

/-! ### Maps -/

/-- A `MAP_HANDLE`: its keys and values, in the order in which they were added. -/
abbrev KVPMap := List (CString × CString)

namespace KVPMap

/-- The keys of the map. -/
def keys (m : KVPMap) : List CString := m.map Prod.fst

/-- `Map_Add`, which refuses a key that is already there. -/
def add (m : KVPMap) (key value : CString) : Option KVPMap :=
  if key ∈ m.keys then none else some (m ++ [(key, value)])

/-- `Map_GetValueFromKey`. -/
def getValueFromKey (m : KVPMap) (key : CString) : Option CString := m.lookup key

@[simp]
theorem keys_nil : keys [] = [] := rfl

@[simp]
theorem keys_append (m m' : KVPMap) : keys (m ++ m') = m.keys ++ keys m' := List.map_append

@[simp]
theorem keys_cons (key value : CString) (m : KVPMap) : keys ((key, value) :: m) = key :: m.keys :=
  rfl

theorem mem_of_getValueFromKey {m : KVPMap} {key value : CString}
    (h : m.getValueFromKey key = some value) : (key, value) ∈ m := by
  obtain ⟨l₁, l₂, rfl, -⟩ := List.lookup_eq_some_iff.mp h
  simp

/-- With distinct keys the value found is the only one. -/
theorem getValueFromKey_eq_some_iff {m : KVPMap} (hm : m.keys.Nodup) {key value : CString} :
    m.getValueFromKey key = some value ↔ (key, value) ∈ m := by
  refine ⟨mem_of_getValueFromKey, fun h => ?_⟩
  obtain ⟨l₁, l₂, rfl⟩ := List.append_of_mem h
  have hfirst : key ∉ keys l₁ := by
    intro hmem
    simp only [keys_append, keys_cons] at hm
    exact (List.nodup_append.mp hm).2.2 _ hmem _ List.mem_cons_self rfl
  refine List.lookup_eq_some_iff.mpr ⟨l₁, l₂, rfl, ?_⟩
  intro p hp
  simp only [bne_iff_ne, ne_eq]
  rintro rfl
  exact hfirst (List.mem_map_of_mem hp)

theorem nodup_keys_concat {m : KVPMap} (hm : m.keys.Nodup) {key : CString} (h : key ∉ m.keys)
    (value : CString) : (keys (m ++ [(key, value)])).Nodup := by
  rw [keys_append, List.nodup_append]
  refine ⟨hm, by simp, ?_⟩
  rintro k hk _ hlast rfl
  obtain rfl : k = key := by simpa using hlast
  exact h hk

theorem not_nodup_keys {m m' : KVPMap} {key value : CString} (h : key ∈ m.keys) :
    ¬ (keys (m ++ (key, value) :: m')).Nodup := by
  rw [keys_append, keys_cons]
  exact fun hnodup => (List.nodup_append.mp hnodup).2.2 _ h _ List.mem_cons_self rfl

end KVPMap

/-! ### `kvp_parser.c` -/

/-- The calls of `kvp_parser.c` that can fail; those of the loop come with the number of the
iteration that makes them. -/
inductive KVPCall
  | constructInput
  | tokenizerCreate
  | newKey
  | newValue
  | mapCreate
  | nextKey (i : ℕ)
  | nextValue (i : ℕ)
  | cStrKey (i : ℕ)
  | cStrValue (i : ℕ)
  | mapAdd (i : ℕ)
  deriving DecidableEq, Repr

/-- What the environment contributes to one call of `kvp_parser_parse`. -/
structure KVPParserEnv where
  succeeds : KVPCall → Bool := fun _ => true

/-- The loop of `kvp_parse_internal` from iteration `i`, for at most `n` iterations. -/
def kvpParseLoop (env : KVPParserEnv) (keyDelim valueDelim : CString) :
    ℕ → ℕ → CString → KVPMap → Option KVPMap
  | 0, _, _, result => some result
  | n + 1, i, cursor, result =>
    if !env.succeeds (.nextKey i) then some result
    else
      match stringTokenizerGetNextToken cursor keyDelim with
      | none => some result
      | some (token, cursor) =>
        if !env.succeeds (.nextValue i) then none
        else
          match stringTokenizerGetNextToken cursor valueDelim with
          | none => none
          | some (value, cursor) =>
            if !env.succeeds (.cStrKey i) || token.length = 0 then none
            else if !env.succeeds (.cStrValue i) then none
            else if !env.succeeds (.mapAdd i) then none
            else
              match result.add token value with
              | none => none
              | some result => kvpParseLoop env keyDelim valueDelim n (i + 1) cursor result

/-- `kvp_parse_internal`. Every iteration moves the cursor, so the length of the input bounds
their number. -/
def kvpParseInternal (env : KVPParserEnv) (input keyDelim valueDelim : CString) : Option KVPMap :=
  if !env.succeeds .tokenizerCreate then none
  else if !env.succeeds .newKey then none
  else if !env.succeeds .newValue then none
  else if !env.succeeds .mapCreate then none
  else kvpParseLoop env keyDelim valueDelim input.length 0 input []

/-- `kvp_parser_parse`; `none` is NULL. -/
def kvpParserParse (env : KVPParserEnv) (input keyDelim valueDelim : Option CString) :
    Option KVPMap :=
  match input, keyDelim, valueDelim with
  | some input, some keyDelim, some valueDelim =>
    if !env.succeeds .constructInput then none
    else kvpParseInternal env input keyDelim valueDelim
  | _, _, _ => none

/-! ### One iteration -/

section Iteration

variable {keyDelim valueDelim cursor cursor' cursor'' key value : CString} {n i : ℕ}
  {result : KVPMap}

/-- No further key is found. -/
theorem kvpParseLoop_done (hkey : stringTokenizerGetNextToken cursor keyDelim = none) :
    kvpParseLoop {} keyDelim valueDelim n i cursor result = some result := by
  cases n with
  | zero => rfl
  | succ n => simp [kvpParseLoop, hkey]

/-- A key is found and no value. -/
theorem kvpParseLoop_stuck
    (hkey : stringTokenizerGetNextToken cursor keyDelim = some (key, cursor'))
    (hvalue : stringTokenizerGetNextToken cursor' valueDelim = none) :
    kvpParseLoop {} keyDelim valueDelim (n + 1) i cursor result = none := by
  simp [kvpParseLoop, hkey, hvalue]

/-- A key and its value are found. -/
theorem kvpParseLoop_pair
    (hkey : stringTokenizerGetNextToken cursor keyDelim = some (key, cursor')) (hne : key ≠ [])
    (hvalue : stringTokenizerGetNextToken cursor' valueDelim = some (value, cursor'')) :
    kvpParseLoop {} keyDelim valueDelim (n + 1) i cursor result =
      if key ∈ result.keys then none
      else kvpParseLoop {} keyDelim valueDelim n (i + 1) cursor'' (result ++ [(key, value)]) := by
  rw [kvpParseLoop]
  by_cases hmem : key ∈ result.keys <;> simp [hkey, hvalue, KVPMap.add, hne, hmem]

end Iteration

/-! ### Written pairs -/

/-- Pairs written one after the other: a key, `keyDelim`, a value, and `valueDelim` before the
next key. -/
def renderPairs (keyDelim valueDelim : Char) (pairs : KVPMap) : CString :=
  [valueDelim].intercalate (pairs.map fun p => p.1 ++ keyDelim :: p.2)

/-- Pairs that the parser can tell apart in what is written. -/
def ReadablePairs (keyDelim valueDelim : Char) (pairs : KVPMap) : Prop :=
  ∀ p ∈ pairs, (p.1 ≠ [] ∧ keyDelim ∉ p.1) ∧ p.2 ≠ [] ∧ valueDelim ∉ p.2

variable {keyDelim valueDelim : Char}

@[simp]
theorem renderPairs_nil : renderPairs keyDelim valueDelim [] = [] := rfl

theorem renderPairs_singleton (p : CString × CString) :
    renderPairs keyDelim valueDelim [p] = p.1 ++ keyDelim :: p.2 := by
  simp [renderPairs]

theorem renderPairs_cons_cons (p q : CString × CString) (pairs : KVPMap) :
    renderPairs keyDelim valueDelim (p :: q :: pairs) =
      p.1 ++ keyDelim :: (p.2 ++ valueDelim :: renderPairs keyDelim valueDelim (q :: pairs)) := by
  simp [renderPairs, List.intercalate]

theorem clean_of_notMem {token : CString} {d : Char} (hne : token ≠ []) (h : d ∉ token) :
    Tokenizer.Clean (decide <| · ∈ [d]) token := by
  refine ⟨hne, fun c hc => ?_⟩
  simp only [List.mem_singleton, decide_eq_false_iff_not]
  rintro rfl
  exact h hc

/-- A search for the key and one for the value take the first pair off the written text. -/
theorem next_renderPairs {p : CString × CString} {pairs : KVPMap}
    (h : ReadablePairs keyDelim valueDelim (p :: pairs)) :
    ∃ cursor,
      stringTokenizerGetNextToken (renderPairs keyDelim valueDelim (p :: pairs)) [keyDelim] =
        some (p.1, cursor) ∧
      stringTokenizerGetNextToken cursor [valueDelim] =
        some (p.2, renderPairs keyDelim valueDelim pairs) := by
  obtain ⟨⟨hkey, hkd⟩, hvalue, hvd⟩ := h p List.mem_cons_self
  cases pairs with
  | nil =>
    rw [renderPairs_singleton]
    exact ⟨p.2, Tokenizer.next_append (clean_of_notMem hkey hkd) (by simp),
      Tokenizer.next_of_clean (clean_of_notMem hvalue hvd)⟩
  | cons q pairs =>
    rw [renderPairs_cons_cons]
    exact ⟨_, Tokenizer.next_append (clean_of_notMem hkey hkd) (by simp),
      Tokenizer.next_append (clean_of_notMem hvalue hvd) (by simp)⟩

/-- From a written text the loop adds the pairs to what it has, unless a key repeats. -/
theorem kvpParseLoop_renderPairs {n i : ℕ} {pairs result : KVPMap}
    (h : ReadablePairs keyDelim valueDelim pairs) (hn : pairs.length ≤ n)
    (hresult : result.keys.Nodup) :
    kvpParseLoop {} [keyDelim] [valueDelim] n i (renderPairs keyDelim valueDelim pairs) result =
      if (KVPMap.keys (result ++ pairs)).Nodup then some (result ++ pairs) else none := by
  induction pairs generalizing n i result with
  | nil =>
    rw [List.append_nil, if_pos hresult]
    cases n <;> rfl
  | cons p pairs ih =>
    obtain ⟨n, rfl⟩ : ∃ m, n = m + 1 := ⟨n - 1, by simp only [List.length_cons] at hn; omega⟩
    obtain ⟨cursor, hnextKey, hnextValue⟩ := next_renderPairs h
    have hne : p.1 ≠ [] := (h p List.mem_cons_self).1.1
    rw [kvpParseLoop_pair hnextKey hne hnextValue]
    by_cases hmem : p.1 ∈ result.keys
    · rw [if_pos hmem, if_neg (KVPMap.not_nodup_keys hmem)]
    · have hrest := ih (n := n) (i := i + 1) (fun q hq => h q (List.mem_cons_of_mem _ hq))
        (by simpa using hn) (KVPMap.nodup_keys_concat hresult hmem p.2)
      rw [if_neg hmem, hrest, List.append_assoc, List.singleton_append]

theorem length_le_length_renderPairs (pairs : KVPMap) :
    pairs.length ≤ (renderPairs keyDelim valueDelim pairs).length := by
  induction pairs with
  | nil => simp
  | cons p pairs ih =>
    cases pairs with
    | nil => simp [renderPairs_singleton]; omega
    | cons q pairs =>
      rw [renderPairs_cons_cons]
      simp only [List.length_cons, List.length_append] at ih ⊢
      omega

/-- Parsing gives back the pairs that were written, unless a key repeats. -/
theorem kvpParserParse_renderPairs {pairs : KVPMap}
    (h : ReadablePairs keyDelim valueDelim pairs) :
    kvpParserParse {} (some (renderPairs keyDelim valueDelim pairs)) (some [keyDelim])
        (some [valueDelim]) =
      if pairs.keys.Nodup then some pairs else none := by
  have hlength : pairs.length ≤ (renderPairs keyDelim valueDelim pairs).length :=
    length_le_length_renderPairs pairs
  have hnil : (KVPMap.keys []).Nodup := List.nodup_nil
  have hloop := kvpParseLoop_renderPairs (i := 0) h hlength hnil
  simpa [kvpParserParse, kvpParseInternal] using hloop

end EventHubs
