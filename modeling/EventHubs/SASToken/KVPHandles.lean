import EventHubs.Library.Ledger
import EventHubs.SASToken.KVPParser

/-!
# The handles of the key/value parser

`kvp_parser.c` with the handles that it creates and deletes. The loop has no bound on its
iterations here: every iteration moves the cursor. What is returned is what `kvpParserParse`
returns.

## Main definitions

* `KVPObject` — what is created.
* `kvpParseLoopOn`, `kvpParseInternalOn`, `kvpParserParseOn` — the functions with their handles.
* `OwnsOnlyResult` — each handle is deleted once, the returned map excepted.
* `renderDangling` — pairs, and a key without a value.

## Main results

* `kvpParserParseOn_fst` — the result without its handle.
* `ownsOnlyResult_kvpParserParseOn_iff` — when each handle is deleted once.
* `kvpParserParseOn_renderPairs` — pairs that were written, with the handles.
-/

namespace EventHubs

/-- What `kvp_parser.c` creates. -/
inductive KVPObject
  | string
  | tokenizer
  | map
  deriving DecidableEq, Repr

/-- The loop of `kvp_parse_internal` after it has found a key: the cursor and the map, unless
`is_error` is set. -/
def kvpParseEntry (env : KVPParserEnv) (valueDelim : CString) (i : ℕ) (token cursor : CString)
    (result : KVPMap) : Option (CString × KVPMap) :=
  if !env.succeeds (.nextValue i) then none
  else
    match stringTokenizerGetNextToken cursor valueDelim with
    | none => none
    | some (value, cursor) =>
      if !env.succeeds (.cStrKey i) || token.length = 0 then none
      else if !env.succeeds (.cStrValue i) then none
      else if !env.succeeds (.mapAdd i) then none
      else (result.add token value).map (cursor, ·)

theorem length_lt_of_kvpParseEntry {env : KVPParserEnv} {valueDelim : CString} {i : ℕ}
    {token cursor cursor' : CString} {result result' : KVPMap}
    (h : kvpParseEntry env valueDelim i token cursor result = some (cursor', result')) :
    cursor'.length < cursor.length := by
  unfold kvpParseEntry at h
  cases hnext : stringTokenizerGetNextToken cursor valueDelim with
  | none => simp [hnext] at h
  | some found =>
    obtain ⟨value, rest⟩ := found
    have hlt := Tokenizer.length_rest_lt hnext
    simp only [hnext, Option.ite_none_left_eq_some, Option.map_eq_some_iff, Prod.mk.injEq] at h
    obtain ⟨-, -, -, -, _, -, rfl, -⟩ := h
    exact hlt

/-- The loop of `kvp_parse_internal` from iteration `i`, with the handle `map` of the result. -/
def kvpParseLoopOn (env : KVPParserEnv) (keyDelim valueDelim : CString) (map i : ℕ)
    (cursor : CString) (result : KVPMap) (l : Ledger KVPObject) :
    Option (ℕ × KVPMap) × Ledger KVPObject :=
  if !env.succeeds (.nextKey i) then (some (map, result), l)
  else
    match hkey : stringTokenizerGetNextToken cursor keyDelim with
    | none => (some (map, result), l)
    | some (token, rest) =>
      have := Tokenizer.length_rest_lt hkey
      match hentry : kvpParseEntry env valueDelim i token rest result with
      | none => (none, l.destroy map)
      | some (cursor, result) =>
        have := length_lt_of_kvpParseEntry hentry
        kvpParseLoopOn env keyDelim valueDelim map (i + 1) cursor result l
termination_by cursor.length

/-- `kvp_parse_internal`, given the handle of the input. -/
def kvpParseInternalOn (env : KVPParserEnv) (inputStringHandle : ℕ)
    (input keyDelim valueDelim : CString) (l : Ledger KVPObject) :
    Option (ℕ × KVPMap) × Ledger KVPObject :=
  -- the caller deletes the input as well
  if !env.succeeds .tokenizerCreate then (none, l.destroy inputStringHandle)
  else
    l.holding .tokenizer fun l =>
      if !env.succeeds .newKey then (none, l)
      else
        l.holding .string fun l =>
          if !env.succeeds .newValue then (none, l)
          else
            l.holding .string fun l =>
              if !env.succeeds .mapCreate then (none, l)
              else kvpParseLoopOn env keyDelim valueDelim l.next 0 input [] (l.create .map)

/-- `kvp_parser_parse`; `none` is NULL. -/
def kvpParserParseOn (env : KVPParserEnv) (input keyDelim valueDelim : Option CString)
    (l : Ledger KVPObject) : Option (ℕ × KVPMap) × Ledger KVPObject :=
  match input, keyDelim, valueDelim with
  | some input, some keyDelim, some valueDelim =>
    if !env.succeeds .constructInput then (none, l)
    else l.holding .string (kvpParseInternalOn env l.next input keyDelim valueDelim)
  | _, _, _ => (none, l)

/-- Each handle is deleted once, and of those created only that of the returned map is left. -/
def OwnsOnlyResult (l : Ledger KVPObject) (x : Option (ℕ × KVPMap) × Ledger KVPObject) : Prop :=
  Ledger.Leaves l (x.1.map fun result => (result.1, KVPObject.map)).toList x.2

variable {env : KVPParserEnv} {l : Ledger KVPObject}

/-! ### The loop -/

section Loop

variable {keyDelim valueDelim cursor : CString} {n i map : ℕ} {result : KVPMap}

/-- An iteration of the loop without handles. -/
theorem kvpParseLoop_succ :
    kvpParseLoop env keyDelim valueDelim (n + 1) i cursor result =
      if !env.succeeds (.nextKey i) then some result
      else (stringTokenizerGetNextToken cursor keyDelim).elim (some result) fun found =>
        (kvpParseEntry env valueDelim i found.1 found.2 result).bind fun next =>
          kvpParseLoop env keyDelim valueDelim n (i + 1) next.1 next.2 := by
  rw [kvpParseLoop]
  cases hkey : stringTokenizerGetNextToken cursor keyDelim with
  | none => rfl
  | some found =>
    obtain ⟨token, rest⟩ := found
    dsimp only [Option.elim_some, kvpParseEntry]
    cases hvalue : stringTokenizerGetNextToken rest valueDelim with
    | none => split_ifs <;> rfl
    | some found =>
      obtain ⟨value, rest⟩ := found
      dsimp only
      cases result.add token value <;> split_ifs <;> rfl

/-- An iteration of the loop. -/
theorem kvpParseLoopOn_iteration :
    kvpParseLoopOn env keyDelim valueDelim map i cursor result l =
      if !env.succeeds (.nextKey i) then (some (map, result), l)
      else (stringTokenizerGetNextToken cursor keyDelim).elim (some (map, result), l) fun found =>
        (kvpParseEntry env valueDelim i found.1 found.2 result).elim (none, l.destroy map)
          fun next => kvpParseLoopOn env keyDelim valueDelim map (i + 1) next.1 next.2 l := by
  rw [kvpParseLoopOn]
  split_ifs with hnext
  · rfl
  · split
    case h_1 hkey => simp [hkey]
    case h_2 token rest hkey =>
      simp only [hkey, Option.elim_some]
      split
      case h_1 hentry => simp [hentry]
      case h_2 cursor result hentry => simp [hentry]

/-- The loop ends by itself, with the map that the bounded loop returns; otherwise the map is
destroyed. -/
theorem kvpParseLoopOn_eq (hn : cursor.length ≤ n) :
    kvpParseLoopOn env keyDelim valueDelim map i cursor result l =
      (kvpParseLoop env keyDelim valueDelim n i cursor result).elim (none, l.destroy map)
        fun result => (some (map, result), l) := by
  induction n generalizing i cursor result with
  | zero =>
    obtain rfl : cursor = [] := List.length_eq_zero_iff.mp (Nat.le_zero.mp hn)
    rw [kvpParseLoopOn_iteration]
    split_ifs <;> rfl
  | succ n ih =>
    rw [kvpParseLoopOn_iteration, kvpParseLoop_succ]
    split_ifs with hnext
    · rfl
    · cases hkey : stringTokenizerGetNextToken cursor keyDelim with
      | none => rfl
      | some found =>
        obtain ⟨token, rest⟩ := found
        have hrest := Tokenizer.length_rest_lt hkey
        dsimp only [Option.elim_some]
        cases hentry : kvpParseEntry env valueDelim i token rest result with
        | none => rfl
        | some next =>
          have hcursor := length_lt_of_kvpParseEntry hentry
          exact ih (by omega)

end Loop

/-! ### The parser -/

namespace OwnsOnlyResult

/-- An object is held during the part of the parser that comes next. -/
theorem holding {a : KVPObject} {f : Ledger KVPObject → Option (ℕ × KVPMap) × Ledger KVPObject}
    (h : OwnsOnlyResult (l.create a) (f (l.create a))) : OwnsOnlyResult l (l.holding a f) :=
  Ledger.Leaves.holding h

/-- NULL is returned when a call fails that would have created something. -/
theorem guard {failed : Bool} {x : Option (ℕ × KVPMap) × Ledger KVPObject}
    (h : OwnsOnlyResult l x) : OwnsOnlyResult l (if failed then (none, l) else x) := by
  split_ifs
  · exact .refl l
  · exact h

/-- The loop returns its map or destroys it. -/
theorem loop {keyDelim valueDelim cursor : CString} {i : ℕ} {result : KVPMap} :
    OwnsOnlyResult l
      (kvpParseLoopOn env keyDelim valueDelim l.next i cursor result (l.create .map)) := by
  have hmap := (Ledger.Leaves.refl l).create KVPObject.map
  rw [kvpParseLoopOn_eq le_rfl]
  cases kvpParseLoop env keyDelim valueDelim cursor.length i cursor result with
  | none => exact hmap.destroy
  | some result => exact hmap

/-- `kvp_parse_internal` when it has its tokenizer. -/
theorem internal {inputStringHandle : ℕ} {input keyDelim valueDelim : CString}
    (htokenizer : env.succeeds .tokenizerCreate = true) :
    OwnsOnlyResult l (kvpParseInternalOn env inputStringHandle input keyDelim valueDelim l) := by
  unfold kvpParseInternalOn
  rw [if_neg (by simp [htokenizer])]
  exact .holding (.guard (.holding (.guard (.holding (.guard .loop)))))

end OwnsOnlyResult

/-- Without a tokenizer the handle of the input is deleted twice. -/
theorem faults_kvpParserParseOn (l : Ledger KVPObject) (input keyDelim valueDelim : CString)
    (hconstruct : env.succeeds .constructInput = true)
    (htokenizer : env.succeeds .tokenizerCreate = false) :
    (kvpParserParseOn env (some input) (some keyDelim) (some valueDelim) l).2.faults =
      l.faults ++ [l.next] := by
  have hdeleted := Ledger.notMem_handles_destroy (l.create KVPObject.string) l.next
  simp only [kvpParserParseOn, hconstruct, kvpParseInternalOn, htokenizer, Ledger.holding]
  refine (Ledger.faults_destroy_of_notMem hdeleted).trans ?_
  have honce := ((Ledger.Leaves.refl l).create KVPObject.string).destroy.faults
  exact congrArg (· ++ [l.next]) honce

section Parser

/-- The result of `kvp_parse_internal` without its handle. -/
theorem kvpParseInternalOn_fst {inputStringHandle : ℕ} {input keyDelim valueDelim : CString} :
    (kvpParseInternalOn env inputStringHandle input keyDelim valueDelim l).1.map Prod.snd =
      kvpParseInternal env input keyDelim valueDelim := by
  have hloop (m : Ledger KVPObject) :
      (kvpParseLoopOn env keyDelim valueDelim m.next 0 input [] (m.create .map)).1.map Prod.snd =
        kvpParseLoop env keyDelim valueDelim input.length 0 input [] := by
    rw [kvpParseLoopOn_eq le_rfl]
    cases kvpParseLoop env keyDelim valueDelim input.length 0 input [] <;> rfl
  simp only [kvpParseInternalOn, kvpParseInternal, apply_ite Prod.fst, Ledger.holding_fst,
    apply_ite (Option.map Prod.snd), Option.map_none, hloop]

variable (env) (l) (input keyDelim valueDelim : Option CString)

/-- The result without its handle. -/
theorem kvpParserParseOn_fst :
    (kvpParserParseOn env input keyDelim valueDelim l).1.map Prod.snd =
      kvpParserParse env input keyDelim valueDelim := by
  rcases input with _ | input
  · rfl
  rcases keyDelim with _ | keyDelim
  · rfl
  rcases valueDelim with _ | valueDelim
  · rfl
  simp only [kvpParserParseOn, kvpParserParse]
  split_ifs
  · rfl
  · exact kvpParseInternalOn_fst

variable {env}

/-- Each handle is deleted once when the tokenizer can be created, or is not reached. -/
theorem ownsOnlyResult_kvpParserParseOn
    (h : (input.isSome && keyDelim.isSome && valueDelim.isSome &&
      env.succeeds .constructInput) = true → env.succeeds .tokenizerCreate = true) :
    OwnsOnlyResult l (kvpParserParseOn env input keyDelim valueDelim l) := by
  rcases input with _ | input
  · exact .refl l
  rcases keyDelim with _ | keyDelim
  · exact .refl l
  rcases valueDelim with _ | valueDelim
  · exact .refl l
  cases hconstruct : env.succeeds .constructInput with
  | false =>
    simp only [kvpParserParseOn, hconstruct]
    exact .refl l
  | true =>
    simp only [kvpParserParseOn]
    exact .guard (.holding (.internal (h (by simp [hconstruct]))))

variable (env)

variable {input keyDelim valueDelim}

/-- A map that the parser returns, with its handle. -/
theorem OwnsOnlyResult.of_eq_some {pairs : KVPMap}
    (h : kvpParserParse {} input keyDelim valueDelim = some pairs) :
    ∃ map m, kvpParserParseOn {} input keyDelim valueDelim l = (some (map, pairs), m) ∧
      l.Leaves [(map, .map)] m := by
  have howns : OwnsOnlyResult l (kvpParserParseOn {} input keyDelim valueDelim l) :=
    ownsOnlyResult_kvpParserParseOn l input keyDelim valueDelim fun _ => rfl
  have hfst := (kvpParserParseOn_fst {} l input keyDelim valueDelim).trans h
  generalize kvpParserParseOn {} input keyDelim valueDelim l = x at howns hfst
  obtain ⟨result, m⟩ := x
  obtain ⟨⟨map, pairs'⟩, rfl, rfl⟩ := Option.map_eq_some_iff.mp hfst
  exact ⟨map, m, rfl, howns⟩

/-- Nothing is left when the parser returns nothing. -/
theorem OwnsOnlyResult.of_eq_none (h : kvpParserParse {} input keyDelim valueDelim = none) :
    ∃ m, kvpParserParseOn {} input keyDelim valueDelim l = (none, m) ∧ l.Leaves [] m := by
  have howns : OwnsOnlyResult l (kvpParserParseOn {} input keyDelim valueDelim l) :=
    ownsOnlyResult_kvpParserParseOn l input keyDelim valueDelim fun _ => rfl
  have hfst := (kvpParserParseOn_fst {} l input keyDelim valueDelim).trans h
  generalize kvpParserParseOn {} input keyDelim valueDelim l = x at howns hfst
  obtain ⟨result, m⟩ := x
  obtain rfl := Option.map_eq_none_iff.mp hfst
  exact ⟨m, rfl, howns⟩

variable (input keyDelim valueDelim)

/-- Each handle is deleted once, and only the map that is returned is left, unless
`STRING_TOKENIZER_create` fails. -/
theorem ownsOnlyResult_kvpParserParseOn_iff :
    OwnsOnlyResult l (kvpParserParseOn env input keyDelim valueDelim l) ↔
      ((input.isSome && keyDelim.isSome && valueDelim.isSome &&
        env.succeeds .constructInput) = true → env.succeeds .tokenizerCreate = true) := by
  refine ⟨fun howns hcalled => ?_, ownsOnlyResult_kvpParserParseOn l input keyDelim valueDelim⟩
  simp only [Bool.and_eq_true, Option.isSome_iff_exists] at hcalled
  obtain ⟨⟨⟨⟨input, rfl⟩, keyDelim, rfl⟩, valueDelim, rfl⟩, hconstruct⟩ := hcalled
  by_contra htokenizer
  have hfaults := faults_kvpParserParseOn l input keyDelim valueDelim hconstruct
    (by simpa using htokenizer)
  have hlength := congrArg List.length (howns.faults.symm.trans hfaults)
  simp at hlength

end Parser

/-- Every call of the parser succeeds but that of `STRING_TOKENIZER_create`. -/
def withoutTokenizer : KVPParserEnv where
  succeeds call := call ≠ .tokenizerCreate

/-- `kvp_parse_internal` and its caller delete the input. -/
theorem kvpParserParseOn_deletes_input_twice :
    ¬ OwnsOnlyResult {} (kvpParserParseOn withoutTokenizer (some "k=v".toList) (some ['='])
      (some ['&']) {}) := by
  intro howns
  have hfaults := howns.faults
  revert hfaults
  decide

/-! ### Written pairs -/

section Rendered

variable {keyDelim valueDelim : Char} {pairs : KVPMap} {key : CString}

/-- Pairs and one more key, which ends the text, with or without the delimiter that belongs to
it. -/
def renderDangling (keyDelim valueDelim : Char) (pairs : KVPMap) (key : CString)
    (delimited : Bool) : CString :=
  [valueDelim].intercalate
    ((pairs.map fun p => p.1 ++ keyDelim :: p.2) ++ [if delimited then key ++ [keyDelim] else key])

theorem renderDangling_nil (delimited : Bool) :
    renderDangling keyDelim valueDelim [] key delimited =
      if delimited then key ++ [keyDelim] else key := by
  simp [renderDangling]

theorem renderDangling_cons (p : CString × CString) (delimited : Bool) :
    renderDangling keyDelim valueDelim (p :: pairs) key delimited =
      p.1 ++ keyDelim :: (p.2 ++ valueDelim ::
        renderDangling keyDelim valueDelim pairs key delimited) := by
  cases pairs <;> simp [renderDangling, List.intercalate]

theorem length_le_length_renderDangling (hkey : key ≠ []) (delimited : Bool) :
    pairs.length + 1 ≤ (renderDangling keyDelim valueDelim pairs key delimited).length := by
  have hpos := List.length_pos_iff.mpr hkey
  induction pairs with
  | nil =>
    rw [renderDangling_nil]
    cases delimited with
    | true => simp
    | false => exact (Nat.zero_add 1).le.trans hpos
  | cons p pairs ih =>
    rw [renderDangling_cons]
    simp only [List.length_cons, List.length_append]
    omega

/-- A key without a value ends the loop with an error. -/
theorem kvpParseLoop_renderDangling {n i : ℕ} {result : KVPMap} {delimited : Bool}
    (h : ReadablePairs keyDelim valueDelim pairs) (hkey : key ≠ []) (hkd : keyDelim ∉ key)
    (hn : pairs.length + 1 ≤ n) :
    kvpParseLoop {} [keyDelim] [valueDelim] n i
      (renderDangling keyDelim valueDelim pairs key delimited) result = none := by
  induction pairs generalizing n i result with
  | nil =>
    obtain ⟨n, rfl⟩ : ∃ m, n = m + 1 := ⟨n - 1, by omega⟩
    have hclean := clean_of_notMem hkey hkd
    have hnext : stringTokenizerGetNextToken
        (renderDangling keyDelim valueDelim [] key delimited) [keyDelim] = some (key, []) := by
      rw [renderDangling_nil]
      cases delimited with
      | true => exact Tokenizer.next_append hclean (by simp)
      | false => exact Tokenizer.next_of_clean hclean
    rw [kvpParseLoop_succ, hnext]
    rfl
  | cons p pairs ih =>
    obtain ⟨n, rfl⟩ : ∃ m, n = m + 1 := ⟨n - 1, by omega⟩
    obtain ⟨⟨hkey', hkd'⟩, hvalue, hvd⟩ := h p List.mem_cons_self
    have hnextKey : stringTokenizerGetNextToken
        (renderDangling keyDelim valueDelim (p :: pairs) key delimited) [keyDelim] =
          some (p.1,
            p.2 ++ valueDelim :: renderDangling keyDelim valueDelim pairs key delimited) := by
      rw [renderDangling_cons]
      exact Tokenizer.next_append (clean_of_notMem hkey' hkd') (by simp)
    have hnextValue : stringTokenizerGetNextToken
        (p.2 ++ valueDelim :: renderDangling keyDelim valueDelim pairs key delimited) [valueDelim] =
          some (p.2, renderDangling keyDelim valueDelim pairs key delimited) :=
      Tokenizer.next_append (clean_of_notMem hvalue hvd) (by simp)
    have hrest : ∀ result, kvpParseLoop {} [keyDelim] [valueDelim] n (i + 1)
        (renderDangling keyDelim valueDelim pairs key delimited) result = none :=
      fun _ => ih (fun q hq => h q (List.mem_cons_of_mem _ hq)) (by simpa using hn)
    rw [kvpParseLoop_succ, hnextKey]
    simp only [Option.elim_some, kvpParseEntry, hnextValue]
    cases result.add p.1 p.2 <;> simp [hkey', hrest]

/-- Parsing inverts writing. The written pairs are returned in a map, and with two equal keys, or
with a key that ends the text, nothing is returned. Only the returned map is left. -/
theorem kvpParserParseOn_renderPairs (h : ReadablePairs keyDelim valueDelim pairs)
    (l : Ledger KVPObject) :
    (pairs.keys.Nodup → ∃ map m,
      kvpParserParseOn {} (some (renderPairs keyDelim valueDelim pairs)) (some [keyDelim])
        (some [valueDelim]) l = (some (map, pairs), m) ∧ l.Leaves [(map, .map)] m) ∧
    (¬ pairs.keys.Nodup → ∃ m,
      kvpParserParseOn {} (some (renderPairs keyDelim valueDelim pairs)) (some [keyDelim])
        (some [valueDelim]) l = (none, m) ∧ l.Leaves [] m) ∧
    ∀ key delimited, key ≠ [] → keyDelim ∉ key → ∃ m,
      kvpParserParseOn {} (some (renderDangling keyDelim valueDelim pairs key delimited))
        (some [keyDelim]) (some [valueDelim]) l = (none, m) ∧ l.Leaves [] m := by
  have hparse := kvpParserParse_renderPairs h
  refine ⟨fun hnodup => ?_, fun hdup => ?_, fun key delimited hkey hkd => ?_⟩
  · rw [if_pos hnodup] at hparse
    exact OwnsOnlyResult.of_eq_some l hparse
  · rw [if_neg hdup] at hparse
    exact OwnsOnlyResult.of_eq_none l hparse
  · refine OwnsOnlyResult.of_eq_none l ?_
    simpa [kvpParserParse, kvpParseInternal] using kvpParseLoop_renderDangling h hkey hkd
      (length_le_length_renderDangling hkey delimited)

/-- The map of `sr=a=&se=5`, with `=` in a value. -/
theorem kvpParserParseOn_renderPairs_two :
    ∃ map m, kvpParserParseOn {} (some "sr=a=&se=5".toList) (some ['=']) (some ['&']) {} =
      (some (map, [("sr".toList, "a=".toList), ("se".toList, "5".toList)]), m) ∧
      Ledger.Leaves {} [(map, .map)] m :=
  (@kvpParserParseOn_renderPairs '=' '&' [("sr".toList, "a=".toList), ("se".toList, "5".toList)]
    (by simp [ReadablePairs]) {}).1 (by simp [KVPMap.keys])

end Rendered

end EventHubs
