import EventHubs.SASToken.KVPParser

/-!
# Reading a text field by field

The fields of a text are what stands between its value delimiters. `kvp_parser_parse` does not look
for fields, it skips delimiters, and so it reads a field that is no key with a value in a way of its
own: key delimiters in front of a key do not count, a key without a key delimiter in its field runs
on into the next one, and in place of an empty value the next field that is not empty is taken as a
whole.

## Main definitions

* `takeKey`, `takeValue` — a key and a value at the beginning of some fields.
* `readFields` — the pairs that are read from the fields.

## Main results

* `next_intercalate`, `next_takeKey` — one search on a text of fields.
* `kvpParseLoop_round` — one round of the loop on a text of fields.
* `kvpParserParse_eq_readFields`.
-/

namespace EventHubs

variable {keyDelim valueDelim : Char}

/-! ### The pairs in the fields -/

/-- The first field that is not empty, and the fields after it. -/
def takeValue : List CString → Option (CString × List CString)
  | [] => none
  | [] :: fields => takeValue fields
  | value :: fields => some (value, fields)

/-- What stands in front of the first key delimiter, and what follows it: the rest of its field and
the fields after that. -/
def takeKey (keyDelim valueDelim : Char) : List CString → Option (CString × List CString)
  | [] => none
  | field :: fields =>
    if keyDelim ∈ field then
      some (field.takeWhile (decide <| · ≠ keyDelim),
        (field.dropWhile (decide <| · ≠ keyDelim)).tail :: fields)
    else (takeKey keyDelim valueDelim fields).map fun x => (field ++ valueDelim :: x.1, x.2)

/-- The first pairs, at most `n` of them; `none` when a key or a value is missing. -/
def readFieldsUpTo (keyDelim valueDelim : Char) : ℕ → List CString → Option KVPMap
  | 0, _ => some []
  | _ + 1, [] => some []
  | n + 1, field :: fields =>
    let field := field.dropWhile (decide <| · = keyDelim)
    if field = [] ∧ fields = [] then some []
    else
      (takeKey keyDelim valueDelim (field :: fields)).bind fun x =>
        (takeValue x.2).bind fun y =>
          (readFieldsUpTo keyDelim valueDelim n y.2).map ((x.1, y.1) :: ·)

/-- The pairs that are read from the fields. -/
def readFields (keyDelim valueDelim : Char) (fields : List CString) : Option KVPMap :=
  readFieldsUpTo keyDelim valueDelim fields.length fields

/-! ### One search -/

variable {fields rest : List CString} {key value : CString}

theorem mem_takeValue (h : takeValue fields = some (value, rest)) :
    value ≠ [] ∧ rest.length < fields.length ∧ ∀ f ∈ rest, f ∈ fields := by
  induction fields with
  | nil => cases h
  | cons f fields ih =>
    cases f with
    | nil =>
      obtain ⟨hne, hlt, hmem⟩ := ih h
      exact ⟨hne, Nat.lt_succ_of_lt hlt, fun f hf => List.mem_cons_of_mem _ (hmem f hf)⟩
    | cons c f =>
      obtain ⟨rfl, rfl⟩ := Prod.mk.inj (Option.some.inj h)
      exact ⟨List.cons_ne_nil _ _, Nat.lt_succ_self _, fun f hf => List.mem_cons_of_mem _ hf⟩

/-- A search for a value takes the first field that is not empty. -/
theorem next_intercalate (h : ∀ f ∈ fields, valueDelim ∉ f) :
    stringTokenizerGetNextToken ([valueDelim].intercalate fields) [valueDelim] =
      (takeValue fields).map fun x => (x.1, [valueDelim].intercalate x.2) := by
  induction fields with
  | nil => rfl
  | cons f fields ih =>
    have hrest := ih fun g hg => h g (List.mem_cons_of_mem _ hg)
    cases f with
    | nil =>
      cases fields with
      | nil => rfl
      | cons g fields =>
        rw [List.intercalate_cons_cons]
        have hskipped : ∀ c ∈ [valueDelim], decide (c ∈ [valueDelim]) = true := by simp
        exact (Tokenizer.next_skip hskipped _).trans hrest
    | cons c f =>
      have hclean := clean_of_notMem (List.cons_ne_nil c f) (h _ List.mem_cons_self)
      cases fields with
      | nil =>
        rw [List.intercalate_singleton]
        exact Tokenizer.next_of_clean hclean
      | cons g fields =>
        rw [List.intercalate_cons_cons, List.append_assoc]
        exact Tokenizer.next_append hclean (by simp)

/-- What stands before and after the first key delimiter. -/
theorem cut_append {front : CString} (h : keyDelim ∉ front) (tail : CString) :
    (front ++ keyDelim :: tail).takeWhile (decide <| · ≠ keyDelim) = front ∧
      ((front ++ keyDelim :: tail).dropWhile (decide <| · ≠ keyDelim)).tail = tail := by
  have hall : ∀ c ∈ front, decide (c ≠ keyDelim) = true := by
    intro c hc
    rw [decide_eq_true_eq]
    rintro rfl
    exact h hc
  rw [List.takeWhile_append_of_pos hall, List.dropWhile_append_of_pos hall,
    List.takeWhile_cons_of_neg (by simp), List.dropWhile_cons_of_neg (by simp), List.append_nil,
    List.tail_cons]
  exact ⟨rfl, rfl⟩

theorem intercalate_append_cons {front tail : CString} :
    [valueDelim].intercalate ((front ++ tail) :: fields) =
      front ++ [valueDelim].intercalate (tail :: fields) := by
  cases fields <;> simp

/-- A text in which a key is found. -/
theorem takeKey_eq_some (hne : keyDelim ≠ valueDelim)
    (h : takeKey keyDelim valueDelim fields = some (key, rest)) :
    [valueDelim].intercalate fields = key ++ keyDelim :: [valueDelim].intercalate rest ∧
      keyDelim ∉ key ∧ rest.length ≤ fields.length ∧
      ((∀ f ∈ fields, valueDelim ∉ f) → ∀ f ∈ rest, valueDelim ∉ f) := by
  induction fields generalizing key with
  | nil => cases h
  | cons f fields ih =>
    rw [takeKey] at h
    split_ifs at h with hmem
    · obtain ⟨front, tail, rfl, hfront⟩ := List.eq_append_cons_of_mem hmem
      rw [(cut_append hfront tail).1, (cut_append hfront tail).2] at h
      obtain ⟨rfl, rfl⟩ := Prod.mk.inj (Option.some.inj h)
      refine ⟨?_, hfront, Nat.le_refl _, fun hall => ?_⟩
      · rw [List.append_cons, intercalate_append_cons, List.append_assoc, List.singleton_append]
      · rw [List.forall_mem_cons] at hall ⊢
        refine ⟨fun hmem => hall.1 (List.mem_append_right _ ?_), hall.2⟩
        exact List.mem_cons_of_mem _ hmem
    · obtain ⟨⟨key', rest'⟩, hkey, heq⟩ := Option.map_eq_some_iff.mp h
      obtain ⟨rfl, rfl⟩ := Prod.mk.inj heq
      obtain ⟨htext, hnot, hle, hfields⟩ := ih hkey
      obtain ⟨g, fields, rfl⟩ : ∃ g gs, fields = g :: gs :=
        List.exists_cons_of_ne_nil (by rintro rfl; cases hkey)
      refine ⟨?_, by simp [hmem, hne, hnot], Nat.le_succ_of_le hle, fun hall =>
        hfields fun f hf => hall f (List.mem_cons_of_mem _ hf)⟩
      rw [List.intercalate_cons_cons, htext]
      simp

/-- A text in which no key is found. -/
theorem takeKey_eq_none (hne : keyDelim ≠ valueDelim)
    (h : takeKey keyDelim valueDelim fields = none) :
    keyDelim ∉ [valueDelim].intercalate fields := by
  induction fields with
  | nil => exact List.not_mem_nil
  | cons f fields ih =>
    rw [takeKey] at h
    split_ifs at h with hmem
    have hrest := ih (Option.map_eq_none_iff.mp h)
    cases fields with
    | nil => simpa using hmem
    | cons g fields =>
      rw [List.intercalate_cons_cons]
      simp [hmem, hne, hrest]

/-- In front of a text of fields the key delimiters are skipped. -/
theorem next_dropWhile {f : CString} :
    stringTokenizerGetNextToken ([valueDelim].intercalate (f :: fields)) [keyDelim] =
      stringTokenizerGetNextToken
        ([valueDelim].intercalate (f.dropWhile (decide <| · = keyDelim) :: fields)) [keyDelim] := by
  have hskipped : ∀ c ∈ f.takeWhile (decide <| · = keyDelim), decide (c ∈ [keyDelim]) = true := by
    intro c hc
    simpa using List.mem_takeWhile_imp hc
  conv_lhs => rw [← List.takeWhile_append_dropWhile (p := (decide <| · = keyDelim)) (l := f)]
  rw [intercalate_append_cons]
  exact Tokenizer.next_skip hskipped _

/-- When they are skipped the text does not begin with one. -/
theorem intercalate_ne_cons (hne : keyDelim ≠ valueDelim) {f tail : CString} :
    [valueDelim].intercalate (f.dropWhile (decide <| · = keyDelim) :: fields) ≠
      keyDelim :: tail := by
  intro htext
  cases hf : f.dropWhile (decide <| · = keyDelim) with
  | nil =>
    rw [hf] at htext
    cases fields with
    | nil => cases htext
    | cons g fields =>
      rw [List.intercalate_cons_cons] at htext
      exact hne (List.cons.inj htext).1.symm
  | cons c g =>
    have hhead := List.head_dropWhile_not (decide <| · = keyDelim) (l := f) (by simp [hf])
    rw [hf, show c :: g = [c] ++ g from rfl, intercalate_append_cons] at htext
    have hc : c = keyDelim := (List.cons.inj htext).1
    simp [hf, hc] at hhead

/-- A search for a key in a text of fields. -/
theorem next_takeKey (hne : keyDelim ≠ valueDelim) {f : CString}
    (h : takeKey keyDelim valueDelim (f.dropWhile (decide <| · = keyDelim) :: fields) =
      some (key, rest)) :
    key ≠ [] ∧ stringTokenizerGetNextToken ([valueDelim].intercalate (f :: fields)) [keyDelim] =
      some (key, [valueDelim].intercalate rest) := by
  obtain ⟨htext, hnot, -, -⟩ := takeKey_eq_some hne h
  have hkey : key ≠ [] := by
    rintro rfl
    exact intercalate_ne_cons hne htext
  rw [next_dropWhile, htext]
  exact ⟨hkey, Tokenizer.next_append (clean_of_notMem hkey hnot) (by simp)⟩

theorem eq_nil_of_intercalate {f : CString} (h : [valueDelim].intercalate (f :: fields) = []) :
    f = [] ∧ fields = [] := by
  cases fields with
  | nil => simpa using h
  | cons g fields => simp at h

/-! ### The loop -/

theorem notMem_skipped {f : CString} (hfields : ∀ g ∈ f :: fields, valueDelim ∉ g) :
    ∀ g ∈ f.dropWhile (decide <| · = keyDelim) :: fields, valueDelim ∉ g := by
  rw [List.forall_mem_cons] at hfields ⊢
  exact ⟨fun hmem => hfields.1 (List.dropWhile_subset _ hmem), hfields.2⟩

/-- One round of the loop on a text of fields. -/
theorem kvpParseLoop_round (hne : keyDelim ≠ valueDelim) {n i : ℕ} {result : KVPMap} {f : CString}
    (hfields : ∀ g ∈ f :: fields, valueDelim ∉ g)
    (hmore : ¬(f.dropWhile (decide <| · = keyDelim) = [] ∧ fields = [])) :
    kvpParseLoop {} [keyDelim] [valueDelim] (n + 1) i ([valueDelim].intercalate (f :: fields))
        result =
      (takeKey keyDelim valueDelim (f.dropWhile (decide <| · = keyDelim) :: fields)).bind fun x =>
        (takeValue x.2).bind fun y =>
          if x.1 ∈ result.keys then none
          else kvpParseLoop {} [keyDelim] [valueDelim] n (i + 1) ([valueDelim].intercalate y.2)
            (result ++ [(x.1, y.1)]) := by
  cases hkey : takeKey keyDelim valueDelim (f.dropWhile (decide <| · = keyDelim) :: fields) with
  | none =>
    -- the key takes all that is left
    have hclean := clean_of_notMem (fun hnil => hmore (eq_nil_of_intercalate hnil))
      (takeKey_eq_none hne hkey)
    exact kvpParseLoop_stuck (next_dropWhile.trans (Tokenizer.next_of_clean hclean)) rfl
  | some found =>
    obtain ⟨hkeyne, hnext⟩ := next_takeKey hne hkey
    obtain ⟨-, -, -, hrest⟩ := takeKey_eq_some hne hkey
    have hvalue := next_intercalate (hrest (notMem_skipped hfields))
    rw [Option.bind_some]
    cases htake : takeValue found.2 with
    | none =>
      rw [htake] at hvalue
      exact kvpParseLoop_stuck hnext hvalue
    | some found' =>
      rw [htake] at hvalue
      exact kvpParseLoop_pair hnext hkeyne hvalue

/-- What is left after a round: the fields are fewer and their text is shorter. -/
theorem shorter_of_take (hne : keyDelim ≠ valueDelim) {f : CString} {x y : CString × List CString}
    (hfields : ∀ g ∈ f :: fields, valueDelim ∉ g)
    (hkey : takeKey keyDelim valueDelim (f.dropWhile (decide <| · = keyDelim) :: fields) = some x)
    (hvalue : takeValue x.2 = some y) :
    (∀ g ∈ y.2, valueDelim ∉ g) ∧ y.2.length ≤ fields.length ∧
      ([valueDelim].intercalate y.2).length < ([valueDelim].intercalate (f :: fields)).length := by
  obtain ⟨-, hnext⟩ := next_takeKey hne hkey
  obtain ⟨-, -, hlength, hrest⟩ := takeKey_eq_some hne hkey
  obtain ⟨-, hshort, hmem⟩ := mem_takeValue hvalue
  have hclean := hrest (notMem_skipped hfields)
  have hnext' := next_intercalate hclean
  rw [hvalue] at hnext'
  have hlt := Tokenizer.length_rest_lt hnext
  have hlt' := Tokenizer.length_rest_lt hnext'
  simp only [List.length_cons] at hlength
  exact ⟨fun g hg => hclean g (hmem g hg), by omega, hlt'.trans hlt⟩

/-- From a text of fields the loop adds the pairs that are read from them to what it has, unless a
key repeats. -/
theorem kvpParseLoop_eq_readFieldsUpTo (hne : keyDelim ≠ valueDelim) {m n i : ℕ} {result : KVPMap}
    (hfields : ∀ f ∈ fields, valueDelim ∉ f) (hm : fields.length ≤ m)
    (hn : ([valueDelim].intercalate fields).length ≤ n) (hresult : result.keys.Nodup) :
    kvpParseLoop {} [keyDelim] [valueDelim] n i ([valueDelim].intercalate fields) result =
      (readFieldsUpTo keyDelim valueDelim m fields).bind fun pairs =>
        if (KVPMap.keys (result ++ pairs)).Nodup then some (result ++ pairs) else none := by
  have hnothing : stringTokenizerGetNextToken [] [keyDelim] = none := rfl
  induction m generalizing n i result fields with
  | zero =>
    obtain rfl := List.length_eq_zero_iff.mp (Nat.le_zero.mp hm)
    simp [readFieldsUpTo, kvpParseLoop_done hnothing, hresult]
  | succ m ih =>
    cases fields with
    | nil => simp [readFieldsUpTo, kvpParseLoop_done hnothing, hresult]
    | cons f fields =>
      rw [readFieldsUpTo]
      split_ifs with hend
      · -- nothing but key delimiters is left
        have hnone : stringTokenizerGetNextToken ([valueDelim].intercalate (f :: fields))
            [keyDelim] = none := by
          rw [next_dropWhile, hend.1, hend.2]
          rfl
        simp [kvpParseLoop_done hnone, hresult]
      · have hpos : 0 < ([valueDelim].intercalate (f :: fields)).length := by
          refine List.length_pos_iff.mpr fun hnil => hend ?_
          obtain ⟨rfl, hnone⟩ := eq_nil_of_intercalate hnil
          exact ⟨rfl, hnone⟩
        obtain ⟨n, rfl⟩ : ∃ k, n = k + 1 := ⟨n - 1, by omega⟩
        rw [kvpParseLoop_round hne hfields hend]
        cases hkey : takeKey keyDelim valueDelim
            (f.dropWhile (decide <| · = keyDelim) :: fields) with
        | none => rfl
        | some x =>
          rw [Option.bind_some, Option.bind_some]
          cases htake : takeValue x.2 with
          | none => rfl
          | some y =>
            obtain ⟨hclean, hfewer, hshorter⟩ := shorter_of_take hne hfields hkey htake
            rw [List.length_cons] at hm
            rw [Option.bind_some, Option.bind_some]
            by_cases hrepeat : x.1 ∈ result.keys
            · rw [if_pos hrepeat]
              cases readFieldsUpTo keyDelim valueDelim m y.2 with
              | none => rfl
              | some pairs => exact (if_neg (KVPMap.not_nodup_keys hrepeat)).symm
            · rw [if_neg hrepeat, ih hclean (by omega) (by omega)
                (KVPMap.nodup_keys_concat hresult hrepeat y.1)]
              cases readFieldsUpTo keyDelim valueDelim m y.2 with
              | none => rfl
              | some pairs =>
                simp only [Option.bind_some, Option.map_some, List.append_assoc,
                  List.singleton_append]

theorem notMem_of_mem_splitOn {text f : CString} {d : Char} (h : f ∈ text.splitOn d) : d ∉ f := by
  induction text generalizing f with
  | nil =>
    obtain rfl : f = [] := by simpa using h
    exact List.not_mem_nil
  | cons c text ih =>
    rw [List.splitOn_cons_eq_if_modifyHead] at h
    split_ifs at h with hc
    · rcases List.mem_cons.mp h with rfl | h
      · exact List.not_mem_nil
      · exact ih h
    · obtain ⟨g, gs, hsplit⟩ := List.exists_cons_of_ne_nil (List.splitOn_ne_nil d text)
      rw [hsplit, List.modifyHead_cons] at h
      rw [hsplit] at ih
      rcases List.mem_cons.mp h with rfl | h
      · have hne : d ≠ c := fun heq => hc (by simp [heq])
        exact List.not_mem_cons_of_ne_of_not_mem hne (ih List.mem_cons_self)
      · exact ih (List.mem_cons_of_mem _ h)

/-- `kvp_parser_parse` reads the pairs from the fields of the text, unless a key repeats. -/
theorem kvpParserParse_eq_readFields (hne : keyDelim ≠ valueDelim) (text : CString) :
    kvpParserParse {} (some text) (some [keyDelim]) (some [valueDelim]) =
      (readFields keyDelim valueDelim (text.splitOn valueDelim)).bind fun pairs =>
        if pairs.keys.Nodup then some pairs else none := by
  have htext : [valueDelim].intercalate (text.splitOn valueDelim) = text :=
    List.intercalate_splitOn valueDelim
  have hnil : (KVPMap.keys []).Nodup := List.nodup_nil
  have hloop := kvpParseLoop_eq_readFieldsUpTo (i := 0) hne
    (fun f hf => notMem_of_mem_splitOn hf) (Nat.le_refl _) (Nat.le_of_eq (congrArg _ htext)) hnil
  rw [htext] at hloop
  simpa [kvpParserParse, kvpParseInternal, readFields] using hloop

/-- An empty value takes the next field. -/
example : readFields '=' '&' ("sig=&skn=x&skn=y".toList.splitOn '&') =
    some [("sig".toList, "skn=x".toList), ("skn".toList, "y".toList)] := by decide

/-! ### The values -/

theorem readFieldsUpTo_ne_nil {n : ℕ} {pairs : KVPMap}
    (h : readFieldsUpTo keyDelim valueDelim n fields = some pairs) : ∀ p ∈ pairs, p.2 ≠ [] := by
  induction n generalizing fields pairs with
  | zero =>
    obtain rfl := Option.some.inj h
    exact nofun
  | succ n ih =>
    cases fields with
    | nil =>
      obtain rfl := Option.some.inj h
      exact nofun
    | cons f fields =>
      rw [readFieldsUpTo] at h
      split_ifs at h
      · obtain rfl := Option.some.inj h
        exact nofun
      · obtain ⟨found, -, h⟩ := Option.bind_eq_some_iff.mp h
        obtain ⟨found', htake, h⟩ := Option.bind_eq_some_iff.mp h
        obtain ⟨rest, hrest, rfl⟩ := Option.map_eq_some_iff.mp h
        rw [List.forall_mem_cons]
        exact ⟨(mem_takeValue htake).1, ih hrest⟩

/-- No value that is read is empty. -/
theorem readFields_ne_nil {pairs : KVPMap}
    (h : readFields keyDelim valueDelim fields = some pairs) : ∀ p ∈ pairs, p.2 ≠ [] :=
  readFieldsUpTo_ne_nil h

end EventHubs
