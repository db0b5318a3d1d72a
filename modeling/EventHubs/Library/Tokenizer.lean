import Mathlib.Data.List.Basic
import Mathlib.Data.List.TakeWhile

/-!
# Cutting a text into tokens

A tokenizer keeps a cursor in a text. One search skips the delimiters in front of the cursor,
fails when nothing else is left, and otherwise returns the text up to the next delimiter or the
end; the next search starts after that delimiter. The delimiters may change from one search to
the next.

## Main definitions

* `Tokenizer.next` — one search.
* `Tokenizer.tokens` — every token of a text, for one set of delimiters.

## Main results

* `Tokenizer.next_append`, `Tokenizer.next_of_clean` — what a search finds in a text put together
  from its parts.
* `Tokenizer.next_cases` — the parts of a text in which a search has found something.
* `Tokenizer.tokens_append`, `Tokenizer.tokens_delim`, `Tokenizer.tokens_of_clean`,
  `Tokenizer.clean_of_mem_tokens`.
-/

namespace Tokenizer

variable {α : Type*} (isDelim : α → Bool)

/-- One search from the cursor `input`: the token and the cursor after it. -/
def next (input : List α) : Option (List α × List α) :=
  match input.dropWhile isDelim with
  | [] => none
  | c :: rest =>
    some (c :: rest.takeWhile (!isDelim ·), (rest.dropWhile (!isDelim ·)).tail)

/-- The tokens that the first searches find, at most `n` of them. -/
def tokensUpTo : ℕ → List α → List (List α)
  | 0, _ => []
  | n + 1, input =>
    match next isDelim input with
    | none => []
    | some (token, rest) => token :: tokensUpTo n rest

/-- The tokens that searches with one set of delimiters find until one fails. -/
def tokens (input : List α) : List (List α) := tokensUpTo isDelim input.length input

/-- A possible token: not empty, and without delimiters. -/
def Clean (token : List α) : Prop := token ≠ [] ∧ ∀ c ∈ token, isDelim c = false

instance [DecidableEq α] (token : List α) : Decidable (Clean isDelim token) :=
  decidable_of_iff (token ≠ [] ∧ token.all (!isDelim ·) = true) (by simp [Clean])

variable {isDelim} {token rest skipped : List α} {d : α}

/-! ### One search -/

private theorem takeWhile_stop (rest : List α) (h : ∀ c ∈ token, isDelim c = false)
    (hd : isDelim d = true) :
    (token ++ d :: rest).takeWhile (!isDelim ·) = token ∧
      (token ++ d :: rest).dropWhile (!isDelim ·) = d :: rest := by
  have hclean : ∀ c ∈ token, (!isDelim c) = true := by simpa using h
  constructor
  · rw [List.takeWhile_append_of_pos hclean, List.takeWhile_cons_of_neg (by simp [hd]),
      List.append_nil]
  · rw [List.dropWhile_append_of_pos hclean, List.dropWhile_cons_of_neg (by simp [hd])]

theorem next_skip (h : ∀ c ∈ skipped, isDelim c = true) (input : List α) :
    next isDelim (skipped ++ input) = next isDelim input := by
  rw [next, List.dropWhile_append_of_pos h, next]

/-- A search over skipped delimiters, a token and a delimiter. -/
theorem next_append (ht : Clean isDelim token) (hd : isDelim d = true) :
    next isDelim (token ++ d :: rest) = some (token, rest) := by
  obtain ⟨hne, hclean⟩ := ht
  obtain ⟨c, token, rfl⟩ := List.exists_cons_of_ne_nil hne
  have hc : isDelim c = false := hclean c List.mem_cons_self
  have htail : ∀ x ∈ token, isDelim x = false := fun x hx =>
    hclean x (List.mem_cons_of_mem _ hx)
  have hstop := takeWhile_stop rest htail hd
  rw [next, List.cons_append, List.dropWhile_cons_of_neg (by simp [hc])]
  simp [hstop.1, hstop.2]

/-- A search over a token that ends the text. -/
theorem next_of_clean (ht : Clean isDelim token) : next isDelim token = some (token, []) := by
  obtain ⟨hne, hclean⟩ := ht
  obtain ⟨c, token, rfl⟩ := List.exists_cons_of_ne_nil hne
  have hc : isDelim c = false := hclean c List.mem_cons_self
  have htail : ∀ x ∈ token, (!isDelim x) = true := fun x hx => by
    simp [hclean x (List.mem_cons_of_mem _ hx)]
  rw [next, List.dropWhile_cons_of_neg (by simp [hc])]
  simp only [List.takeWhile_eq_self_iff.mpr htail, List.dropWhile_eq_nil_iff.mpr htail,
    List.tail_nil]

/-- The text a successful search was made in: delimiters, the token, and either nothing more or
a delimiter and the new cursor. -/
theorem next_cases {input : List α} (h : next isDelim input = some (token, rest)) :
    ∃ skipped, (∀ c ∈ skipped, isDelim c = true) ∧ Clean isDelim token ∧
      ((input = skipped ++ token ∧ rest = []) ∨
        ∃ d, isDelim d = true ∧ input = skipped ++ (token ++ d :: rest)) := by
  have hsplit := (List.takeWhile_append_dropWhile (p := isDelim) (l := input)).symm
  have hskip : ∀ c ∈ input.takeWhile isDelim, isDelim c = true := fun c hc =>
    List.mem_takeWhile_imp hc
  rw [next] at h
  cases hd : input.dropWhile isDelim with
  | nil => simp [hd] at h
  | cons c tail =>
    simp only [hd, Option.some.injEq, Prod.mk.injEq] at h
    obtain ⟨rfl, rfl⟩ := h
    have hc : isDelim c = false := by
      have := List.head_dropWhile_not isDelim (l := input) (by simp [hd])
      simpa [hd] using this
    have hclean : Clean isDelim (c :: tail.takeWhile (!isDelim ·)) := by
      refine ⟨List.cons_ne_nil _ _, ?_⟩
      intro x hx
      rcases List.mem_cons.mp hx with rfl | hx
      · exact hc
      · simpa using List.mem_takeWhile_imp hx
    refine ⟨_, hskip, hclean, ?_⟩
    rw [hd] at hsplit
    have htail := (List.takeWhile_append_dropWhile (p := (!isDelim ·)) (l := tail)).symm
    cases hr : tail.dropWhile (!isDelim ·) with
    | nil =>
      left
      rw [hr, List.append_nil] at htail
      exact ⟨by rw [← htail, ← hsplit], rfl⟩
    | cons d rest =>
      right
      have hdelim : isDelim d = true := by
        have := List.head_dropWhile_not (!isDelim ·) (l := tail) (by simp [hr])
        simpa [hr] using this
      refine ⟨d, hdelim, ?_⟩
      rw [hr] at htail
      rw [List.cons_append, List.tail_cons, ← htail, ← hsplit]

theorem Clean.of_next {input : List α} (h : next isDelim input = some (token, rest)) :
    Clean isDelim token := by
  obtain ⟨-, -, hclean, -⟩ := next_cases h
  exact hclean

/-- The cursor moves at least over the token. -/
theorem length_rest_lt {input : List α} (h : next isDelim input = some (token, rest)) :
    rest.length < input.length := by
  obtain ⟨skipped, -, ⟨hne, -⟩, ⟨rfl, rfl⟩ | ⟨d, -, rfl⟩⟩ := next_cases h
  · have := List.length_pos_iff.mpr hne
    simp only [List.length_append, List.length_nil]
    omega
  · simp only [List.length_append, List.length_cons]
    omega

/-! ### Every token -/

private theorem tokensUpTo_eq {n m : ℕ} {input : List α} (hn : input.length ≤ n)
    (hm : input.length ≤ m) : tokensUpTo isDelim n input = tokensUpTo isDelim m input := by
  induction n generalizing m input with
  | zero =>
    obtain rfl : input = [] := List.length_eq_zero_iff.mp (by omega)
    cases m <;> simp [tokensUpTo, next]
  | succ n ih =>
    cases hnext : next isDelim input with
    | none => cases m <;> simp [tokensUpTo, hnext]
    | some found =>
      have hlt := length_rest_lt hnext
      cases m with
      | zero => omega
      | succ m =>
        simp only [tokensUpTo, hnext]
        rw [ih (m := m) (by omega) (by omega)]

/-- The tokens of a text are those that one search after the other finds. -/
theorem tokens_eq (input : List α) :
    tokens isDelim input = match next isDelim input with
      | none => []
      | some (token, rest) => token :: tokens isDelim rest := by
  cases hnext : next isDelim input with
  | none => cases hlen : input.length <;> simp [tokens, tokensUpTo, hlen, hnext]
  | some found =>
    have hlt := length_rest_lt hnext
    obtain ⟨n, hn⟩ : ∃ n, input.length = n + 1 := ⟨input.length - 1, by omega⟩
    simp only [tokens, hn, tokensUpTo, hnext]
    rw [tokensUpTo_eq (m := found.2.length) (by omega) le_rfl]

theorem tokens_append (ht : Clean isDelim token) (hd : isDelim d = true) :
    tokens isDelim (token ++ d :: rest) = token :: tokens isDelim rest := by
  rw [tokens_eq, next_append ht hd]

theorem tokens_of_clean (ht : Clean isDelim token) : tokens isDelim token = [token] := by
  rw [tokens_eq, next_of_clean ht]
  rfl

theorem tokens_delim (hd : isDelim d = true) :
    tokens isDelim (d :: rest) = tokens isDelim rest := by
  have hskip : next isDelim ([d] ++ rest) = next isDelim rest :=
    next_skip (by simpa using hd) rest
  rw [tokens_eq, ← List.singleton_append, hskip, ← tokens_eq]

theorem clean_of_mem_tokens {input : List α} (h : token ∈ tokens isDelim input) :
    Clean isDelim token := by
  induction hlen : input.length using Nat.strong_induction_on generalizing input with
  | _ n ih =>
    rw [tokens_eq] at h
    cases hnext : next isDelim input with
    | none => simp [hnext] at h
    | some found =>
      simp only [hnext, List.mem_cons] at h
      rcases h with rfl | h
      · exact Clean.of_next hnext
      · exact ih _ (hlen ▸ length_rest_lt hnext) h rfl

end Tokenizer
