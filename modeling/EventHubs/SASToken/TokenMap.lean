import EventHubs.SASToken.Parse

/-!
# What `GetURIAndExpirationFromSASToken` accepts

The function reads a map of keys and values off the token and checks four of its entries. The
expiry is what `strtoull_s` makes of the last one, and it is refused only when that call has
returned its largest value while `errno` is `ERANGE`, whoever has set it.

## Main definitions

* `EventHubAuthCBS.IsNumeral` — a non-empty string of decimal digits.
* `EventHubAuthCBS.OutOfRange` — the expiry is taken for one that is out of range.

## Main results

* `EventHubAuthCBS.checkTokenMap_eq_some_iff` — the four checks.
* `EventHubAuthCBS.strtoull_of_isNumeral` — the number that is written is the number read.
* `EventHubAuthCBS.getURIAndExpirationFromSASToken_renderPairs` — tokens of written pairs.
-/

namespace EventHubs

namespace EventHubAuthCBS

/-! ### Numbers -/

/-- A non-empty string of decimal digits. -/
def IsNumeral (text : CString) : Prop := text ≠ [] ∧ ∀ c ∈ text, c.isDigit = true

instance (text : CString) : Decidable (IsNumeral text) :=
  decidable_of_iff (text ≠ [] ∧ text.all Char.isDigit = true) (by simp [IsNumeral])

/-- The conversion returns `ULLONG_MAX` and `errno` is `ERANGE` afterwards. -/
def OutOfRange (convert : CString → Errno → UInt64 × Errno) (errno : Errno) (text : CString) :
    Prop :=
  (convert text errno).1 = ullongMax ∧ (convert text errno).2 = erange

instance (convert : CString → Errno → UInt64 × Errno) (errno : Errno) (text : CString) :
    Decidable (OutOfRange convert errno text) :=
  inferInstanceAs (Decidable (_ ∧ _))

theorem isSpace_of_isDigit {c : Char} (h : c.isDigit = true) : isSpace c = false := by
  simp only [Char.isDigit, Bool.and_eq_true, decide_eq_true_eq] at h
  have hlow : 48 ≤ c.toNat := h.1
  simp only [isSpace, Bool.or_eq_false_iff, decide_eq_false_iff_not, Bool.and_eq_false_imp,
    decide_eq_true_eq, not_le]
  constructor
  · rintro rfl
    exact absurd hlow (by decide)
  · omega

theorem strtoullSign_of_isDigit {c : Char} {text : CString} (h : c.isDigit = true) :
    strtoullSign (c :: text) = (false, c :: text) := by
  unfold strtoullSign
  split
  · next heq =>
    obtain ⟨rfl, -⟩ := List.cons.inj heq
    exact absurd h (by decide)
  · next heq =>
    obtain ⟨rfl, -⟩ := List.cons.inj heq
    exact absurd h (by decide)
  · rfl

/-- A numeral is read as the number it stands for, or as `ULLONG_MAX` when it does not fit. -/
theorem strtoull_of_isNumeral {text : CString} (h : IsNumeral text) (errno : Errno) :
    strtoull text errno =
      if decimalValue text < 2 ^ 64 then (UInt64.ofNat (decimalValue text), errno)
      else (ullongMax, erange) := by
  obtain ⟨hne, hdigits⟩ := h
  obtain ⟨c, text, rfl⟩ := List.exists_cons_of_ne_nil hne
  have hc : c.isDigit = true := hdigits c List.mem_cons_self
  have hspace : (c :: text).dropWhile isSpace = c :: text :=
    List.dropWhile_cons_of_neg (by simp [isSpace_of_isDigit hc])
  have htake : (c :: text).takeWhile Char.isDigit = c :: text :=
    List.takeWhile_eq_self_iff.mpr hdigits
  simp [strtoull, hspace, strtoullSign_of_isDigit hc, htake]

theorem ofNat_eq_ullongMax_iff {n : ℕ} (hn : n < 2 ^ 64) :
    UInt64.ofNat n = ullongMax ↔ n = 2 ^ 64 - 1 := by
  rw [← UInt64.toNat_inj, UInt64.toNat_ofNat_of_lt' hn]
  rfl

/-- A numeral is taken for one that is out of range when it is, and also when it is the largest
number in range and `errno` was `ERANGE` before the call. -/
theorem outOfRange_iff {text : CString} (h : IsNumeral text) (errno : Errno) :
    OutOfRange strtoull errno text ↔
      2 ^ 64 ≤ decimalValue text ∨ (decimalValue text = 2 ^ 64 - 1 ∧ errno = erange) := by
  rw [OutOfRange, strtoull_of_isNumeral h]
  by_cases hlt : decimalValue text < 2 ^ 64
  · rw [if_pos hlt]
    simp only [ofNat_eq_ullongMax_iff hlt]
    constructor
    · exact Or.inr
    · rintro (hle | hmax)
      · omega
      · exact hmax
  · rw [if_neg hlt]
    simp only [true_and]
    exact ⟨fun _ => .inl (by omega), fun _ => trivial⟩

/-! ### The four checks -/

theorem sasTokenURI_check {uri : CString} :
    strncmpIsZero sasTokenURI uri sasTokenURI.length = true ↔ sasTokenURI <+: uri :=
  strncmpIsZero_length

/-- The map is accepted when its `sr` begins like a URI, its `sig`, `skn` and `se` are not empty
and the `se` is not taken for one that is out of range. -/
theorem checkTokenMap_eq_some_iff {convert : CString → Errno → UInt64 × Errno} {errno : Errno}
    {m : KVPMap} {uri : CString} {e : UInt64} :
    checkTokenMap { errno := errno, strtoullS := convert } m = some (uri, e) ↔
      ∃ sr sig skn se, m.getValueFromKey srKey = some sr ∧ m.getValueFromKey sigKey = some sig ∧
        m.getValueFromKey sknKey = some skn ∧ m.getValueFromKey seKey = some se ∧
        sasTokenURI <+: sr ∧ sig ≠ [] ∧ skn ≠ [] ∧ se ≠ [] ∧ ¬ OutOfRange convert errno se ∧
        uri = sr.drop sasTokenURI.length ∧ e = (convert se errno).1 := by
  simp only [checkTokenMap]
  cases m.getValueFromKey srKey with
  | none => simp
  | some sr =>
    cases m.getValueFromKey sigKey with
    | none => simp
    | some sig =>
      cases m.getValueFromKey sknKey with
      | none => simp
      | some skn =>
        cases m.getValueFromKey seKey with
        | none => simp
        | some se =>
          simp only [Option.ite_none_left_eq_some, List.length_eq_zero_iff, Bool.not_eq_true',
            Bool.not_eq_false, Bool.and_eq_true, decide_eq_true_eq, Option.some.injEq,
            Prod.mk.injEq, sasTokenURI_check]
          constructor
          · rintro ⟨-, hsr, -, hsig, hskn, hse, hrange, rfl, rfl⟩
            exact ⟨sr, sig, skn, se, rfl, rfl, rfl, rfl, hsr, hsig, hskn, hse, hrange, rfl, rfl⟩
          · rintro ⟨_, _, _, _, rfl, rfl, rfl, rfl, hsr, hsig, hskn, hse, hrange, rfl, rfl⟩
            have hne : sr ≠ [] := by
              rintro rfl
              exact absurd (List.prefix_nil.mp hsr) (by decide)
            exact ⟨hne, hsr, by simp, hsig, hskn, hse, hrange, rfl, rfl⟩

/-! ### Tokens of written pairs -/

/-- A token that is written with readable pairs is checked for these pairs, unless a key
repeats. -/
theorem getURIAndExpirationFromSASToken_renderPairs (errno : Errno) {pairs : KVPMap}
    (h : ReadablePairs '=' '&' pairs) :
    getURIAndExpirationFromSASToken { errno := errno }
        (sasTokenStart ++ renderPairs '=' '&' pairs) =
      if pairs.keys.Nodup then checkTokenMap { errno := errno } pairs else none := by
  have hstart : strncmpIsZero sasTokenStart (sasTokenStart ++ renderPairs '=' '&' pairs)
      sasTokenStart.length = true := strncmpIsZero_length.mpr (List.prefix_append _ _)
  have hparse : kvpParserParse {} (some (renderPairs '=' '&' pairs)) (some "=".toList)
      (some "&".toList) = if pairs.keys.Nodup then some pairs else none :=
    kvpParserParse_renderPairs h
  simp only [getURIAndExpirationFromSASToken, hstart, Bool.not_true, Bool.false_eq_true, if_false,
    List.drop_left, hparse]
  split_ifs <;> rfl

end EventHubAuthCBS

end EventHubs
