import EventHubs.SASToken.TokenMap

/-!
# Reading a token again

`GetURIAndExpirationFromSASToken` reads a refresh token twice: when the token is parsed, and when it
is applied. The second reading finds what the first one found, whatever `errno` is by then, as long
as the conversion of the expiry reports an overflow for the numbers that do not fit and for no
other.

## Main definitions

* `KVPParserEnv.FindsKeys` — no search for a key is given up.
* `EventHubAuthCBS.ReportsOverflow` — what is asked of the conversion.
* `EventHubAuthCBS.readSASToken` — the reading when no call fails.

## Main results

* `EventHubAuthCBS.readSASToken_of_sasTokenParse`.
-/

namespace EventHubs

/-! ### The pairs -/

/-- No search for a key fails while there is one. A search that does ends the loop as the end of the
text does. -/
def KVPParserEnv.FindsKeys (env : KVPParserEnv) : Prop := ∀ i, env.succeeds (.nextKey i) = true

variable {env : KVPParserEnv} {keyDelim valueDelim : CString}

/-- What the loop reads although calls may fail, it reads when none does. -/
theorem kvpParseLoop_of_eq_some (hkeys : env.FindsKeys) {n i : ℕ} {cursor : CString}
    {result m : KVPMap} (h : kvpParseLoop env keyDelim valueDelim n i cursor result = some m) :
    kvpParseLoop {} keyDelim valueDelim n i cursor result = some m := by
  induction n generalizing i cursor result with
  | zero => exact h
  | succ n ih =>
    simp only [kvpParseLoop, hkeys i, Bool.not_true, Bool.false_eq_true, if_false] at h ⊢
    cases hkey : stringTokenizerGetNextToken cursor keyDelim with
    | none => simpa [hkey] using h
    | some found =>
      simp only [hkey, Option.ite_none_left_eq_some] at h ⊢
      obtain ⟨-, h⟩ := h
      cases hvalue : stringTokenizerGetNextToken found.2 valueDelim with
      | none => simp [hvalue] at h
      | some found' =>
        simp only [hvalue, Option.ite_none_left_eq_some, Bool.not_eq_true, Bool.or_eq_false_iff]
          at h ⊢
        obtain ⟨⟨-, hlength⟩, -, -, h⟩ := h
        cases hadd : result.add found.1 found'.1 with
        | none => simp [hadd] at h
        | some result' =>
          simp only [hadd, hlength, true_and] at h ⊢
          exact ih h

theorem kvpParserParse_of_eq_some (hkeys : env.FindsKeys) {input : CString} {m : KVPMap}
    (h : kvpParserParse env (some input) (some keyDelim) (some valueDelim) = some m) :
    kvpParserParse {} (some input) (some keyDelim) (some valueDelim) = some m := by
  simp only [kvpParserParse, kvpParseInternal, Option.ite_none_left_eq_some] at h ⊢
  obtain ⟨-, -, -, -, -, h⟩ := h
  exact ⟨by simp, by simp, by simp, by simp, by simp, kvpParseLoop_of_eq_some hkeys h⟩

namespace EventHubAuthCBS

/-! ### The conversion -/

/-- The number at the beginning of a text, after spaces and a sign. -/
def writtenNumber (text : CString) : ℕ :=
  decimalValue ((strtoullSign (text.dropWhile isSpace)).2.takeWhile Char.isDigit)

/-- The conversion reports an overflow, `ULLONG_MAX` with `errno` at `ERANGE`, for a number that
does not fit and for no other. -/
def ReportsOverflow (convert : CString → Errno → UInt64 × Errno) : Prop :=
  ∀ text errno, OutOfRange convert errno text ↔ 2 ^ 64 ≤ writtenNumber text

/-- `strtoull` with `errno` cleared before. -/
def clearedStrtoull (text : CString) (_ : Errno) : UInt64 × Errno := strtoull text 0

theorem clearedStrtoull_reportsOverflow : ReportsOverflow clearedStrtoull := by
  intro text errno
  have hclear : ¬ (0 : Errno) = erange := by decide
  by_cases hfits : writtenNumber text < 2 ^ 64
  · have hkept : (clearedStrtoull text errno).2 = 0 := by
      simp only [clearedStrtoull, strtoull]
      exact congrArg Prod.snd (if_pos hfits)
    rw [OutOfRange, hkept]
    exact iff_of_false (fun hrange => hclear hrange.2) (by omega)
  · have hreport : clearedStrtoull text errno = (ullongMax, erange) := if_neg hfits
    rw [OutOfRange, hreport]
    exact iff_of_true ⟨rfl, rfl⟩ (by omega)

/-! ### The four checks -/

variable {env : SASTokenParseEnv} {m : KVPMap} {uri sasToken : CString} {e : UInt64}

/-- What the checks pass although copying the URI may fail, they pass when it does not. -/
theorem checkTokenMap_of_eq_some (h : checkTokenMap env m = some (uri, e)) :
    checkTokenMap { errno := env.errno, strtoullS := env.strtoullS } m = some (uri, e) := by
  simp only [checkTokenMap] at h ⊢
  cases hsr : m.getValueFromKey srKey with
  | none => simp [hsr] at h
  | some sr =>
    simp only [hsr, Option.ite_none_left_eq_some] at h ⊢
    obtain ⟨hlength, hstart, -, h⟩ := h
    exact ⟨hlength, hstart, by simp, h⟩

/-- The checks once more. -/
theorem checkTokenMap_again (hconvert : ReportsOverflow env.strtoullS)
    (h : checkTokenMap env m = some (uri, e)) (errno : Errno) :
    ∃ e', checkTokenMap { errno := errno, strtoullS := env.strtoullS } m = some (uri, e') := by
  obtain ⟨sr, sig, skn, se, hsr, hsig, hskn, hse, hstart, hsigne, hsknne, hsene, hrange, huri, -⟩ :=
    checkTokenMap_eq_some_iff.mp (checkTokenMap_of_eq_some h)
  refine ⟨_, checkTokenMap_eq_some_iff.mpr ⟨sr, sig, skn, se, hsr, hsig, hskn, hse, hstart, hsigne,
    hsknne, hsene, ?_, huri, rfl⟩⟩
  rwa [hconvert] at hrange ⊢

/-! ### The token -/

/-- `GetURIAndExpirationFromSASToken` when no call fails. -/
def readSASToken (convert : CString → Errno → UInt64 × Errno) (errno : Errno) (sasToken : String) :
    Option (String × UInt64) :=
  (getURIAndExpirationFromSASToken { errno := errno, strtoullS := convert } sasToken.toList).map
    fun x => (String.ofList x.1, x.2)

/-- The token once more. -/
theorem getURIAndExpirationFromSASToken_again (hkeys : env.kvpParser.FindsKeys)
    (hconvert : ReportsOverflow env.strtoullS)
    (h : getURIAndExpirationFromSASToken env sasToken = some (uri, e)) (errno : Errno) :
    ∃ e', getURIAndExpirationFromSASToken { errno := errno, strtoullS := env.strtoullS } sasToken =
      some (uri, e') := by
  unfold getURIAndExpirationFromSASToken at h ⊢
  obtain ⟨hstart, h⟩ := Option.ite_none_left_eq_some.mp h
  rw [if_neg hstart]
  cases hpairs : kvpParserParse env.kvpParser (some (sasToken.drop sasTokenStart.length))
    (some "=".toList) (some "&".toList) with
  | none =>
    rw [hpairs] at h
    cases h
  | some tokenMap =>
    rw [hpairs] at h
    rw [kvpParserParse_of_eq_some hkeys hpairs]
    exact checkTokenMap_again hconvert h errno

/-- A token that was parsed has the URI of the configuration when it is read again. -/
theorem readSASToken_of_sasTokenParse {tokenize : CString → List CString} {sasToken : String}
    {cfg : EventHubAuthCBSConfig} (hkeys : env.kvpParser.FindsKeys)
    (hconvert : ReportsOverflow env.strtoullS)
    (h : sasTokenParse tokenize env (some sasToken.toList) = some cfg) :
    ∃ uri, cfg.extSASTokenURI = some uri ∧
      ∀ errno, ∃ e, readSASToken env.strtoullS errno sasToken = some (uri, e) := by
  simp only [sasTokenParse, Option.ite_none_left_eq_some] at h
  obtain ⟨-, -, h⟩ := h
  cases hread : getURIAndExpirationFromSASToken env sasToken.toList with
  | none => simp [hread] at h
  | some found =>
    simp only [hread, Option.ite_none_left_eq_some] at h
    obtain ⟨-, -, -, -, h⟩ := h
    obtain rfl := Option.some.inj h
    refine ⟨String.ofList found.1, rfl, fun errno => ?_⟩
    obtain ⟨e, hagain⟩ := getURIAndExpirationFromSASToken_again hkeys hconvert hread errno
    exact ⟨e, by rw [readSASToken, hagain]; rfl⟩

end EventHubAuthCBS

end EventHubs
