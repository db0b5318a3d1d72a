import EventHubs.SASToken.Parse

/-!
# The host name in a connection string

What a connection string has to say about a connection, in its own terms: an endpoint names its
host, and with it come a key name and a key.

## Main definitions

* `NamesHost` — the host of an endpoint.
* `DescribesConnection` — what the entries of a connection string describe.

## Main results

* `namesHost_iff` — the host by the length of the endpoint.
-/

namespace EventHubs

/-- `SB_STRING`. -/
def sbString : CString := "sb://".toList

/-- `SB_STRING_LENGTH`. -/
def sbStringLength : ℕ := 5

/-- The endpoint is `sb://`, the host, and at most one `/` after it. -/
def NamesHost (endpoint host : CString) : Prop :=
  host ≠ [] ∧
    (endpoint = sbString ++ host ++ ['/'] ∨
      endpoint = sbString ++ host ∧ host.getLast? ≠ some '/')

/-- The entries that describe a connection. -/
structure DescribesConnection (values : KVPMap) (host keyName key : CString) : Prop where
  endpoint : ∃ endpoint, values.getValueFromKey "Endpoint".toList = some endpoint ∧
    NamesHost endpoint host
  hkeyName : values.getValueFromKey "SharedAccessKeyName".toList = some keyName ∧ keyName ≠ []
  hkey : values.getValueFromKey "SharedAccessKey".toList = some key ∧ key ≠ []

variable {endpoint host : CString}

theorem sbString_length : sbString.length = sbStringLength := rfl

/-- The text behind `sb://`. -/
theorem eq_sbString_append (hstart : strncmpIsZero endpoint sbString sbStringLength = true) :
    endpoint = sbString ++ endpoint.drop sbStringLength := by
  rw [strncmpIsZero_iff] at hstart
  have htake : endpoint.take sbStringLength = sbString := hstart
  conv_lhs => rw [← List.take_append_drop sbStringLength endpoint, htake]

theorem getLast?_sbString_append {rest : CString} (hrest : rest ≠ []) :
    (sbString ++ rest).getLast? = rest.getLast? := by
  rw [List.getLast?_append_of_ne_nil _ hrest]

/-- The length of an endpoint, of which one `/` at the end does not count. -/
def hostEnd (endpoint : CString) : ℕ :=
  if sbStringLength < endpoint.length ∧ endpoint.getLast? = some '/' then endpoint.length - 1
  else endpoint.length

/-- The host by the length of the endpoint. -/
theorem namesHost_iff :
    NamesHost endpoint host ↔
      sbStringLength < hostEnd endpoint ∧
        strncmpIsZero endpoint sbString sbStringLength = true ∧
        host = (endpoint.drop sbStringLength).take (hostEnd endpoint - sbStringLength) := by
  constructor
  · rintro ⟨hne, rfl | ⟨rfl, hlast⟩⟩
    · have hpos := List.length_pos_iff.mpr hne
      have hend : hostEnd (sbString ++ host ++ ['/']) = sbStringLength + host.length := by
        rw [hostEnd, if_pos ⟨by simp [sbString_length], by simp⟩]
        simp [sbString_length]
      rw [hend]
      refine ⟨by omega, strncmpIsZero_iff.mpr rfl, ?_⟩
      rw [Nat.add_sub_cancel_left, List.append_assoc]
      exact (List.take_left' rfl).symm
    · have hpos := List.length_pos_iff.mpr hne
      have hend : hostEnd (sbString ++ host) = sbStringLength + host.length := by
        rw [hostEnd, if_neg fun h => hlast ((getLast?_sbString_append hne).symm.trans h.2)]
        simp [sbString_length]
      rw [hend]
      refine ⟨by omega, strncmpIsZero_iff.mpr rfl, ?_⟩
      rw [Nat.add_sub_cancel_left]
      exact (List.take_length).symm
  · rintro ⟨hlt, hprefix, hhost⟩
    have hle : hostEnd endpoint ≤ endpoint.length := by
      unfold hostEnd
      split_ifs <;> omega
    have hsplit := eq_sbString_append hprefix
    generalize endpoint.drop sbStringLength = rest at hsplit hhost
    subst hsplit
    have hrest : rest ≠ [] := by
      rintro rfl
      rw [List.append_nil] at hlt hle
      exact absurd (hlt.trans_le hle) (lt_irrefl _)
    have hpos := List.length_pos_iff.mpr hrest
    have hlong : sbStringLength < (sbString ++ rest).length := by
      rw [List.length_append, sbString_length]
      omega
    by_cases hlast : rest.getLast? = some '/'
    · have hend : hostEnd (sbString ++ rest) = sbStringLength + (rest.length - 1) := by
        rw [hostEnd, if_pos ⟨hlong, (getLast?_sbString_append hrest).trans hlast⟩,
          List.length_append, sbString_length]
        omega
      rw [hend, Nat.add_sub_cancel_left, ← List.dropLast_eq_take] at hhost
      have hsnoc : rest = host ++ ['/'] := by
        rw [hhost]
        exact (List.dropLast_append_getLast? _ hlast).symm
      rw [hend] at hlt
      refine ⟨?_, .inl (by rw [hsnoc, List.append_assoc])⟩
      rw [hhost, ← List.length_pos_iff, List.length_dropLast]
      omega
    · have hend : hostEnd (sbString ++ rest) = sbStringLength + rest.length := by
        rw [hostEnd, if_neg fun h => hlast ((getLast?_sbString_append hrest).symm.trans h.2),
          List.length_append, sbString_length]
      rw [hend, Nat.add_sub_cancel_left, List.take_length] at hhost
      subst hhost
      exact ⟨hrest, .inr ⟨rfl, hlast⟩⟩

end EventHubs
