import Mathlib.Data.String.Basic

/-!
# Strings are ordered by their bytes

Names are written in the order of their bytes. What is compared are characters, by their numbers,
and that this comes to the same is a property of the encoding. A character with a longer encoding
has a larger first byte, and of two encodings of one length the larger number has the larger digits.
Since no encoding begins another one, what comes after the first difference does not count.
-/

namespace EndpointSync

namespace Text

def bytes (s : String) : List UInt8 := s.toUTF8.data.toList

theorem bytes_eq (s : String) : bytes s = s.toList.flatMap String.utf8EncodeChar := by
  rw [bytes, String.toUTF8_eq_toByteArray, ← String.utf8Encode_toList, List.utf8Encode,
    List.data_toByteArray, List.toList_toArray]

/-- A larger character has a larger encoding, whatever follows. -/
theorem utf8EncodeChar_append_lt {c d : Char} (h : c < d) (xs ys : List UInt8) :
    String.utf8EncodeChar c ++ xs < String.utf8EncodeChar d ++ ys := by
  have hless : c.val.toNat < d.val.toNat := h
  have hbound : d.val.toNat < 1114112 := by
    rcases d.valid with hlow | hhigh
    · have hsurrogate : d.val.toNat < 55296 := hlow
      omega
    · exact hhigh.2
  rw [String.utf8EncodeChar, String.utf8EncodeChar]
  generalize c.val.toNat = v at hless
  generalize d.val.toNat = w at hless hbound
  -- one case for each two lengths, of which those with the longer one first cannot be
  split_ifs
  all_goals
    simp only [List.cons_append, List.nil_append, List.cons_lt_cons_iff, UInt8.lt_iff_toNat_lt,
      ← UInt8.toNat_inj, UInt8.toNat_ofNat']
    simp (disch := omega) only [Nat.mod_eq_of_lt]
    omega

private theorem flatMap_utf8EncodeChar_lt {cs ds : List Char} (h : cs < ds) :
    cs.flatMap String.utf8EncodeChar < ds.flatMap String.utf8EncodeChar := by
  induction cs generalizing ds with
  | nil =>
    rcases ds with _ | ⟨d, ds⟩
    · exact absurd h (List.lt_irrefl [])
    · rw [List.flatMap_nil, List.flatMap_cons]
      obtain ⟨b, bs, hbytes⟩ := List.exists_cons_of_ne_nil (String.utf8EncodeChar_ne_nil (c := d))
      rw [hbytes, List.cons_append]
      exact List.nil_lt_cons b _
  | cons c cs ih =>
    rcases ds with _ | ⟨d, ds⟩
    · exact absurd h (List.not_lt_nil _)
    · rw [List.flatMap_cons, List.flatMap_cons]
      rcases List.cons_lt_cons_iff.mp h with hfirst | ⟨rfl, hrest⟩
      · exact utf8EncodeChar_append_lt hfirst _ _
      · exact List.append_left_lt (ih hrest)

/-- **Strings are ordered by their bytes.** -/
theorem bytes_lt {s t : String} (h : s < t) : bytes s < bytes t := by
  rw [bytes_eq, bytes_eq]
  exact flatMap_utf8EncodeChar_lt (String.lt_iff_toList_lt.mp h)

/-- A letter with an accent comes after all without one, since its encoding is longer. -/
example : bytes "zz" < bytes "é" ∧ bytes "É" < bytes "é" := by decide

theorem bytes_cons_lt {s t : String} {l l' : List (List UInt8)} (h : s < t ∨ s = t ∧ l < l') :
    bytes s :: l < bytes t :: l' := by
  rw [List.cons_lt_cons_iff]
  rcases h with hfirst | ⟨rfl, hrest⟩
  · exact .inl (bytes_lt hfirst)
  · exact .inr ⟨rfl, hrest⟩

end Text

end EndpointSync
