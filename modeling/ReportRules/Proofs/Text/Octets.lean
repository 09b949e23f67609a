import Mathlib.Data.String.Basic
import Mathlib.Tactic.SplitIfs

/-!
# ReportRules.Proofs.Text.Octets -- texts in the order of their bytes

The UTF-8 form of a text is a list of octets. UTF-8 keeps the order of code points: comparing two
texts character by character and comparing their octets one by one give the same answer. So a list
of keys that ascends as texts ascends bytewise as well.
-/

namespace ReportRules.Text

/-- The bytes of a text in UTF-8. -/
def octets (s : String) : List UInt8 :=
  s.toUTF8.data.toList

theorem octets_eq_flatMap (s : String) : octets s = s.toList.flatMap String.utf8EncodeChar := by
  have bytes : s.toUTF8 = (s.toList.flatMap String.utf8EncodeChar).toByteArray := by
    rw [String.toUTF8_eq_toByteArray, ← String.utf8Encode_toList]
    rfl
  rw [octets, bytes]
  simp

/-- Of two characters the smaller one has the smaller octets, whatever follows. -/
theorem encodeChar_append_lt {c d : Char} (h : c < d) (xs ys : List UInt8) :
    String.utf8EncodeChar c ++ xs < String.utf8EncodeChar d ++ ys := by
  have hcode : c.val.toNat < d.val.toNat := h
  have hmax : d.val.toNat < 1114112 := by
    rcases d.valid with hd | hd <;> omega
  simp only [String.utf8EncodeChar]
  generalize c.val.toNat = m at *
  generalize d.val.toNat = n at *
  -- one case for each pair of widths; the octets are the digits of the code points
  split_ifs <;>
    simp only [List.cons_append, List.nil_append, List.cons_lt_cons_iff, UInt8.lt_iff_toNat_lt,
      ← UInt8.toNat_inj, UInt8.toNat_ofNat'] <;>
    simp (disch := omega) only [Nat.mod_eq_of_lt] <;>
    omega

theorem flatMap_encodeChar_lt {cs ds : List Char} (h : cs < ds) :
    cs.flatMap String.utf8EncodeChar < ds.flatMap String.utf8EncodeChar := by
  induction h with
  | @nil d ds =>
    rw [List.flatMap_nil, List.flatMap_cons]
    cases hd : String.utf8EncodeChar d with
    | nil => exact absurd hd String.utf8EncodeChar_ne_nil
    | cons x xs => exact List.nil_lt_cons x _
  | rel hlt =>
    rw [List.flatMap_cons, List.flatMap_cons]
    exact encodeChar_append_lt hlt _ _
  | cons _ ih =>
    rw [List.flatMap_cons, List.flatMap_cons]
    exact List.append_left_lt ih

/-- The order of texts is the order of their bytes. -/
theorem octets_lt_iff (s t : String) : octets s < octets t ↔ s < t := by
  rw [octets_eq_flatMap, octets_eq_flatMap]
  constructor
  · intro h
    rcases lt_trichotomy s t with hlt | heq | hgt
    · exact hlt
    · rw [heq] at h
      exact absurd h (List.lt_irrefl _)
    · exact absurd (flatMap_encodeChar_lt hgt) (List.lt_asymm h)
  · intro h
    exact flatMap_encodeChar_lt h

theorem octets_le_iff (s t : String) : octets s ≤ octets t ↔ s ≤ t := by
  rw [← List.not_lt, octets_lt_iff, not_lt]

end ReportRules.Text
