import Mathlib.Data.List.Basic
import Taxon.Text.ByteOrder

/-!
The byte order is a strict total order on texts: two texts with the same bytes are one text.
-/

set_option autoImplicit false

namespace Taxon

theorem utf8_bytes_injective : Function.Injective utf8Bytes := by
  intro s t same
  have arrays : s.toByteArray.data = t.toByteArray.data := Array.toList_inj.mp same
  exact String.toByteArray_inj.mp (ByteArray.ext arrays)

theorem from_utf8_iff (content : ByteArray) (text : String) :
    String.fromUTF8? content = some text ↔ content = text.toUTF8 := by
  unfold String.fromUTF8?
  constructor
  · intro decoded
    split at decoded
    · rw [← Option.some.inj decoded]
      rfl
    · cases decoded
  · rintro rfl
    exact dif_pos text.isValidUTF8

theorem precedes_iff (s t : String) : precedes s t = true ↔ utf8Bytes s < utf8Bytes t := by
  simp [precedes]

theorem precedes_irrefl (s : String) : ¬precedes s s = true := by
  rw [precedes_iff]
  exact List.lt_irrefl _

theorem precedes_trans {r s t : String} (first : precedes r s = true)
    (second : precedes s t = true) : precedes r t = true := by
  rw [precedes_iff] at *
  exact List.lt_trans first second

theorem precedes_asymm {s t : String} (before : precedes s t = true) : ¬precedes t s = true :=
  fun behind => precedes_irrefl s (precedes_trans before behind)

theorem precedes_of_ne {s t : String} (different : s ≠ t) (behind : ¬precedes s t = true) :
    precedes t s = true := by
  by_contra ahead
  rw [precedes_iff, List.not_lt] at behind ahead
  exact different (utf8_bytes_injective (List.le_antisymm ahead behind))

theorem not_after_iff (s t : String) : notAfter s t = true ↔ ¬precedes t s = true := by
  simp [notAfter]

theorem not_after_bytes (s t : String) : notAfter s t = true ↔ utf8Bytes s ≤ utf8Bytes t := by
  rw [not_after_iff, precedes_iff, List.not_lt]

theorem not_after_total (s t : String) : (notAfter s t || notAfter t s) = true := by
  rw [Bool.or_eq_true, not_after_iff, not_after_iff, ← not_and_or]
  exact fun both => precedes_asymm both.1 both.2

theorem not_after_antisymm {s t : String} (first : notAfter s t = true)
    (second : notAfter t s = true) : s = t := by
  rw [not_after_iff] at first second
  by_contra different
  exact first (precedes_of_ne different second)

theorem not_after_trans (r s t : String) (first : notAfter r s = true)
    (second : notAfter s t = true) : notAfter r t = true := by
  rw [not_after_iff] at *
  intro behind
  by_cases same : s = t
  · exact first (same ▸ behind)
  · exact first (precedes_trans (precedes_of_ne (Ne.symm same) second) behind)

theorem sort_of_perm {names increasing : List String} (perm : names.Perm increasing)
    (ordered : increasing.Pairwise fun s t => precedes s t = true) :
    names.mergeSort notAfter = increasing := by
  have sorted := List.pairwise_mergeSort not_after_trans not_after_total names
  have already : increasing.Pairwise fun s t => notAfter s t = true :=
    ordered.imp fun before => (not_after_iff _ _).mpr (precedes_asymm before)
  exact ((List.mergeSort_perm names notAfter).trans perm).eq_of_pairwise
    (fun _ _ _ _ => not_after_antisymm) sorted already

end Taxon
