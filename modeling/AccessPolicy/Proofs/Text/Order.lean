import AccessPolicy.Text.Half
import Mathlib.Data.List.Sort

/-!
# The order of texts

Texts are ordered by code point, and different texts have different code points; so the order is
strict and total. Sorting texts that differ gives them in strictly increasing order, and a list in
strictly increasing order is known by what is in it.

* `Text.precedes_irrefl`, `Text.precedes_trans`, `Text.precedes_of_ne`: a strict total order;
* `Text.Ascending`, `Text.ascending_mergeSort`: strictly increasing lists, and sorting;
* `Text.eq_of_ascending`: uniqueness.
-/

namespace AccessPolicy.Text

/-! ### The order is strict and total -/

/-- A character has its own code point, or stands for the half that has this number. -/
private theorem point_cases (c : Char) :
    point c = c.toNat ∨
      c.toNat = point c + halfShift ∧ 0xD800 ≤ point c ∧ point c ≤ 0xDFFF := by
  by_cases hc : isHalf c = true
  · have hpoint : point c = c.toNat - halfShift := if_pos hc
    have hrange : 0xD800 ≤ point c ∧ point c ≤ 0xDFFF := by
      rw [hpoint]
      simpa [isHalf, isHalfPoint] using hc
    exact .inr ⟨by omega, hrange⟩
  · exact .inl (point_of_not_isHalf (by simpa using hc))

/-- Different characters have different code points: no character has the number of a half. -/
theorem point_injective : Function.Injective point := by
  intro c d h
  have hvalid : ∀ x : Char, x.toNat < 0xD800 ∨ 0xDFFF < x.toNat := fun x => by
    rcases x.valid with hx | hx
    · exact .inl hx
    · exact .inr hx.1
  have hc := hvalid c
  have hd := hvalid d
  refine Char.toNat_inj.mp ?_
  rcases point_cases c with hpc | ⟨hpc, hrange⟩ <;>
    rcases point_cases d with hpd | ⟨hpd, hrange'⟩ <;> omega

theorem precedes_irrefl (s : String) : precedes s s = false :=
  pointsPrecede_irrefl _

theorem precedes_trans {s t u : String} (h : precedes s t = true) (h' : precedes t u = true) :
    precedes s u = true :=
  pointsPrecede_trans h h'

/-- No text comes both before and after another. -/
theorem not_precedes_of_precedes {s t : String} (h : precedes s t = true) :
    precedes t s = false := by
  by_contra hno
  have hself := precedes_trans h (by simpa using hno)
  simp [precedes_irrefl] at hself

/-- Of different texts one comes before the other. -/
theorem precedes_of_ne {s t : String} (hne : s ≠ t) (h : precedes t s = false) :
    precedes s t = true := by
  by_contra hno
  have hpoints := eq_of_not_pointsPrecede (Bool.not_eq_true _ ▸ hno) h
  exact hne (String.toList_inj.mp (List.map_injective_iff.mpr point_injective hpoints))

/-! ### Strictly increasing lists -/

/-- Whether texts are listed in strictly increasing order. -/
def Ascending (l : List String) : Prop := l.Pairwise fun s t => precedes s t = true

/-- **Sorting.** Texts that differ are sorted into strictly increasing order. -/
theorem ascending_mergeSort {l : List String} (h : l.Nodup) :
    Ascending (l.mergeSort fun s t => !precedes t s) := by
  have htrans : ∀ s t u, (!precedes t s) = true → (!precedes u t) = true →
      (!precedes u s) = true := by
    intro s t u hst htu
    rw [Bool.not_eq_true'] at *
    -- the text in the middle is either one of the others, or strictly between them
    by_cases hs : s = t
    · exact hs ▸ htu
    · by_cases ht : t = u
      · exact ht ▸ hst
      · exact not_precedes_of_precedes
          (precedes_trans (precedes_of_ne hs hst) (precedes_of_ne ht htu))
  have htotal : ∀ s t, (!precedes t s || !precedes s t) = true := by
    intro s t
    cases hst : precedes s t with
    | false => simp
    | true => simp [not_precedes_of_precedes hst]
  have hsorted := List.pairwise_mergeSort htrans htotal l
  have hdiffer : (l.mergeSort fun s t => !precedes t s).Nodup := List.nodup_mergeSort.mpr h
  refine (hsorted.and hdiffer).imp ?_
  rintro s t ⟨hle, hne⟩
  exact precedes_of_ne hne (by simpa using hle)

/-- **Uniqueness.** Lists whose texts are strictly increasing are equal if they have the same
items. -/
theorem eq_of_ascending {α : Type} (f : α → String) {l l' : List α} (h : Ascending (l.map f))
    (h' : Ascending (l'.map f)) (hmem : ∀ a, a ∈ l ↔ a ∈ l') : l = l' := by
  have hirrefl : Std.Irrefl fun a b : α => precedes (f a) (f b) = true :=
    ⟨fun a => by simp [precedes_irrefl]⟩
  have hantisymm : Std.Antisymm fun a b : α => precedes (f a) (f b) = true :=
    ⟨fun a b hab hba => by simp [not_precedes_of_precedes hab] at hba⟩
  exact (List.pairwise_map.mp h).eq_of_mem_iff (List.pairwise_map.mp h') hmem

end AccessPolicy.Text
