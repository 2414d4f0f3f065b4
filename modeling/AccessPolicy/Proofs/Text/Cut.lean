import AccessPolicy.Text.Line
import Mathlib.Data.List.Basic
import Mathlib.Data.List.TakeWhile

/-!
# Cutting texts

Three ways to cut a text: its edges are taken off, it is cut in two at the first of its characters
that is a given mark, or at all of them. In each case the pieces are known from how they are put
together.

* `Text.exists_eq_append_trim`, `Text.trim_append`: what trimming takes off, and what it leaves;
* `Text.takeWhile_append_mark`, `Text.dropWhile_append_mark`: the pieces before and after a mark;
* `Text.splitOn_intercalate`: the pieces between all marks.
-/

namespace AccessPolicy.Text

/-! ### Edges -/

/-- What is trimmed off the end of a text are characters of the kind. -/
theorem exists_eq_append_trimEnd (edge : Char → Bool) (cs : List Char) :
    ∃ after, cs = trimEnd edge cs ++ after ∧ ∀ c ∈ after, edge c = true := by
  refine ⟨(cs.reverse.takeWhile edge).reverse, ?_, fun c hc =>
    List.mem_takeWhile_imp (List.mem_reverse.mp hc)⟩
  rw [trimEnd, ← List.reverse_append, List.takeWhile_append_dropWhile, List.reverse_reverse]

/-- What is trimmed off a text are characters of the kind, at both ends. -/
theorem exists_eq_append_trim (edge : Char → Bool) (cs : List Char) :
    ∃ before after, cs = before ++ trim edge cs ++ after ∧
      ∀ c ∈ before ++ after, edge c = true := by
  obtain ⟨after, hafter, hedge⟩ := exists_eq_append_trimEnd edge (cs.dropWhile edge)
  refine ⟨cs.takeWhile edge, after, ?_, fun c hc => ?_⟩
  · rw [trim, List.append_assoc, ← hafter, List.takeWhile_append_dropWhile]
  · exact (List.mem_append.mp hc).elim List.mem_takeWhile_imp (hedge c)

/-- What is trimmed off the end may as well be left out before. -/
theorem trimEnd_append_of_forall {edge : Char → Bool} {after : List Char}
    (h : ∀ c ∈ after, edge c = true) (cs : List Char) :
    trimEnd edge (cs ++ after) = trimEnd edge cs := by
  rw [trimEnd, List.reverse_append, List.dropWhile_append_of_pos (by simpa using h), trimEnd]

/-- Trimming the end leaves what does not end with a character of the kind. -/
theorem prefix_trimEnd {edge : Char → Bool} {cs ds : List Char} (h : ds <+: cs)
    (hlast : ∀ c ∈ ds.getLast?, edge c = false) : ds <+: trimEnd edge cs := by
  obtain ⟨after, hafter, hedge⟩ := exists_eq_append_trimEnd edge cs
  have hprefix : trimEnd edge cs <+: cs := ⟨after, hafter.symm⟩
  rcases List.prefix_or_prefix_of_prefix h hprefix with hds | ⟨more, rfl⟩
  · exact hds
  · obtain ⟨rest, hrest⟩ := h
    rw [List.append_assoc] at hrest
    cases hmore : more.getLast? with
    | none => simp [List.getLast?_eq_none_iff.mp hmore]
    | some c =>
      have hmem : c ∈ after := by
        rw [← List.append_cancel_left (hrest.trans hafter)]
        exact List.mem_append_left _ (List.mem_of_getLast? hmore)
      have hc := hlast c (by simp [List.getLast?_append, hmore])
      simp [hedge c hmem] at hc

private theorem dropWhile_append_of_forall {edge : Char → Bool} {before core : List Char}
    (hbefore : ∀ c ∈ before, edge c = true) (hcore : ∀ c ∈ core.head?, edge c = false) :
    (before ++ core).dropWhile edge = core := by
  rw [List.dropWhile_append_of_pos hbefore]
  cases core with
  | nil => rfl
  | cons c rest => simp [hcore c rfl]

/-- Trimming takes off no more than the edges. -/
theorem trim_append {edge : Char → Bool} {before core after : List Char}
    (hbefore : ∀ c ∈ before, edge c = true) (hafter : ∀ c ∈ after, edge c = true)
    (hfirst : ∀ c ∈ core.head?, edge c = false) (hlast : ∀ c ∈ core.getLast?, edge c = false)
    (hcore : core ≠ []) : trim edge (before ++ core ++ after) = core := by
  have hstart : (before ++ core ++ after).dropWhile edge = core ++ after := by
    rw [List.append_assoc]
    refine dropWhile_append_of_forall hbefore fun c hc => hfirst c ?_
    rwa [List.head?_append_of_ne_nil _ hcore] at hc
  rw [trim, hstart, trimEnd, List.reverse_append,
    dropWhile_append_of_forall (by simpa using hafter) (by simpa using hlast),
    List.reverse_reverse]

/-! ### The first mark -/

section Mark

variable {mark : Char} {word : List Char}

private theorem ne_mark (h : mark ∉ word) : ∀ c ∈ word, decide (c ≠ mark) = true := by
  intro c hc
  simp only [decide_eq_true_eq]
  rintro rfl
  exact h hc

/-- What stands before the first mark. -/
theorem takeWhile_append_mark (h : mark ∉ word) (rest : List Char) :
    (word ++ mark :: rest).takeWhile (· ≠ mark) = word := by
  rw [List.takeWhile_append_of_pos (ne_mark h)]
  simp

/-- What stands from the first mark on. -/
theorem dropWhile_append_mark (h : mark ∉ word) (rest : List Char) :
    (word ++ mark :: rest).dropWhile (· ≠ mark) = mark :: rest := by
  rw [List.dropWhile_append_of_pos (ne_mark h)]
  simp

/-- Nothing is left of a text without a mark. -/
theorem dropWhile_of_notMem (h : mark ∉ word) : word.dropWhile (· ≠ mark) = [] :=
  List.dropWhile_eq_nil_iff.mpr (ne_mark h)

end Mark

/-! ### Pieces -/

/-- A text is cut at the first character of the kind. -/
theorem splitOn_append_mark {stop : Char → Bool} {mark : Char} (hmark : stop mark = true)
    {piece : List Char} (h : ∀ c ∈ piece, stop c = false) (rest : List Char) :
    splitOn stop (piece ++ mark :: rest) = piece :: splitOn stop rest := by
  induction piece with
  | nil => rw [List.nil_append, splitOn, if_pos hmark]
  | cons c piece ih =>
    rw [List.forall_mem_cons] at h
    rw [List.cons_append, splitOn, ih h.2]
    simp [h.1]

/-- Pieces that are joined are found again, if no character is in them that is cut at. -/
theorem splitOn_intercalate {stop : Char → Bool} {mark : Char} (hmark : stop mark = true)
    {pieces : List (List Char)} (hne : pieces ≠ [])
    (h : ∀ piece ∈ pieces, ∀ c ∈ piece, stop c = false) :
    splitOn stop ([mark].intercalate pieces) = pieces := by
  induction pieces with
  | nil => exact absurd rfl hne
  | cons piece rest ih =>
    rw [List.forall_mem_cons] at h
    cases rest with
    | nil => rw [List.intercalate_singleton, splitOn_of_forall h.1]
    | cons next rest =>
      rw [List.intercalate_cons_cons, List.append_assoc, List.singleton_append,
        splitOn_append_mark hmark h.1, ih (by simp) h.2]

end AccessPolicy.Text
