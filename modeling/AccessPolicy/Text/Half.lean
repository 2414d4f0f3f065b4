/-!
# Halves of pairs

A code point beyond the first 65536 can be given as a pair of halves, the numbers from D800 to DFFF.
A text that was read from escapes may hold halves of its own, and two that stand together are not
the character that they would make as a pair. No character has the number of a half: the
private-use characters from U+10D800 to U+10DFFF stand for the halves here.

* `Text.ofPoint` is the character of a code point, `Text.point` the code point of a character;
* `Text.precedes` is the order of texts by code point, in which halves come where their numbers are.
-/

namespace AccessPolicy.Text

/-- What is added to the number of a half to give the character that stands for it. -/
def halfShift : Nat := 0x100000

/-- Whether a number is that of a half. -/
def isHalfPoint (n : Nat) : Bool := 0xD800 ≤ n && n ≤ 0xDFFF

/-- Whether a character stands for a half. -/
def isHalf (c : Char) : Bool := isHalfPoint (c.toNat - halfShift)

/-- The character of a code point. -/
def ofPoint (n : Nat) : Char :=
  if isHalfPoint n then Char.ofNat (halfShift + n) else Char.ofNat n

/-- The code point of a character. -/
def point (c : Char) : Nat := if isHalf c then c.toNat - halfShift else c.toNat

/-- Whether characters can be encoded: none of them stands for a half. -/
def isWhole (cs : List Char) : Bool := cs.all fun c => !isHalf c

/-- Whether code points come before others. -/
def pointsPrecede : List Nat → List Nat → Bool
  | _, [] => false
  | [], _ :: _ => true
  | a :: as, b :: bs => a < b || (a == b && pointsPrecede as bs)

/-- Whether a text comes before another by code point. -/
def precedes (s t : String) : Bool :=
  pointsPrecede (s.toList.map point) (t.toList.map point)

theorem point_of_not_isHalf {c : Char} (h : isHalf c = false) : point c = c.toNat := by
  simp [point, h]

/-- No code points come before themselves. -/
theorem pointsPrecede_irrefl (as : List Nat) : pointsPrecede as as = false := by
  induction as with
  | nil => rfl
  | cons a as ih => simp [pointsPrecede, ih]

/-- What comes before something comes before all that comes after it. -/
theorem pointsPrecede_trans {as bs cs : List Nat} (h : pointsPrecede as bs = true)
    (h' : pointsPrecede bs cs = true) : pointsPrecede as cs = true := by
  induction as generalizing bs cs with
  | nil =>
    cases cs with
    | nil => cases bs <;> simp [pointsPrecede] at h'
    | cons => rfl
  | cons a as ih =>
    cases bs with
    | nil => simp [pointsPrecede] at h
    | cons b bs =>
      cases cs with
      | nil => simp [pointsPrecede] at h'
      | cons c cs =>
        simp only [pointsPrecede, Bool.or_eq_true, Bool.and_eq_true, decide_eq_true_eq,
          beq_iff_eq] at h h' ⊢
        rcases h with ab | ⟨ab, rest⟩
        · rcases h' with bc | ⟨bc, _⟩
          · exact .inl (Nat.lt_trans ab bc)
          · exact .inl (bc ▸ ab)
        · rcases h' with bc | ⟨bc, rest'⟩
          · exact .inl (ab ▸ bc)
          · exact .inr ⟨ab.trans bc, ih rest rest'⟩

/-- Of different code points the ones come before the others. -/
theorem eq_of_not_pointsPrecede {as bs : List Nat} (h : pointsPrecede as bs = false)
    (h' : pointsPrecede bs as = false) : as = bs := by
  induction as generalizing bs with
  | nil => cases bs <;> simp_all [pointsPrecede]
  | cons a as ih =>
    cases bs with
    | nil => simp [pointsPrecede] at h'
    | cons b bs =>
      simp only [pointsPrecede, Bool.or_eq_false_iff, Bool.and_eq_false_iff,
        decide_eq_false_iff_not, beq_eq_false_iff_ne] at h h'
      have same : a = b := by omega
      subst same
      rw [ih (h.2.resolve_left fun ne => ne rfl) (h'.2.resolve_left fun ne => ne rfl)]

end AccessPolicy.Text
