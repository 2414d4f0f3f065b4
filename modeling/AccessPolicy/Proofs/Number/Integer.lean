import AccessPolicy.Number.Numeral
import AccessPolicy.Proofs.Text.Cut
import AccessPolicy.Proofs.Value.Key
import Mathlib.Algebra.Order.Ring.Rat
import Mathlib.Data.Nat.Cast.Order.Field
import Mathlib.Data.Rat.Floor

/-!
# Integers that numerals and numbers stand for

The grammar of decimal numerals: blanks, a sign, digits of any script with single underscores
between them, and blanks again. `Numeral.read` reads exactly the texts of this grammar that have no
more than `Numeral.longest` digits. A floating-point number stands for an integer too if it is
finite: for its part before the point.

* `Numeral.DigitRun`, `Numeral.Reads`: the grammar, with the number that a text stands for;
* `Numeral.read_eq_ok_iff`: what is read is what the grammar says;
* `Numeral.read_of_longest_lt`: what is refused for the number of its digits alone;
* `Binary64.truncate_eq_some_iff`: truncation is toward zero.
-/

namespace AccessPolicy

namespace Numeral

/-! ### Digits -/

private theorem digitValue?_lt {c : Char} {d : Nat} (h : Text.digitValue? c = some d) :
    d < 10 := by
  obtain ⟨z, hz, rfl⟩ := Option.map_eq_some_iff.mp h
  have hrange := List.find?_some hz
  simp only [Bool.and_eq_true, decide_eq_true_eq] at hrange
  omega

/-- In radix ten the digits are those of the scripts. -/
private theorem digit?_ten (c : Char) : digit? 10 c = Text.digitValue? c := by
  unfold digit?
  cases h : Text.digitValue? c with
  | some d => simp [Option.filter, digitValue?_lt h]
  | none =>
    -- letters stand for ten and more
    have hlower : 'a' ≤ c → ¬ c.toNat - 87 < 10 := fun ha => by
      have : 97 ≤ c.toNat := ha
      omega
    have hupper : 'A' ≤ c → ¬ c.toNat - 55 < 10 := fun ha => by
      have : 65 ≤ c.toNat := ha
      omega
    dsimp only
    split
    · next ha => simp [Option.filter, hlower ha.1]
    · split
      · next ha => simp [Option.filter, hupper ha.1]
      · rfl

/-- No digit is a blank, a sign or an underscore. -/
private theorem digit_cases {c : Char} {d : Nat} (h : Text.digitValue? c = some d) :
    isMargin c = false ∧ c ≠ '-' ∧ c ≠ '+' ∧ c ≠ '_' := by
  obtain ⟨z, hz, -⟩ := Option.map_eq_some_iff.mp h
  have hrange := List.find?_some hz
  have hmem := List.mem_of_find?_eq_some hz
  simp only [Bool.and_eq_true, decide_eq_true_eq] at hrange
  obtain ⟨k, hk, hck⟩ : ∃ k < 10, c = Char.ofNat (z + k) := by
    refine ⟨c.toNat - z, by omega, ?_⟩
    rw [Nat.add_sub_cancel' hrange.1, Char.ofNat_toNat]
  have hall : ∀ z ∈ Text.digitZeros, ∀ k < 10, isMargin (Char.ofNat (z + k)) = false ∧
      Char.ofNat (z + k) ≠ '-' ∧ Char.ofNat (z + k) ≠ '+' ∧ Char.ofNat (z + k) ≠ '_' := by
    decide +kernel
  rw [hck]
  exact hall z hmem k hk

/-- Decimal digits with single underscores between them, and the number that they make. -/
inductive DigitRun : List Char → Nat → Prop where
  /-- One digit. -/
  | digit {c : Char} {d : Nat} (hd : Text.digitValue? c = some d) : DigitRun [c] d
  /-- One more digit. -/
  | next {cs : List Char} {n : Nat} {c : Char} {d : Nat} (h : DigitRun cs n)
    (hd : Text.digitValue? c = some d) : DigitRun (cs ++ [c]) (n * 10 + d)
  /-- One more digit, after an underscore. -/
  | grouped {cs : List Char} {n : Nat} {c : Char} {d : Nat} (h : DigitRun cs n)
    (hd : Text.digitValue? c = some d) : DigitRun (cs ++ ['_', c]) (n * 10 + d)

/-- The signs before the digits of a number, with the integer that they make of it. -/
inductive Signed (m : Nat) : List Char → Int → Prop where
  /-- No sign. -/
  | none : Signed m [] m
  /-- A plus sign. -/
  | plus : Signed m ['+'] m
  /-- A minus sign. -/
  | minus : Signed m ['-'] (-m)

/-- The number of digits in a run: underscores do not count, zeros before the number do. -/
def runLength (run : List Char) : Nat := run.countP (· != '_')

/-- The texts of decimal numerals, with the integers that they stand for: blanks, a sign if any,
digits, of which there are not too many, and blanks. -/
def Reads (text : List Char) (n : Int) : Prop :=
  ∃ (before mark run after : List Char) (m : Nat), text = before ++ (mark ++ run) ++ after ∧
    (∀ c ∈ before ++ after, isMargin c = true) ∧ Signed m mark n ∧ DigitRun run m ∧
    runLength run ≤ longest

/-- Digits after others are read on from what those make. -/
private theorem digits_append {v n : Nat} {cs : List Char} (h : digits 10 v cs = some n)
    (ds : List Char) : digits 10 v (cs ++ ds) = digits 10 n ds := by
  fun_induction digits 10 v cs with
  | case1 v =>
    obtain rfl := Option.some.inj h
    rfl
  | case2 v c cs ih =>
    obtain ⟨d, hd, hrest⟩ := Option.bind_eq_some_iff.mp h
    simpa [digits, hd] using ih d hrest
  | case3 v c cs hc ih =>
    obtain ⟨d, hd, hrest⟩ := Option.bind_eq_some_iff.mp h
    have hne : c ≠ '_' := (digit_cases (digit?_ten c ▸ hd)).2.2.2
    rw [List.cons_append, digits.eq_3 _ _ _ _ (by simp [hne]), hd]
    exact ih d hrest

private theorem digits_singleton {v : Nat} {c : Char} {d : Nat}
    (hd : Text.digitValue? c = some d) : digits 10 v [c] = some (v * 10 + d) := by
  simp [digits, digit?_ten, hd]

/-- A run of digits starts with a digit and ends with one. -/
private theorem DigitRun.edges {cs : List Char} {n : Nat} (h : DigitRun cs n) :
    (∃ c rest d, cs = c :: rest ∧ Text.digitValue? c = some d) ∧
      ∃ c init d, cs = init ++ [c] ∧ Text.digitValue? c = some d := by
  induction h with
  | digit hd => exact ⟨⟨_, [], _, rfl, hd⟩, _, [], _, rfl, hd⟩
  | next h hd ih =>
    obtain ⟨⟨c, rest, d, rfl, hc⟩, -⟩ := ih
    exact ⟨⟨c, _, d, rfl, hc⟩, _, _, _, rfl, hd⟩
  | @grouped cs n c' d' h hd ih =>
    obtain ⟨⟨c, rest, d, rfl, hc⟩, -⟩ := ih
    exact ⟨⟨c, _, d, rfl, hc⟩, c', (c :: rest) ++ ['_'], _, by simp, hd⟩

private theorem DigitRun.digits {cs : List Char} {n : Nat} (h : DigitRun cs n) :
    Numeral.digits 10 0 cs = some n := by
  induction h with
  | digit hd => simp [digits_singleton hd]
  | next h hd ih => rw [digits_append ih, digits_singleton hd]
  | grouped h hd ih =>
    rw [digits_append ih]
    simp [Numeral.digits, digit?_ten, hd]

/-- Digits that can be read go on a run. -/
private theorem DigitRun.of_digits {v n : Nat} {cs ds : List Char} (hds : DigitRun ds v)
    (h : Numeral.digits 10 v cs = some n) : DigitRun (ds ++ cs) n := by
  fun_induction Numeral.digits 10 v cs generalizing ds with
  | case1 v =>
    obtain rfl := Option.some.inj h
    simpa using hds
  | case2 v c cs ih =>
    obtain ⟨d, hd, hrest⟩ := Option.bind_eq_some_iff.mp h
    simpa using ih d (hds.grouped (digit?_ten c ▸ hd)) hrest
  | case3 v c cs hc ih =>
    obtain ⟨d, hd, hrest⟩ := Option.bind_eq_some_iff.mp h
    simpa using ih d (hds.next (digit?_ten c ▸ hd)) hrest

/-- **Digits.** What is read as a natural number is a run of digits. -/
theorem natural_eq_some_iff {cs : List Char} {n : Nat} :
    natural 10 cs = some n ↔ DigitRun cs n := by
  constructor
  · intro h
    unfold natural at h
    split at h
    · simp at h
    · simp at h
    · next hnil hmark =>
      obtain ⟨c, rest, rfl⟩ := List.exists_cons_of_ne_nil hnil
      rw [digits.eq_3 _ _ _ _ (by rintro c' rest' rfl -; exact hmark _ rfl)] at h
      obtain ⟨d, hd, hrest⟩ := Option.bind_eq_some_iff.mp h
      have hfirst : DigitRun [c] (0 * 10 + d) := by
        simpa using DigitRun.digit (digit?_ten c ▸ hd)
      exact hfirst.of_digits hrest
  · intro h
    obtain ⟨⟨c, rest, d, rfl, hc⟩, -⟩ := h.edges
    have hne := (digit_cases hc).2.2.2
    unfold natural
    split
    · next heq => simp at heq
    · next heq => exact absurd (List.cons.inj heq).1 hne
    · exact h.digits

/-! ### Integers -/

private theorem dropMark_ten (cs : List Char) : dropMark 10 cs = cs := by
  unfold dropMark
  split
  · simp [radixMarks]
  · rfl

/-- A sign is taken off, and nothing else. -/
private theorem sign_cases (cs : List Char) :
    cs = '-' :: (sign cs).2 ∧ (sign cs).1 = true ∨
      (sign cs).1 = false ∧ (cs = (sign cs).2 ∨ cs = '+' :: (sign cs).2) := by
  unfold sign
  split
  · exact .inl ⟨rfl, rfl⟩
  · exact .inr ⟨rfl, .inr rfl⟩
  · exact .inr ⟨rfl, .inl rfl⟩

/-- All digits of a run are counted. -/
private theorem DigitRun.digitCount_eq {cs : List Char} {m : Nat} (h : DigitRun cs m) :
    digitCount cs = runLength cs := by
  have hall : ∀ c ∈ cs, (c == '_' || (digit? 10 c).isSome) = true := by
    induction h with
    | digit hd => simp [digit?_ten, hd]
    | next h hd ih => simpa [or_imp, forall_and, digit?_ten, hd] using ih
    | grouped h hd ih => simpa [or_imp, forall_and, digit?_ten, hd] using ih
  have htake := List.takeWhile_eq_self_iff.mpr hall
  simp only [digitCount, htake, natural_eq_some_iff.mpr h, Option.isSome_some, if_true, runLength]

/-- What is read in radix ten, after the blanks and the sign are taken off. -/
private theorem read_ten_eq_ok_iff {text : List Char} {n : Int} :
    read 10 text = .ok n ↔ ∃ m, DigitRun (sign (trim text)).2 m ∧
      runLength (sign (trim text)).2 ≤ longest ∧
      n = if (sign (trim text)).1 then -(m : Int) else (m : Int) := by
  have hinteger : integer 10 text = (natural 10 (sign (trim text)).2).map fun m : Nat =>
      if (sign (trim text)).1 then -(m : Int) else (m : Int) := by
    simp only [integer, dropMark_ten]
    cases natural 10 (sign (trim text)).2 <;> rfl
  rw [read, hinteger]
  generalize (sign (trim text)).1 = negative
  generalize (sign (trim text)).2 = run
  cases hm : natural 10 run with
  | none =>
    have hnot : ∀ m, ¬ DigitRun run m := fun m hrun => by
      simp [natural_eq_some_iff.mpr hrun] at hm
    simp only [Option.map_none]
    split <;> simp [hnot]
  | some m =>
    have hrun := natural_eq_some_iff.mp hm
    have hunique : ∀ m', DigitRun run m' ↔ m = m' := fun m' => by
      rw [← natural_eq_some_iff, hm, Option.some.injEq]
    simp only [hrun.digitCount_eq, Option.map_some, hunique, exists_eq_left', true_and]
    split
    · simpa using fun hle => absurd hle (by omega)
    · simp [eq_comm, Nat.le_of_not_lt ‹_›]

/-- A sign before digits is the sign that is taken off. -/
private theorem Signed.sign_eq {m : Nat} {mark run : List Char} {n : Int} (h : Signed m mark n)
    (hrun : DigitRun run m) :
    ∃ negative, sign (mark ++ run) = (negative, run) ∧
      n = if negative then -(m : Int) else (m : Int) := by
  obtain ⟨⟨c, rest, d, rfl, hc⟩, -⟩ := hrun.edges
  obtain ⟨-, hminus, hplus, -⟩ := digit_cases hc
  cases h with
  | none =>
    refine ⟨false, ?_, rfl⟩
    rw [List.nil_append, sign]
    · rintro _ ⟨⟩
      exact hminus rfl
    · rintro _ ⟨⟩
      exact hplus rfl
  | plus => exact ⟨false, rfl, rfl⟩
  | minus => exact ⟨true, rfl, rfl⟩

/-- The blanks around a sign and digits are all that is taken off. -/
private theorem Signed.trim_eq {m : Nat} {before mark run after : List Char} {n : Int}
    (h : Signed m mark n) (hrun : DigitRun run m)
    (hmargin : ∀ c ∈ before ++ after, isMargin c = true) :
    trim (before ++ (mark ++ run) ++ after) = mark ++ run := by
  obtain ⟨⟨c, rest, d, rfl, hc⟩, c', init, d', hlast, hc'⟩ := hrun.edges
  refine Text.trim_append (fun x hx => hmargin x (by simp [hx]))
    (fun x hx => hmargin x (by simp [hx])) (fun x hx => ?_) (fun x hx => ?_) (by simp)
  · cases h with
    | none =>
      obtain rfl : c = x := by simpa using hx
      exact (digit_cases hc).1
    | plus =>
      obtain rfl : '+' = x := by simpa using hx
      decide
    | minus =>
      obtain rfl : '-' = x := by simpa using hx
      decide
  · rw [hlast, ← List.append_assoc, List.getLast?_append_cons] at hx
    obtain rfl : c' = x := by simpa using hx
    exact (digit_cases hc').1

/-- **Numerals.** What is read as an integer is what the grammar says, and nothing else is read. -/
theorem read_eq_ok_iff {text : List Char} {n : Int} : read 10 text = .ok n ↔ Reads text n := by
  rw [read_ten_eq_ok_iff]
  constructor
  · rintro ⟨m, hrun, hlength, hn⟩
    obtain ⟨before, after, htext, hmargin⟩ := Text.exists_eq_append_trim isMargin text
    rw [show Text.trim isMargin text = trim text from rfl] at htext
    have hcore := sign_cases (trim text)
    generalize trim text = core at *
    generalize sign core = signed at *
    obtain ⟨negative, run⟩ := signed
    rcases hcore with ⟨rfl, rfl⟩ | ⟨rfl, rfl | rfl⟩
    · exact ⟨before, ['-'], run, after, m, htext, hmargin, hn ▸ .minus, hrun, hlength⟩
    · exact ⟨before, [], _, after, m, htext, hmargin, hn ▸ .none, hrun, hlength⟩
    · exact ⟨before, ['+'], run, after, m, htext, hmargin, hn ▸ .plus, hrun, hlength⟩
  · rintro ⟨before, mark, run, after, m, rfl, hmargin, hmark, hrun, hlength⟩
    obtain ⟨negative, hsign, hn⟩ := hmark.sign_eq hrun
    rw [hmark.trim_eq hrun hmargin, hsign]
    exact ⟨m, hrun, hlength, hn⟩

example : read 10 " -1_0\n".toList = .ok (-10) := by decide

/-- **Long numerals.** What the grammar says but for the number of its digits is refused for that
number. -/
theorem read_of_longest_lt {before mark run after : List Char} {m : Nat} {n : Int}
    (hmargin : ∀ c ∈ before ++ after, isMargin c = true) (hmark : Signed m mark n)
    (hrun : DigitRun run m) (hlength : longest < runLength run) :
    read 10 (before ++ (mark ++ run) ++ after) = .error (.tooManyDigits (runLength run)) := by
  obtain ⟨negative, hsign, -⟩ := hmark.sign_eq hrun
  rw [read, hmark.trim_eq hrun hmargin, hsign]
  dsimp only
  rw [hrun.digitCount_eq, if_pos ⟨rfl, hlength⟩]

example : read 10 (List.replicate 4301 '0') = .error (.tooManyDigits 4301) := by decide +kernel

/-- An integer is written in digits, after a sign if it is negative. -/
theorem mem_toString {n : Int} {c : Char} (h : c ∈ (toString n).toList) :
    c = '-' ∨ c.isDigit = true := by
  have hdigits : ∀ {m : Nat}, c ∈ m.repr.toList → c.isDigit = true := by
    intro m hm
    rw [Nat.repr_eq_ofList_toDigits, String.toList_ofList] at hm
    exact Nat.isDigit_of_mem_toDigits (by decide) (by decide) hm
  have hrepr : toString n = n.repr := rfl
  rw [hrepr, Int.repr_eq_if] at h
  split at h
  · exact .inr (hdigits h)
  · rw [String.toList_append, List.mem_append] at h
    rcases h with h | h
    · exact .inl (by simpa using h)
    · exact .inr (hdigits h)

end Numeral

/-! ### Floating-point numbers -/

/-- The part of a number before its point: the integer that is nearest on the side of zero. -/
structure IntegerPart (q : Rat) (n : Int) : Prop where
  /-- It is not farther from zero than the number. -/
  le : |(n : Rat)| ≤ |q|
  /-- It is less than one away. -/
  lt : |q| < |(n : Rat)| + 1
  /-- It is not on the other side of zero. -/
  side : 0 ≤ (n : Rat) * q

/-- The integer part of a quotient is the quotient without remainder. -/
private theorem integerPart_div (n : Nat) {d : Nat} (hd : d ≠ 0) :
    IntegerPart ((n : Rat) / d) ((n / d : Nat) : Int) := by
  have hpos : (0 : Rat) < d := by exact_mod_cast Nat.pos_of_ne_zero hd
  have hq : (0 : Rat) ≤ (n : Rat) / d := by positivity
  have hle : ((n / d : Nat) : Rat) ≤ (n : Rat) / d := Nat.cast_div_le
  have hlt : (n : Rat) / d < ((n / d : Nat) : Rat) + 1 := by
    rw [div_lt_iff₀ hpos]
    exact_mod_cast Nat.lt_mul_of_div_lt (Nat.lt_succ_self (n / d)) (Nat.pos_of_ne_zero hd)
  have hcast : |(((n / d : Nat) : Int) : Rat)| = ((n / d : Nat) : Rat) := by
    rw [Int.cast_natCast, Nat.abs_cast]
  refine ⟨?_, ?_, ?_⟩
  · rwa [hcast, abs_of_nonneg hq]
  · rwa [hcast, abs_of_nonneg hq]
  · exact mul_nonneg (by positivity) hq

private theorem IntegerPart.neg {q : Rat} {n : Int} (h : IntegerPart q n) :
    IntegerPart (-q) (-n) := by
  obtain ⟨hle, hlt, hside⟩ := h
  constructor <;> push_cast
  · simpa using hle
  · simpa using hlt
  · simpa using hside

/-- A number has one integer part. -/
private theorem IntegerPart.unique {q : Rat} {m n : Int} (hm : IntegerPart q m)
    (hn : IntegerPart q n) : m = n := by
  have hmn : |m| < |n| + 1 := by exact_mod_cast hm.le.trans_lt hn.lt
  have hnm : |n| < |m| + 1 := by exact_mod_cast hn.le.trans_lt hm.lt
  rcases abs_eq_abs.mp (show |m| = |n| by omega) with h | rfl
  · exact h
  · -- on both sides of zero only zero is left
    have hzero : (n : Rat) * q = 0 := by
      have := hm.side
      push_cast at this
      linarith [hn.side]
    rcases mul_eq_zero.mp hzero with h | rfl
    · have : n = 0 := by exact_mod_cast h
      omega
    · have : |(n : Rat)| ≤ 0 := by simpa using hn.le
      have : n = 0 := by exact_mod_cast abs_nonpos_iff.mp this
      omega

namespace Binary64

/-- **Truncation** takes a finite number to its part before the point, and takes nothing else to an
integer. -/
theorem truncate_eq_some_iff {x : Binary64} {n : Int} :
    x.truncate = some n ↔ ∃ q, x.key = .number q ∧ IntegerPart q n := by
  cases x with
  | infinity s => simp [truncate, key]
  | notANumber => simp [truncate, key]
  | finite s m e =>
    obtain ⟨a, d, hmag, hd⟩ : ∃ a d, magnitude m e = (a, d) ∧ d ≠ 0 := by
      unfold magnitude
      split
      · exact ⟨_, _, rfl, one_ne_zero⟩
      · exact ⟨_, _, rfl, (Nat.pow_pos (by decide)).ne'⟩
    have hpart := integerPart_div a hd
    have hkey : key (.finite s m e) = .number (if s then -((a : Rat) / d) else (a : Rat) / d) := by
      cases s <;> simp [key, ratio, hmag, Rat.mkRat_eq_div, neg_div]
    have htruncate : truncate (.finite s m e) =
        some (if s then -((a / d : Nat) : Int) else ((a / d : Nat) : Int)) := by
      simp only [truncate, hmag]
    have hpart' : IntegerPart (if s then -((a : Rat) / d) else (a : Rat) / d)
        (if s then -((a / d : Nat) : Int) else ((a / d : Nat) : Int)) := by
      cases s
      · exact hpart
      · exact hpart.neg
    rw [htruncate, hkey]
    constructor
    · rintro h
      obtain rfl := Option.some.inj h
      exact ⟨_, rfl, hpart'⟩
    · rintro ⟨q, hq, hn⟩
      obtain rfl := Value.Key.number.inj hq
      rw [hpart'.unique hn]

end Binary64

end AccessPolicy
