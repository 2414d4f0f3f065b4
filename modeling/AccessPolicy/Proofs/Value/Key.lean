import AccessPolicy.Identity
import AccessPolicy.Role
import Mathlib.Data.Int.Order.Basic
import Mathlib.Data.Rat.Defs

/-!
# Equality by keys

`Value.same` compares values case by case. On the values that may be keys it is the equality of a
**key**: numbers of any kind by the rational number that they are, moments by their instant, pairs
part by part. So it is an equivalence there, and so is the equality of roles and of identities.

* `Value.same_iff_key`: a value that may be a key is the same as another exactly when the two have
  one key. The other value may be any value.
* `Role.same_iff_key`, `Identity.same_iff_key`: the same for roles and for identities.
* `Value.same_text_right`, `Value.same_null_right`: what is the same as a text or as null *is* it.
-/

namespace AccessPolicy

/-- What equality looks at in a value that may be a key. -/
inductive Value.Key where
  /-- The null value. -/
  | null
  /-- A boolean or a finite number. -/
  | number (q : Rat)
  /-- An infinity of either sign. -/
  | infinity (negative : Bool)
  /-- The value that is no number. -/
  | notANumber
  /-- A text. -/
  | text (s : String)
  /-- A calendar date. -/
  | date (d : Date)
  /-- A moment: whether it has an offset, and when it is. -/
  | moment (hasOffset : Bool) (instant : Int)
  /-- A sequence of bytes. -/
  | bytes (b : List UInt8)
  /-- An ordered pair. -/
  | pair (fst snd : Value.Key)
  /-- Any value that may not be a key. -/
  | unhashable

/-! ### Numbers -/

namespace Binary64

/-- The key of a floating-point number. -/
def key : Binary64 → Value.Key
  | .finite s m e => .number (mkRat (ratio s m e).1 (ratio s m e).2)
  | .infinity s => .infinity s
  | .notANumber => .notANumber

private theorem ratio_snd_ne_zero (s : Bool) (m : Nat) (e : Int) : (ratio s m e).2 ≠ 0 := by
  unfold ratio magnitude
  by_cases he : 0 ≤ e <;> simp [he]

/-- Two numbers that are no infinities compare equal when they are the same rational number. -/
private theorem compare_finite_eq_iff {s s' : Bool} {m m' : Nat} {e e' : Int} :
    compare (.finite s m e) (.finite s' m' e') = some .eq ↔
      key (.finite s m e) = key (.finite s' m' e') := by
  have hd := ratio_snd_ne_zero s m e
  have hd' := ratio_snd_ne_zero s' m' e'
  simp only [compare, key, Option.some.injEq, Value.Key.number.injEq]
  rw [compare_eq_iff_eq, Rat.mkRat_eq_iff hd hd']

/-- Numbers compare equal exactly when they have one key and are numbers. -/
theorem compare_eq_iff {x y : Binary64} :
    x.compare y = some .eq ↔ x ≠ .notANumber ∧ x.key = y.key := by
  cases x with
  | finite s m e =>
    cases y with
    | finite s' m' e' => simp [compare_finite_eq_iff]
    | infinity b => cases b <;> simp [compare, key]
    | notANumber => simp [compare, key]
  | infinity a =>
    cases y with
    | finite s' m' e' => cases a <;> simp [compare, key]
    | infinity b => cases a <;> cases b <;> simp [compare, key]
    | notANumber => simp [compare, key]
  | notANumber => simp [compare]

/-- An integer keeps its value as a dyadic number. -/
@[simp] theorem key_exactInt (n : Int) : (exactInt n).key = .number n := by
  have hr : ratio (n < 0) n.natAbs 0 = (n, 1) := by
    have hone : n.natAbs * Nat.pow 2 0 = n.natAbs := Nat.mul_one _
    simp only [ratio, magnitude, le_refl, if_true, Int.toNat_zero, hone, decide_eq_true_eq,
      Prod.mk.injEq, and_true]
    split <;> omega
  simp only [exactInt, key, hr, Rat.mkRat_one]

end Binary64

namespace Value

/-- The key of a number that is an integer or a floating-point number. -/
def numberKey : Int ⊕ Binary64 → Key
  | .inl n => .number n
  | .inr x => x.key

/-- The key of a value. -/
def key : Value → Key
  | null => .null
  | bool b => .number ((if b then 1 else 0 : Int) : Rat)
  | int n => .number n
  | float x => x.key
  | text s => .text s
  | date d => .date d
  | moment t => .moment t.offset.isSome (t.instant - t.offset.getD 0 * 60000000)
  | bytes b => .bytes b
  | pair a b => .pair a.key b.key
  | list _ | map _ | set _ | knot _ _ | again _ _ => .unhashable

/-- Numbers are the same exactly when they have one key. -/
theorem sameNumber_iff_key (m n : Int ⊕ Binary64) :
    sameNumber m n = true ↔ numberKey m = numberKey n := by
  have hint : ∀ (x : Binary64) (k : Int),
      (x.compareInt k == some .eq) = true ↔ x.key = .number k := fun x k => by
    rw [beq_iff_eq, Binary64.compareInt, Binary64.compare_eq_iff, Binary64.key_exactInt]
    exact and_iff_right_of_imp fun h hx => by simp [hx, Binary64.key] at h
  rcases m with a | x <;> rcases n with b | y
  · simp [sameNumber, numberKey]
  · simp only [sameNumber, numberKey, hint]
    exact eq_comm
  · simp only [sameNumber, numberKey, hint]
  · -- what is no number is the same as itself, but does not compare equal to itself
    by_cases hx : x = .notANumber
    · subst hx
      cases y <;> simp [sameNumber, numberKey, Binary64.key, Binary64.compare]
    · have hs : sameNumber (.inr x) (.inr y) = (x.compare y == some .eq) := by
        cases x <;> first | rfl | exact absurd rfl hx
      rw [hs, beq_iff_eq, Binary64.compare_eq_iff]
      simp [numberKey, hx]

private theorem key_of_number? {b : Value} {m : Int ⊕ Binary64} (h : b.number? = some m) :
    b.key = numberKey m := by
  cases b <;> simp only [number?, Option.some.injEq, reduceCtorEq] at h <;> subst h <;> rfl

private theorem numberKey_ne_key {b : Value} (h : b.number? = none) (m : Int ⊕ Binary64) :
    numberKey m ≠ b.key := by
  rcases m with n | x
  · cases b <;> simp_all [number?, numberKey, key]
  · cases x <;> cases b <;> simp_all [number?, numberKey, key, Binary64.key]

/-- A value is a given number exactly when it has its key. -/
theorem sameAsNumber_iff_key (m : Int ⊕ Binary64) (b : Value) :
    sameAsNumber m b = true ↔ numberKey m = b.key := by
  unfold sameAsNumber
  cases h : b.number? with
  | some n => simp only [sameNumber_iff_key, key_of_number? h]
  | none => simpa using numberKey_ne_key h m

/-! ### All values that may be keys -/

private theorem moment_same_iff (t u : Moment) :
    t.same u = true ↔ (moment t).key = (moment u).key := by
  unfold Moment.same
  cases ht : t.offset <;> cases hu : u.offset <;> simp [key, ht, hu]

private theorem key_ne_float {a : Value} (h : a.number? = none) (x : Binary64) : a.key ≠ x.key :=
  fun he => numberKey_ne_key h (.inr x) he.symm

/-- **Equality by key.** A value that may be a key is the same as another exactly when the two have
one key. -/
theorem same_iff_key : ∀ {a b : Value}, a.hashable = true → (a.same b = true ↔ a.key = b.key)
  | bool _, b, _ => by rw [same, sameAsNumber_iff_key]; rfl
  | int _, b, _ => by rw [same, sameAsNumber_iff_key]; rfl
  | float _, b, _ => by rw [same, sameAsNumber_iff_key]; rfl
  | null, b, _ => by
    cases b with
    -- the key of a floating-point number is one of three kinds, all of them kinds of numbers
    | float y => exact iff_of_false (by simp [same, isNull]) (key_ne_float rfl y)
    | _ => simp [same, isNull, key]
  | text s, b, _ => by
    cases b with
    | float y => exact iff_of_false (by simp [same]) (key_ne_float rfl y)
    | _ => simp [same, key]
  | date d, b, _ => by
    cases b with
    | float y => exact iff_of_false (by simp [same]) (key_ne_float rfl y)
    | _ => simp [same, key]
  | moment t, b, _ => by
    cases b with
    | moment u => rw [same]; exact moment_same_iff t u
    | float y => exact iff_of_false (by simp [same]) (key_ne_float rfl y)
    | _ => simp [same, key]
  | bytes x, b, _ => by
    cases b with
    | float y => exact iff_of_false (by simp [same]) (key_ne_float rfl y)
    | _ => simp [same, key]
  | pair x y, b, h => by
    obtain ⟨hx, hy⟩ : x.hashable = true ∧ y.hashable = true := by simpa [hashable] using h
    cases b with
    | pair x' y' => simp [same, key, same_iff_key hx, same_iff_key hy]
    | float y => exact iff_of_false (by simp [same]) (key_ne_float rfl y)
    | _ => simp [same, key]
  | list _, _, h | map _, _, h | set _, _, h | knot _ _, _, h | again _ _, _, h => by
    simp [hashable] at h

theorem same_refl {a : Value} (h : a.hashable = true) : a.same a = true :=
  (same_iff_key h).mpr rfl

/-- What is the same as a text is that text. -/
theorem same_text_right {a : Value} {s : String} : a.same (.text s) = true ↔ a = .text s := by
  cases a <;> simp [same, sameAsNumber, number?, isNull]

/-- What is the same as null is null. -/
theorem same_null_right {a : Value} : a.same .null = true ↔ a = .null := by
  cases a <;> simp [same, sameAsNumber, number?, isNull]

/-- What null is the same as is null. -/
theorem same_null_left {b : Value} : same .null b = true ↔ b = .null := by
  cases b <;> simp [same, isNull]

/-- What a text is the same as is that text. -/
theorem same_text_left {b : Value} {s : String} : same (.text s) b = true ↔ b = .text s := by
  cases b with
  | text t => simpa [same] using eq_comm
  | _ => simp [same]

end Value

/-! ### Roles and identities -/

namespace Role

/-- The key of a role. -/
def key (r : Role) : Value.Key := r.name.key

theorem same_iff_key {a b : Role} (h : a.hashable = true) : a.same b = true ↔ a.key = b.key :=
  Value.same_iff_key h

/-- A role named by a text is the same as the roles of that name. -/
theorem same_iff_of_text {a b : Role} {s : String} (h : a.name = .text s) :
    a.same b = true ↔ b.name = .text s := by
  rw [same, h, Value.same_text_left]

/-- The role of a name, with nothing to show. -/
def ofName (name : String) : Role := { name := .text name }

theorem ofName_same_iff {name : String} {r : Role} :
    (ofName name).same r = true ↔ r.name = .text name :=
  same_iff_of_text rfl

end Role

namespace Identity

/-- The key of an identity. -/
def key (i : Identity) : IdentityKind × Value.Key := (i.kind, i.value.key)

theorem same_iff_key {a b : Identity} (h : a.hashable = true) :
    a.same b = true ↔ a.key = b.key := by
  simp only [same, Bool.and_eq_true, beq_iff_eq, key, Prod.mk.injEq, Value.same_iff_key h]

/-- Whether the value of an identity is a text or null, as factories and member strings give it. -/
def Textual (i : Identity) : Prop := i.value = .null ∨ ∃ s, i.value = .text s

theorem Textual.hashable {i : Identity} (h : i.Textual) : i.hashable = true := by
  rcases h with h | ⟨s, h⟩ <;> simp [Identity.hashable, h, Value.hashable]

theorem Textual.isWritable {i : Identity} (h : i.Textual) : i.isWritable = true := by
  rcases h with h | ⟨s, h⟩ <;> simp [Identity.isWritable, h]

/-- No other identity is the same as one with a text or no value. -/
theorem Textual.same_iff {a b : Identity} (h : b.Textual) : a.same b = true ↔ a = b := by
  obtain ⟨k, v⟩ := a
  obtain ⟨l, w⟩ := b
  have hw : v.same w = true ↔ v = w := by
    rcases h with h | ⟨s, h⟩ <;> obtain rfl : w = _ := h
    · exact Value.same_null_right
    · exact Value.same_text_right
  simp [same, hw]

/-- An identity with a text or no value is the same as no other one. -/
theorem Textual.same_iff_left {a b : Identity} (h : a.Textual) : a.same b = true ↔ a = b := by
  obtain ⟨k, v⟩ := a
  obtain ⟨l, w⟩ := b
  have hv : v.same w = true ↔ v = w := by
    rcases h with h | ⟨s, h⟩ <;> obtain rfl : v = _ := h
    · rw [Value.same_null_left, eq_comm]
    · rw [Value.same_text_left, eq_comm]
  simp [same, hv]

theorem Canonical.textual {i : Identity} (h : i.Canonical) : i.Textual := by
  unfold Canonical at h
  split at h
  · exact .inl h
  · obtain ⟨s, -, hs⟩ := h
    exact .inr ⟨s, hs⟩

end Identity

end AccessPolicy
