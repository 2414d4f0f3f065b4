import AccessPolicy.Proofs.Value.Key

/-!
# Fields of documents

The laws of looking up and putting the fields of a map, and the values that a service sends:
`Value.isJson` holds of trees of nulls, booleans, numbers and texts, whose maps have texts as keys.

* `Value.field?_putField`: a field that was put is there, and the others are as before;
* `Value.isJson_field`, `Value.fieldsJson_putField`: their fields are such values, and stay so;
* `Value.same_self_of_isJson`: such values are the same as themselves.
-/

namespace AccessPolicy

namespace Value

/-! ### Looking up and putting -/

/-- **Looking up after putting.** -/
theorem field?_putField (key key' : String) (v : Value) (fields : List (Value × Value)) :
    field? key (putField key' v fields) = if key = key' then some v else field? key fields := by
  unfold putField
  induction fields with
  | nil => by_cases h : key = key' <;> simp [put, field?, h, eq_comm]
  | cons e rest ih =>
    obtain ⟨k, x⟩ := e
    rw [put]
    split
    · next hk =>
      obtain rfl := same_text_right.mp hk
      by_cases h : key = key'
      · simp [field?, h]
      · simp [field?, h, Ne.symm h]
    · next hk =>
      cases k with
      | text s =>
        by_cases hs : s = key
        · -- the field looked up is not the one that is put further on
          subst hs
          have hne : s ≠ key' := fun h => hk (same_text_right.mpr (by rw [h]))
          simp [field?, hne]
        · simp only [field?, hs, if_false, ih]
      | _ => simpa only [field?] using ih

@[simp] theorem field_putField_self (key : String) (v : Value) (fields : List (Value × Value)) :
    field key (putField key v fields) = v := by
  simp [field, field?_putField]

theorem field_putField_of_ne {key key' : String} (h : key ≠ key') (v : Value)
    (fields : List (Value × Value)) : field key (putField key' v fields) = field key fields := by
  simp [field, field?_putField, h]

/-! ### Values that a service sends -/

/-- Whether a value is a text. -/
def isText : Value → Bool
  | text _ => true
  | _ => false

mutual

/-- Whether a value is a tree of nulls, booleans, numbers, texts, lists, and maps with texts as
keys. -/
def isJson : Value → Bool
  | null | bool _ | int _ | float _ | text _ => true
  | list items => allJson items
  | map entries => fieldsJson entries
  | _ => false

/-- Whether all items of a list are such trees. -/
def allJson : List Value → Bool
  | [] => true
  | v :: rest => v.isJson && allJson rest

/-- Whether all keys of a map are texts and all of its values such trees. -/
def fieldsJson : List (Value × Value) → Bool
  | [] => true
  | (k, v) :: rest => k.isText && v.isJson && fieldsJson rest

end

/-- A list or map met in such a tree is no knot. -/
theorem opened_of_isJson {v : Value} (h : v.isJson = true) : v.opened = v := by
  cases v <;> simp_all [isJson, opened]

theorem allJson_iff {items : List Value} :
    allJson items = true ↔ ∀ v ∈ items, v.isJson = true := by
  induction items with
  | nil => simp [allJson]
  | cons x rest ih => simp [allJson, ih]

theorem isJson_of_field? {key : String} {fields : List (Value × Value)} {v : Value}
    (h : fieldsJson fields = true) (hv : field? key fields = some v) : v.isJson = true := by
  induction fields with
  | nil => simp [field?] at hv
  | cons e rest ih =>
    obtain ⟨k, x⟩ := e
    obtain ⟨⟨-, hx⟩, hrest⟩ : (k.isText = true ∧ x.isJson = true) ∧ fieldsJson rest = true := by
      simpa [fieldsJson] using h
    cases k with
    | text s =>
      rw [field?] at hv
      split at hv
      · obtain rfl := Option.some.inj hv
        exact hx
      · exact ih hrest hv
    | _ => exact ih hrest (by simpa only [field?] using hv)

theorem isJson_field {fields : List (Value × Value)} (h : fieldsJson fields = true)
    (key : String) : (field key fields).isJson = true := by
  unfold field
  cases hf : field? key fields with
  | none => rfl
  | some v => exact isJson_of_field? h hf

theorem fieldsJson_putField {fields : List (Value × Value)} (h : fieldsJson fields = true)
    (key : String) {v : Value} (hv : v.isJson = true) :
    fieldsJson (putField key v fields) = true := by
  unfold putField
  induction fields with
  | nil => simp [put, fieldsJson, isText, hv]
  | cons e rest ih =>
    obtain ⟨k, x⟩ := e
    obtain ⟨⟨hk, hx⟩, hrest⟩ : (k.isText = true ∧ x.isJson = true) ∧ fieldsJson rest = true := by
      simpa [fieldsJson] using h
    rw [put]
    split
    · simp [fieldsJson, hk, hv, hrest]
    · simp [fieldsJson, hk, hx, ih hrest]

/-! ### Equality -/

mutual

/-- A value that a service sends is the same as itself. -/
theorem same_self_of_isJson : ∀ {v : Value}, v.isJson = true → v.same v = true
  | null, _ | bool _, _ | int _, _ | float _, _ | text _, _ => same_refl rfl
  | list items, h => by
    rw [same]
    exact sameItems_self (by simpa [isJson] using h)
  | map entries, h => by
    have hin := entriesIn_of_subset (by simpa [isJson] using h) (List.Subset.refl entries)
    simp [same, hin]
  | date _, h | moment _, h | bytes _, h | set _, h | pair _ _, h | knot _ _, h | again _ _, h =>
    by simp [isJson] at h

private theorem sameItems_self : ∀ {items : List Value}, allJson items = true →
    sameItems items items = true
  | [], _ => by simp [sameItems]
  | v :: rest, h => by
    obtain ⟨hv, hrest⟩ : v.isJson = true ∧ allJson rest = true := by simpa [allJson] using h
    simp [sameItems, same_self_of_isJson hv, sameItems_self hrest]

/-- The entries of a map are entries of any map that has more. -/
private theorem entriesIn_of_subset : ∀ {entries all : List (Value × Value)},
    fieldsJson entries = true → entries ⊆ all → entriesIn entries all = true
  | [], _, _, _ => by simp [entriesIn]
  | (k, v) :: rest, all, h, hsub => by
    obtain ⟨⟨hk, hv⟩, hrest⟩ : (k.isText = true ∧ v.isJson = true) ∧ fieldsJson rest = true := by
      simpa [fieldsJson] using h
    have hkey : k.same k = true := by
      cases k <;> simp_all [isText]
    obtain ⟨hmem, hsub'⟩ := List.cons_subset.mp hsub
    rw [entriesIn, Bool.and_eq_true, List.any_eq_true]
    exact ⟨⟨(k, v), hmem, by simp [hkey, same_self_of_isJson hv]⟩, entriesIn_of_subset hrest hsub'⟩

end

end Value

end AccessPolicy
