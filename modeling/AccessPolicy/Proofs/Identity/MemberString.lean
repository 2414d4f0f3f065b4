import AccessPolicy.Proofs.Text.Cut
import AccessPolicy.Proofs.Value.Key
import Mathlib.Data.List.Basic

/-!
# Member strings of identities

Every member string that can be read denotes a canonical identity, and a canonical identity is what
its own member string denotes. The member strings of other identities are written all the same; they
can be read back exactly if the value does not vanish in writing (`Identity.Legible`).

* `Identity.parse_word_colon`, `Identity.parse_of_colon_notMem`: reading, by the first colon;
* `Identity.canonical_of_parse`: what is read is canonical;
* `Identity.parse_memberString`: a canonical identity reads back as it is;
* `Identity.exists_parse_memberString_iff`: a member string can be read exactly if its identity is
  legible;
* `Identity.parse_eq_ok_iff`: reading undoes writing, and writing undoes reading;
* `Identity.exists_parse_iff`: what can be read is the grammar of member strings.
-/

namespace AccessPolicy

/-! ### The text of a value is empty for the empty text only -/

namespace Value

private theorem append_ne_empty_right {s t : String} (h : t ≠ "") : s ++ t ≠ "" := by
  simp [h]

private theorem quoted_ne_empty (s : String) : Text.quoted s ≠ "" := by
  simp [Text.quoted, ← String.toList_inj]

private theorem quotedBytes_ne_empty (b : List UInt8) : Text.quotedBytes b ≠ "" := by
  simp [Text.quotedBytes, ← String.toList_inj]

private theorem layOut_ne_nil (style : FloatStyle) (digits : List Char) (p : Int) :
    Binary64.layOut style digits p ≠ [] := by
  unfold Binary64.layOut
  dsimp only
  split
  · split
    · simp
    · split <;> simp
  · simp

private theorem float_text_ne_empty (x : Binary64) : x.text .message ≠ "" := by
  cases x with
  | notANumber => simp [Binary64.text, FloatStyle.message]
  | infinity b => simp [Binary64.text, FloatStyle.message]
  | finite b m e =>
    rw [Binary64.text, ← String.toList_inj.ne, String.toList_ofList]
    split
    · simp
    · by_cases hm : m = 0 <;> simp [hm, layOut_ne_nil]

private theorem int_term_ne_empty (n : Int) : toString n ≠ "" := by
  rw [Int.toString_eq_repr, Int.repr_eq_if]
  split
  · exact Nat.repr_ne_empty
  · simp

private theorem date_term_ne_empty (d : Date) : d.term ≠ "" := by
  exact append_ne_empty_right (by simp)

private theorem moment_term_ne_empty (t : Moment) : t.term ≠ "" := by
  exact append_ne_empty_right (by simp)

private theorem ellipsis_ne_empty (b : Bool) : ellipsis b ≠ "" := by
  cases b <;> simp [ellipsis]

/-- No value has an empty text in a message. -/
theorem termIn_ne_empty : ∀ (around : List Nat) (v : Value), termIn around v ≠ ""
  | _, null => by simp [termIn]
  | _, bool b => by cases b <;> simp [termIn]
  | _, int n => int_term_ne_empty n
  | _, float x => float_text_ne_empty x
  | _, text s => quoted_ne_empty s
  | _, list _ => by simp [termIn]
  | _, map _ => by simp [termIn]
  | _, date d => date_term_ne_empty d
  | _, moment t => moment_term_ne_empty t
  | _, bytes b => quotedBytes_ne_empty b
  | _, set [] => by simp [termIn]
  | _, set (_ :: _) => by simp [termIn]
  | _, pair _ _ => by simp [termIn]
  | around, knot l v => by
    rw [termIn]
    -- a knot met inside itself is an ellipsis, any other one is its value
    split
    · exact ellipsis_ne_empty _
    · exact termIn_ne_empty (l :: around) v
  | _, again _ b => ellipsis_ne_empty b

/-- Only the empty text stands for itself as nothing. -/
theorem plain_eq_empty_iff {v : Value} : v.plain = "" ↔ v = .text "" := by
  cases v with
  | text s => simp
  | date d => simp [plain, Date.text]
  | moment t => simp [plain, Moment.text]
  | _ => exact iff_of_false (termIn_ne_empty [] _) (by simp)

end Value

/-! ### Reading -/

namespace IdentityKind

/-- No token has a colon. -/
theorem colon_notMem_token (k : IdentityKind) : ':' ∉ k.token.toList := by
  cases k <;> decide

/-- The kind of a word is the one of which it is the token. -/
theorem ofToken?_eq_some_iff {word : String} {k : IdentityKind} :
    ofToken? word = some k ↔ word = k.token := by
  constructor
  · intro h
    exact (by simpa using List.find?_some h : k.token = word).symm
  · rintro rfl
    exact ofToken?_token k

end IdentityKind

namespace Identity

/-- A text with a colon is cut in two at the first. -/
theorem exists_eq_word_colon {s : String} (h : ':' ∈ s.toList) :
    ∃ word v : String, ':' ∉ word.toList ∧ s = word ++ ":" ++ v := by
  obtain ⟨before, after, hs, hbefore⟩ := List.eq_append_cons_of_mem h
  refine ⟨String.ofList before, String.ofList after, by simpa using hbefore, ?_⟩
  rw [← String.toList_inj, hs]
  simp

/-- **Texts with a colon** are read by the word before the first colon and by what follows it. -/
theorem parse_word_colon {word : String} (hword : ':' ∉ word.toList) (v : String) :
    parse (word ++ ":" ++ v) =
      if v = "" then .error (.malformedMember (word ++ ":" ++ v))
      else match IdentityKind.ofToken? word with
        | none => .error (.unsupportedMemberKind word (word ++ ":" ++ v))
        | some k =>
          if k.isWildcard then .error (.malformedMember (word ++ ":" ++ v))
          else .ok ⟨k, .text v⟩ := by
  have hne : ∀ k : IdentityKind, word ++ ":" ++ v ≠ k.token := fun k h =>
    k.colon_notMem_token (by rw [← h]; simp)
  have hlist : (word ++ ":" ++ v).toList = word.toList ++ ':' :: v.toList := by simp
  rw [parse, if_neg (hne _), if_neg (hne _), hlist, Text.takeWhile_append_mark hword,
    Text.dropWhile_append_mark hword]
  simp only [String.ofList_toList]
  cases hv : v.toList with
  | nil =>
    obtain rfl : v = "" := by simpa using hv
    simp
  | cons c rest =>
    have hnonempty : v ≠ "" := by
      rintro rfl
      simp at hv
    have hrest : String.ofList (c :: rest) = v := by rw [← hv, String.ofList_toList]
    cases IdentityKind.ofToken? word <;> simp only [hrest, if_neg hnonempty]

/-- Texts without a colon are the tokens of wildcards, or no member strings. -/
theorem parse_of_colon_notMem {s : String} (h : ':' ∉ s.toList) :
    parse s =
      if s = IdentityKind.allUsers.token then .ok allUsers
      else if s = IdentityKind.allAuthenticatedUsers.token then .ok allAuthenticatedUsers
      else .error (.malformedMember s) := by
  rw [parse, Text.dropWhile_of_notMem h]

/-- A token, a colon and a non-empty rest are read as the kind and the rest. -/
theorem parse_token_colon {k : IdentityKind} (hk : k.isWildcard = false) {v : String}
    (hv : v ≠ "") : parse (k.token ++ ":" ++ v) = .ok ⟨k, .text v⟩ := by
  simp [parse_word_colon k.colon_notMem_token, hv, hk]

/-- A token and a colon with nothing after it are no member string. -/
theorem parse_token_colon_empty (k : IdentityKind) :
    parse (k.token ++ ":" ++ "") = .error (.malformedMember (k.token ++ ":" ++ "")) :=
  parse_word_colon k.colon_notMem_token ""

/-- What is read is a wildcard from its token, or another kind from its token, a colon and a
non-empty rest. -/
theorem parse_eq_ok_cases {s : String} {i : Identity} (h : parse s = .ok i) :
    (∃ k : IdentityKind, k.isWildcard = true ∧ s = k.token ∧ i = ⟨k, .null⟩) ∨
      ∃ (k : IdentityKind) (v : String), k.isWildcard = false ∧ v ≠ "" ∧
        s = k.token ++ ":" ++ v ∧ i = ⟨k, .text v⟩ := by
  by_cases hcolon : ':' ∈ s.toList
  · obtain ⟨word, v, hword, rfl⟩ := exists_eq_word_colon hcolon
    rw [parse_word_colon hword] at h
    split at h
    · simp at h
    · next hv =>
      split at h
      · simp at h
      · next k hk =>
        obtain rfl := IdentityKind.ofToken?_eq_some_iff.mp hk
        split at h
        · simp at h
        · next hwild =>
          exact .inr ⟨k, v, by simpa using hwild, hv, rfl, (Except.ok.inj h).symm⟩
  · rw [parse_of_colon_notMem hcolon] at h
    split at h
    · next hs => exact .inl ⟨_, rfl, hs, (Except.ok.inj h).symm⟩
    · split at h
      · next hs => exact .inl ⟨_, rfl, hs, (Except.ok.inj h).symm⟩
      · simp at h

/-- **What is read is canonical.** -/
theorem canonical_of_parse {s : String} {i : Identity} (h : parse s = .ok i) : i.Canonical := by
  rcases parse_eq_ok_cases h with ⟨k, hk, -, rfl⟩ | ⟨k, v, hk, hv, -, rfl⟩
  · simp [Canonical, hk]
  · simp [Canonical, hk, hv]

/-- What a document lists as a member is canonical. -/
theorem canonical_of_ofValue {v : Value} {i : Identity} (h : ofValue v = .ok i) :
    i.Canonical := by
  unfold ofValue at h
  split at h
  · simp at h
  · exact canonical_of_parse h
  · simp at h

/-! ### Reading what was written -/

/-- Whether the member string of an identity tells its value: it is no address that is empty. -/
def Legible (i : Identity) : Prop := i.kind.isWildcard = true ∨ i.value ≠ .text ""

/-- What the member string of an identity is read as. Everything is an address, and wildcards lose
their value. -/
def reread (i : Identity) : Identity :=
  if i.kind.isWildcard then ⟨i.kind, .null⟩ else ⟨i.kind, .text i.value.plain⟩

theorem parse_memberString_of_legible {i : Identity} (h : i.Legible) :
    parse i.memberString = .ok i.reread := by
  obtain ⟨k, v⟩ := i
  by_cases hk : k.isWildcard = true
  · cases k <;> simp [IdentityKind.isWildcard] at hk <;> rfl
  · have hv : v.plain ≠ "" := fun he =>
      h.elim (fun hw => hk hw) fun hne => hne (Value.plain_eq_empty_iff.mp he)
    simp only [memberString, reread, hk, Bool.false_eq_true, if_false]
    -- the value may hold colons of its own: reading stops at the first, which ends the token
    exact parse_token_colon (by simpa using hk) hv

/-- **Which member strings can be read.** Those of the legible identities. -/
theorem exists_parse_memberString_iff {i : Identity} :
    (∃ j, parse i.memberString = .ok j) ↔ i.Legible := by
  refine ⟨fun ⟨j, hj⟩ => ?_, fun h => ⟨_, parse_memberString_of_legible h⟩⟩
  by_contra hno
  obtain ⟨hk, hv⟩ : ¬ i.kind.isWildcard = true ∧ i.value = .text "" := by
    simpa [Legible] using hno
  rw [memberString, if_neg hk, hv, Value.plain_text, parse_token_colon_empty] at hj
  simp at hj

theorem Canonical.legible {i : Identity} (h : i.Canonical) : i.Legible := by
  unfold Canonical at h
  split at h
  · next hk => exact .inl hk
  · obtain ⟨s, hs, hv⟩ := h
    exact .inr (by simp [hv, hs])

/-- **Canonical identities read back as they are.** -/
theorem Canonical.reread_eq {i : Identity} (h : i.Canonical) : i.reread = i := by
  obtain ⟨k, v⟩ := i
  unfold Canonical at h
  unfold reread
  split at h
  · next hk =>
    obtain rfl : v = .null := h
    simp [hk]
  · next hk =>
    obtain ⟨s, -, rfl⟩ : ∃ s, s ≠ "" ∧ v = .text s := h
    simp [hk]

theorem parse_memberString {i : Identity} (h : i.Canonical) : parse i.memberString = .ok i := by
  rw [parse_memberString_of_legible h.legible, h.reread_eq]

/-- Canonical identities with one member string are one identity. -/
theorem memberString_inj {i j : Identity} (hi : i.Canonical) (hj : j.Canonical) :
    i.memberString = j.memberString ↔ i = j := by
  constructor
  · intro h
    have hread := parse_memberString hi
    rw [h, parse_memberString hj] at hread
    exact (Except.ok.inj hread).symm
  · exact fun h => h ▸ rfl

/-! ### The grammar -/

/-- What is read is written the same again. -/
theorem memberString_of_parse {s : String} {i : Identity} (h : parse s = .ok i) :
    i.memberString = s := by
  rcases parse_eq_ok_cases h with ⟨k, hk, rfl, rfl⟩ | ⟨k, v, hk, -, rfl, rfl⟩
  · simp [memberString, hk]
  · simp [memberString, hk]

/-- **Reading and writing.** A text is read as an identity exactly if the identity is canonical and
the text is its member string. -/
theorem parse_eq_ok_iff {s : String} {i : Identity} :
    parse s = .ok i ↔ i.Canonical ∧ i.memberString = s := by
  constructor
  · exact fun h => ⟨canonical_of_parse h, memberString_of_parse h⟩
  · rintro ⟨hi, rfl⟩
    exact parse_memberString hi

/-- **What can be read** are the texts of the grammar. -/
theorem exists_parse_iff {s : String} : (∃ i, parse s = .ok i) ↔ IsMemberString s := by
  constructor
  · rintro ⟨i, h⟩
    rcases parse_eq_ok_cases h with ⟨k, hk, hs, -⟩ | ⟨k, v, hk, hv, hs, -⟩
    · exact ⟨k, by rwa [if_pos hk]⟩
    · exact ⟨k, by simpa only [hk, Bool.false_eq_true, if_false] using ⟨v, hv, hs⟩⟩
  · rintro ⟨k, hs⟩
    split at hs
    · next hk =>
      refine ⟨⟨k, .null⟩, parse_eq_ok_iff.mpr ⟨by simp [Canonical, hk], ?_⟩⟩
      simp [memberString, hk, hs]
    · next hk =>
      obtain ⟨v, hv, rfl⟩ := hs
      exact ⟨_, parse_token_colon (by simpa using hk) hv⟩

end Identity

end AccessPolicy
