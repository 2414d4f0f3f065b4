import AccessPolicy.Proofs.Identity.MemberString
import Mathlib.Logic.Equiv.Defs

/-!
# Member strings stand for canonical identities

Reading and writing are inverse to each other between the texts of the grammar and the canonical
identities. A text that is refused is refused for what becomes of it at its first colon.

* `isMemberString_iff`: the grammar, with its words written out;
* `Identity.Refused`, `Identity.parse_eq_error_iff`: the texts that are refused, and their causes;
* `Identity.memberStringEquiv`: the correspondence;
* `Identity.memberStrings_correspond`: reading and writing are its two directions.
-/

namespace AccessPolicy

/-! ### The grammar in words -/

/-- The kinds that take a value, by their words. -/
theorem IdentityKind.exists_isWildcard_eq_false_iff {P : String → Prop} :
    (∃ k : IdentityKind, k.isWildcard = false ∧ P k.token) ↔
      ∃ word ∈ ["user", "serviceAccount", "group", "domain"], P word := by
  constructor
  · rintro ⟨k, hk, hP⟩
    exact ⟨k.token, by cases k <;> simp_all [isWildcard, token], hP⟩
  · rintro ⟨word, hword, hP⟩
    simp only [List.mem_cons, List.not_mem_nil, or_false] at hword
    obtain rfl | rfl | rfl | rfl := hword
    · exact ⟨.user, rfl, hP⟩
    · exact ⟨.serviceAccount, rfl, hP⟩
    · exact ⟨.group, rfl, hP⟩
    · exact ⟨.domain, rfl, hP⟩

/-- **The grammar of member strings.** The word of a wildcard, or one of four words, a colon and
anything that is not empty. -/
theorem isMemberString_iff {s : String} :
    IsMemberString s ↔
      s = "allUsers" ∨ s = "allAuthenticatedUsers" ∨
        ∃ word ∈ ["user", "serviceAccount", "group", "domain"],
          ∃ v, v ≠ "" ∧ s = word ++ ":" ++ v := by
  rw [← IdentityKind.exists_isWildcard_eq_false_iff (P := fun word =>
    ∃ v, v ≠ "" ∧ s = word ++ ":" ++ v)]
  constructor
  · rintro ⟨k, hk⟩
    split at hk
    · next hwild => cases k <;> simp_all [IdentityKind.isWildcard, IdentityKind.token]
    · next hwild => exact .inr (.inr ⟨k, by simpa using hwild, hk⟩)
  · rintro (rfl | rfl | ⟨k, hk, hv⟩)
    · exact ⟨.allUsers, rfl⟩
    · exact ⟨.allAuthenticatedUsers, rfl⟩
    · exact ⟨k, by simpa [hk] using hv⟩

namespace Identity

/-! ### What is refused -/

/-- The texts that are no member strings, each with the reason it is refused for. -/
inductive Refused : String → Rejection → Prop
  /-- A text without a colon that is not the word of a wildcard. -/
  | noColon {s : String} (hcolon : ':' ∉ s.toList)
      (hword : ∀ k : IdentityKind, k.isWildcard = true → s ≠ k.token) :
      Refused s (.malformedMember s)
  /-- A text whose first colon is its end. -/
  | noValue {word : String} (hword : ':' ∉ word.toList) :
      Refused (word ++ ":") (.malformedMember (word ++ ":"))
  /-- A wildcard with a value. -/
  | wildcardValue {k : IdentityKind} (hk : k.isWildcard = true) {v : String} (hv : v ≠ "") :
      Refused (k.token ++ ":" ++ v) (.malformedMember (k.token ++ ":" ++ v))
  /-- A value after a word that names no kind. -/
  | unknownKind {word : String} (hword : ':' ∉ word.toList)
      (hkind : ∀ k : IdentityKind, word ≠ k.token) {v : String} (hv : v ≠ "") :
      Refused (word ++ ":" ++ v) (.unsupportedMemberKind word (word ++ ":" ++ v))

/-- Texts with a reason to be refused are refused for it. -/
theorem parse_of_refused {s : String} {cause : Rejection} (h : Refused s cause) :
    parse s = .error cause := by
  cases h with
  | noColon hcolon hword =>
    rw [parse_of_colon_notMem hcolon, if_neg (hword _ rfl), if_neg (hword _ rfl)]
  | @noValue word hword =>
    simpa using parse_word_colon hword ""
  | @wildcardValue k hk v hv =>
    rw [parse_word_colon k.colon_notMem_token, if_neg hv, IdentityKind.ofToken?_token]
    simp [hk]
  | @unknownKind word hword hkind v hv =>
    have hnone : IdentityKind.ofToken? word = none :=
      Option.eq_none_iff_forall_ne_some.mpr fun k hk =>
        hkind k (IdentityKind.ofToken?_eq_some_iff.mp hk)
    rw [parse_word_colon hword, if_neg hv, hnone]

/-- Every text is a member string or has a reason to be refused. -/
theorem isMemberString_or_exists_refused (s : String) :
    IsMemberString s ∨ ∃ cause, Refused s cause := by
  -- by what stands around the first colon, as the text is read
  by_cases hcolon : ':' ∈ s.toList
  · obtain ⟨word, v, hword, rfl⟩ := exists_eq_word_colon hcolon
    by_cases hv : v = ""
    · exact .inr ⟨_, by simpa [hv] using Refused.noValue hword⟩
    by_cases hkind : ∃ k : IdentityKind, word = k.token
    · obtain ⟨k, rfl⟩ := hkind
      cases hk : k.isWildcard with
      | true => exact .inr ⟨_, .wildcardValue hk hv⟩
      | false => exact .inl ⟨k, by simpa [hk] using hv⟩
    · exact .inr ⟨_, .unknownKind hword (not_exists.mp hkind) hv⟩
  · by_cases hword : ∃ k : IdentityKind, k.isWildcard = true ∧ s = k.token
    · obtain ⟨k, hk, hs⟩ := hword
      exact .inl ⟨k, by simpa [hk] using hs⟩
    · exact .inr ⟨_, .noColon hcolon fun k hk hs => hword ⟨k, hk, hs⟩⟩

/-- **What is refused** are the texts with a reason, for this reason. -/
theorem parse_eq_error_iff {s : String} {cause : Rejection} :
    parse s = .error cause ↔ Refused s cause := by
  refine ⟨fun h => ?_, parse_of_refused⟩
  rcases isMemberString_or_exists_refused s with hs | ⟨other, hother⟩
  · obtain ⟨i, hi⟩ := exists_parse_iff.mpr hs
    simp [hi] at h
  · rw [parse_of_refused hother, Except.error.injEq] at h
    exact h ▸ hother

/-- No text that is refused is in the grammar. -/
theorem Refused.not_isMemberString {s : String} {cause : Rejection} (h : Refused s cause) :
    ¬ IsMemberString s := by
  rw [← exists_parse_iff, parse_of_refused h]
  simp

/-! ### The correspondence -/

/-- The identity of a member string. -/
def ofMemberString (s : {s : String // IsMemberString s}) : {i : Identity // i.Canonical} :=
  match h : parse s.1 with
  | .ok i => ⟨i, canonical_of_parse h⟩
  | .error _ => False.elim <| by
      obtain ⟨i, hi⟩ := exists_parse_iff.mpr s.2
      simp [hi] at h

/-- Member strings are read as their identities. -/
theorem parse_eq_ofMemberString (s : {s : String // IsMemberString s}) :
    parse s.1 = .ok (ofMemberString s).1 := by
  unfold ofMemberString
  split
  · assumption
  · next h =>
    obtain ⟨i, hi⟩ := exists_parse_iff.mpr s.2
    simp [hi] at h

/-- The member string of a canonical identity is in the grammar. -/
theorem Canonical.isMemberString {i : Identity} (h : i.Canonical) :
    IsMemberString i.memberString :=
  exists_parse_iff.mp ⟨i, parse_memberString h⟩

/-- Canonical identities and member strings stand for each other. -/
def memberStringEquiv : {i : Identity // i.Canonical} ≃ {s : String // IsMemberString s} where
  toFun i := ⟨i.1.memberString, i.2.isMemberString⟩
  invFun := ofMemberString
  left_inv i := by
    have h := parse_eq_ofMemberString ⟨i.1.memberString, i.2.isMemberString⟩
    exact Subtype.ext (Except.ok.inj ((parse_memberString i.2).symm.trans h)).symm
  right_inv s := Subtype.ext (memberString_of_parse (parse_eq_ofMemberString s))

/-- **Reading and writing member strings are inverse to each other.** A text is read exactly if it
is in the grammar, and is written the same again; any other text is refused with a cause. A
canonical identity is read from its own member string. So the canonical identities correspond to the
texts of the grammar, with writing for one direction and reading for the other. -/
theorem memberStrings_correspond :
    (∀ s, (∃ i, ofValue (.text s) = .ok i) ↔
      s = "allUsers" ∨ s = "allAuthenticatedUsers" ∨
        ∃ word ∈ ["user", "serviceAccount", "group", "domain"],
          ∃ v, v ≠ "" ∧ s = word ++ ":" ++ v) ∧
    (∀ s i, ofValue (.text s) = .ok i → i.Canonical ∧ i.memberString = s) ∧
    (∀ s, ¬ IsMemberString s → ∃ cause, ofValue (.text s) = .error cause ∧ Refused s cause) ∧
    (∀ i, i.Canonical → ofValue (.text i.memberString) = .ok i) ∧
    (∀ i, (memberStringEquiv i).1 = i.1.memberString) ∧
    ∀ s, ofValue (.text s.1) = .ok (memberStringEquiv.symm s).1 := by
  refine ⟨fun s => exists_parse_iff.trans isMemberString_iff, fun s i h => parse_eq_ok_iff.mp h,
    fun s hs => ?_, fun i => parse_memberString, fun i => rfl, parse_eq_ofMemberString⟩
  obtain ⟨cause, hcause⟩ := (isMemberString_or_exists_refused s).resolve_left hs
  exact ⟨cause, parse_of_refused hcause, hcause⟩

/-- A value keeps its colons; a wildcard has none, and words are case-sensitive. -/
theorem memberStrings_correspond_colons :
    ofValue (.text "user:a:b") = .ok ⟨.user, .text "a:b"⟩ ∧
      (∃ cause, ofValue (.text "allUsers:x") = .error cause ∧ Refused "allUsers:x" cause) ∧
      ∃ cause, ofValue (.text "User:x") = .error cause ∧ Refused "User:x" cause := by
  have hwild : Refused "allUsers:x" _ :=
    @Refused.wildcardValue .allUsers rfl "x" (by decide)
  have hcase : Refused "User:x" _ :=
    @Refused.unknownKind "User" (by decide) (fun k => by cases k <;> decide) "x" (by decide)
  exact ⟨memberStrings_correspond.2.2.2.1 ⟨.user, .text "a:b"⟩ ⟨"a:b", by decide, rfl⟩,
    memberStrings_correspond.2.2.1 _ hwild.not_isMemberString,
    memberStrings_correspond.2.2.1 _ hcase.not_isMemberString⟩

end Identity

end AccessPolicy
