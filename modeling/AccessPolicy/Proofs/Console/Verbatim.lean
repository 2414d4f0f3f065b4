import AccessPolicy.Proofs.Console.Escape
import AccessPolicy.Text.Half
import Mathlib.Data.List.Basic

/-!
# Texts that are shown as they are

A text for the console is *literal* if nothing in it is markup: no bracket in it opens a tag or
stands after a backslash, no name between colons stands for a pictogram, and no character is left
out. The console shows such a text as it is, and it shows no other text so.

What is markup has a *mark*: an opening bracket, a colon, a backslash, or a character that is left
out. The console brings no marks in, and wherever it does not show a text as it is, it takes one
out. So marks are counted to see that it keeps nothing but literal texts.

* `Emoji.marks_replaceFrom_le`, `Markup.plainMarks_cut_le`: no step brings marks in, and one that
  takes none out changes nothing;
* `Markup.cut_of_isUntagged`, `Markup.cut_append_of_isUntagged`: plain text is collected up to the
  next tag;
* `Markup.shown_eq_iff`: which texts are shown as they are.
-/

namespace AccessPolicy.Console

namespace Markup

/-- Whether a character can make markup of the text around it. -/
def isMark (c : Char) : Bool := c == '[' || c == ':' || c == '\\' || isDropped c

/-- The number of marks in a text. -/
def marks (cs : List Char) : Nat := cs.countP isMark

@[simp] theorem marks_nil : marks [] = 0 := rfl

@[simp] theorem marks_append (cs ds : List Char) : marks (cs ++ ds) = marks cs + marks ds :=
  List.countP_append

theorem marks_cons (c : Char) (cs : List Char) :
    marks (c :: cs) = marks cs + if isMark c then 1 else 0 :=
  List.countP_cons

theorem marks_cons_of_isMark {c : Char} (h : isMark c = true) (cs : List Char) :
    marks (c :: cs) = marks cs + 1 := by
  rw [marks_cons, if_pos h]

@[simp] theorem marks_replicate (n : Nat) : marks (List.replicate n '\\') = n := by
  simp [marks, List.countP_replicate, isMark]

end Markup

/-! ### Names of pictograms -/

namespace Emoji

open Markup (isMark marks marks_cons marks_cons_of_isMark)

/-- The bytes of a character are among those of a text that holds it. -/
theorem mem_bytes_of_mem {s : String} {c : Char} (hc : c ∈ s.toList) {b : UInt8}
    (hb : b ∈ String.utf8EncodeChar c) : b ∈ s.toByteArray.data.toList := by
  have hbytes : s.toByteArray.data.toList = s.toList.flatMap String.utf8EncodeChar := by
    rw [← String.utf8Encode_toList, List.utf8Encode]
    simp
  rw [hbytes]
  exact List.mem_flatMap.mpr ⟨c, hc, hb⟩

/-- Whether a byte can stand in pictograms: it is beyond ASCII, or that of a digit or a sign that
comes before the digits. The byte `0xf4` begins the halves of pairs. -/
private def isPictorial (b : UInt8) : Bool :=
  let n := b.toNat
  127 < n && n < 0xf4 || 34 < n && n < 58

private theorem bytes_names :
    (names.all fun e => e.2.toByteArray.data.toList.all isPictorial) = true := by
  decide +kernel

/-- A half of a pair shows in the bytes of its text. -/
private theorem mem_utf8EncodeChar_of_isHalf {c : Char} (h : Text.isHalf c = true) :
    0xf4 ∈ String.utf8EncodeChar c := by
  have hpoint : Text.isHalfPoint (c.val.toNat - 0x100000) = true := h
  simp only [Text.isHalfPoint, Bool.and_eq_true, decide_eq_true_eq] at hpoint
  have hlead : c.val.toNat / 262144 % 8 = 4 := by omega
  unfold String.utf8EncodeChar
  dsimp only
  rw [if_neg (by omega), if_neg (by omega), if_neg (by omega), hlead]
  exact List.mem_cons_self

/-- A mark shows in the bytes of its text. -/
private theorem exists_mem_utf8EncodeChar_of_isMark {c : Char} (h : isMark c = true) :
    ∃ b ∈ String.utf8EncodeChar c, isPictorial b = false := by
  simp only [isMark, Markup.isDropped, Bool.or_eq_true, beq_iff_eq] at h
  rcases h with ((rfl | rfl) | rfl) | (((rfl | rfl) | rfl) | rfl) | rfl <;>
    exact ⟨_, List.mem_singleton.mpr rfl, by decide⟩

/-- Pictograms are made of whole characters, none of which is a mark. -/
theorem isHalf_isMark_of_find? {name cs : List Char} (h : find? name = some cs) :
    ∀ c ∈ cs, Text.isHalf c = false ∧ isMark c = false := by
  obtain ⟨pictogram, hlookup, rfl⟩ := Option.map_eq_some_iff.mp h
  obtain ⟨before, after, hnames, -⟩ := List.lookup_eq_some_iff.mp hlookup
  have hmem : (String.ofList (Text.lower name), pictogram) ∈ names := by
    rw [hnames]
    exact List.mem_append_right _ List.mem_cons_self
  have hbytes := List.all_eq_true.mp (List.all_eq_true.mp bytes_names _ hmem)
  intro c hc
  have hpictorial : ∀ b ∈ String.utf8EncodeChar c, isPictorial b = true := fun b hb =>
    hbytes b (mem_bytes_of_mem hc hb)
  constructor
  · by_contra hhalf
    have := hpictorial _ (mem_utf8EncodeChar_of_isHalf (by simpa using hhalf))
    simp [isPictorial] at this
  · by_contra hsign
    obtain ⟨b, hb, hnot⟩ := exists_mem_utf8EncodeChar_of_isMark (by simpa using hsign)
    simp [hpictorial b hb] at hnot

/-- Pictograms in a form that is asked for are made of such characters as well. -/
theorem isHalf_isMark_of_pictogram? {body cs : List Char} (h : pictogram? body = some cs) :
    ∀ c ∈ cs, Text.isHalf c = false ∧ isMark c = false := by
  unfold pictogram? at h
  split at h
  · next ending form hform =>
    obtain ⟨shown, hfind, rfl⟩ := Option.map_eq_some_iff.mp h
    have hmem := List.mem_of_find?_eq_some hform
    simp only [forms, List.mem_cons, Prod.mk.injEq, List.not_mem_nil, or_false] at hmem
    refine List.forall_mem_append.mpr ⟨isHalf_isMark_of_find? hfind, ?_⟩
    rcases hmem with ⟨-, rfl⟩ | ⟨-, rfl⟩ <;> simp <;> decide
  · exact isHalf_isMark_of_find? h

/-- A code ends with a colon. -/
theorem exists_eq_of_code? {cs body : List Char} (h : code? cs = some body) :
    ∃ rest, cs = body ++ ':' :: rest := by
  unfold code? at h
  dsimp only at h
  split at h
  · next hcolon =>
    obtain rfl := Option.some.inj h
    obtain ⟨rest, hrest⟩ := List.head?_eq_some_iff.mp (beq_iff_eq.mp hcolon)
    refine ⟨rest, ?_⟩
    rw [← hrest]
    exact (List.prefix_iff_eq_append.mp (List.takeWhile_prefix _)).symm
  · simp at h

/-- **Pictograms for their names** bring no marks in, and wherever there is one, colons go. -/
theorem marks_replaceFrom_le (skip : Nat) (cs : List Char) :
    marks (replaceFrom skip cs) ≤ marks (cs.drop skip) ∧
      (marks (cs.drop skip) ≤ marks (replaceFrom skip cs) →
        replaceFrom skip cs = cs.drop skip) := by
  induction cs generalizing skip with
  | nil => simp [replaceFrom]
  | cons c cs ih =>
    -- a character that is kept
    have hkept : marks (c :: replaceFrom 0 cs) ≤ marks (c :: cs) ∧
        (marks (c :: cs) ≤ marks (c :: replaceFrom 0 cs) → c :: replaceFrom 0 cs = c :: cs) := by
      obtain ⟨hle, heq⟩ := ih 0
      rw [marks_cons, marks_cons]
      refine ⟨by simpa using hle, fun h => ?_⟩
      rw [heq (by simpa using h), List.drop_zero]
    cases skip with
    | succ skip => exact ih skip
    | zero =>
      rw [replaceFrom, List.drop_zero]
      split
      · next hcolon =>
        obtain rfl : c = ':' := by simpa using hcolon
        split
        · next body hcode =>
          obtain ⟨rest, rfl⟩ := exists_eq_of_code? hcode
          obtain ⟨hle, heq⟩ := ih (body.length + 1)
          have hdrop : (body ++ ':' :: rest).drop (body.length + 1) = rest := by simp
          rw [hdrop] at hle heq
          have hcons := marks_cons_of_isMark (c := ':') rfl
          cases hpictogram : pictogram? body with
          | some shown =>
            have hnone : marks shown = 0 := by
              rw [marks, List.countP_eq_zero]
              intro d hd
              simp [(isHalf_isMark_of_pictogram? hpictogram d hd).2]
            simp only [Option.getD_some, Markup.marks_append, hnone, hcons]
            exact ⟨by omega, fun h => by omega⟩
          | none =>
            simp only [Option.getD_none, List.cons_append, List.append_assoc, List.nil_append,
              Markup.marks_append, hcons]
            refine ⟨by omega, fun h => ?_⟩
            rw [heq (by omega)]
        · exact hkept
      · exact hkept

end Emoji

namespace Markup

/-! ### Text without tags -/

/-- Whether no opening bracket in a text starts a tag or stands after a backslash, given whether the
text itself stands after one. -/
def isUntagged (slashed : Bool) : List Char → Bool
  | [] => true
  | c :: cs => (c != '[' || (!slashed && (tagBody? cs).isNone)) && isUntagged (c == '\\') cs

/-- A text without opening brackets has no tags. -/
theorem isUntagged_of_forall {cs : List Char} (h : ∀ c ∈ cs, c ≠ '[') (slashed : Bool) :
    isUntagged slashed cs = true := by
  induction cs generalizing slashed with
  | nil => rfl
  | cons c cs ih =>
    rw [List.forall_mem_cons] at h
    simp [isUntagged, h.1, ih h.2]

/-- Nothing in the text is markup. -/
structure IsLiteral (cs : List Char) : Prop where
  /-- No bracket starts a tag, or stands after a backslash. -/
  untagged : isUntagged false cs = true
  /-- No name between colons stands for a pictogram. -/
  unnamed : Emoji.replace cs = cs
  /-- No character is left out. -/
  kept : ∀ c ∈ cs, isDropped c = false

instance (cs : List Char) : Decidable (IsLiteral cs) :=
  decidable_of_iff (isUntagged false cs = true ∧ Emoji.replace cs = cs ∧
      (cs.all fun c => !isDropped c) = true)
    ⟨fun ⟨huntagged, hunnamed, hkept⟩ => ⟨huntagged, hunnamed, by simpa using hkept⟩,
      fun ⟨huntagged, hunnamed, hkept⟩ => ⟨huntagged, hunnamed, by simpa using hkept⟩⟩

/-- A space changes nothing. -/
theorem IsLiteral.space_cons {cs : List Char} (h : IsLiteral cs) : IsLiteral (' ' :: cs) where
  untagged := h.untagged
  unnamed := congrArg (' ' :: ·) h.unnamed
  kept := List.forall_mem_cons.mpr ⟨rfl, h.kept⟩

/-- No tag goes on beyond an opening bracket. -/
private theorem tagBody?_append {cs tail : List Char} (h : tagBody? cs = none)
    (htail : ∀ c ∈ tail.head?, c = '[') : tagBody? (cs ++ tail) = none := by
  cases hbody : tagBody? (cs ++ tail) with
  | none => rfl
  | some body =>
    obtain ⟨⟨rest, hrest⟩, hbrackets, hhead⟩ := tagBody?_eq_some_iff.mp hbody
    obtain ⟨rest', rfl⟩ : ∃ rest', cs = body ++ ']' :: rest' := by
      rcases List.append_eq_append_iff.mp hrest with ⟨more, rfl, rfl⟩ | ⟨more, rfl, hmore⟩
      · -- the bracket after the text would be inside the tag, or end it
        cases more with
        | nil => simp at htail
        | cons c more =>
          obtain rfl : c = '[' := htail c (by simp)
          exact absurd (hbrackets '[' (by simp)) (by decide)
      · cases more with
        | nil =>
          obtain rfl : ']' :: rest = tail := by simpa using hmore
          simp at htail
        | cons c more =>
          obtain ⟨rfl, -⟩ := List.cons.inj hmore
          exact ⟨more, rfl⟩
    rw [tagBody?_eq_some_iff.mpr ⟨⟨rest', rfl⟩, hbrackets, hhead⟩] at h
    simp at h

/-! ### Cuts, step by step -/

section Steps

variable (before : List Char) (backslashes : Nat) (cs : List Char)

theorem cut_backslash :
    cut before backslashes 0 ('\\' :: cs) = cut before (backslashes + 1) 0 cs := rfl

theorem cut_of_ne {c : Char} (hslash : c ≠ '\\') (hopening : c ≠ '[') :
    cut before backslashes 0 (c :: cs) =
      cut (c :: (List.replicate backslashes '\\' ++ before)) 0 0 cs := by
  rw [cut, if_neg (by simpa using hslash), if_pos (by simpa using hopening)]

theorem cut_opening {cs : List Char} (h : tagBody? cs = none) :
    cut before backslashes 0 ('[' :: cs) =
      cut ('[' :: (List.replicate (backslashes - 1) '\\' ++ before)) 0 0 cs := by
  rw [cut, if_neg (by simp), if_neg (by simp), h]

theorem cut_opening_of_tag {cs body : List Char} (h : tagBody? cs = some body) :
    cut before backslashes 0 ('[' :: cs) =
      plainPiece before.reverse ++ plainPiece (List.replicate (backslashes / 2) '\\')
        ++ [if backslashes % 2 = 1 then .plain ('[' :: (body ++ [']'])) else .tag body]
        ++ cut [] 0 (body.length + 1) cs := by
  rw [cut, if_neg (by simp), if_neg (by simp), h]

end Steps

/-- What stands at the end of a text stands at the end of a longer one. -/
private theorem getLast?_ne_of_append {before cs : List Char} {c : Char}
    (h : (before ++ c :: cs).getLast? ≠ some '\\') : cs.getLast? ≠ some '\\' := by
  cases cs with
  | nil => simp
  | cons d cs => simpa using h

/-- **Plain text is collected.** A text without tags, before the end or before a bracket, goes to
the plain text as it is. -/
private theorem exists_cut_append_eq {tail : List Char} (htail : ∀ c ∈ tail.head?, c = '[')
    {cs before : List Char} {backslashes : Nat}
    (h : isUntagged (decide (0 < backslashes)) cs = true) :
    ∃ before' backslashes',
      cut before backslashes 0 (cs ++ tail) = cut before' backslashes' 0 tail ∧
      before'.reverse ++ List.replicate backslashes' '\\' =
        before.reverse ++ List.replicate backslashes '\\' ++ cs ∧
      ((List.replicate backslashes '\\' ++ cs).getLast? ≠ some '\\' → backslashes' = 0) := by
  induction cs generalizing before backslashes with
  | nil =>
    refine ⟨before, backslashes, rfl, by simp, fun hlast => ?_⟩
    by_contra hne
    simp [List.getLast?_replicate, hne] at hlast
  | cons c cs ih =>
    simp only [isUntagged, Bool.and_eq_true, Bool.or_eq_true, bne_iff_ne] at h
    obtain ⟨hbracket, hrest⟩ := h
    rw [List.cons_append]
    by_cases hslash : c = '\\'
    · subst hslash
      obtain ⟨before', backslashes', hcut, happend, hlast⟩ :=
        @ih before (backslashes + 1) (by simpa using hrest)
      rw [cut_backslash, hcut]
      refine ⟨before', backslashes', rfl, ?_, fun h => hlast ?_⟩
      · rw [happend, List.replicate_succ']
        simp
      · rwa [List.replicate_succ', List.append_assoc]
    · have hrest' : isUntagged (decide (0 < 0)) cs = true := by
        rw [beq_false_of_ne hslash] at hrest
        exact hrest
      by_cases hopening : c = '['
      · subst hopening
        simp only [ne_eq, not_true_eq_false, false_or, Bool.not_eq_true', decide_eq_false_iff_not,
          Nat.not_lt, Nat.le_zero, Option.isNone_iff_eq_none] at hbracket
        obtain ⟨rfl, htag⟩ := hbracket
        obtain ⟨before', backslashes', hcut, happend, hlast⟩ := @ih ('[' :: before) 0 hrest'
        rw [cut_opening _ _ (tagBody?_append htag htail)]
        exact ⟨before', backslashes', hcut, by rw [happend]; simp,
          fun h => hlast (getLast?_ne_of_append h)⟩
      · obtain ⟨before', backslashes', hcut, happend, hlast⟩ :=
          @ih (c :: (List.replicate backslashes '\\' ++ before)) 0 hrest'
        rw [cut_of_ne _ _ _ hslash hopening]
        exact ⟨before', backslashes', hcut, by rw [happend]; simp,
          fun h => hlast (getLast?_ne_of_append h)⟩

/-- A text without tags is plain. -/
theorem cut_of_isUntagged {cs : List Char} (h : isUntagged false cs = true) (before : List Char) :
    cut before 0 0 cs = plainPiece (before.reverse ++ cs) := by
  obtain ⟨before', backslashes', hcut, happend, -⟩ :=
    @exists_cut_append_eq [] (by simp) cs before 0 (by simpa using h)
  rw [List.append_nil] at hcut
  rw [hcut, cut, happend]
  simp

/-- A text without tags is plain before a bracket, unless it ends in a backslash. -/
theorem cut_append_of_isUntagged {cs : List Char} (h : isUntagged false cs = true)
    (hlast : cs.getLast? ≠ some '\\') (before rest : List Char) :
    cut before 0 0 (cs ++ '[' :: rest) = cut (cs.reverse ++ before) 0 0 ('[' :: rest) := by
  obtain ⟨before', backslashes', hcut, happend, hzero⟩ :=
    @exists_cut_append_eq ('[' :: rest) (by simp) cs before 0 (by simpa using h)
  obtain rfl := hzero (by simpa using hlast)
  have hbefore : before' = cs.reverse ++ before := by
    rw [← List.reverse_inj]
    simpa using happend
  rw [hcut, hbefore]

/-! ### Marks that are lost -/

/-- The marks in plain pieces. -/
def plainMarks : List Piece → Nat
  | [] => 0
  | .plain cs :: rest => marks cs + plainMarks rest
  | .tag _ :: rest => plainMarks rest

theorem plainMarks_append (pieces pieces' : List Piece) :
    plainMarks (pieces ++ pieces') = plainMarks pieces + plainMarks pieces' := by
  induction pieces with
  | nil => simp [plainMarks]
  | cons piece rest ih => cases piece <;> simp [plainMarks, ih, Nat.add_assoc]

@[simp] theorem plainMarks_plainPiece (cs : List Char) : plainMarks (plainPiece cs) = marks cs := by
  unfold plainPiece
  split
  · next hempty => simp [plainMarks, List.isEmpty_iff.mp hempty]
  · simp [plainMarks]

@[simp] theorem marks_reverse (cs : List Char) : marks cs.reverse = marks cs :=
  List.countP_reverse

/-- A tag is not shown, or without one of the backslashes before it. -/
private theorem plainMarks_tag_lt (backslashes : Nat) (body : List Char) :
    plainMarks (plainPiece (List.replicate (backslashes / 2) '\\')
      ++ [if backslashes % 2 = 1 then .plain ('[' :: (body ++ [']'])) else .tag body]) <
    backslashes + 1 + marks body := by
  rw [plainMarks_append, plainMarks_plainPiece, marks_replicate]
  split
  · have htag : plainMarks [.plain ('[' :: (body ++ [']']))] = marks body + 1 := by
      simp [plainMarks, marks, isMark, isDropped]
    omega
  · simp only [plainMarks]
    omega

/-- **Cutting** brings no marks in, and wherever there is a tag, or a backslash before a bracket,
marks go. -/
theorem plainMarks_cut_le (before : List Char) (backslashes skip : Nat) (cs : List Char) :
    plainMarks (cut before backslashes skip cs) ≤
        marks before + backslashes + marks (cs.drop skip) ∧
      (marks before + backslashes + marks (cs.drop skip) ≤
          plainMarks (cut before backslashes skip cs) →
        isUntagged (decide (0 < backslashes)) (cs.drop skip) = true) := by
  induction cs generalizing before backslashes skip with
  | nil =>
    have hcut : cut before backslashes skip [] =
        plainPiece (before.reverse ++ List.replicate backslashes '\\') := by
      cases skip <;> rfl
    simp [hcut, isUntagged]
  | cons c cs ih =>
    cases skip with
    | succ skip => exact ih before backslashes skip
    | zero =>
      rw [List.drop_zero, isUntagged]
      by_cases hslash : c = '\\'
      · subst hslash
        obtain ⟨hle, heq⟩ := ih before (backslashes + 1) 0
        rw [List.drop_zero] at hle heq
        rw [cut_backslash, marks_cons_of_isMark rfl]
        exact ⟨by omega, fun h => by simpa using heq (by omega)⟩
      rw [beq_false_of_ne hslash]
      by_cases hopening : c = '['
      · subst hopening
        rw [marks_cons_of_isMark rfl]
        cases htag : tagBody? cs with
        | none =>
          obtain ⟨hle, heq⟩ := ih ('[' :: (List.replicate (backslashes - 1) '\\' ++ before)) 0 0
          rw [List.drop_zero, marks_cons_of_isMark rfl, marks_append, marks_replicate] at hle heq
          rw [cut_opening _ _ htag]
          refine ⟨by omega, fun h => ?_⟩
          obtain rfl : backslashes = 0 := by omega
          simpa using heq (by omega)
        | some body =>
          obtain ⟨⟨rest, rfl⟩, -⟩ := tagBody?_eq_some_iff.mp htag
          obtain ⟨hle, -⟩ := ih [] 0 (body.length + 1)
          have hdrop : (body ++ ']' :: rest).drop (body.length + 1) = rest := by simp
          have hmarks : marks (body ++ ']' :: rest) = marks body + marks rest := by
            simp [marks, isMark, isDropped]
          have hlt := plainMarks_tag_lt backslashes body
          rw [hdrop, marks_nil] at hle
          rw [cut_opening_of_tag _ _ htag, List.append_assoc (plainPiece before.reverse),
            plainMarks_append, plainMarks_append, plainMarks_plainPiece, marks_reverse, hmarks]
          exact ⟨by omega, fun h => by omega⟩
      · obtain ⟨hle, heq⟩ := ih (c :: (List.replicate backslashes '\\' ++ before)) 0 0
        rw [List.drop_zero, marks_cons, marks_append, marks_replicate] at hle heq
        rw [cut_of_ne _ _ _ hslash hopening, marks_cons]
        refine ⟨by omega, fun h => ?_⟩
        simpa [hopening] using heq (by omega)

/-! ### What is shown -/

/-- A tag adds no text. -/
private theorem text_add_tag {p p' : Progress} {body : List Char}
    (h : p.add (.tag body) = .ok p') : p'.text = p.text := by
  have hclose : ∀ {name : Option String}, p.closeNamed name = .ok p' → p'.text = p.text := by
    intro name h
    unfold Progress.closeNamed Progress.close at h
    split at h
    · split at h
      · split at h
        · rw [← Except.ok.inj h]
        · simp at h
      · rw [← Except.ok.inj h]
    · simp at h
  unfold Progress.add at h
  dsimp only at h
  split at h
  · split at h
    · exact hclose h
    · split at h
      · exact hclose h
      · simp at h
  · split at h
    · rw [← Except.ok.inj h]
    · simp at h

/-- **Showing** brings no marks in. -/
private theorem marks_addAll_le {pieces : List Piece} {p p' : Progress}
    (h : p.addAll pieces = .ok p') : marks p'.text ≤ marks p.text + plainMarks pieces := by
  induction pieces generalizing p with
  | nil =>
    obtain rfl := Except.ok.inj h
    simp [plainMarks]
  | cons piece rest ih =>
    rw [Progress.addAll] at h
    cases hadd : p.add piece with
    | error e => simp [hadd] at h
    | ok q =>
      rw [hadd] at h
      have hrest := ih h
      cases piece with
      | tag body =>
        rw [text_add_tag hadd] at hrest
        exact hrest
      | plain cs =>
        obtain rfl := Except.ok.inj hadd
        have hreplace := (Emoji.marks_replaceFrom_le 0 cs).1
        have hfilter : marks ((Emoji.replace cs).filter (!isDropped ·)) ≤
            marks (Emoji.replace cs) :=
          List.Sublist.countP_le List.filter_sublist
        rw [List.drop_zero, ← Emoji.replace] at hreplace
        rw [marks_append] at hrest
        rw [plainMarks]
        omega

/-- A text that is literal, as a plain piece. -/
theorem addAll_plainPiece {cs : List Char} (h : IsLiteral cs) (p : Progress) (rest : List Piece) :
    p.addAll (plainPiece cs ++ rest) =
      { p with text := p.text ++ cs : Progress }.addAll rest := by
  have hfilter : (Emoji.replace cs).filter (!isDropped ·) = cs := by
    rw [h.unnamed, List.filter_eq_self]
    simpa using h.kept
  unfold plainPiece
  split
  · next hempty => simp [List.isEmpty_iff.mp hempty]
  · rw [List.singleton_append, Progress.addAll, Progress.add, hfilter]

/-- A plain piece that is shown as it is has no pictogram, and nothing is left out of it. -/
private theorem isLiteral_of_filter_eq {cs : List Char} (huntagged : isUntagged false cs = true)
    (h : (Emoji.replace cs).filter (!isDropped ·) = cs) : IsLiteral cs := by
  have hfilter : marks cs ≤ marks (Emoji.replace cs) := by
    conv_lhs => rw [← h]
    exact List.Sublist.countP_le List.filter_sublist
  have hreplace : Emoji.replace cs = cs := (Emoji.marks_replaceFrom_le 0 cs).2 hfilter
  rw [hreplace, List.filter_eq_self] at h
  exact ⟨huntagged, hreplace, by simpa using h⟩

/-- **Literal texts** are shown as they are, and no others: what is no literal text loses marks, or
is not shown at all. -/
theorem shown_eq_iff {s : String} : shown s = .ok { text := s.toList } ↔ IsLiteral s.toList := by
  constructor
  · intro h
    obtain ⟨p, hp, htext⟩ : ∃ p, Progress.addAll {} (pieces s.toList) = .ok p ∧
        p.text = s.toList := by
      rw [shown] at h
      cases hp : Progress.addAll {} (pieces s.toList) with
      | error e => simp [hp, Except.map] at h
      | ok p =>
        rw [hp] at h
        exact ⟨p, rfl, congrArg Shown.text (Except.ok.inj h)⟩
    have hle := marks_addAll_le hp
    rw [htext, pieces] at hle
    have huntagged : isUntagged false s.toList = true :=
      (plainMarks_cut_le [] 0 0 s.toList).2 (by simpa using hle)
    rw [pieces, cut_of_isUntagged huntagged, List.reverse_nil, List.nil_append, plainPiece] at hp
    split at hp
    · next hempty => rw [List.isEmpty_iff.mp hempty]; exact ⟨rfl, rfl, by simp⟩
    · have hfilter : (Emoji.replace s.toList).filter (!isDropped ·) = p.text := by
        rw [← Except.ok.inj hp]
        rfl
      exact isLiteral_of_filter_eq huntagged (hfilter.trans htext)
  · intro h
    have hp := addAll_plainPiece h {} []
    rw [List.append_nil, Progress.addAll] at hp
    rw [shown, pieces, cut_of_isUntagged h.untagged, List.reverse_nil, List.nil_append, hp]
    rfl

-- brackets are kept where they make no tag, and so are colons
example : IsLiteral "user:[A] [1] a:b".toList := by decide

-- a tag is not shown, nor is a backslash before a bracket or a name of a pictogram
example : ¬IsLiteral "user:[b]".toList ∧ ¬IsLiteral "\\[A]".toList ∧
    ¬IsLiteral ":8ball:".toList := by
  decide

end Markup

end AccessPolicy.Console
