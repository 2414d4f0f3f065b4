import AccessPolicy.Console.Markup
import Mathlib.Data.List.TakeDrop
import Mathlib.Data.List.TakeWhile

/-!
# Escaped texts have no tags

A text that is escaped is plain wherever it stands, whatever brackets, slashes and backslashes are
in it: cut into pieces, it has no tag. So it opens no style, closes none, and names no colour.

* `Markup.tagBody?_eq_some_iff`: what a tag is;
* `Markup.arePlain_cut_escapeFrom`: an escaped text in pieces, after some plain text;
* `Markup.arePlain_cut_escape`: the same of a whole text.
-/

namespace AccessPolicy.Console.Markup

/-! ### Tags -/

/-- Whether a character is a bracket. -/
def isBracket (c : Char) : Bool := c == ']' || c == '['

/-- **Tags.** The body of a tag starts as a tag can, has no bracket in it, and is followed by a
closing bracket. -/
theorem tagBody?_eq_some_iff {cs body : List Char} :
    tagBody? cs = some body ↔ (∃ rest, cs = body ++ ']' :: rest) ∧
      (∀ c ∈ body, isBracket c = false) ∧ ∃ c, body.head? = some c ∧ startsTag c = true := by
  have hp : (fun c : Char => c != ']' && c != '[') = fun c => !isBracket c := by
    funext c
    simp [isBracket, bne]
  constructor
  · intro h
    unfold tagBody? at h
    rw [hp, List.span_eq_takeWhile_dropWhile] at h
    dsimp only at h
    split at h
    · next c hhead hrest =>
      split at h
      · next hstarts =>
        obtain rfl := Option.some.inj h
        obtain ⟨rest, hdrop⟩ := List.head?_eq_some_iff.mp hrest
        refine ⟨⟨rest, ?_⟩, fun d hd => ?_, c, hhead, hstarts⟩
        · rw [← hdrop, List.takeWhile_append_dropWhile]
        · simpa using List.mem_takeWhile_imp hd
      · simp at h
    · simp at h
  · rintro ⟨⟨rest, rfl⟩, hbody, c, hhead, hstarts⟩
    have hall : ∀ d ∈ body, (!isBracket d) = true := by simpa using hbody
    have htake : (body ++ ']' :: rest).takeWhile (fun c => !isBracket c) = body := by
      rw [List.takeWhile_append_of_pos hall]
      simp [isBracket]
    have hdrop : (body ++ ']' :: rest).dropWhile (fun c => !isBracket c) = ']' :: rest := by
      rw [List.dropWhile_append_of_pos hall]
      simp [isBracket]
    unfold tagBody?
    rw [hp, List.span_eq_takeWhile_dropWhile]
    simp [htake, hdrop, hhead, hstarts]

/-! ### Escapes and cuts, step by step -/

/-- What is copied is not looked at. -/
theorem escapeFrom_copied (copied rest : List Char) :
    escapeFrom 0 copied.length (copied ++ rest) = copied ++ escapeFrom 0 0 rest := by
  induction copied with
  | nil => rfl
  | cons c copied ih => exact congrArg (c :: ·) ih

/-- What is passed over is not looked at. -/
theorem cut_skipped (before : List Char) (backslashes : Nat) (skipped rest : List Char) :
    cut before backslashes skipped.length (skipped ++ rest) = cut before backslashes 0 rest := by
  induction skipped with
  | nil => rfl
  | cons c skipped ih => exact ih

/-- Backslashes are counted. -/
theorem cut_backslashes (before : List Char) (backslashes n : Nat) (rest : List Char) :
    cut before backslashes 0 (List.replicate n '\\' ++ rest) =
      cut before (backslashes + n) 0 rest := by
  induction n generalizing backslashes with
  | zero => rfl
  | succ n ih =>
    have hstep : cut before backslashes 0 ('\\' :: (List.replicate n '\\' ++ rest)) =
        cut before (backslashes + 1) 0 (List.replicate n '\\' ++ rest) := rfl
    rw [List.replicate_succ, List.cons_append, hstep, ih, Nat.add_right_comm, Nat.add_assoc]

/-! ### No tags -/

/-- Backslashes and an opening bracket are no part of the body of a tag. -/
private theorem replicate_append_ne {n : Nat} {rest body rest' : List Char}
    (hbody : ∀ c ∈ body, isBracket c = false) :
    List.replicate n '\\' ++ '[' :: rest ≠ body ++ ']' :: rest' := by
  intro h
  have hslashes : ∀ c ∈ List.replicate n '\\', (!isBracket c) = true := by
    intro c hc
    obtain rfl := (List.mem_replicate.mp hc).2
    rfl
  have hdrop := congrArg (List.dropWhile fun c => !isBracket c) h
  rw [List.dropWhile_append_of_pos hslashes,
    List.dropWhile_append_of_pos (by simpa using hbody)] at hdrop
  simp [isBracket] at hdrop

/-- What stands before the first bracket is kept by an escape, if that is a closing one. -/
private theorem exists_eq_of_escapeFrom {cs tail body rest : List Char} {backslashes : Nat}
    (htail : ']' ∉ tail) (hbody : ∀ c ∈ body, isBracket c = false)
    (h : escapeFrom backslashes 0 cs ++ tail = body ++ ']' :: rest) :
    ∃ rest', cs = body ++ ']' :: rest' := by
  induction cs generalizing backslashes body with
  | nil =>
    have hmem : ']' ∈ tail := by
      rw [show tail = body ++ ']' :: rest from h]
      simp
    exact absurd hmem htail
  | cons c cs ih =>
    -- whether the character is copied, or a tag starts with it
    have hcopied : ∀ {n : Nat}, c :: (escapeFrom n 0 cs ++ tail) = body ++ ']' :: rest →
        ∃ rest', c :: cs = body ++ ']' :: rest' := by
      intro n hcons
      cases body with
      | nil =>
        obtain ⟨rfl, -⟩ := List.cons.inj hcons
        exact ⟨cs, rfl⟩
      | cons b body =>
        obtain ⟨rfl, hrest⟩ := List.cons.inj hcons
        obtain ⟨rest', rfl⟩ := ih (fun d hd => hbody d (by simp [hd])) hrest
        exact ⟨rest', rfl⟩
    rw [escapeFrom] at h
    split at h
    · exact hcopied h
    · split at h
      · exact hcopied h
      · next hopening =>
        obtain rfl : c = '[' := by simpa using hopening
        split at h
        · exact hcopied h
        · rw [List.append_assoc] at h
          exact absurd h (replicate_append_ne hbody)

/-- What is no tag is none when the text after it is escaped. -/
private theorem tagBody?_escapeFrom {cs tail : List Char} (htail : ']' ∉ tail)
    (h : tagBody? cs = none) : tagBody? (escapeFrom 0 0 cs ++ tail) = none := by
  cases hbody : tagBody? (escapeFrom 0 0 cs ++ tail) with
  | none => rfl
  | some body =>
    obtain ⟨⟨rest, hrest⟩, hbrackets, hhead⟩ := tagBody?_eq_some_iff.mp hbody
    obtain ⟨rest', rfl⟩ := exists_eq_of_escapeFrom htail hbrackets hrest
    rw [tagBody?_eq_some_iff.mpr ⟨⟨rest', rfl⟩, hbrackets, hhead⟩] at h
    simp at h

/-- Plain pieces, whose characters have a property. -/
def ArePlain (P : Char → Prop) (pieces : List Piece) : Prop :=
  ∀ piece ∈ pieces, ∃ cs, piece = .plain cs ∧ ∀ c ∈ cs, P c

variable {P : Char → Prop}

theorem ArePlain.append {pieces pieces' : List Piece} (h : ArePlain P pieces)
    (h' : ArePlain P pieces') : ArePlain P (pieces ++ pieces') :=
  fun piece hpiece => (List.mem_append.mp hpiece).elim (h piece) (h' piece)

theorem arePlain_plainPiece {cs : List Char} (h : ∀ c ∈ cs, P c) : ArePlain P (plainPiece cs) := by
  unfold plainPiece
  split
  · simp [ArePlain]
  · intro piece hpiece
    exact ⟨cs, List.mem_singleton.mp hpiece, h⟩

private theorem forall_mem_replicate (hslash : P '\\') (n : Nat) :
    ∀ c ∈ List.replicate n '\\', P c := by
  intro c hc
  obtain rfl := (List.mem_replicate.mp hc).2
  exact hslash

/-- Backslashes alone are plain. -/
private theorem arePlain_cut_replicate (hslash : P '\\') {before : List Char}
    (hbefore : ∀ c ∈ before, P c) (backslashes skip n : Nat) :
    ArePlain P (cut before backslashes skip (List.replicate n '\\')) := by
  induction n generalizing backslashes skip with
  | zero =>
    have hcut : cut before backslashes skip [] =
        plainPiece (before.reverse ++ List.replicate backslashes '\\') := by
      cases skip <;> rfl
    rw [List.replicate_zero, hcut]
    refine arePlain_plainPiece fun c hc => ?_
    rcases List.mem_append.mp hc with hc | hc
    · exact hbefore c (List.mem_reverse.mp hc)
    · exact forall_mem_replicate hslash _ c hc
  | succ n ih =>
    cases skip with
    | zero => exact ih (backslashes + 1) 0
    | succ skip => exact ih backslashes skip

/-- **Escaped texts have no tags.** Cut into pieces after some plain text, with backslashes behind
them, they are plain, and hold no characters but those of the text and backslashes. The escape and
the cut have met the same backslashes. -/
theorem arePlain_cut_escapeFrom (hslash : P '\\') (closing backslashes copied : Nat)
    (cs : List Char) (hcs : ∀ c ∈ cs, P c) (hcopied : copied ≠ 0 → backslashes = 0)
    (before : List Char) (hbefore : ∀ c ∈ before, P c) :
    ArePlain P (cut before backslashes copied
      (escapeFrom backslashes copied cs ++ List.replicate closing '\\')) := by
  have hslashes := forall_mem_replicate hslash
  fun_induction escapeFrom backslashes copied cs generalizing before with
  | case1 backslashes copied =>
    exact arePlain_cut_replicate hslash hbefore backslashes copied closing
  | case2 backslashes copied c cs ih =>
    obtain rfl := hcopied (by simp)
    exact ih (fun d hd => hcs d (by simp [hd])) (fun _ => rfl) before hbefore
  | case3 backslashes c cs hc ih =>
    -- a backslash is copied by the one and counted by both
    obtain rfl : c = '\\' := by simpa using hc
    exact ih (fun d hd => hcs d (by simp [hd])) (by simp) before hbefore
  | case4 backslashes c cs hc hopening ih =>
    -- any other character: the backslashes before it join the plain text
    rw [List.cons_append, cut]
    simp only [hc, hopening, if_true, if_false, Bool.false_eq_true]
    refine ih (fun d hd => hcs d (by simp [hd])) (by simp) _ fun d hd => ?_
    rcases List.mem_cons.mp hd with rfl | hd
    · exact hcs d (by simp)
    · exact (List.mem_append.mp hd).elim (hslashes _ d) (hbefore d)
  | case5 backslashes c cs hc hopening hnone ih =>
    -- a bracket that starts no tag, and none in the escape either
    obtain rfl : c = '[' := by simpa using hopening
    have hclosing : ']' ∉ List.replicate closing '\\' := by simp
    rw [List.cons_append, cut]
    simp only [hc, hopening, Bool.false_eq_true, if_false, tagBody?_escapeFrom hclosing hnone]
    refine ih (fun d hd => hcs d (by simp [hd])) (by simp) _ fun d hd => ?_
    rcases List.mem_cons.mp hd with rfl | hd
    · exact hcs '[' (by simp)
    · exact (List.mem_append.mp hd).elim (hslashes _ d) (hbefore d)
  | case6 backslashes c cs hc hopening body hbody ih =>
    obtain rfl : c = '[' := by simpa using hopening
    have hrest := ih (fun d hd => hcs d (by simp [hd])) (by simp) [] (by simp)
    obtain ⟨⟨rest, rfl⟩, hbrackets, hhead⟩ := tagBody?_eq_some_iff.mp hbody
    -- the tag is copied as it is, so the cut meets it again, after an odd number of backslashes
    have hcopy : escapeFrom 0 (body.length + 1) (body ++ ']' :: rest) =
        body ++ ']' :: escapeFrom 0 0 rest := by
      have := escapeFrom_copied (body ++ [']']) rest
      simpa using this
    rw [hcopy] at hrest ⊢
    rw [List.append_assoc, cut_backslashes, List.cons_append, cut]
    have htag : tagBody? (body ++ ']' :: escapeFrom 0 0 rest ++ List.replicate closing '\\') =
        some body :=
      tagBody?_eq_some_iff.mpr ⟨⟨_, List.append_assoc ..⟩, hbrackets, hhead⟩
    have hodd : (backslashes + (backslashes + 1)) % 2 = 1 := by omega
    simp only [hc, hopening, Bool.false_eq_true, if_false, htag, hodd, if_true]
    refine .append (.append (.append ?_ ?_) ?_) hrest
    · exact arePlain_plainPiece fun d hd => hbefore d (List.mem_reverse.mp hd)
    · exact arePlain_plainPiece (hslashes _)
    · intro piece hpiece
      refine ⟨_, List.mem_singleton.mp hpiece, fun d hd => hcs d ?_⟩
      simp at hd ⊢
      tauto

/-! ### Whole texts -/

/-- Backslashes at the end of a text, one or none. -/
theorem exists_closeBackslash_eq (cs : List Char) :
    ∃ n, closeBackslash cs = cs ++ List.replicate n '\\' := by
  unfold closeBackslash
  split
  · exact ⟨0, by simp⟩
  · exact ⟨1, rfl⟩
  · exact ⟨0, by simp⟩

/-- An escaped text after some plain text that holds no backslashes at its end. -/
theorem arePlain_cut_escape (hslash : P '\\') {s : String} (hs : ∀ c ∈ s.toList, P c)
    {before : List Char} (hbefore : ∀ c ∈ before, P c) :
    ArePlain P (cut before 0 0 (escape s).toList) := by
  obtain ⟨n, hclose⟩ := exists_closeBackslash_eq (escapeFrom 0 0 s.toList)
  rw [escape, String.toList_ofList, hclose]
  exact arePlain_cut_escapeFrom hslash n 0 0 _ hs (fun _ => rfl) before hbefore

end AccessPolicy.Console.Markup
