import AccessPolicy.Console.Table
import AccessPolicy.Proofs.Console.Verbatim

/-!
# Printing

What is printed of a text: its markup is read, and what it shows is laid out in lines. A text in a
style can have a text after it, as the label of a message has; the style is read back and changes
nothing. If both are literal, they are printed as they are. If the message is escaped instead,
printing fails only for half of a pair of code points, which no output can hold: all that is done to
a text on its way (pictograms for their names, tabs, line breaks, cuts) brings no halves in.

* `Emoji.isWhole_replace`, `forall_mem_layOut`: what is done to whole texts leaves them whole;
* `Markup.addAll_pieces_styled`: a text in a style, and what follows it;
* `printed_styled`: literal texts are printed as they are;
* `printed_labelled`: whether a label and a message are printed.
-/

namespace AccessPolicy.Console

theorem isWhole_iff {cs : List Char} :
    Text.isWhole cs = true ↔ ∀ c ∈ cs, Text.isHalf c = false := by
  simp [Text.isWhole]

/-! ### Pictograms -/

namespace Emoji

private theorem isWhole_of_code? {cs body : List Char} (h : code? cs = some body)
    (hcs : Text.isWhole cs = true) : Text.isWhole body = true := by
  unfold code? at h
  dsimp only at h
  split at h
  · obtain rfl := Option.some.inj h
    simp only [Text.isWhole, List.all_eq_true] at hcs ⊢
    exact fun c hc => hcs c ((List.takeWhile_prefix _).subset hc)
  · simp at h

/-- **Pictograms for their names** leave a text whole. -/
theorem isWhole_replace {cs : List Char} (h : Text.isWhole cs = true) :
    Text.isWhole (replace cs) = true := by
  unfold replace
  generalize 0 = skip
  induction cs generalizing skip with
  | nil => simpa [replaceFrom] using h
  | cons c cs ih =>
    have hcs : Text.isWhole cs = true := by
      simp only [Text.isWhole, List.all_cons, Bool.and_eq_true] at h
      exact h.2
    have hkept : Text.isWhole (c :: replaceFrom 0 cs) = true := by
      simp only [Text.isWhole, List.all_cons, Bool.and_eq_true] at h ⊢
      exact ⟨h.1, ih hcs 0⟩
    cases skip with
    | succ skip => exact ih hcs skip
    | zero =>
      rw [replaceFrom]
      split
      · split
        · next body hcode =>
          have hbody := isWhole_of_code? hcode hcs
          have hshown : Text.isWhole ((pictogram? body).getD (':' :: (body ++ [':']))) = true := by
            cases hp : pictogram? body with
            | some shown =>
              exact isWhole_iff.mpr fun c hc => (isHalf_isMark_of_pictogram? hp c hc).1
            | none =>
              have hcolon : Text.isHalf ':' = false := by decide
              simpa [Text.isWhole, hcolon] using hbody
          have hrest := ih hcs (body.length + 1)
          simp only [Text.isWhole, List.all_append, Bool.and_eq_true] at hshown hrest ⊢
          exact ⟨hshown, hrest⟩
        · exact hkept
      · exact hkept

end Emoji

/-! ### Lines -/

section Lines

variable {P : Char → Prop}

private theorem forall_mem_splitOn (stop : Char → Bool) {cs : List Char} (h : ∀ c ∈ cs, P c) :
    ∀ piece ∈ Text.splitOn stop cs, ∀ c ∈ piece, P c := by
  induction cs with
  | nil => simp [Text.splitOn]
  | cons c cs ih =>
    have hrest := ih fun d hd => h d (by simp [hd])
    have hc := h c (by simp)
    rw [Text.splitOn]
    split
    · simpa using hrest
    · split
      · simpa using hc
      · next first rest hsplit =>
        rw [hsplit] at hrest
        simp only [List.forall_mem_cons] at hrest ⊢
        exact ⟨⟨hc, hrest.1⟩, hrest.2⟩

private theorem forall_mem_spaces (hspace : P ' ') (n : Nat) : ∀ c ∈ spaces n, P c := by
  intro c hc
  obtain rfl := (List.mem_replicate.mp hc).2
  exact hspace

private theorem forall_mem_expandParts (hspace : P ' ') (column : Nat) {parts : List (List Char)}
    (h : ∀ part ∈ parts, ∀ c ∈ part, P c) : ∀ c ∈ expandParts column parts, P c := by
  fun_induction expandParts column parts with
  | case1 => simp
  | case2 column part => simpa using h
  | case3 column part rest hrest part' column' more ih =>
    rw [List.forall_mem_cons] at h
    intro c hc
    simp only [List.mem_append] at hc
    rcases hc with (hc | hc) | hc
    · rcases List.mem_append.mp hc with hc | hc
      · exact h.1 c hc
      · obtain rfl := List.mem_singleton.mp hc
        exact hspace
    · exact forall_mem_spaces hspace _ c hc
    · exact ih h.2 c hc

private theorem forall_mem_takeSigns (hspace : P ' ') {limit : Nat} {signs : List Text.Sign}
    (h : ∀ c ∈ (signs.map Text.Sign.chars).flatten, P c) : ∀ c ∈ takeSigns limit signs, P c := by
  induction signs generalizing limit with
  | nil => simp [takeSigns]
  | cons s rest ih =>
    simp only [List.map_cons, List.flatten_cons, List.forall_mem_append] at h
    rw [takeSigns]
    split
    · exact List.forall_mem_append.mpr ⟨h.1, ih h.2⟩
    · exact forall_mem_spaces hspace _

private theorem forall_mem_truncate (hspace : P ' ') (hdots : P '…') {limit : Nat}
    {overflow : Overflow} {line : List Char} (h : ∀ c ∈ line, P c) :
    ∀ c ∈ truncate limit overflow line, P c := by
  have hcut : ∀ limit, ∀ c ∈ cutAt limit line, P c := by
    intro limit
    unfold cutAt
    split
    · simp
    · exact forall_mem_takeSigns hspace (by rwa [Text.flatten_signs])
  unfold truncate
  split
  · exact h
  · cases overflow with
    | fold => exact hcut limit
    | ellipsis => exact List.forall_mem_append.mpr ⟨hcut _, by simpa using hdots⟩

private theorem forall_mem_padRight (hspace : P ' ') (limit : Nat) {line : List Char}
    (h : ∀ c ∈ line, P c) : ∀ c ∈ padRight limit line, P c :=
  List.forall_mem_append.mpr ⟨h, forall_mem_spaces hspace _⟩

private theorem forall_mem_align (hspace : P ' ') (hdots : P '…') (limit : Nat)
    (overflow : Overflow) (alignment : Alignment) {line : List Char} (h : ∀ c ∈ line, P c) :
    ∀ c ∈ align limit overflow alignment line, P c := by
  cases alignment with
  | free => exact forall_mem_truncate hspace hdots h
  | left => exact forall_mem_padRight hspace _ (forall_mem_truncate hspace hdots h)
  | centre =>
    refine forall_mem_padRight hspace _ (List.forall_mem_append.mpr
      ⟨forall_mem_spaces hspace _, forall_mem_truncate hspace hdots fun c hc => h c ?_⟩)
    exact List.mem_reverse.mp ((List.dropWhile_sublist _).subset (List.mem_reverse.mp hc))

/-- **Lines** of a text hold its characters, spaces and ellipses, and no others. -/
theorem forall_mem_layOut (hspace : P ' ') (hdots : P '…') (limit : Nat) (overflow : Overflow)
    (alignment : Alignment) {text : List Char} (h : ∀ c ∈ text, P c) :
    ∀ line ∈ layOut limit overflow alignment text, ∀ c ∈ line, P c := by
  intro line hline
  simp only [layOut, Text.lines, List.mem_flatMap, List.mem_map] at hline
  obtain ⟨whole, hwhole, broken, hbroken, rfl⟩ := hline
  have hexpanded := forall_mem_expandParts hspace 0
    (forall_mem_splitOn (· == '\t') (forall_mem_splitOn (· == '\n') h whole hwhole))
  refine forall_mem_align hspace hdots _ _ _ fun c hc => hexpanded c ?_
  rw [← expandTabs, ← flatten_divide limit overflow (expandTabs whole)]
  exact List.mem_flatten.mpr ⟨broken, hbroken, (List.take_sublist _ _).subset hc⟩

private theorem forall_mem_framed {left between right : Char} (hleft : P left)
    (hbetween : P between) (hright : P right) {parts : List (List Char)}
    (h : ∀ part ∈ parts, ∀ c ∈ part, P c) : ∀ c ∈ framed left between right parts, P c := by
  have hjoined : ∀ c ∈ [between].intercalate parts, P c := by
    induction parts with
    | nil => simp
    | cons part rest ih =>
      rw [List.forall_mem_cons] at h
      cases rest with
      | nil => simpa using h.1
      | cons next rest =>
        rw [List.intercalate_cons_cons, List.append_assoc]
        simp only [List.forall_mem_append, List.forall_mem_cons, List.singleton_append]
        exact ⟨h.1, hbetween, ih h.2⟩
  simp only [framed, List.forall_mem_cons, List.forall_mem_append]
  exact ⟨hleft, hjoined, hright, by simp⟩

private theorem forall_mem_boxed (hspace : P ' ') (hdots : P '…') (width : Nat) {line : List Char}
    (h : ∀ c ∈ line, P c) : ∀ c ∈ boxed width line, P c := by
  have hfit : ∀ c ∈ fit (width - 2) line, P c := by
    unfold fit
    split
    · exact forall_mem_padRight hspace _ h
    · exact forall_mem_truncate hspace hdots h
  simp only [boxed, List.forall_mem_cons, List.forall_mem_append]
  exact ⟨hspace, hfit, hspace, by simp⟩

/-- **Rows** hold the characters of their cells, bars, spaces and ellipses, and no others. -/
theorem forall_mem_rowLines (hspace : P ' ') (hdots : P '…') {bar : Char} (hbar : P bar)
    (widths : List Nat) {cells : List (List Char)} (h : ∀ cell ∈ cells, ∀ c ∈ cell, P c) :
    ∀ line ∈ rowLines bar widths cells, ∀ c ∈ line, P c := by
  intro line hline
  obtain ⟨i, -, rfl⟩ := List.mem_map.mp hline
  refine forall_mem_framed hbar hbar hbar fun part hpart => ?_
  simp only [List.mem_map] at hpart
  obtain ⟨-, ⟨⟨n, cell⟩, hzip, rfl⟩, rfl⟩ := hpart
  dsimp only
  rw [List.getD_eq_getElem?_getD]
  cases hget : ((cellLines n cell).map (boxed n))[i]? with
  | none => exact forall_mem_spaces hspace _
  | some part =>
    obtain ⟨l, hl, rfl⟩ := List.mem_map.mp (List.mem_of_getElem? hget)
    exact forall_mem_boxed hspace hdots _
      (forall_mem_layOut hspace hdots _ _ _ (h cell (List.of_mem_zip hzip).2) l hl)

end Lines

/-! ### Texts in a style -/

namespace Markup

/-- The name of a style as it stands in tags: it is in normal form, and can be read. -/
structure IsStyle (style : List Char) : Prop where
  /-- It has no bracket and no equals sign. -/
  letters : (style.all fun c => !isBracket c && c != '=') = true
  /-- It starts as names of styles do. -/
  first : (style.head?.any fun c => startsTag c && c != '/' && c != '@') = true
  /-- It is not blank. -/
  unblank : (Text.trim Text.isBlank style).isEmpty = false
  /-- It is in normal form. -/
  normal : (Style.normal style).toOption = some (String.ofList style)
  /-- It can be read. -/
  readable : Style.unreadable? style = none

theorem isStyle_boldRed : IsStyle "bold red".toList := by constructor <;> decide +kernel

/-- The markup of a text in a style. -/
def styled (style text : List Char) : List Char :=
  '[' :: (style ++ ']' :: (text ++ '[' :: ('/' :: style ++ [']'])))

/-- The end of a tag is where the plain text after it starts. -/
private theorem cut_tag {before body rest : List Char} (hbody : ∀ c ∈ body, isBracket c = false)
    {c : Char} (hhead : body.head? = some c) (hstarts : startsTag c = true) :
    cut before 0 0 ('[' :: (body ++ ']' :: rest)) =
      plainPiece before.reverse ++ .tag body :: cut [] 0 0 rest := by
  have htag : tagBody? (body ++ ']' :: rest) = some body :=
    tagBody?_eq_some_iff.mpr ⟨⟨rest, rfl⟩, hbody, c, hhead, hstarts⟩
  have hskip : cut [] 0 (body.length + 1) (body ++ ']' :: rest) = cut [] 0 0 rest := by
    simpa using cut_skipped [] 0 (body ++ [']']) rest
  rw [cut_opening_of_tag _ _ htag, hskip]
  simp [plainPiece]

/-- A space is plain text. -/
private theorem pieces_space (cs : List Char) : pieces (' ' :: cs) = cut [' '] 0 0 cs := rfl

/-- A tag without parameters is its name. -/
private theorem nameAndParameters_of_notMem {body : List Char} (h : '=' ∉ body) :
    nameAndParameters body = (body, none) := by
  have htake : body.takeWhile (· != '=') = body := by
    rw [List.takeWhile_eq_self_iff]
    intro c hc
    simpa using fun heq : c = '=' => h (heq ▸ hc)
  simp [nameAndParameters, htake]

section Styled

variable {style text : List Char} (hstyle : IsStyle style)

include hstyle

private theorem IsStyle.isBracket_eq_false : ∀ c ∈ style, isBracket c = false := by
  have hletters := hstyle.letters
  simp only [List.all_eq_true, Bool.and_eq_true, Bool.not_eq_true'] at hletters
  exact fun c hc => (hletters c hc).1

private theorem IsStyle.notMem_equals : '=' ∉ style := fun h => by
  have hletters := List.all_eq_true.mp hstyle.letters '=' h
  simp at hletters

private theorem IsStyle.exists_head : ∃ c, style.head? = some c ∧
    startsTag c = true ∧ c ≠ '/' ∧ c ≠ '@' := by
  obtain ⟨c, hhead, hc⟩ := (Option.any_eq_true _ _).mp hstyle.first
  simp only [Bool.and_eq_true, bne_iff_ne] at hc
  exact ⟨c, hhead, hc.1.1, hc.1.2, hc.2⟩

private theorem IsStyle.normal_eq : Style.normal style = .ok (String.ofList style) := by
  have hnormal := hstyle.normal
  cases hname : Style.normal style with
  | ok name => simpa [hname, Except.toOption] using hnormal
  | error e => simp [hname, Except.toOption] at hnormal

/-- A text in a style, and what follows it, in pieces. -/
private theorem pieces_styled (huntagged : isUntagged false text = true)
    (hlast : text.getLast? ≠ some '\\') (rest : List Char) :
    pieces (styled style text ++ rest) =
      .tag style :: (plainPiece text ++ .tag ('/' :: style) :: pieces rest) := by
  obtain ⟨c, hhead, hstarts, -⟩ := hstyle.exists_head
  have hletters := hstyle.isBracket_eq_false
  have hsplit : styled style text ++ rest =
      '[' :: (style ++ ']' :: (text ++ '[' :: ('/' :: style ++ ']' :: rest))) := by
    simp [styled]
  have hopen := @cut_tag [] style (text ++ '[' :: ('/' :: style ++ ']' :: rest)) hletters c hhead
    hstarts
  have hclose := @cut_tag (text.reverse ++ []) ('/' :: style) rest
    (by simpa [isBracket] using hletters) '/' rfl (by decide)
  rw [hsplit, pieces, hopen, cut_append_of_isUntagged huntagged hlast, hclose, pieces]
  simp [plainPiece]

/-- A tag opens its style. -/
private theorem add_opening (p : Progress) : p.add (.tag style) =
    .ok { p with opened := ⟨p.text.length, String.ofList style, none⟩ :: p.opened } := by
  obtain ⟨c, hhead, -, hslash, -⟩ := hstyle.exists_head
  obtain ⟨rest, rfl⟩ := List.head?_eq_some_iff.mp hhead
  unfold Progress.add
  dsimp only
  rw [nameAndParameters_of_notMem hstyle.notMem_equals]
  simp [hslash, hstyle.normal_eq]

/-- A tag closes the style opened last, under its name. -/
private theorem add_closing (p : Progress) {start : Nat} {opened : List OpenTag}
    (hopened : p.opened = ⟨start, String.ofList style, none⟩ :: opened) :
    p.add (.tag ('/' :: style)) =
      .ok { p with opened := opened, spans := ⟨start, p.text.length, style⟩ :: p.spans } := by
  obtain ⟨c, hhead, -, -, hat⟩ := hstyle.exists_head
  have hnamed : nameAndParameters ('/' :: style) = ('/' :: style, none) :=
    nameAndParameters_of_notMem (by simpa using hstyle.notMem_equals)
  have hhandler : (style.head? == some '@') = false := by simpa [hhead] using hat
  unfold Progress.add
  dsimp only
  rw [hnamed]
  simp [hstyle.unblank, hstyle.normal_eq, Progress.closeNamed, hopened, Progress.close,
    OpenTag.isHandler, hhandler, Progress.span, OpenTag.style]

/-- **A text in a style** is shown in it, and what follows it without: no tag stays open. -/
theorem addAll_pieces_styled (hne : text ≠ []) (huntagged : isUntagged false text = true)
    (hlast : text.getLast? ≠ some '\\') (rest : List Char) :
    Progress.addAll {} (pieces (styled style text ++ rest)) =
      Progress.addAll
        { text := (Emoji.replace text).filter (!isDropped ·)
          spans := [⟨0, ((Emoji.replace text).filter (!isDropped ·)).length, style⟩] }
        (pieces rest) := by
  have hplain : plainPiece text = [.plain text] := by simp [plainPiece, hne]
  rw [pieces_styled hstyle huntagged hlast, hplain, List.singleton_append, Progress.addAll,
    add_opening hstyle]
  dsimp only
  rw [Progress.addAll, Progress.add]
  dsimp only
  rw [Progress.addAll, add_closing hstyle _ rfl]
  rfl

/-- The style of a text can be read, whatever the lines in which the text is laid out. -/
theorem check_of_isStyle (text : List Char) (start finish lines : Nat) :
    (⟨text, [⟨start, finish, style⟩]⟩ : Shown).check lines = .ok () := by
  simp [Shown.check, hstyle.readable]

end Styled

/-- **Plain pieces** show a text and no styles. -/
theorem addAll_of_arePlain {pieces : List Piece} (h : ArePlain (fun _ => True) pieces)
    (p : Progress) :
    ∃ text, p.addAll pieces = .ok { p with text := p.text ++ text } ∧
      (ArePlain (fun c => Text.isHalf c = false) pieces → Text.isWhole text = true) := by
  induction pieces generalizing p with
  | nil => exact ⟨[], by simp [Progress.addAll], fun _ => rfl⟩
  | cons piece rest ih =>
    obtain ⟨cs, rfl, -⟩ := h piece (by simp)
    obtain ⟨text, hrest, htext⟩ := ih (fun piece hpiece => h piece (by simp [hpiece]))
      { p with text := p.text ++ (Emoji.replace cs).filter (!isDropped ·) }
    refine ⟨(Emoji.replace cs).filter (!isDropped ·) ++ text, ?_, fun hwhole => ?_⟩
    · rw [Progress.addAll, Progress.add]
      dsimp only
      rw [hrest, List.append_assoc]
    · obtain ⟨cs', hplain, hcs⟩ := hwhole (.plain cs) (by simp)
      obtain rfl := Piece.plain.inj hplain
      have hreplaced := Emoji.isWhole_replace (isWhole_iff.mpr hcs)
      have hrest := htext fun piece hpiece => hwhole piece (by simp [hpiece])
      rw [isWhole_iff] at hreplaced hrest ⊢
      exact List.forall_mem_append.mpr ⟨fun c hc => hreplaced c (List.mem_filter.mp hc).1, hrest⟩

end Markup

/-! ### Literal texts in a style -/

/-- **Literal texts are printed as they are**, one in a style and one after it. -/
theorem printed_styled {markup : String} {style text rest : List Char}
    (hmarkup : markup.toList = Markup.styled style text ++ rest) (hstyle : Markup.IsStyle style)
    (hne : text ≠ []) (htext : Markup.IsLiteral text) (hlast : text.getLast? ≠ some '\\')
    (hrest : Markup.IsLiteral rest) :
    printed markup = output (layOut columns .fold .free (text ++ rest)) := by
  have hfilter : (Emoji.replace text).filter (!Markup.isDropped ·) = text := by
    rw [htext.unnamed, List.filter_eq_self]
    simpa using htext.kept
  have hend := Markup.addAll_plainPiece hrest
    { text := text, spans := [⟨0, text.length, style⟩] } []
  have hshown : Markup.shown markup = .ok ⟨text ++ rest, [⟨0, text.length, style⟩]⟩ := by
    rw [Markup.shown, hmarkup, Markup.addAll_pieces_styled hstyle hne htext.untagged hlast,
      hfilter, Markup.pieces, Markup.cut_of_isUntagged hrest.untagged, List.reverse_nil,
      List.nil_append]
    rw [List.append_nil, Markup.Progress.addAll] at hend
    rw [hend]
    rfl
  rw [printed, hshown]
  dsimp only [bind, Except.bind]
  rw [Markup.check_of_isStyle hstyle]

/-! ### Tables of literal texts -/

namespace Table

/-- The cells of a row, one for each column. -/
def cells (t : Table) (row : List String) : List (List Char) :=
  (List.range t.size).map fun i => (row.getD i "").toList

/-- The widths of the columns for the texts as they are. -/
def columnWidths (t : Table) : List Nat := widths (t.cells t.heads :: t.rows.map t.cells) t.size

/-- The lines of a table that shows its texts as they are. -/
def lines (t : Table) : List (List Char) :=
  titleLines t.columnWidths t.title.toList
    ++ frameLines t.columnWidths (t.cells t.heads) (t.rows.map t.cells)

private theorem forall_mem_rule {s : Strokes} (hs : [s.left, s.along, s.between, s.right].all
    (!Text.isHalf ·) = true) (widths : List Nat) : ∀ c ∈ rule s widths, Text.isHalf c = false := by
  simp only [List.all_cons, List.all_nil, Bool.and_true, Bool.and_eq_true, Bool.not_eq_true'] at hs
  obtain ⟨hleft, halong, hbetween, hright⟩ := hs
  refine @forall_mem_framed (fun c => Text.isHalf c = false) _ _ _ hleft hbetween hright _ ?_
  intro part hpart c hc
  obtain ⟨n, -, rfl⟩ := List.mem_map.mp hpart
  obtain rfl := (List.mem_replicate.mp hc).2
  exact halong

/-- The texts of a table: its title, its heads and its cells. -/
def texts (t : Table) : List String := t.title :: (t.heads :: t.rows).flatten

/-- The lines of a table of whole characters are whole. -/
theorem isHalf_of_mem_lines {t : Table}
    (h : ∀ s ∈ t.texts, ∀ c ∈ s.toList, Text.isHalf c = false) :
    ∀ line ∈ t.lines, ∀ c ∈ line, Text.isHalf c = false := by
  obtain ⟨htitle, hcells⟩ := List.forall_mem_cons.mp h
  have hrow : ∀ row ∈ t.heads :: t.rows, ∀ cell ∈ t.cells row, ∀ c ∈ cell,
      Text.isHalf c = false := by
    intro row hrow cell hcell c hc
    obtain ⟨i, -, rfl⟩ := List.mem_map.mp hcell
    rw [List.getD_eq_getElem?_getD] at hc
    cases hget : row[i]? with
    | none => simp [hget] at hc
    | some s =>
      rw [hget] at hc
      exact hcells s (List.mem_flatten.mpr ⟨row, hrow, List.mem_of_getElem? hget⟩) c hc
  obtain ⟨hheads, hrows⟩ := List.forall_mem_cons.mp hrow
  let P (c : Char) : Prop := Text.isHalf c = false
  have hspace : P ' ' := by decide
  have hdots : P '…' := by decide
  simp only [lines, frameLines, List.forall_mem_append, List.forall_mem_cons, List.mem_flatMap,
    forall_exists_index, and_imp, List.not_mem_nil, false_implies, implies_true, and_true]
  -- from the top: the title, a rule, the heads, a rule, the rows, a rule
  refine ⟨@forall_mem_layOut P hspace hdots _ .fold .centre _ htitle, ⟨⟨?_, ?_⟩, ?_, ?_⟩, ?_⟩
  · exact forall_mem_rule (by decide) _
  · exact @forall_mem_rowLines P hspace hdots '┃' (by decide) _ _ hheads
  · exact forall_mem_rule (by decide) _
  · intro line cells hcells hline
    obtain ⟨row, hrow, rfl⟩ := List.mem_map.mp hcells
    exact @forall_mem_rowLines P hspace hdots '│' (by decide) _ _ (hrows row hrow) line hline
  · exact forall_mem_rule (by decide) _

private theorem mapM_eq_ok {α β ε : Type} {f : α → Except ε β} {g : α → β} {l : List α}
    (h : ∀ a ∈ l, f a = .ok (g a)) : l.mapM f = .ok (l.map g) := by
  induction l with
  | nil => rfl
  | cons a l ih =>
    rw [List.forall_mem_cons] at h
    rw [List.mapM_cons, h.1, ih h.2]
    rfl

/-- What a text shows that is literal. -/
private def asIs (s : String) : Markup.Shown := { text := s.toList }

private theorem checkColumn_of_literal (width : Nat) (texts : List String) :
    checkColumn width (texts.map asIs) = .ok () := by
  induction texts with
  | nil => rfl
  | cons s texts ih =>
    have hcheck : ∀ lines, (asIs s).check lines = .ok () := by simp [asIs, Markup.Shown.check]
    rw [List.map_cons, checkColumn, hcheck]
    exact ih

private theorem forM_eq_ok {α ε : Type} {f : α → Except ε PUnit} {l : List α}
    (h : ∀ a ∈ l, f a = .ok ()) : l.forM f = .ok () := by
  induction l with
  | nil => rfl
  | cons a l ih =>
    rw [List.forall_mem_cons] at h
    have hstep : (a :: l).forM f = (f a).bind fun _ => l.forM f := rfl
    rw [hstep, h.1]
    exact ih h.2

/-- What the cells of a column show, if they are literal. -/
private def columnAsIs (t : Table) (i : Nat) : List Markup.Shown :=
  ((t.heads :: t.rows).map (·.getD i "")).map asIs

private theorem map_columnAsIs (t : Table) (j : Nat) :
    ((List.range t.size).map t.columnAsIs).map (fun cells => (cells.getD j {}).text) =
      t.cells ((t.heads :: t.rows).getD j []) := by
  rw [List.map_map, cells]
  refine List.map_congr_left fun i _ => ?_
  simp only [Function.comp_apply, columnAsIs, List.getD_eq_getElem?_getD, List.getElem?_map]
  cases (t.heads :: t.rows)[j]? <;> rfl

/-- **A table of literal texts** shows them as they are. -/
theorem printed_of_isLiteral {t : Table} (h : ∀ s ∈ t.texts, Markup.IsLiteral s.toList) :
    t.printed = output t.lines := by
  obtain ⟨htitle, hcells⟩ := List.forall_mem_cons.mp h
  have hcell : ∀ row ∈ t.heads :: t.rows, ∀ i,
      Markup.shown (row.getD i "") = .ok (asIs (row.getD i "")) := by
    intro row hrow i
    refine Markup.shown_eq_iff.mpr ?_
    rw [List.getD_eq_getElem?_getD]
    cases hget : row[i]? with
    | none => exact ⟨rfl, rfl, by simp⟩
    | some s => exact hcells s (List.mem_flatten.mpr ⟨row, hrow, List.mem_of_getElem? hget⟩)
  have hcolumn : ∀ i, t.shownColumn i = .ok (t.columnAsIs i) := by
    refine fun i => mapM_eq_ok fun s hs => ?_
    change s ∈ (t.heads :: t.rows).map (·.getD i "") at hs
    obtain ⟨row, hrow, rfl⟩ := List.mem_map.mp hs
    exact hcell row hrow i
  have hcolumns := @mapM_eq_ok _ _ _ t.shownColumn _ (List.range t.size) fun i _ => hcolumn i
  -- the columns hold the cells one below another, and the rows are taken across them
  have hrows : (List.range t.rows.length).map (fun j =>
      ((List.range t.size).map t.columnAsIs).map fun cells => (cells.getD (j + 1) {}).text) =
        t.rows.map t.cells := by
    simp only [map_columnAsIs]
    refine List.ext_getElem (by simp) fun j hj hj' => ?_
    have hlength : j < t.rows.length := by simpa using hj'
    simp [List.getD_eq_getElem?_getD, List.getElem?_eq_getElem hlength]
  have htitleCheck : ∀ lines, ({ text := t.title.toList } : Markup.Shown).check lines = .ok () := by
    simp [Markup.Shown.check]
  have hcheck : (t.columnWidths.zip ((List.range t.size).map t.columnAsIs)).forM
      (fun e => checkColumn e.1 e.2) = .ok () := by
    refine forM_eq_ok fun ⟨width, cells⟩ he => ?_
    obtain ⟨i, -, rfl⟩ := List.mem_map.mp (List.of_mem_zip he).2
    exact checkColumn_of_literal _ _
  unfold printed
  rw [hcolumns, Markup.shown_eq_iff.mpr htitle]
  dsimp only [bind, Except.bind]
  rw [map_columnAsIs, hrows, htitleCheck, List.getD_cons_zero]
  dsimp only
  rw [columnWidths] at hcheck
  rw [hcheck]
  rfl

end Table

/-! ### Labels and messages -/

/-- The markup of a message behind a label. -/
def labelled (label message : String) : String :=
  "[bold red]" ++ label ++ "[/bold red] " ++ Markup.escape message

private theorem toList_labelled (label message : String) :
    (labelled label message).toList =
      Markup.styled "bold red".toList label.toList ++ ' ' :: (Markup.escape message).toList := by
  simp [labelled, Markup.styled]

/-- A label and a message are laid out as text. -/
private theorem exists_layOut_labelled {label : String} (hne : label.toList ≠ [])
    (hlabel : ∀ c ∈ label.toList, c ≠ '\\' ∧ c ≠ '[') (message : String) :
    ∃ text, printed (labelled label message) = output (layOut columns .fold .free text) ∧
      (Text.isWhole label.toList = true → Text.isWhole message.toList = true →
        Text.isWhole text = true) := by
  let start := (Emoji.replace label.toList).filter (!Markup.isDropped ·)
  have hstyle := Markup.isStyle_boldRed
  have hmarkup := toList_labelled label message
  generalize "bold red".toList = style at hstyle hmarkup
  have hplain : Markup.ArePlain (fun _ => True)
      (Markup.cut [' '] 0 0 (Markup.escape message).toList) :=
    Markup.arePlain_cut_escape trivial (fun _ _ => trivial) (fun _ _ => trivial)
  obtain ⟨text, haddAll, htext⟩ := Markup.addAll_of_arePlain hplain
    { text := start, spans := [⟨0, start.length, style⟩] }
  refine ⟨start ++ text, ?_, ?_⟩
  · have hshown : Markup.shown (labelled label message) =
        .ok ⟨start ++ text, [⟨0, start.length, style⟩]⟩ := by
      have hlast : label.toList.getLast? ≠ some '\\' := fun h =>
        (hlabel _ (List.mem_of_getLast? h)).1 rfl
      rw [Markup.shown, hmarkup, Markup.addAll_pieces_styled hstyle hne
        (Markup.isUntagged_of_forall (fun c hc => (hlabel c hc).2) false) hlast,
        Markup.pieces_space, haddAll]
      rfl
    rw [printed, hshown]
    dsimp only [bind, Except.bind]
    rw [Markup.check_of_isStyle hstyle]
  · intro hlabelWhole hmessage
    have hstart := Emoji.isWhole_replace hlabelWhole
    rw [isWhole_iff] at hstart hmessage
    have hspace : ∀ c ∈ [' '], Text.isHalf c = false := by
      simp only [List.mem_singleton, forall_eq]
      decide
    have hend := htext (Markup.arePlain_cut_escape (by decide) hmessage hspace)
    rw [isWhole_iff] at hend ⊢
    exact List.forall_mem_append.mpr ⟨fun c hc => hstart c (List.mem_filter.mp hc).1, hend⟩

private theorem layOut_ne_nil (limit : Nat) (text : List Char) :
    layOut limit .fold .free text ≠ [] := by
  simp only [layOut, ne_eq, List.flatMap_eq_nil_iff, List.map_eq_nil_iff, not_forall]
  obtain ⟨line, hline⟩ := List.exists_mem_of_ne_nil _ (Text.splitOn_ne_nil (· == '\n') text)
  refine ⟨line, hline, ?_⟩
  rw [divide]
  generalize words (expandTabs line) = ws
  generalize ([] : List Char) = start, 0 = used
  induction ws generalizing start used with
  | nil => simp [fill]
  | cons w ws ih =>
    rw [fill]
    dsimp only
    split
    · exact ih _ _
    · split <;> simp [ih]

/-- **Printing a label and a message** fails for halves of pairs only. -/
theorem printed_labelled {label : String} (hne : label.toList ≠ [])
    (hlabel : ∀ c ∈ label.toList, c ≠ '\\' ∧ c ≠ '[') (message : String) :
    (∃ line, line ≠ "" ∧ printed (labelled label message) = .ok line) ∨
      printed (labelled label message) = .error .halfCharacter ∧
        ¬(Text.isWhole label.toList = true ∧ Text.isWhole message.toList = true) := by
  obtain ⟨text, hprinted, htext⟩ := exists_layOut_labelled hne hlabel message
  rw [hprinted, output]
  by_cases hwhole : (layOut columns .fold .free text).all Text.isWhole = true
  · rw [if_pos hwhole]
    refine .inl ⟨_, fun hnil => ?_, rfl⟩
    obtain ⟨line, hline⟩ := List.exists_mem_of_ne_nil _ (layOut_ne_nil columns text)
    have hchars := List.flatMap_eq_nil_iff.mp (String.ofList_eq_empty_iff.mp hnil) line hline
    simp at hchars
  · rw [if_neg hwhole]
    refine .inr ⟨rfl, fun ⟨hl, hm⟩ => hwhole ?_⟩
    have hlines := @forall_mem_layOut (fun c => Text.isHalf c = false) (by decide) (by decide)
      columns .fold .free _ (isWhole_iff.mp (htext hl hm))
    exact List.all_eq_true.mpr fun line hline => isWhole_iff.mpr (hlines line hline)

end AccessPolicy.Console
