import AccessPolicy.Console.Table
import AccessPolicy.Proofs.Text.Cut
import Mathlib.Data.List.Infix

/-!
# Texts that have room

Texts are laid out in lines of so many columns. A text that needs no more columns stands in one
line as it is, and a word does so that a line has room for. The columns of a table are as wide as
their widest lines, with a space on each side, if the console has room for all of them beside each
other; then each line of a cell stands in a line of the table.

* `Text.AllSeen`: the characters of a text take columns of their own, so that columns add up;
* `layOut_intercalate`: lines that have room are laid out as they are;
* `exists_infix_layOut_centre`: words that have room are not broken;
* `widths_of_total_le`, `exists_infix_frameLines`: tables that have room.
-/

namespace AccessPolicy

namespace Text

/-! ### Columns -/

/-- Every character of a text takes a column of its own. Line breaks and tabs take none, nor do
characters that join or change those beside them. -/
def AllSeen (cs : List Char) : Prop := ∀ c ∈ cs, charWidth c ≠ 0

instance (cs : List Char) : Decidable (AllSeen cs) :=
  decidable_of_iff ((cs.all fun c => charWidth c != 0) = true) (by simp [AllSeen])

theorem charWidth_of_isLineBreak {c : Char} (h : isLineBreak c = true) : charWidth c = 0 := by
  simp only [isLineBreak, Bool.or_eq_true, Bool.and_eq_true, decide_eq_true_eq, beq_iff_eq] at h
  have hunseen : inRanges unseenRanges 8232 = true ∧ inRanges unseenRanges 8233 = true := by decide
  unfold charWidth
  split
  · next hseen =>
    simp only [Bool.and_eq_true, decide_eq_true_eq] at hseen
    omega
  · split
    · rfl
    · next hcontrol =>
      simp only [Bool.or_eq_true, Bool.and_eq_true, decide_eq_true_eq] at hcontrol
      have hpoint : c.toNat = 8232 ∨ c.toNat = 8233 := by omega
      rw [if_pos (by rcases hpoint with h | h <;> rw [h] <;> simp [hunseen])]

namespace AllSeen

variable {cs ds : List Char}

theorem left (h : AllSeen (cs ++ ds)) : AllSeen cs := (List.forall_mem_append.mp h).1

theorem right (h : AllSeen (cs ++ ds)) : AllSeen ds := (List.forall_mem_append.mp h).2

theorem isPlain (h : AllSeen cs) : Text.isPlain cs = true := by
  have hjoiner : charWidth joiner = 0 := by decide
  have hselector : charWidth selector = 0 := by decide
  simp only [Text.isPlain, List.all_eq_true, Bool.and_eq_true, bne_iff_ne]
  refine fun c hc => ⟨?_, ?_⟩ <;> rintro rfl
  · exact h _ hc hjoiner
  · exact h _ hc hselector

theorem isLineBreak_eq_false (h : AllSeen cs) : ∀ c ∈ cs, isLineBreak c = false := by
  intro c hc
  by_contra hbreak
  exact h c hc (charWidth_of_isLineBreak (by simpa using hbreak))

/-- Columns are counted character by character. -/
theorem width_append (h : AllSeen (cs ++ ds)) : width (cs ++ ds) = width cs + width ds := by
  induction cs with
  | nil => simp
  | cons c cs ih =>
    have htail : AllSeen (cs ++ ds) := fun d hd => h d (List.mem_cons_of_mem c hd)
    rw [List.cons_append, width_cons_plain (List.cons_append ▸ h.isPlain),
      width_cons_plain h.left.isPlain, ih htail, Nat.add_assoc]

theorem length_le_width (h : AllSeen cs) : cs.length ≤ width cs := by
  induction cs with
  | nil => simp
  | cons c cs ih =>
    have hc := h c List.mem_cons_self
    have hcs := ih fun d hd => h d (List.mem_cons_of_mem c hd)
    rw [width_cons_plain h.isPlain, List.length_cons]
    omega

/-- Without the blanks at its end a text takes no more columns. -/
theorem width_trimEnd_le (h : AllSeen cs) (edge : Char → Bool) :
    width (trimEnd edge cs) ≤ width cs := by
  obtain ⟨after, hafter, -⟩ := exists_eq_append_trimEnd edge cs
  rw [hafter] at h
  conv_rhs => rw [hafter]
  rw [h.width_append]
  exact Nat.le_add_right _ _

end AllSeen

end Text

namespace Console

open Text (AllSeen)

/-! ### Lines with room -/

/-- Words that fit into a line stand in one. -/
private theorem fill_of_width_le {limit : Nat} (overflow : Overflow) {line : List Char}
    {ws : List (List Char)} (hseen : AllSeen (line ++ ws.flatten))
    (hwidth : Text.width (line ++ ws.flatten) ≤ limit) :
    fill limit overflow line (Text.width line) ws = [line ++ ws.flatten] := by
  induction ws generalizing line with
  | nil => simp [fill]
  | cons w rest ih =>
    rw [List.flatten_cons, ← List.append_assoc] at hseen hwidth ⊢
    have hword : AllSeen w := hseen.left.right
    have htrim := hword.width_trimEnd_le Text.isBlank
    have htotal := hseen.width_append
    rw [hseen.left.width_append] at htotal
    rw [fill]
    dsimp only
    rw [if_pos (by omega), ← hseen.left.width_append]
    exact ih hseen hwidth

/-- **A line that has room** is not broken. -/
theorem divide_of_width_le {limit : Nat} (overflow : Overflow) {line : List Char}
    (hseen : AllSeen line) (hwidth : Text.width line ≤ limit) :
    divide limit overflow line = [line] := by
  have hfill := @fill_of_width_le limit overflow [] (words line)
  rw [List.nil_append, flatten_words] at hfill
  exact hfill hseen hwidth

private theorem expandTabs_of_allSeen {line : List Char} (h : AllSeen line) :
    expandTabs line = line := by
  have htab : ∀ c ∈ line, (c == '\t') = false := fun c hc => by
    have hwidth : Text.charWidth '\t' = 0 := by decide
    simpa using fun heq : c = '\t' => h c hc (heq ▸ hwidth)
  rw [expandTabs, Text.splitOn_of_forall htab, expandParts]

private theorem lines_of_allSeen {text : List Char} (h : AllSeen text) :
    Text.lines text = [text] :=
  Text.splitOn_of_forall fun c hc => by
    have hwidth : Text.charWidth '\n' = 0 := by decide
    simpa using fun heq : c = '\n' => h c hc (heq ▸ hwidth)

private theorem trimBeyond_of_width_le {limit : Nat} {line : List Char} (hseen : AllSeen line)
    (hwidth : Text.width line ≤ limit) : trimBeyond limit line = line := by
  have hlength := hseen.length_le_width
  exact List.take_of_length_le (by omega)

/-- The lines of a text, each of which has room. -/
structure HaveRoom (limit : Nat) (lines : List (List Char)) : Prop where
  /-- There are lines. -/
  ne_nil : lines ≠ []
  /-- Their characters take columns. -/
  seen : ∀ line ∈ lines, AllSeen line
  /-- They are not too wide. -/
  width_le : ∀ line ∈ lines, Text.width line ≤ limit

/-- **Lines that have room** are laid out as they are. -/
theorem layOut_intercalate {limit : Nat} (overflow : Overflow) (alignment : Alignment)
    {lines : List (List Char)} (h : HaveRoom limit lines) :
    layOut limit overflow alignment (['\n'].intercalate lines) =
      lines.map (align limit overflow alignment) := by
  have hsplit : Text.lines (['\n'].intercalate lines) = lines :=
    Text.splitOn_intercalate rfl h.ne_nil fun line hline c hc => by
      have hwidth : Text.charWidth '\n' = 0 := by decide
      simpa using fun heq : c = '\n' => h.seen line hline c hc (heq ▸ hwidth)
  rw [layOut, hsplit, List.map_eq_flatMap]
  refine List.flatMap_congr fun line hline => ?_
  have hseen := h.seen line hline
  have hwidth := h.width_le line hline
  rw [expandTabs_of_allSeen hseen, divide_of_width_le overflow hseen hwidth, List.map_singleton,
    trimBeyond_of_width_le hseen hwidth]

/-- **A text that has room** is laid out in one line. -/
theorem layOut_of_width_le {limit : Nat} (overflow : Overflow) (alignment : Alignment)
    {text : List Char} (hseen : AllSeen text) (hwidth : Text.width text ≤ limit) :
    layOut limit overflow alignment text = [align limit overflow alignment text] := by
  have h := @layOut_intercalate limit overflow alignment [text]
    ⟨by simp, by simpa using hseen, by simpa using hwidth⟩
  simpa using h

/-! ### Words with room -/

/-- Blanks at the end of a text are not counted where they come after it. -/
private theorem width_trimEnd_append_le {line word : List Char} (hseen : AllSeen (line ++ word)) :
    Text.width (Text.trimEnd Text.isBlank (line ++ word)) ≤
      Text.width line + Text.width (Text.trimEnd Text.isBlank word) := by
  obtain ⟨after, hafter, hblank⟩ := Text.exists_eq_append_trimEnd Text.isBlank word
  have hsplit : line ++ word = line ++ Text.trimEnd Text.isBlank word ++ after := by
    rw [List.append_assoc, ← hafter]
  rw [hsplit] at hseen ⊢
  rw [Text.trimEnd_append_of_forall hblank, ← hseen.left.width_append]
  exact hseen.left.width_trimEnd_le _

/-- **Words that have room** are not broken: each stands in a line, and blanks at their ends aside,
no line takes more columns than there are. -/
private theorem fill_words {limit : Nat} (overflow : Overflow) {line : List Char}
    {ws : List (List Char)} (hseen : AllSeen (line ++ ws.flatten))
    (h : ∀ w ∈ line :: ws, Text.width (Text.trimEnd Text.isBlank w) ≤ limit) :
    (∀ l ∈ fill limit overflow line (Text.width line) ws,
        Text.width (Text.trimEnd Text.isBlank l) ≤ limit) ∧
      ∀ w ∈ line :: ws, ∃ l ∈ fill limit overflow line (Text.width line) ws, w <:+: l := by
  induction ws generalizing line with
  | nil => simpa [fill] using h
  | cons w rest ih =>
    simp only [List.forall_mem_cons] at h
    obtain ⟨hline, hw, hrest⟩ := h
    rw [List.flatten_cons, ← List.append_assoc] at hseen
    rw [fill]
    dsimp only
    split
    · next hfits =>
      -- the word goes on the line
      have hboth := width_trimEnd_append_le hseen.left
      rw [← hseen.left.width_append]
      obtain ⟨hle, hmem⟩ := ih hseen (by
        rw [List.forall_mem_cons]
        exact ⟨by omega, hrest⟩)
      rw [List.forall_mem_cons] at hmem
      obtain ⟨⟨l, hl, hinfix⟩, hmem⟩ := hmem
      refine ⟨hle, ?_⟩
      simp only [List.forall_mem_cons]
      exact ⟨⟨l, hl, (List.prefix_append line w).isInfix.trans hinfix⟩,
        ⟨l, hl, (List.suffix_append line w).isInfix.trans hinfix⟩, hmem⟩
    · -- the word starts a line, as it has room in one
      rw [if_neg (by simp [Nat.not_lt.mpr hw])]
      have hseen' : AllSeen (w ++ rest.flatten) := by
        rw [List.append_assoc] at hseen
        exact hseen.right
      obtain ⟨hle, hmem⟩ := ih hseen' (by
        rw [List.forall_mem_cons]
        exact ⟨hw, hrest⟩)
      rw [List.forall_mem_cons] at hmem
      refine ⟨fun l hl => ?_, ?_⟩
      · rcases List.mem_append.mp hl with hl | hl
        · unfold lineUnlessEmpty at hl
          split at hl
          · simp at hl
          · rwa [List.mem_singleton.mp hl]
        · exact hle l hl
      · obtain ⟨l, hl, -⟩ := hmem.1
        have hstart : ∃ l ∈ lineUnlessEmpty line ++ fill limit overflow w (Text.width w) rest,
            line <:+: l := by
          cases line with
          | nil => exact ⟨l, List.mem_append_right _ hl, List.nil_infix⟩
          | cons c line => exact ⟨c :: line, List.mem_append_left _ (by simp [lineUnlessEmpty]),
              List.infix_rfl⟩
        simp only [List.forall_mem_cons]
        have hlater : ∀ word : List Char,
            (∃ l ∈ fill limit overflow w (Text.width w) rest, word <:+: l) →
            ∃ l ∈ lineUnlessEmpty line ++ fill limit overflow w (Text.width w) rest,
              word <:+: l := by
          rintro word ⟨l, hl, hinfix⟩
          exact ⟨l, List.mem_append_right _ hl, hinfix⟩
        exact ⟨hstart, hlater _ hmem.1, fun word hword => hlater _ (hmem.2 word hword)⟩

/-- What is trimmed off beyond a line are blanks at its end. -/
private theorem trimEnd_trimBeyond (limit : Nat) (line : List Char) :
    Text.trimEnd Text.isBlank (trimBeyond limit line) = Text.trimEnd Text.isBlank line := by
  obtain ⟨after, hafter, hblank⟩ := Text.exists_eq_append_trimEnd Text.isBlank line
  have hle : (Text.trimEnd Text.isBlank line).length ≤
      max (Text.trimEnd Text.isBlank line).length (min limit line.length) := Nat.le_max_left _ _
  rw [trimBeyond]
  generalize max (Text.trimEnd Text.isBlank line).length (min limit line.length) = n at hle ⊢
  conv_lhs => rw [hafter]
  rw [List.take_append, List.take_of_length_le hle]
  rw [Text.trimEnd_append_of_forall fun c hc => hblank c ((List.take_sublist _ _).subset hc)]
  conv_rhs => rw [hafter, Text.trimEnd_append_of_forall hblank]

/-- **A word that has room** stands in a line of a text whose words all have room, where the lines
are centred. -/
theorem exists_infix_layOut_centre {limit : Nat} (overflow : Overflow) {text word : List Char}
    (hseen : AllSeen text)
    (hwords : ∀ w ∈ words text, Text.width (Text.trimEnd Text.isBlank w) ≤ limit)
    (hword : word ∈ words text) (hlast : ∀ c ∈ word.getLast?, Text.isBlank c = false) :
    ∃ line ∈ layOut limit overflow .centre text, word <:+: line := by
  have hfill := @fill_words limit overflow [] (words text) (by simpa [flatten_words] using hseen)
    (by simpa [Text.trimEnd] using hwords)
  obtain ⟨hle, hmem⟩ := hfill
  obtain ⟨line, hline, before, after, hsplit⟩ := hmem word (List.mem_cons_of_mem _ hword)
  have htrim := hle line hline
  have hinfix : word <:+: Text.trimEnd Text.isBlank line := by
    cases hend : word.getLast? with
    | none => exact List.getLast?_eq_none_iff.mp hend ▸ List.nil_infix
    | some c =>
      have hprefix : before ++ word <+: Text.trimEnd Text.isBlank line :=
        Text.prefix_trimEnd ⟨after, hsplit⟩ (by simpa [List.getLast?_append, hend] using hlast)
      exact (List.suffix_append before word).isInfix.trans hprefix.isInfix
  refine ⟨align limit overflow .centre (trimBeyond limit line), ?_, ?_⟩
  · rw [layOut, lines_of_allSeen hseen, List.flatMap_singleton, expandTabs_of_allSeen hseen]
    exact List.mem_map.mpr ⟨line, hline, rfl⟩
  · rw [align, trimEnd_trimBeyond, truncate_of_width_le htrim]
    exact hinfix.trans ((List.suffix_append _ _).isInfix.trans (List.prefix_append _ _).isInfix)

/-- A text without blanks is one word. -/
theorem foldr_joinWord_of_forall {word : List Char} (hne : word ≠ [])
    (h : ∀ c ∈ word, Text.isBlank c = false) : word.foldr joinWord [] = [word] := by
  induction word with
  | nil => exact absurd rfl hne
  | cons c rest ih =>
    rw [List.forall_mem_cons] at h
    cases rest with
    | nil => rfl
    | cons d rest => rw [List.foldr_cons, ih (by simp) h.2]; simp [joinWord, h.1]

/-! ### Tables with room -/

theorem le_greatest {n : Nat} {ns : List Nat} (h : n ∈ ns) : n ≤ greatest ns := by
  have hfold : ∀ (ns : List Nat) (m : Nat), m ≤ ns.foldl max m ∧ ∀ n ∈ ns, n ≤ ns.foldl max m := by
    intro ns
    induction ns with
    | nil => simp
    | cons k ns ih =>
      intro m
      obtain ⟨hstart, hall⟩ := ih (max m k)
      rw [List.foldl_cons, List.forall_mem_cons]
      exact ⟨by omega, by omega, hall⟩
  exact (hfold ns 0).2 n h

theorem greatest_mem {ns : List Nat} (h : ns ≠ []) : greatest ns ∈ ns := by
  have hfold : ∀ (ns : List Nat) (m : Nat), ns.foldl max m ∈ m :: ns := by
    intro ns
    induction ns with
    | nil => simp
    | cons k ns ih =>
      intro m
      rcases List.mem_cons.mp (ih (max m k)) with heq | hmem
      · rw [List.foldl_cons, heq, List.mem_cons, List.mem_cons]
        rcases Nat.le_total m k with hle | hle
        · exact .inr (.inl (Nat.max_eq_right hle))
        · exact .inl (Nat.max_eq_left hle)
      · exact List.mem_cons_of_mem _ (List.mem_cons_of_mem _ hmem)
  cases ns with
  | nil => exact absurd rfl h
  | cons n ns =>
    have hmem := hfold ns (max 0 n)
    rwa [Nat.zero_max] at hmem

/-- The width that a column asks for: that of its widest line, and the spaces around it. -/
def columnWidth (rows : List (List (List Char))) (i : Nat) : Nat :=
  greatest (rows.map fun cells => longest (cells.getD i []) + 2)

/-- A cell is as wide as its widest line. -/
theorem longest_intercalate {lines : List (List Char)} (hne : lines ≠ [])
    (hseen : ∀ line ∈ lines, AllSeen line) :
    longest (['\n'].intercalate lines) = greatest (lines.map Text.width) := by
  rw [longest, Text.splitOn_intercalate rfl hne fun line hline =>
    (hseen line hline).isLineBreak_eq_false]

/-- The column of a cell is wide enough for its lines. -/
theorem le_columnWidth {rows : List (List (List Char))} {cells : List (List Char)}
    (hcells : cells ∈ rows) (i : Nat) (lines : List (List Char))
    (hseen : ∀ line ∈ lines, AllSeen line)
    (hcell : cells.getD i [] = ['\n'].intercalate lines) {line : List Char} (hline : line ∈ lines) :
    Text.width line + 2 ≤ columnWidth rows i := by
  have hlongest : Text.width line ≤ longest (cells.getD i []) := by
    rw [hcell, longest_intercalate (List.ne_nil_of_mem hline) hseen]
    exact le_greatest (List.mem_map_of_mem hline)
  have hcolumn : longest (cells.getD i []) + 2 ≤ columnWidth rows i :=
    le_greatest (List.mem_map_of_mem (f := fun cells => longest (cells.getD i []) + 2) hcells)
  omega

/-- The column is no wider than one of its cells. -/
theorem exists_columnWidth_eq {rows : List (List (List Char))} (hne : rows ≠ []) (i : Nat) :
    ∃ cells ∈ rows, columnWidth rows i = longest (cells.getD i []) + 2 := by
  have hmem := @greatest_mem (rows.map fun cells => longest (cells.getD i []) + 2)
    (by simpa using hne)
  obtain ⟨cells, hcells, heq⟩ := List.mem_map.mp hmem
  exact ⟨cells, hcells, heq.symm⟩

theorem le_total {n : Nat} {ns : List Nat} (h : n ∈ ns) : n ≤ total ns := by
  induction ns with
  | nil => simp at h
  | cons m ns ih =>
    rw [total]
    rcases List.mem_cons.mp h with rfl | h
    · omega
    · exact (ih h).trans (by omega)

/-- **Columns that have room** are as wide as they ask for. -/
theorem widths_of_total_le {rows : List (List (List Char))} {count : Nat}
    (h : total ((List.range count).map (columnWidth rows)) ≤ columns - frameWidth count) :
    widths rows count = (List.range count).map (columnWidth rows) := by
  -- no column is wider than all of them are
  have hmin : (List.range count).map (fun i => min (columns - frameWidth count)
      (greatest (rows.map fun cells => longest (cells.getD i []) + 2))) =
        (List.range count).map (columnWidth rows) := by
    refine List.map_congr_left fun i hi => Nat.min_eq_right ?_
    exact (le_total (List.mem_map_of_mem hi)).trans h
  unfold widths
  dsimp only
  rw [hmin, shrink, shrinkFor, if_pos h]

theorem allSeen_spaces (n : Nat) : AllSeen (spaces n) := by
  intro c hc
  obtain rfl := (List.mem_replicate.mp hc).2
  decide

/-- The lines of a cell that has room, in their boxes. -/
theorem infix_boxed {n : Nat} {line : List Char} (hseen : AllSeen line)
    (hwidth : Text.width line ≤ n - 2) :
    line <:+: boxed n (align (n - 2) .ellipsis .left line) := by
  have hpadded : AllSeen (padRight (n - 2) line) :=
    List.forall_mem_append.mpr ⟨hseen, allSeen_spaces _⟩
  have hfull : Text.width (padRight (n - 2) line) = n - 2 := by
    rw [padRight, AllSeen.width_append hpadded, width_spaces]
    omega
  have hboxed : boxed n (align (n - 2) .ellipsis .left line) =
      ' ' :: (line ++ spaces (n - 2 - Text.width line) ++ [' ']) := by
    rw [align, truncate_of_width_le hwidth, boxed, fit, hfull, if_neg (Nat.lt_irrefl _),
      truncate_of_width_le hfull.le, padRight]
  rw [hboxed]
  exact ⟨[' '], spaces (n - 2 - Text.width line) ++ [' '], by simp⟩

private theorem infix_intercalate {between : List Char} {parts : List (List Char)}
    {part : List Char} (h : part ∈ parts) : part <:+: between.intercalate parts := by
  induction parts with
  | nil => simp at h
  | cons first rest ih =>
    cases rest with
    | nil =>
      obtain rfl := List.mem_singleton.mp h
      rw [List.intercalate_singleton]
    | cons second rest =>
      rw [List.intercalate_cons_cons]
      rcases List.mem_cons.mp h with rfl | h
      · rw [List.append_assoc]
        exact (List.prefix_append _ _).isInfix
      · exact (ih h).trans (List.suffix_append _ _).isInfix

/-- Parts of a framed line stand in it. -/
private theorem infix_framed (left between right : Char) {parts : List (List Char)}
    {part : List Char} (h : part ∈ parts) : part <:+: framed left between right parts :=
  (@infix_intercalate [between] _ _ h).trans ⟨[left], [right], by simp [framed]⟩

/-- Every line of a cell stands in a line of its row, in its box. -/
private theorem exists_infix_rowLines (bar : Char) {widths : List Nat} {cells : List (List Char)}
    {n : Nat} {cell line : List Char} (hcell : (n, cell) ∈ widths.zip cells)
    (hline : line ∈ cellLines n cell) : ∃ l ∈ rowLines bar widths cells, boxed n line <:+: l := by
  have hblock : (n, (cellLines n cell).map (boxed n)) ∈
      (widths.zip cells).map fun e => (e.1, (cellLines e.1 e.2).map (boxed e.1)) :=
    List.mem_map.mpr ⟨(n, cell), hcell, rfl⟩
  -- the row is as high as its highest cell, so it has a line where the cell has this one
  obtain ⟨i, hi, hget⟩ := List.mem_iff_getElem.mp (List.mem_map_of_mem (f := boxed n) hline)
  have hheight := hi.trans_le (le_greatest (List.mem_map_of_mem (f := fun b => b.2.length) hblock))
  refine ⟨_, List.mem_map.mpr ⟨i, List.mem_range.mpr hheight, rfl⟩, infix_framed _ _ _ ?_⟩
  refine List.mem_map.mpr ⟨_, hblock, ?_⟩
  simp [List.getD_eq_getElem?_getD, List.getElem?_eq_getElem hi, hget]

/-- **Lines that have room in their column** stand in the table, those of heads and of all rows. -/
theorem exists_infix_frameLines {heads : List (List Char)} {rows : List (List (List Char))}
    {count : Nat} (hroom : total ((List.range count).map (columnWidth (heads :: rows))) ≤
      columns - frameWidth count) {cells : List (List Char)} (hcells : cells ∈ heads :: rows)
    {i : Nat} (hi : i < count) (hlength : cells.length = count) (lines : List (List Char))
    (hseen : ∀ line ∈ lines, AllSeen line)
    (hcell : cells.getD i [] = ['\n'].intercalate lines) {line : List Char} (hline : line ∈ lines) :
    ∃ l ∈ frameLines (widths (heads :: rows) count) heads rows, line <:+: l := by
  let n := columnWidth (heads :: rows) i
  have hwidth : ∀ line ∈ lines, Text.width line ≤ n - 2 := fun line hline =>
    Nat.le_sub_of_add_le (le_columnWidth hcells i lines hseen hcell hline)
  have hlaid : align (n - 2) .ellipsis .left line ∈ cellLines n (cells.getD i []) := by
    rw [cellLines, hcell, layOut_intercalate _ _ ⟨List.ne_nil_of_mem hline, hseen, hwidth⟩]
    exact List.mem_map_of_mem hline
  have hzip : (n, cells.getD i []) ∈ (widths (heads :: rows) count).zip cells := by
    rw [widths_of_total_le hroom]
    refine List.mem_iff_getElem.mpr ⟨i, by simpa [hlength] using hi, ?_⟩
    simp [n, List.getD_eq_getElem?_getD, List.getElem?_eq_getElem (hlength ▸ hi : i < cells.length)]
  have hboxed := infix_boxed (hseen line hline) (hwidth line hline)
  -- heads and rows have bars of their own
  have hrow : ∀ bar, ∃ l ∈ rowLines bar (widths (heads :: rows) count) cells, line <:+: l := by
    intro bar
    obtain ⟨l, hl, hinfix⟩ := exists_infix_rowLines bar hzip hlaid
    exact ⟨l, hl, hboxed.trans hinfix⟩
  rcases List.mem_cons.mp hcells with rfl | hcells
  · obtain ⟨l, hl, hinfix⟩ := hrow '┃'
    exact ⟨l, by simp [frameLines, hl], hinfix⟩
  · obtain ⟨l, hl, hinfix⟩ := hrow '│'
    have hmem : l ∈ rows.flatMap (rowLines '│' (widths (heads :: rows) count)) :=
      List.mem_flatMap.mpr ⟨cells, hcells, hl⟩
    exact ⟨l, by simp only [frameLines, List.cons_append, List.mem_cons, List.mem_append]; tauto,
      hinfix⟩

end Console

end AccessPolicy
