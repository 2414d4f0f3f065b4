import AccessPolicy.Proofs.Console.Columns
import AccessPolicy.Proofs.Console.Printing
import AccessPolicy.Proofs.Number.Integer
import AccessPolicy.Proofs.Policy.CanonicalForm

/-!
# Exhibits

What a command shows is a sequence of exhibits: lines behind a mark, the table of a policy, and the
line with its tag and its version. The texts in them come from outside, and the console reads them
as markup. If all of them are literal, an exhibit is printed as its texts are, laid out in lines.
Where there is room for the texts, each of them stands in one of these lines unbroken.

* `Exhibit.printed`, `Exhibit.lines`: what is printed, and lines that show the texts as they are;
* `Exhibit.printed_of_literal`: for literal texts these are the same;
* `Exhibit.whole_of_texts`: texts without halves of pairs can be printed, if no integer is too long;
* `Exhibit.exists_infix_lines`: texts that have room stand in the lines.
-/

namespace AccessPolicy.CommandLine

open Console (columns layOut output)
open Console.Markup (IsLiteral IsStyle)
open Policy (Listing)
open Text (AllSeen)

/-- The mark at the start of a line. -/
inductive Mark where
  /-- A role was granted. -/
  | granted
  /-- A role was revoked. -/
  | revoked
  /-- The caller holds a permission. -/
  | held
  /-- The caller does not hold a permission. -/
  | lacking
deriving DecidableEq, Repr

namespace Mark

/-- The style of a mark. -/
def style : Mark → String
  | granted | revoked | held => "green"
  | lacking => "red"

/-- The text of a mark. -/
def text : Mark → String
  | granted => "Granted"
  | revoked => "Revoked"
  | held => "✓"
  | lacking => "✗"

/-- A mark in its style, and a space. -/
def markup : Mark → String
  | granted => "[green]Granted[/green] "
  | revoked => "[green]Revoked[/green] "
  | held => "[green]✓[/green] "
  | lacking => "[red]✗[/red] "

theorem toList_markup (m : Mark) :
    m.markup.toList = Console.Markup.styled m.style.toList m.text.toList ++ [' '] := by
  cases m <;> rfl

end Mark

/-- Something that a command shows, with texts that come from outside. -/
inductive Exhibit where
  /-- A line behind a mark. -/
  | line (mark : Mark) (text : String)
  /-- The tag and the version of a policy, in faint letters. -/
  | stamp (etag : Value) (version : Option Int)
  /-- The table of the roles on a resource, with their members. -/
  | table (resource : String) (listing : Listing)

namespace Exhibit

/-- The text that tells a tag and a version. A dash stands for none. -/
def stampText (etag : Value) (version : Option Int) : String :=
  "etag: " ++ (if etag.truthy then etag.plain else "-") ++ "  version: "
    ++ version.elim "-" toString

/-- The table of the roles on a resource. -/
def tableOf (resource : String) (listing : Listing) : Console.Table :=
  { title := "IAM policy for " ++ resource
    heads := ["Role", "Members"]
    rows := listing.map fun e => [e.1, "\n".intercalate e.2] }

/-- The texts that are given to the console as markup. -/
def texts : Exhibit → List String
  | line _ text => [text]
  | stamp etag version => [stampText etag version]
  | table resource listing =>
    ("IAM policy for " ++ resource) :: listing.flatMap fun e => [e.1, "\n".intercalate e.2]

/-- Whether the tag and the version have texts: no integer is too long to be written. -/
def isWritable : Exhibit → Bool
  | stamp etag version => etag.isWritable && version.all Numeral.isWritable
  | line .. | table .. => true

/-- What is printed. -/
def printed : Exhibit → Except Failure String
  | line mark text => Console.printed (mark.markup ++ text)
  | stamp etag version =>
    if (stamp etag version).isWritable then
      Console.printed ("[dim]" ++ stampText etag version ++ "[/dim]")
    else .error (.badInteger .tooLong)
  | table resource listing => (tableOf resource listing).printed

/-- The lines that show the texts as they are. -/
def lines : Exhibit → List (List Char)
  | line mark text => layOut columns .fold .free (mark.text.toList ++ ' ' :: text.toList)
  | stamp etag version => layOut columns .fold .free (stampText etag version).toList
  | table resource listing => (tableOf resource listing).lines

/-- Whether nothing in the texts is markup. -/
def Literal (x : Exhibit) : Prop := ∀ t ∈ x.texts, IsLiteral t.toList

/-- Whether the lines can be printed: tag and version have texts, and no line holds half of a
pair. -/
structure Whole (x : Exhibit) : Prop where
  /-- The tag and the version have texts. -/
  writable : x.isWritable = true
  /-- No line holds half of a pair. -/
  lines : ∀ l ∈ x.lines, Text.isWhole l = true

/-- The columns of a table that its frame takes, and the spaces around its cells. -/
def frameColumns : Nat := 7

/-- The rows of the table, the heads first. -/
def rows (listing : Listing) : Listing := ("Role", ["Members"]) :: listing

/-- The table of the roles on a resource has room on the console: its columns need not give way, and
the resource stands in a line of the title. -/
structure FitsTable (resource : String) (listing : Listing) : Prop where
  /-- All characters of roles and members take columns. -/
  seen : ∀ e ∈ listing, AllSeen e.1.toList ∧ ∀ m ∈ e.2, AllSeen m.toList
  /-- Any role and any member have room beside each other. -/
  cells : ∀ e ∈ rows listing, ∀ e' ∈ rows listing, ∀ m ∈ e'.2,
    Text.width e.1.toList + Text.width m.toList + frameColumns ≤ columns
  /-- The resource is a word, whose characters take columns. -/
  word : resource ≠ "" ∧ AllSeen resource.toList ∧ resource.toList.any Text.isBlank = false
  /-- The resource is not wider than the table. -/
  title : ∃ e ∈ rows listing, ∃ e' ∈ rows listing, ∃ m ∈ e'.2,
    Text.width resource.toList ≤ Text.width e.1.toList + Text.width m.toList + frameColumns

/-- Whether there is room for the texts on the console, so that none of them is broken or cut. -/
def HasRoom : Exhibit → Prop
  | line mark text => AllSeen text.toList ∧
    Text.width mark.text.toList + 1 + Text.width text.toList ≤ columns
  | stamp etag version => AllSeen (stampText etag version).toList ∧
    Text.width (stampText etag version).toList ≤ columns
  | table resource listing => FitsTable resource listing

/-- Whether a text is one of those to be shown: a part of a line, the resource, a role or a
member. -/
def Says : Exhibit → String → Prop
  | line _ text, s => s.toList <:+: text.toList
  | stamp etag version, s => s.toList <:+: (stampText etag version).toList
  | table resource listing, s => s = resource ∨ ∃ e ∈ listing, s = e.1 ∨ s ∈ e.2

/-! ### Literal texts are printed as they are -/

private theorem isStyle_style (m : Mark) : IsStyle m.style.toList := by
  cases m <;> constructor <;> rfl

private theorem isStyle_dim : IsStyle "dim".toList := by constructor <;> rfl

private theorem isLiteral_text (m : Mark) : IsLiteral m.text.toList := by
  cases m <;> decide

private theorem getLast?_text (m : Mark) :
    m.text.toList ≠ [] ∧ m.text.toList.getLast? ≠ some '\\' := by
  cases m <;> decide

/-- A text that ends in a version does not end in a backslash. -/
private theorem getLast?_stampText (etag : Value) (version : Option Int) :
    (stampText etag version).toList.getLast? ≠ some '\\' := by
  have hend : ∀ c ∈ ' ' :: (version.elim "-" toString).toList, c ≠ '\\' := by
    refine List.forall_mem_cons.mpr ⟨by decide, ?_⟩
    cases version with
    | none => simp
    | some n =>
      rintro c hc rfl
      rcases Numeral.mem_toString hc with h | h
      · simp at h
      · exact absurd h (by decide)
  have hsplit : (stampText etag version).toList =
      ("etag: " ++ (if etag.truthy then etag.plain else "-") ++ "  version:").toList ++
        ' ' :: (version.elim "-" toString).toList := by
    simp [stampText]
  intro hlast
  rw [hsplit, List.getLast?_append_cons] at hlast
  exact hend _ (List.mem_of_getLast? hlast) rfl

/-- The texts of a table are its heads and those from outside. -/
private theorem mem_texts_tableOf {resource : String} {listing : Listing} {s : String}
    (h : s ∈ (tableOf resource listing).texts) :
    s ∈ ["Role", "Members"] ∨ s ∈ (table resource listing).texts := by
  simp only [Console.Table.texts, tableOf, List.flatten_cons, List.mem_cons, List.mem_append,
    List.mem_flatten, List.mem_map, texts, List.mem_flatMap] at h ⊢
  grind

/-- An exhibit that is printed has texts for its values. -/
theorem isWritable_of_printed {x : Exhibit} {s : String} (h : x.printed = .ok s) :
    x.isWritable = true := by
  cases x with
  | line mark text => rfl
  | table resource listing => rfl
  | stamp etag version =>
    rw [printed] at h
    split at h
    · assumption
    · simp at h

/-- **Exhibits of literal texts** show them as they are. -/
theorem printed_of_literal {x : Exhibit} (h : x.Literal) (hwritable : x.isWritable = true) :
    x.printed = output x.lines := by
  cases x with
  | line mark text =>
    have htext : IsLiteral text.toList := h text List.mem_cons_self
    obtain ⟨hne, hlast⟩ := getLast?_text mark
    exact Console.printed_styled (by simp [mark.toList_markup]) (isStyle_style mark) hne
      (isLiteral_text mark) hlast htext.space_cons
  | stamp etag version =>
    have htext : IsLiteral (stampText etag version).toList := h _ List.mem_cons_self
    have hprinted := @Console.printed_styled ("[dim]" ++ stampText etag version ++ "[/dim]") _ _ []
      (by simp [Console.Markup.styled]) isStyle_dim (by simp [stampText]) htext
      (getLast?_stampText etag version) ⟨rfl, rfl, by simp⟩
    rw [List.append_nil] at hprinted
    rw [printed, if_pos hwritable]
    exact hprinted
  | table resource listing =>
    refine Console.Table.printed_of_isLiteral fun s hs => ?_
    have hheads : ∀ s ∈ ["Role", "Members"], IsLiteral s.toList := by
      simp only [List.forall_mem_cons]
      exact ⟨by decide, by decide, by simp⟩
    rcases mem_texts_tableOf hs with hhead | htext
    · exact hheads s hhead
    · exact h s htext

/-! ### Whole texts -/

/-- **Texts without halves of pairs** can be printed. -/
theorem whole_of_texts {x : Exhibit} (h : ∀ t ∈ x.texts, Text.isWhole t.toList = true)
    (hwritable : x.isWritable = true) : x.Whole := by
  refine ⟨hwritable, ?_⟩
  let P (c : Char) : Prop := Text.isHalf c = false
  have hspace : P ' ' := by decide
  have hdots : P '…' := by decide
  have htexts : ∀ t ∈ x.texts, ∀ c ∈ t.toList, P c := fun t ht => Console.isWhole_iff.mp (h t ht)
  intro l hl
  refine Console.isWhole_iff.mpr ?_
  cases x with
  | line mark text =>
    have hmark : ∀ c ∈ mark.text.toList, P c := by
      cases mark <;> exact Console.isWhole_iff.mp (by decide)
    have htext : ∀ c ∈ text.toList, P c := htexts text List.mem_cons_self
    exact @Console.forall_mem_layOut P hspace hdots columns .fold .free _
      (List.forall_mem_append.mpr ⟨hmark, List.forall_mem_cons.mpr ⟨hspace, htext⟩⟩) l hl
  | stamp etag version =>
    exact @Console.forall_mem_layOut P hspace hdots columns .fold .free _
      (htexts _ List.mem_cons_self) l hl
  | table resource listing =>
    have hheads : ∀ s ∈ ["Role", "Members"], ∀ c ∈ s.toList, P c := by
      simp only [List.forall_mem_cons]
      exact ⟨Console.isWhole_iff.mp (by decide), Console.isWhole_iff.mp (by decide),
        by simp⟩
    refine Console.Table.isHalf_of_mem_lines (fun s hs => ?_) l hl
    rcases mem_texts_tableOf hs with hhead | htext
    · exact hheads s hhead
    · exact htexts s htext

/-! ### Texts that have room -/

/-- A part of the text of a line that has room stands in the one line that is printed. -/
private theorem exists_infix_line {mark : Mark} {text s : String} (h : (line mark text).HasRoom)
    (hs : (line mark text).Says s) : ∃ l ∈ (line mark text).lines, s.toList <:+: l := by
  obtain ⟨hseen, hwidth⟩ := h
  have hmark : AllSeen mark.text.toList := by
    cases mark <;> decide +kernel
  have hspace : AllSeen [' '] := by decide
  have hall : AllSeen (mark.text.toList ++ ([' '] ++ text.toList)) :=
    List.forall_mem_append.mpr ⟨hmark, List.forall_mem_append.mpr ⟨hspace, hseen⟩⟩
  have htotal : Text.width (mark.text.toList ++ ([' '] ++ text.toList)) ≤ columns := by
    have hone : Text.width [' '] = 1 := by decide
    rw [hall.width_append, hall.right.width_append, hone]
    omega
  have hlaid := Console.layOut_of_width_le .fold .free hall htotal
  have htext : text.toList <:+: mark.text.toList ++ ([' '] ++ text.toList) :=
    ((List.suffix_append [' '] _).trans (List.suffix_append _ _)).isInfix
  refine ⟨_, by rw [lines]; exact hlaid ▸ List.mem_singleton_self _, ?_⟩
  rw [Console.align, Console.truncate_of_width_le htotal]
  exact List.IsInfix.trans hs htext

/-- A tag and a version that have room stand in the one line that is printed. -/
private theorem exists_infix_stamp {etag : Value} {version : Option Int} {s : String}
    (h : (stamp etag version).HasRoom) (hs : (stamp etag version).Says s) :
    ∃ l ∈ (stamp etag version).lines, s.toList <:+: l := by
  obtain ⟨hseen, hwidth⟩ := h
  have hlaid := Console.layOut_of_width_le .fold .free hseen hwidth
  refine ⟨_, by rw [lines]; exact hlaid ▸ List.mem_singleton_self _, ?_⟩
  rw [Console.align, Console.truncate_of_width_le hwidth]
  exact hs

/-- The cells of a row. -/
private def rowCells (e : String × List String) : List (List Char) :=
  [e.1.toList, ['\n'].intercalate (e.2.map String.toList)]

private theorem cells_tableOf (resource : String) (listing : Listing) :
    (tableOf resource listing).cells (tableOf resource listing).heads ::
        (tableOf resource listing).rows.map (tableOf resource listing).cells =
      (rows listing).map rowCells := by
  have hcells : ∀ e : String × List String,
      (tableOf resource listing).cells [e.1, "\n".intercalate e.2] = rowCells e := by
    intro e
    have hrange : List.range (tableOf resource listing).size = [0, 1] := rfl
    simp [Console.Table.cells, hrange, rowCells]
  rw [rows, List.map_cons]
  refine congrArg₂ List.cons (hcells ("Role", ["Members"])) ?_
  rw [tableOf, List.map_map]
  exact List.map_congr_left fun e _ => hcells e

section Room

variable {resource : String} {listing : Listing} (h : FitsTable resource listing)

include h

private theorem FitsTable.seen_rows : ∀ e ∈ rows listing,
    AllSeen e.1.toList ∧ ∀ m ∈ e.2, AllSeen m.toList :=
  List.forall_mem_cons.mpr ⟨by decide, h.seen⟩

/-- The columns are wide enough for roles and members. -/
private theorem FitsTable.le_columnWidths {e e' : String × List String} (he : e ∈ rows listing)
    (he' : e' ∈ rows listing) {m : String} (hm : m ∈ e'.2) :
    Text.width e.1.toList + 2 ≤ Console.columnWidth ((rows listing).map rowCells) 0 ∧
      Text.width m.toList + 2 ≤ Console.columnWidth ((rows listing).map rowCells) 1 := by
  constructor
  · exact Console.le_columnWidth (List.mem_map_of_mem he) 0 [e.1.toList]
      (by simpa using (h.seen_rows e he).1) (by simp [rowCells]) (List.mem_singleton_self _)
  · exact Console.le_columnWidth (List.mem_map_of_mem he') 1 (e'.2.map String.toList)
      (by simpa using (h.seen_rows e' he').2) (by simp [rowCells]) (List.mem_map_of_mem hm)

/-- The columns need not give way. -/
private theorem FitsTable.total_le :
    Console.total ((List.range 2).map (Console.columnWidth ((rows listing).map rowCells))) ≤
      columns - Console.frameWidth 2 := by
  have hne : (rows listing).map rowCells ≠ [] := by simp [rows]
  -- the widest role and the widest member need not stand in one row
  obtain ⟨_, hcells, hroles⟩ := Console.exists_columnWidth_eq hne 0
  obtain ⟨e, he, rfl⟩ := List.mem_map.mp hcells
  obtain ⟨_, hcells', hmembers⟩ := Console.exists_columnWidth_eq hne 1
  obtain ⟨e', he', rfl⟩ := List.mem_map.mp hcells'
  have hrole : Console.longest e.1.toList = Text.width e.1.toList := by
    have hlines := @Console.longest_intercalate [e.1.toList] (by simp)
      (by simpa using (h.seen_rows e he).1)
    simpa [Console.greatest] using hlines
  obtain ⟨e'', he'', m, hm, hmember⟩ : ∃ e'' ∈ rows listing, ∃ m ∈ e''.2,
      Console.longest (['\n'].intercalate (e'.2.map String.toList)) ≤ Text.width m.toList := by
    by_cases hnil : e'.2 = []
    · -- the column is as wide as its head then
      refine ⟨_, List.mem_cons_self, _, List.mem_cons_self, ?_⟩
      rw [hnil]
      exact Nat.zero_le _
    · rw [Console.longest_intercalate (by simpa using hnil)
        (by simpa using (h.seen_rows e' he').2)]
      have hmem := @Console.greatest_mem ((e'.2.map String.toList).map Text.width)
        (by simpa using hnil)
      obtain ⟨_, hline, heq⟩ := List.mem_map.mp hmem
      obtain ⟨m, hm, rfl⟩ := List.mem_map.mp hline
      exact ⟨e', he', m, hm, heq.ge⟩
  have hroom := h.cells e he e'' he'' m hm
  have htotal : ∀ f : Nat → Nat, Console.total ((List.range 2).map f) = f 0 + (f 1 + 0) :=
    fun _ => rfl
  have hfirst : (rowCells e).getD 0 [] = e.1.toList := rfl
  have hsecond : (rowCells e').getD 1 [] = ['\n'].intercalate (e'.2.map String.toList) := rfl
  rw [htotal, hroles, hmembers, hfirst, hsecond, hrole]
  simp only [frameColumns, columns, Console.frameWidth] at hroom ⊢
  omega

end Room

/-- The lines of the table, with all its rows alike. -/
private theorem lines_table (resource : String) (listing : Listing) :
    (table resource listing).lines =
      Console.titleLines (Console.widths ((rows listing).map rowCells) 2)
          ("IAM policy for " ++ resource).toList
        ++ Console.frameLines (Console.widths ((rows listing).map rowCells) 2)
          (rowCells ("Role", ["Members"])) (listing.map rowCells) := by
  have hcells := cells_tableOf resource listing
  have hsize : (tableOf resource listing).size = 2 := rfl
  have htitle : (tableOf resource listing).title = "IAM policy for " ++ resource := rfl
  obtain ⟨hheads, hrows⟩ := List.cons.inj hcells
  rw [lines, Console.Table.lines, Console.Table.columnWidths, hcells, hheads, hrows, hsize, htitle]

/-- A role or a member of a table that has room stands in a line of its frame. -/
private theorem exists_infix_frame {resource : String} {listing : Listing}
    (h : FitsTable resource listing) {e : String × List String} (he : e ∈ listing) {s : String}
    (hs : s = e.1 ∨ s ∈ e.2) : ∃ l ∈ (table resource listing).lines, s.toList <:+: l := by
  have hcells : rowCells e ∈ rowCells ("Role", ["Members"]) :: listing.map rowCells :=
    List.mem_cons_of_mem _ (List.mem_map_of_mem he)
  obtain ⟨hrole, hmembers⟩ := h.seen e he
  obtain ⟨l, hl, hinfix⟩ : ∃ l ∈ Console.frameLines
      (Console.widths ((rows listing).map rowCells) 2) (rowCells ("Role", ["Members"]))
      (listing.map rowCells), s.toList <:+: l := by
    rcases hs with rfl | hs
    · exact Console.exists_infix_frameLines (i := 0) h.total_le hcells (by decide) rfl [e.1.toList]
        (by simpa using hrole) (by simp [rowCells]) (List.mem_singleton_self _)
    · exact Console.exists_infix_frameLines (i := 1) h.total_le hcells (by decide) rfl
        (e.2.map String.toList) (by simpa using hmembers) (by simp [rowCells])
        (List.mem_map_of_mem hs)
  exact ⟨l, by rw [lines_table]; exact List.mem_append_right _ hl, hinfix⟩

/-- The title in words. -/
private theorem words_title {resource : String} (hne : resource ≠ "")
    (hblank : ∀ c ∈ resource.toList, Text.isBlank c = false) :
    Console.words ("IAM policy for " ++ resource).toList =
      ["IAM ".toList, "policy ".toList, "for ".toList, resource.toList] := by
  have hword := Console.foldr_joinWord_of_forall (by simpa using hne) hblank
  rw [Console.words, String.toList_append, List.foldr_append, hword]
  cases htext : resource.toList with
  | nil => exact absurd (by simpa using htext) hne
  | cons c rest =>
    have hc : Text.isBlank c = false := hblank c (by simp [htext])
    have hspace : Console.joinWord ' ' [c :: rest] = [[' '], c :: rest] := by
      have hblank : Text.isBlank ' ' = true := by decide
      simp [Console.joinWord, hc, hblank]
    have hlast : "IAM policy for ".toList = "IAM policy for".toList ++ [' '] := by decide
    rw [hlast, List.foldr_append, List.foldr_cons, List.foldr_nil, hspace]
    rfl

/-- The resource of a table that has room stands in a line of its title. -/
private theorem exists_infix_title {resource : String} {listing : Listing}
    (h : FitsTable resource listing) :
    ∃ l ∈ (table resource listing).lines, resource.toList <:+: l := by
  obtain ⟨hne, hresource, hunblank⟩ := h.word
  have hblank : ∀ c ∈ resource.toList, Text.isBlank c = false := by simpa using hunblank
  obtain ⟨e, he, e', he', m, hm, htitle⟩ := h.title
  obtain ⟨hrole, hmember⟩ := h.le_columnWidths he he' hm
  obtain ⟨hheads, -⟩ := h.le_columnWidths List.mem_cons_self he' hm
  have hwidths := Console.widths_of_total_le h.total_le
  have hseen : AllSeen ("IAM policy for " ++ resource).toList := by
    have hstart : AllSeen "IAM policy for ".toList := by decide
    rw [String.toList_append]
    exact List.forall_mem_append.mpr ⟨hstart, hresource⟩
  obtain ⟨l, hl, hinfix⟩ : ∃ l ∈ Console.titleLines
      (Console.widths ((rows listing).map rowCells) 2) ("IAM policy for " ++ resource).toList,
      resource.toList <:+: l := by
    refine Console.exists_infix_layOut_centre .fold hseen ?_ ?_ ?_
    · -- the words before the resource have room beside the heads
      have hlimit : ∀ f : Nat → Nat, Console.total ((List.range 2).map f) +
          Console.frameWidth ((List.range 2).map f).length = f 0 + (f 1 + 0) + 3 := fun _ => rfl
      have hfixed : ∀ w ∈ ["IAM ", "policy ", "for "],
          Text.width (Text.trimEnd Text.isBlank w.toList) ≤ 6 := by decide
      have hhead : Text.width "Role".toList = 4 := rfl
      simp only [List.forall_mem_cons] at hfixed
      obtain ⟨hfirst, hsecond, hthird, -⟩ := hfixed
      have htrim := hresource.width_trimEnd_le Text.isBlank
      simp only [rows, hhead] at hheads
      simp only [frameColumns] at htitle
      rw [words_title hne hblank, hwidths, hlimit]
      simp only [List.forall_mem_cons]
      exact ⟨by omega, by omega, by omega, by omega, by simp⟩
    · rw [words_title hne hblank]
      simp
    · exact fun c hc => hblank c (List.mem_of_getLast? hc)
  exact ⟨l, by rw [lines_table]; exact List.mem_append_left _ hl, hinfix⟩

/-- **Texts that have room** stand in the lines of their exhibit. -/
theorem exists_infix_lines {x : Exhibit} (h : x.HasRoom) {s : String} (hs : x.Says s) :
    ∃ l ∈ x.lines, s.toList <:+: l := by
  cases x with
  | line mark text => exact exists_infix_line h hs
  | stamp etag version => exact exists_infix_stamp h hs
  | table resource listing =>
    rcases hs with rfl | ⟨e, he, hs⟩
    · exact exists_infix_title h
    · exact exists_infix_frame h he hs

end Exhibit

end AccessPolicy.CommandLine
