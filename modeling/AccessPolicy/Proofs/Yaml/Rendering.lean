import AccessPolicy.Proofs.Number.Integer
import AccessPolicy.Proofs.Value.Field
import AccessPolicy.Yaml.Render
import Mathlib.Data.List.SplitBy

/-!
# Rendered texts are plain lines

Whatever texts a document holds, it is rendered in printable ASCII characters and line feeds: all
other characters of a text are written as escapes. So it does not depend on the encoding of a file
or on its line breaks what is read from it.

* `Page.Clean`: a page that holds nothing else, kept by everything that is written on a page;
* `clean_render`: documents of texts, integers, lists and maps are rendered so.
-/

namespace AccessPolicy

/-! ### Values that are written -/

namespace Value

mutual

/-- Whether a value is a tree of texts, integers, lists, and maps with texts as keys. -/
def isData : Value → Bool
  | int _ | text _ => true
  | list items => allData items
  | map entries => fieldsData entries
  | _ => false

/-- Whether all items of a list are such trees. -/
def allData : List Value → Bool
  | [] => true
  | v :: rest => v.isData && allData rest

/-- Whether all keys of a map are texts and all of its values such trees. -/
def fieldsData : List (Value × Value) → Bool
  | [] => true
  | (k, v) :: rest => k.isText && v.isData && fieldsData rest

end

theorem allData_iff {items : List Value} :
    allData items = true ↔ ∀ v ∈ items, v.isData = true := by
  induction items with
  | nil => simp [allData]
  | cons x rest ih => simp [allData, ih]

/-! ### Equality of values that are written -/

mutual

/-- Whether two values are equal trees of texts, integers, lists and maps. -/
def eqData : Value → Value → Bool
  | int m, int n => m == n
  | text s, text t => s == t
  | list items, list items' => allEqData items items'
  | map entries, map entries' => fieldsEqData entries entries'
  | _, _ => false

/-- Whether the items of two lists are equal such trees in turn. -/
def allEqData : List Value → List Value → Bool
  | [], [] => true
  | v :: rest, v' :: rest' => v.eqData v' && allEqData rest rest'
  | _, _ => false

/-- Whether the entries of two maps are equal such trees in turn. -/
def fieldsEqData : List (Value × Value) → List (Value × Value) → Bool
  | [], [] => true
  | (k, v) :: rest, (k', v') :: rest' => k.eqData k' && v.eqData v' && fieldsEqData rest rest'
  | _, _ => false

end

mutual

theorem eq_of_eqData : ∀ {v v' : Value}, v.eqData v' = true → v = v'
  | int _, v', h | text _, v', h => by
    cases v' <;> simp_all [eqData]
  | list items, v', h => by
    cases v' with
    | list items' => exact congrArg list (eq_of_allEqData (by simpa [eqData] using h))
    | _ => simp [eqData] at h
  | map entries, v', h => by
    cases v' with
    | map entries' => exact congrArg map (eq_of_fieldsEqData (by simpa [eqData] using h))
    | _ => simp [eqData] at h
  | null, _, h | bool _, _, h | float _, _, h | date _, _, h | moment _, _, h | bytes _, _, h
  | set _, _, h | pair _ _, _, h | knot _ _, _, h | again _ _, _, h => by simp [eqData] at h

private theorem eq_of_allEqData : ∀ {items items' : List Value},
    allEqData items items' = true → items = items'
  | [], items', h => by cases items' <;> simp_all [allEqData]
  | v :: rest, items', h => by
    cases items' with
    | nil => simp [allEqData] at h
    | cons v' rest' =>
      obtain ⟨hv, hrest⟩ : v.eqData v' = true ∧ allEqData rest rest' = true := by
        simpa [allEqData] using h
      rw [eq_of_eqData hv, eq_of_allEqData hrest]

private theorem eq_of_fieldsEqData : ∀ {entries entries' : List (Value × Value)},
    fieldsEqData entries entries' = true → entries = entries'
  | [], entries', h => by cases entries' <;> simp_all [fieldsEqData]
  | (k, v) :: rest, entries', h => by
    cases entries' with
    | nil => simp [fieldsEqData] at h
    | cons entry rest' =>
      obtain ⟨k', v'⟩ := entry
      obtain ⟨⟨hk, hv⟩, hrest⟩ : (k.eqData k' = true ∧ v.eqData v' = true) ∧
          fieldsEqData rest rest' = true := by simpa [fieldsEqData] using h
      rw [eq_of_eqData hk, eq_of_eqData hv, eq_of_fieldsEqData hrest]

end

end Value

namespace Yaml

/-- Whether a character is printable ASCII or a line feed. -/
def isClean (c : Char) : Bool := Style.isBare c || c == '\n'

/-- Characters that are printable ASCII or line feeds. -/
def Clean (cs : List Char) : Prop := ∀ c ∈ cs, isClean c = true

instance (cs : List Char) : Decidable (Clean cs) :=
  List.decidableBAll _ cs

namespace Clean

variable {cs ds : List Char}

@[simp] theorem nil : Clean [] := by simp [Clean]

theorem append (h : Clean cs) (h' : Clean ds) : Clean (cs ++ ds) :=
  List.forall_mem_append.mpr ⟨h, h'⟩

theorem cons {c : Char} (hc : isClean c = true) (h : Clean cs) : Clean (c :: cs) :=
  List.forall_mem_cons.mpr ⟨hc, h⟩

theorem reverse (h : Clean cs) : Clean cs.reverse := fun c hc => h c (List.mem_reverse.mp hc)

theorem spaces (n : Nat) : Clean (List.replicate n ' ') := by
  intro c hc
  obtain rfl := (List.mem_replicate.mp hc).2
  decide

end Clean

namespace Page

/-- What is written so far is printable ASCII and line feeds. -/
def Clean (p : Page) : Prop := Yaml.Clean p.text.toList

namespace Clean

variable {p : Page} {cs : List Char}

theorem write (h : p.Clean) (hcs : Yaml.Clean cs) : (p.write cs).Clean := by
  simpa [Clean, Page.write] using h.append hcs

theorem mark (h : p.Clean) {sign : String} (hsign : Yaml.Clean sign.toList)
    (needsSpace opens : Bool) : (p.mark sign needsSpace opens).Clean := by
  have hspace : Yaml.Clean (if p.spaced || !needsSpace then [] else [' ']) := by
    split
    · exact .nil
    · exact .spaces 1
  exact h.write (hspace.append hsign)

theorem breakLine (h : p.Clean) : p.breakLine.Clean := by
  have hbreak : Yaml.Clean ['\n'] := by decide
  simpa [Clean, Page.breakLine] using h.append hbreak

theorem indent (h : p.Clean) (n : Nat) : (p.indent n).Clean := by
  unfold Page.indent
  dsimp only
  have hstart : ∀ q : Page, q.Clean →
      (if q.column < n then { q.write (List.replicate (n - q.column) ' ') with spaced := true }
        else q).Clean := by
    intro q hq
    split
    · exact hq.write (.spaces _)
    · exact hq
  refine hstart _ ?_
  split
  · exact h.breakLine
  · exact h

theorem fold (h : p.Clean) (n : Nat) : (p.fold n).Clean := h.indent n

/-! ### Plain and single-quoted scalars -/

private theorem writePlainRuns {runs : List (List Char)} (h : p.Clean)
    (hruns : ∀ run ∈ runs, Yaml.Clean run) (n : Nat) : (writePlainRuns n runs p).Clean := by
  induction runs generalizing p with
  | nil => exact h
  | cons run rest ih =>
    rw [List.forall_mem_cons] at hruns
    refine ih ?_ hruns.2
    split
    · exact h.fold n
    · exact h.write hruns.1

private theorem mem_runs (hcs : Yaml.Clean cs) : ∀ run ∈ runs cs, Yaml.Clean run := by
  intro run hrun c hc
  refine hcs c ?_
  rw [← List.flatten_splitBy (fun a b => Run.of a == Run.of b) cs]
  exact List.mem_flatten.mpr ⟨run, hrun, hc⟩

theorem writePlain (h : p.Clean) (n : Option Nat) (hcs : Yaml.Clean cs) :
    (p.writePlain n cs).Clean := by
  have hspaced : (if p.spaced then p else p.write [' ']).Clean := by
    split
    · exact h
    · exact h.write (.spaces 1)
  have hstart : Page.Clean { (if p.spaced then p else p.write [' ']) with
      spaced := false, fresh := false } := hspaced
  unfold Page.writePlain
  dsimp only
  cases n with
  | some n => exact hstart.writePlainRuns (mem_runs hcs) n
  | none => exact hstart.write hcs

private theorem breakLines (h : p.Clean) (k : Nat) : (breakLines k p).Clean := by
  induction k generalizing p with
  | zero => exact h
  | succ k ih => exact ih h.breakLine

private theorem doubleQuotes (hcs : Yaml.Clean cs) : Yaml.Clean (doubleQuotes cs) := by
  intro c hc
  obtain ⟨d, hd, hcd⟩ := List.mem_flatMap.mp hc
  obtain rfl : c = d := by
    split at hcd <;> simpa using hcd
  exact hcs c hd

private theorem writeSingleRuns {runs : List (List Char)} (h : p.Clean)
    (hruns : ∀ run ∈ runs, Yaml.Clean run) (n : Nat) (first : Bool) :
    (writeSingleRuns n first runs p).Clean := by
  induction runs generalizing p first with
  | nil => exact h
  | cons run rest ih =>
    rw [List.forall_mem_cons] at hruns
    refine ih ?_ hruns.2 false
    split
    · exact (h.breakLines _).indent n
    · split
      · exact h.indent n
      · exact h.write (doubleQuotes hruns.1)

theorem writeSingle (h : p.Clean) (n : Option Nat) (hcs : Yaml.Clean cs) :
    (p.writeSingle n cs).Clean := by
  have hquote : Yaml.Clean "\x27".toList := by decide
  unfold Page.writeSingle
  refine mark ?_ hquote _ _
  have hopen := h.mark hquote true false
  cases n with
  | some n => exact hopen.writeSingleRuns (mem_runs hcs) n true
  | none => exact hopen.write (doubleQuotes hcs)

/-! ### Double-quoted scalars -/

private theorem mem_toDigits {n : Nat} {c : Char} (h : c ∈ Nat.toDigits 16 n) :
    ∃ d < 16, c = Nat.digitChar d := by
  induction n using Nat.strongRecOn with
  | ind n ih =>
    rw [Nat.toDigits_eq_if (by decide)] at h
    split at h
    · next hlt => exact ⟨n, hlt, by simpa using h⟩
    · rcases List.mem_append.mp h with h | h
      · exact ih _ (by omega) h
      · exact ⟨n % 16, by omega, by simpa using h⟩

private theorem clean_hex (size n : Nat) : Yaml.Clean ((Text.hex size n).map Char.toUpper) := by
  have hdigit : ∀ d : Fin 16, isClean (Nat.digitChar d).toUpper = true := by decide
  intro c hc
  obtain ⟨d, hd, rfl⟩ := List.mem_map.mp hc
  rcases List.mem_append.mp hd with hd | hd
  · obtain rfl := (List.mem_replicate.mp hd).2
    decide
  · obtain ⟨k, hk, rfl⟩ := mem_toDigits hd
    exact hdigit ⟨k, hk⟩

/-- Escapes are printable. -/
private theorem clean_escape (c : Char) : Yaml.Clean (escape c) := by
  unfold escape
  cases hletter : escapeLetters.lookup c with
  | some letter =>
    have hletters : (escapeLetters.all fun e => isClean e.2) = true := by decide
    obtain ⟨before, after, heq, -⟩ := List.lookup_eq_some_iff.mp hletter
    have hmem : (c, letter) ∈ escapeLetters := by
      rw [heq]
      exact List.mem_append_right _ List.mem_cons_self
    exact .cons (by decide) (.cons (List.all_eq_true.mp hletters _ hmem) .nil)
  | none =>
    have hform : ∀ n, isClean (escapeForm n).1 = true := by
      intro n
      unfold escapeForm
      split
      · decide
      · split <;> decide
    exact .cons (by decide) (.cons (hform _) (clean_hex _ _))

private theorem foldDouble (h : p.Clean) (n : Nat) (next : Option Char) :
    (p.foldDouble n next).Clean := by
  have hslash : Yaml.Clean ['\\'] := by decide
  unfold Page.foldDouble
  dsimp only
  split
  · exact ((h.write hslash).fold n).write hslash
  · exact (h.write hslash).fold n

private theorem writeDoubleFrom (n : Option Nat) (first : Bool) {pending : List Char}
    (hpending : Yaml.Clean pending) (h : p.Clean) :
    (writeDoubleFrom n first pending cs p).Clean := by
  induction cs generalizing first pending p with
  | nil => exact h.write hpending.reverse
  | cons c rest ih =>
    rw [Page.writeDoubleFrom]
    dsimp only
    split
    · refine ih false .nil ?_
      have hescaped := (h.write hpending.reverse).write (clean_escape c)
      cases n with
      | none => exact hescaped
      | some n =>
        dsimp only
        split
        · exact hescaped.foldDouble n _
        · exact hescaped
    · next hbare =>
      have hc : isClean c = true := by
        have hneeds : needsEscape c = false := by simpa using hbare
        simp only [needsEscape, Bool.or_eq_false_iff, Bool.not_eq_false'] at hneeds
        simp [isClean, hneeds.2]
      cases n with
      | none => exact ih false (.cons hc hpending) h
      | some n =>
        dsimp only
        split
        · exact ih false (.cons hc .nil) ((h.write hpending.reverse).foldDouble n _)
        · exact ih false (.cons hc hpending) h

theorem writeDouble (h : p.Clean) (n : Option Nat) (cs : List Char) :
    (p.writeDouble n cs).Clean := by
  have hquote : Yaml.Clean "\"".toList := by decide
  exact ((h.mark hquote true false).writeDoubleFrom n true .nil).mark hquote _ _

/-- **Texts** are written in printable ASCII and line feeds, whatever they hold. -/
theorem writeText (h : p.Clean) (n : Option Nat) (s : String) : (p.writeText n s).Clean := by
  unfold Page.writeText Style.ofText
  split
  · next hstyle =>
    split at hstyle
    · next hplain =>
      simp only [Style.allowsPlain, Bool.and_eq_true, List.all_eq_true] at hplain
      exact h.writePlain n fun c hc => by simp [isClean, hplain.1.1.1.2 c hc]
    · split at hstyle <;> simp at hstyle
  · next hstyle =>
    split at hstyle
    · simp at hstyle
    · split at hstyle
      · next hsingle =>
        simp only [Style.allowsSingle, Bool.and_eq_true, List.all_eq_true] at hsingle
        exact h.writeSingle n hsingle.1.1
      · simp at hstyle
  · exact h.writeDouble n _

end Clean

end Page

/-! ### Values -/

private theorem clean_toString (n : Int) : Clean (toString n).toList := by
  intro c hc
  rcases Numeral.mem_toString hc with rfl | hdigit
  · decide
  · rw [Char.isDigit_iff_toNat] at hdigit
    have hlow : ' ' ≤ c := (by decide : (' ' : Char) ≤ '0').trans hdigit.1
    have hhigh : c ≤ '~' := hdigit.2.trans (by decide : ('9' : Char) ≤ '~')
    simp [isClean, Style.isBare, hlow, hhigh]

section Writing

variable {p : Page}

private theorem clean_writeText (h : p.Clean) (s : String) (n : Nat) (inMap : Bool) :
    (writeValue (.text s) n inMap p).Clean := by
  simp only [writeValue, writeScalar]
  exact h.writeText _ s

private theorem clean_writeKey (h : p.Clean) (s : String) (n : Nat) :
    (writeKey (.text s) n p).Clean := by
  have hcolon : Clean ":".toList := by decide
  have hquestion : Clean "?".toList := by decide
  simp only [writeKey]
  split
  · exact ((h.indent n).writeText none s).mark hcolon _ _
  · exact ((clean_writeText ((h.indent n).mark hquestion true true) s n true).indent n).mark
      hcolon _ _

mutual

/-- **Values** are written in printable ASCII and line feeds. -/
theorem clean_writeValue : ∀ {v : Value}, v.isData = true → ∀ (n : Nat) (inMap : Bool) {p : Page},
    p.Clean → (writeValue v n inMap p).Clean
  | .text s, _, n, inMap, p, h => clean_writeText h s n inMap
  | .int k, _, n, inMap, p, h => by
    simp only [writeValue, writeScalar]
    exact h.writePlain _ (clean_toString k)
  | .list items, hv, n, inMap, p, h => by
    rw [writeValue]
    split
    · exact h.mark (by decide) _ _
    · exact clean_writeItems (by simpa [Value.isData] using hv) _ h
  | .map entries, hv, n, inMap, p, h => by
    rw [writeValue]
    split
    · exact h.mark (by decide) _ _
    · exact clean_writeEntries (by simpa [Value.isData] using hv) _ h
  | .null, hv, _, _, _, _ | .bool _, hv, _, _, _, _ | .float _, hv, _, _, _, _
  | .date _, hv, _, _, _, _ | .moment _, hv, _, _, _, _ | .bytes _, hv, _, _, _, _
  | .set _, hv, _, _, _, _ | .pair _ _, hv, _, _, _, _ | .knot _ _, hv, _, _, _, _
  | .again _ _, hv, _, _, _, _ => by simp [Value.isData] at hv

private theorem clean_writeItems : ∀ {items : List Value}, Value.allData items = true →
    ∀ (n : Nat) {p : Page}, p.Clean → (writeItems items n p).Clean
  | [], _, _, _, h => by rwa [writeItems]
  | v :: rest, hv, n, p, h => by
    obtain ⟨hv, hrest⟩ : v.isData = true ∧ Value.allData rest = true := by
      simpa [Value.allData] using hv
    rw [writeItems]
    exact clean_writeItems hrest n (clean_writeValue hv n false ((h.indent n).mark (by decide) _ _))

private theorem clean_writeEntries : ∀ {entries : List (Value × Value)},
    Value.fieldsData entries = true → ∀ (n : Nat) {p : Page}, p.Clean →
      (writeEntries entries n p).Clean
  | [], _, _, _, h => by rwa [writeEntries]
  | (k, v) :: rest, hentries, n, p, h => by
    obtain ⟨⟨hk, hv⟩, hrest⟩ : (k.isText = true ∧ v.isData = true) ∧
        Value.fieldsData rest = true := by simpa [Value.fieldsData] using hentries
    obtain ⟨s, rfl⟩ : ∃ s, k = .text s := by
      cases k <;> simp_all [Value.isText]
    rw [writeEntries]
    exact clean_writeEntries hrest n (clean_writeValue hv n true (clean_writeKey h s n))

end

end Writing

/-- **Documents** of texts, integers, lists and maps are rendered in printable ASCII and line
feeds. -/
theorem clean_render {entries : List (Value × Value)} (h : Value.fieldsData entries = true) :
    Clean (render entries).toList := by
  have hempty : Page.Clean {} := by simp [Page.Clean]
  refine Page.Clean.indent (p := if entries.isEmpty then _ else _) ?_ 0
  split
  · exact hempty.mark (by decide) _ _
  · exact clean_writeEntries h 0 hempty

/-! ### Plain lines in files -/

/-- Printable ASCII and line feeds hold no other line breaks. -/
theorem Clean.unifyBreaks {cs : List Char} (h : Clean cs) : Text.unifyBreaks cs = cs := by
  induction cs with
  | nil => rfl
  | cons c cs ih =>
    rw [Clean, List.forall_mem_cons] at h
    have hc : c ≠ '\r' := by
      rintro rfl
      exact absurd h.1 (by decide)
    rw [Text.unifyBreaks, ih h.2]
    · exact fun _ heq _ => hc heq
    · exact fun heq => hc heq

private theorem toList_loop (b : ByteArray) (i : Nat) (r : List UInt8) :
    ByteArray.toList.loop b i r = r.reverse ++ b.data.toList.drop i := by
  fun_induction ByteArray.toList.loop b i r with
  | case1 i r hlt ih =>
    have hdrop : b.data.toList.drop i = b.get! i :: b.data.toList.drop (i + 1) := by
      rw [List.drop_eq_getElem_cons (by simpa using hlt)]
      congr 1
      simp [ByteArray.get!, hlt]
    rw [ih, hdrop]
    simp
  | case2 i r hge =>
    have hlength : b.data.toList.length ≤ i := by simpa using hge
    simp [List.drop_eq_nil_of_le hlength]

/-- The bytes of a text are those of its characters in turn. -/
private theorem toList_toUTF8 (s : String) :
    s.toUTF8.toList = s.toList.flatMap String.utf8EncodeChar := by
  have hdata : s.toUTF8.data.toList = s.toList.flatMap String.utf8EncodeChar := by
    rw [String.toUTF8_eq_toByteArray, ← String.utf8Encode_toList, List.utf8Encode]
    simp
  rw [ByteArray.toList, toList_loop, hdata]
  rfl

private theorem decodeFrom_ascii {cs : List Char} (h : ∀ c ∈ cs, c.toNat < 128) (offset : Nat)
    (acc : List Char) : Text.decodeFrom cs.length offset (cs.map Char.toUInt8) acc =
      .ok (acc.reverse ++ cs) := by
  induction cs generalizing offset acc with
  | nil => simp [Text.decodeFrom]
  | cons c cs ih =>
    rw [List.forall_mem_cons] at h
    have hbyte : c.toUInt8.toNat = c.toNat := by
      have hmod : c.toUInt8.toNat = c.toNat % 256 := UInt32.toNat_toUInt8 c.val
      omega
    have hfollowers : Text.followers? c.toUInt8 = some (0, 0, 0) := by
      simp [Text.followers?, hbyte, h.1]
    rw [List.length_cons, List.map_cons, Text.decodeFrom, hfollowers]
    simp [Text.readFollowers, Text.leadBits, hbyte, ih h.2]

/-- **Printable ASCII and line feeds** are read from the bytes that they are written to. -/
theorem Clean.decodeUtf8 {s : String} (h : Clean s.toList) :
    Text.decodeUtf8 s.toUTF8.toList = .ok s.toList := by
  have hascii : ∀ c ∈ s.toList, c.toNat < 128 := by
    intro c hc
    have hclean := h c hc
    simp only [isClean, Style.isBare, Bool.or_eq_true, Bool.and_eq_true, decide_eq_true_eq,
      beq_iff_eq] at hclean
    rcases hclean with ⟨-, hhigh⟩ | rfl
    · have hle : c.toNat ≤ ('~' : Char).toNat := hhigh
      have htilde : ('~' : Char).toNat = 126 := by decide
      omega
    · decide
  have hbytes : s.toUTF8.toList = s.toList.map Char.toUInt8 := by
    rw [toList_toUTF8, List.map_eq_flatMap]
    refine List.flatMap_congr fun c hc => String.utf8EncodeChar_eq_singleton ?_
    have hlow : c.val ≤ 127 :=
      UInt32.le_iff_toNat_le.mpr (Nat.le_of_lt_succ (hascii c hc))
    simp [Char.utf8Size, hlow]
  rw [Text.decodeUtf8, hbytes, List.length_map, decodeFrom_ascii hascii]
  rfl

end Yaml

end AccessPolicy
