import AccessPolicy.Resource
import AccessPolicy.Proofs.Text.Cut

/-!
# Names of resources

A resource is named by the word of its collection, a slash and its id, with any number of slashes
around the whole. A name is read by what it stands for; of the names that resources have themselves,
those are read back whose id can stand in a name. Requests go to the collection that a name starts
with, which is the one of the resource for every id.

* `Resource.Names`: the grammar of names;
* `Resource.ofName_eq_ok_iff`, `Resource.ofName_eq_error`: what names are read as;
* `Resource.exists_ofName_fullName_iff`: which resources are read back from their own name;
* `Collection.owning_fullName`: where requests for a resource go;
* `Resource.names_correspond`: the reader, the writer and the dispatch agree.
-/

namespace AccessPolicy

/-! ### Collections by their words -/

namespace Collection

theorem mem_all (c : Collection) : c ∈ all := by
  cases c <;> simp [all]

/-- The collections by their words. -/
theorem exists_word_iff {P : String → Prop} :
    (∃ c : Collection, P c.word) ↔ ∃ word ∈ ["projects", "folders", "organizations"], P word := by
  constructor
  · rintro ⟨c, hP⟩
    exact ⟨c.word, by cases c <;> simp [word], hP⟩
  · rintro ⟨word, hword, hP⟩
    simp only [List.mem_cons, List.not_mem_nil, or_false] at hword
    obtain rfl | rfl | rfl := hword
    · exact ⟨.projects, hP⟩
    · exact ⟨.folders, hP⟩
    · exact ⟨.organizations, hP⟩

theorem slash_notMem_word (c : Collection) : '/' ∉ c.word.toList := by
  cases c <;> decide

theorem word_ne_empty (c : Collection) : c.word.toList ≠ [] := by
  cases c <;> decide

@[simp] theorem ofWord?_word (c : Collection) : ofWord? c.word = some c := by
  cases c <;> rfl

/-- The collection of a word is the one with this word. -/
theorem ofWord?_eq_some_iff {s : String} {c : Collection} : ofWord? s = some c ↔ s = c.word := by
  constructor
  · intro h
    exact (by simpa using List.find?_some h : c.word = s).symm
  · rintro rfl
    exact ofWord?_word c

/-- Two collections whose words start one name are one. -/
theorem eq_of_isPrefix {c d : Collection} {rest : List Char}
    (h : (c.word ++ "/").toList <+: (d.word ++ "/").toList ++ rest) : c = d := by
  obtain ⟨more, hmore⟩ := h
  -- both words are what stands before the first slash
  have hcut : (c.word.toList ++ '/' :: more).takeWhile (· ≠ '/') =
      (d.word.toList ++ '/' :: rest).takeWhile (· ≠ '/') := by
    congr 1
    simpa using hmore
  rw [Text.takeWhile_append_mark c.slash_notMem_word,
    Text.takeWhile_append_mark d.slash_notMem_word, String.toList_inj] at hcut
  simpa [hcut] using c.ofWord?_word.symm

/-- **Requests go to the collection of the resource**, whatever its id. -/
theorem owning_fullName (r : Resource) : owning r.fullName = .ok r.collection := by
  have hname : r.fullName.toList = (r.collection.word ++ "/").toList ++ r.id.plain.toList := by
    simp [Resource.fullName]
  have hstarts : ∀ c : Collection,
      (c.word ++ "/").toList.isPrefixOf r.fullName.toList = true ↔ c = r.collection := by
    intro c
    rw [List.isPrefixOf_iff_prefix, hname]
    exact ⟨eq_of_isPrefix, fun h => h ▸ List.prefix_append _ _⟩
  unfold owning
  split
  · next c hc => rw [(hstarts c).mp (by simpa only using List.find?_some hc)]
  · next hnone =>
    exact absurd ((hstarts r.collection).mpr rfl)
      (List.find?_eq_none.mp hnone _ r.collection.mem_all)

end Collection

namespace Resource

/-! ### The grammar -/

/-- A number of slashes. -/
def slashes (n : Nat) : String := String.ofList (List.replicate n '/')

/-- Whether a text names a resource of a collection by its id: the word of the collection, a slash
and the id, which is not empty and has no slash, with any number of slashes around them. -/
def Names (name : String) (c : Collection) (id : String) : Prop :=
  id ≠ "" ∧ '/' ∉ id.toList ∧
    ∃ before after, name = slashes before ++ (c.word ++ "/" ++ id) ++ slashes after

/-- A name is what it is cut down to, with slashes around it. -/
private theorem exists_eq_slashes (name : String) :
    ∃ before after, name =
      slashes before ++ String.ofList (Text.trim (· == '/') name.toList) ++ slashes after := by
  obtain ⟨before, after, hname, hedges⟩ := Text.exists_eq_append_trim (· == '/') name.toList
  have hbefore : before = List.replicate before.length '/' :=
    List.eq_replicate_of_mem fun c hc => by simpa using hedges c (List.mem_append_left _ hc)
  have hafter : after = List.replicate after.length '/' :=
    List.eq_replicate_of_mem fun c hc => by simpa using hedges c (List.mem_append_right _ hc)
  refine ⟨before.length, after.length, ?_⟩
  rw [← String.toList_inj]
  simpa [slashes, ← hbefore, ← hafter] using hname

/-- What a name of a resource is cut down to. -/
theorem Names.trim_eq {name : String} {c : Collection} {id : String} (h : Names name c id) :
    Text.trim (· == '/') name.toList = c.word.toList ++ '/' :: id.toList := by
  obtain ⟨hid, hslash, before, after, rfl⟩ := h
  have hfirst : ∀ d ∈ (c.word.toList ++ '/' :: id.toList).head?, (d == '/') = false := by
    intro d hd
    rw [List.head?_append_of_ne_nil _ c.word_ne_empty] at hd
    rw [beq_eq_false_iff_ne]
    rintro rfl
    exact c.slash_notMem_word (List.mem_of_mem_head? hd)
  have hlast : ∀ d ∈ (c.word.toList ++ '/' :: id.toList).getLast?, (d == '/') = false := by
    intro d hd
    have hne : id.toList ≠ [] := by simpa using hid
    rw [List.getLast?_append_of_ne_nil _ (List.cons_ne_nil _ _),
      List.getLast?_cons_of_ne_nil hne] at hd
    rw [beq_eq_false_iff_ne]
    rintro rfl
    exact hslash (List.mem_of_getLast? hd)
  have hname : (slashes before ++ (c.word ++ "/" ++ id) ++ slashes after).toList =
      List.replicate before '/' ++ (c.word.toList ++ '/' :: id.toList) ++
        List.replicate after '/' := by
    simp [slashes]
  rw [hname]
  exact Text.trim_append (by simp +contextual) (by simp +contextual) hfirst hlast (by simp)

/-! ### Reading -/

/-- A name is read by what stands before and after its first slash, once those around it are taken
off. -/
theorem ofName_of_trim_eq {name : String} {word id : List Char}
    (h : Text.trim (· == '/') name.toList = word ++ '/' :: id) (hword : '/' ∉ word) :
    ofName name =
      match Collection.ofWord? (String.ofList word) with
      | some c =>
        if id.isEmpty ∨ '/' ∈ id then .error (.unsupportedResource name)
        else .ok ⟨c, .text (String.ofList id)⟩
      | none => .error (.unsupportedResource name) := by
  rw [ofName, h]
  simp only [Text.takeWhile_append_mark hword, Text.dropWhile_append_mark hword]
  cases Collection.ofWord? (String.ofList word) <;> simp

/-- A name without a slash but around it is refused. -/
theorem ofName_of_slash_notMem {name : String} (h : '/' ∉ Text.trim (· == '/') name.toList) :
    ofName name = .error (.unsupportedResource name) := by
  simp only [ofName, Text.dropWhile_of_notMem h]
  split <;> simp

/-- The names of the grammar are read as the resources that they name. -/
theorem Names.ofName_eq {name : String} {c : Collection} {id : String} (h : Names name c id) :
    ofName name = .ok ⟨c, .text id⟩ := by
  rw [ofName_of_trim_eq h.trim_eq c.slash_notMem_word]
  simp [h.1, h.2.1]

/-- What is refused is refused as a name of no supported form. -/
theorem ofName_eq_error {name : String} {cause : Failure} (h : ofName name = .error cause) :
    cause = .unsupportedResource name := by
  unfold ofName at h
  dsimp only at h
  split at h
  · split at h
    · exact (Except.error.inj h).symm
    · simp at h
  · exact (Except.error.inj h).symm

/-- What is read is named. -/
theorem names_of_ofName {name : String} {r : Resource} (h : ofName name = .ok r) :
    ∃ id, r.id = .text id ∧ Names name r.collection id := by
  -- without its edges the name is cut at its first slash; with none left it is refused
  by_cases hmark : '/' ∈ Text.trim (· == '/') name.toList
  · obtain ⟨word, id, hcore, hword⟩ := List.eq_append_cons_of_mem hmark
    rw [ofName_of_trim_eq hcore hword] at h
    split at h
    · next c hc =>
      split at h
      · simp at h
      · next hid =>
        obtain rfl := Except.ok.inj h
        obtain ⟨hne, hslash⟩ := not_or.mp hid
        refine ⟨_, rfl, by simpa using hne, by simpa using hslash, ?_⟩
        obtain ⟨before, after, hname⟩ := exists_eq_slashes name
        rw [hcore] at hname
        refine ⟨before, after, hname.trans ?_⟩
        have hcore : String.ofList (word ++ '/' :: id) = c.word ++ "/" ++ String.ofList id := by
          rw [← Collection.ofWord?_eq_some_iff.mp hc, ← String.toList_inj]
          simp
        rw [hcore]
    · simp at h
  · rw [ofName_of_slash_notMem hmark] at h
    simp at h

/-- **What a name is read as**: the resource that it names. -/
theorem ofName_eq_ok_iff {name : String} {r : Resource} :
    ofName name = .ok r ↔ ∃ id, r.id = .text id ∧ Names name r.collection id := by
  refine ⟨names_of_ofName, ?_⟩
  rintro ⟨id, hid, h⟩
  rw [h.ofName_eq, ← hid]

/-! ### The own names of resources -/

/-- **Which resources are read back** from their own name: those whose id can stand in one. -/
theorem exists_ofName_fullName_iff {c : Collection} {id : String} :
    (∃ r, ofName (fullName ⟨c, .text id⟩) = .ok r ∧ r.same ⟨c, .text id⟩ = true) ↔
      id ≠ "" ∧ '/' ∉ id.toList := by
  constructor
  · rintro ⟨r, hread, hsame⟩
    obtain ⟨read, hid, hnames⟩ := ofName_eq_ok_iff.mp hread
    have hread : read = id := by
      rw [same, Bool.and_eq_true, hid, Value.same_text] at hsame
      exact beq_iff_eq.mp hsame.2
    exact hread ▸ ⟨hnames.1, hnames.2.1⟩
  · rintro ⟨hid, hslash⟩
    have hnames : Names (fullName ⟨c, .text id⟩) c id :=
      ⟨hid, hslash, 0, 0, by simp [fullName, slashes]⟩
    exact ⟨_, hnames.ofName_eq, by simp [same]⟩

/-- **The reader of names, the writer and the dispatch agree.** A text is read exactly if it is one
of the three words, a slash and an id that is not empty and has no slash, with any number of slashes
around it; it is read as the resource that it names, whose own name has no slashes around it, and
any other text is refused. A resource is read back from its own name exactly if its id is not empty
and has no slash, and requests for it go to its collection whatever the id. -/
theorem names_correspond :
    (∀ name, (∃ r, ofName name = .ok r) ↔
      ∃ word ∈ ["projects", "folders", "organizations"], ∃ id before after,
        id ≠ "" ∧ '/' ∉ id.toList ∧
          name = slashes before ++ (word ++ "/" ++ id) ++ slashes after) ∧
    (∀ name r, ofName name = .ok r ↔ ∃ id,
      r.id = .text id ∧ r.fullName = r.collection.word ++ "/" ++ id ∧
        Names name r.collection id) ∧
    (∀ name, (¬ ∃ r, ofName name = .ok r) → ofName name = .error (.unsupportedResource name)) ∧
    (∀ c id, (∃ r, ofName (fullName ⟨c, .text id⟩) = .ok r ∧ r.same ⟨c, .text id⟩ = true) ↔
      id ≠ "" ∧ '/' ∉ id.toList) ∧
    ∀ r : Resource, Collection.owning r.fullName = .ok r.collection := by
  refine ⟨fun name => ?_, fun name r => ?_, fun name h => ?_,
    fun c id => exists_ofName_fullName_iff, Collection.owning_fullName⟩
  · rw [← Collection.exists_word_iff (P := fun word => ∃ id before after,
      id ≠ "" ∧ '/' ∉ id.toList ∧ name = slashes before ++ (word ++ "/" ++ id) ++ slashes after)]
    constructor
    · rintro ⟨r, hr⟩
      obtain ⟨id, -, hne, hslash, before, after, hname⟩ := ofName_eq_ok_iff.mp hr
      exact ⟨r.collection, id, before, after, hne, hslash, hname⟩
    · rintro ⟨c, id, before, after, hne, hslash, hname⟩
      exact ⟨_, Names.ofName_eq (c := c) ⟨hne, hslash, before, after, hname⟩⟩
  · rw [ofName_eq_ok_iff]
    refine exists_congr fun id => and_congr_right fun hid => ?_
    simp [fullName, hid]
  · cases hread : ofName name with
    | ok r => exact absurd ⟨r, hread⟩ h
    | error cause => rw [ofName_eq_error hread]

/-- Slashes around a name are taken off, more than one within it is too many, and the resource with
a slash in its id is not read back though requests for it go to its collection. -/
theorem names_correspond_slashes :
    ofName "//folders/a:b///" = .ok ⟨.folders, .text "a:b"⟩ ∧
      ofName "folders//a" = .error (.unsupportedResource "folders//a") ∧
      (¬ ∃ r, ofName (fullName ⟨.projects, .text "p/"⟩) = .ok r ∧
        r.same ⟨.projects, .text "p/"⟩ = true) ∧
      Collection.owning (fullName ⟨.projects, .text "p/"⟩) = .ok .projects := by
  have hnames : Names "//folders/a:b///" .folders "a:b" :=
    ⟨by decide, by decide, 2, 3, by simp [slashes, Collection.word]⟩
  have hrefused : ¬ ∃ r, ofName "folders//a" = .ok r := by
    have : ofName "folders//a" = .error (.unsupportedResource "folders//a") := rfl
    simp [this]
  exact ⟨(names_correspond.2.1 _ _).mpr ⟨"a:b", rfl, rfl, hnames⟩,
    names_correspond.2.2.1 _ hrefused,
    fun h => ((names_correspond.2.2.2.1 .projects "p/").mp h).2 (by decide),
    names_correspond.2.2.2.2 _⟩

end Resource

end AccessPolicy
