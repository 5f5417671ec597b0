import Excerpt.Main.Options
import Excerpt.Main.Settings
import Excerpt.Proofs.Insertion.Phases
import Excerpt.Proofs.Text.Pieces
import Mathlib.Data.List.Nodup

/-!
# The tags of a table that is given

The tags that are given with the options of a Markdown text are laid on top of the standard ones
by the spelling of their extensions, and the extensions are brought into normal form only then. Of
two entries with the same normal form the later one wins, so a given tag wins over a standard one
also if its extension is spelled in another way.

* `Path.extension_eq_iff`: the last suffix of a name.
* `LanguageTable.lookup_normalise_of_last`, `LanguageTable.lookup_normalise_of_forall_ne`: what is
  found in a table of normal forms.
* `Markdown.mergeLanguages_fields`: a table on top of the standard one.
* `Markdown.readOptions_languages`: options with a table and without it.
* `Markdown.fence_tags`: the tags of all files.
-/

namespace Excerpt

/-! ## The last suffix of a name -/

namespace Path

/-- What a name has behind its last dot, if something stands on both sides of it, and otherwise
nothing. -/
inductive LastSuffix : Text → Text → Prop
  | behind {stem suffix : Text} (hStem : stem ≠ []) (hSuffix : suffix ≠ []) (hDot : '.' ∉ suffix) :
      LastSuffix (stem ++ '.' :: suffix) suffix
  | none {name : Text} (hNone : ∀ stem suffix, name = stem ++ '.' :: suffix → '.' ∉ suffix →
      stem = [] ∨ suffix = []) : LastSuffix name []

theorem extension_eq_iff {p : Path} {suffix : Text} :
    p.extension = suffix ↔ LastSuffix p.name suffix := by
  unfold extension
  generalize p.name = name
  constructor
  · rintro rfl
    cases hCut : Text.cutLast '.' name with
    | none =>
      refine .none fun stem suffix hName hDot => ?_
      cases hCut.symm.trans (Text.cutLast_eq_some_iff.mpr ⟨hName, hDot⟩)
    | some parts =>
      obtain ⟨stem, suffix⟩ := parts
      have hOnly : ∀ stem' suffix', name = stem' ++ '.' :: suffix' → '.' ∉ suffix' →
          stem' = stem ∧ suffix' = suffix := by
        intro stem' suffix' hName hDot
        cases hCut.symm.trans (Text.cutLast_eq_some_iff.mpr ⟨hName, hDot⟩)
        exact ⟨rfl, rfl⟩
      obtain ⟨rfl, hDot⟩ := Text.cutLast_eq_some_iff.mp hCut
      by_cases hStem : stem = []
      · simp only [hStem, List.isEmpty_nil, if_true]
        refine .none fun stem' suffix' hName hDot' => .inl ?_
        exact (hOnly stem' suffix' (hStem ▸ hName) hDot').1.trans hStem
      · simp only [List.isEmpty_iff, hStem, if_false]
        by_cases hSuffix : suffix = []
        · subst hSuffix
          exact .none fun stem' suffix' hName hDot' => .inr (hOnly stem' suffix' hName hDot').2
        · exact .behind hStem hSuffix hDot
  · intro h
    cases h with
    | behind hStem hSuffix hDot =>
      rw [Text.cutLast_eq_some_iff.mpr ⟨rfl, hDot⟩]
      simp only [List.isEmpty_iff, hStem, if_false]
    | none hNone =>
      cases hCut : Text.cutLast '.' name with
      | none => rfl
      | some parts =>
        obtain ⟨stem, suffix⟩ := parts
        obtain ⟨hName, hDot⟩ := Text.cutLast_eq_some_iff.mp hCut
        rcases hNone stem suffix hName hDot with rfl | rfl
        · rfl
        · simp

end Path

/-! ## Tables of normal forms -/

namespace LanguageTable

variable {table : LanguageTable} {extension other key tag : Text}
  {entries before after : List (Text × Text)}

theorem lookup_foldl_put_of_forall_ne (h : ∀ entry ∈ entries, normalForm entry.1 ≠ extension)
    (table : LanguageTable) :
    (entries.foldl (fun table entry => table.put (normalForm entry.1) entry.2) table).lookup
      extension = table.lookup extension := by
  induction entries generalizing table with
  | nil => rfl
  | cons entry rest ih =>
    obtain ⟨hFirst, hRest⟩ := List.forall_mem_cons.mp h
    rw [List.foldl_cons, ih hRest, Table.lookup_put_of_ne hFirst.symm]

theorem lookup_normalise_of_forall_ne (h : ∀ entry ∈ entries, normalForm entry.1 ≠ extension) :
    (normalise entries).lookup extension = none :=
  lookup_foldl_put_of_forall_ne h []

/-- Of the entries with a normal form the last one is found. -/
theorem lookup_normalise_of_last (h : ∀ entry ∈ after, normalForm entry.1 ≠ normalForm key) :
    (normalise (before ++ (key, tag) :: after)).lookup (normalForm key) = some tag := by
  unfold normalise
  rw [List.foldl_append, List.foldl_cons, lookup_foldl_put_of_forall_ne h, Table.lookup_put_self]

/-! ## A table on top of the standard one -/

/-- The standard extension. -/
def pythonExtension : Text := "py".toList

/-- The tag of the standard extension. -/
def pythonTag : Text := "python".toList

/-- The entries that are given, on top of the standard one. -/
def merged (user : List (Text × Text)) : List (Text × Text) :=
  (pythonExtension, (user.lookup pythonExtension).getD pythonTag) ::
    user.filter fun entry => entry.1 != pythonExtension

theorem lookup_fields (entries : List (Text × Text)) (key : Text) :
    (fields entries).lookup key = (entries.lookup key).map Datum.text := by
  induction entries with
  | nil => rfl
  | cons entry rest ih =>
    obtain ⟨extension, tag⟩ := entry
    unfold fields at ih ⊢
    rw [List.map_cons, List.lookup_cons, List.lookup_cons, ih]
    cases key == extension <;> rfl

variable {user : List (Text × Text)}

/-- Whether no two of the extensions have the same normal form. -/
def IsUnambiguous (user : List (Text × Text)) : Prop :=
  (user.map fun entry => normalForm entry.1).Nodup

theorem IsUnambiguous.eq (h : IsUnambiguous user) {a b : Text × Text} (ha : a ∈ user)
    (hb : b ∈ user) (hForm : normalForm a.1 = normalForm b.1) : a = b :=
  List.inj_on_of_nodup_map h ha hb hForm

theorem IsUnambiguous.lookup (h : IsUnambiguous user) (hEntry : (key, tag) ∈ user) :
    user.lookup key = some tag := by
  cases hLookup : user.lookup key with
  | none =>
    have hNone := List.lookup_eq_none_iff.mp hLookup _ hEntry
    simp at hNone
  | some tag' =>
    obtain ⟨before, after, hUser, -⟩ := List.lookup_eq_some_iff.mp hLookup
    have hMem : (key, tag') ∈ user := by
      rw [hUser]
      simp
    cases h.eq hMem hEntry rfl
    rfl

/-- A given entry is the last one with its normal form, also if it replaces the standard one. -/
theorem exists_merged_eq (h : IsUnambiguous user) (hEntry : (key, tag) ∈ user) :
    ∃ before after, merged user = before ++ (key, tag) :: after ∧
      ∀ entry ∈ after, normalForm entry.1 ≠ normalForm key := by
  by_cases hKey : key = pythonExtension
  · subst hKey
    refine ⟨[], user.filter fun entry => entry.1 != pythonExtension, ?_, ?_⟩
    · unfold merged
      rw [h.lookup hEntry]
      rfl
    · intro entry hOther hForm
      obtain ⟨hOther, hSpelling⟩ := List.mem_filter.mp hOther
      rw [h.eq hOther hEntry hForm] at hSpelling
      simp at hSpelling
  · have hKept : (key, tag) ∈ user.filter fun entry => entry.1 != pythonExtension :=
      List.mem_filter.mpr ⟨hEntry, bne_iff_ne.mpr hKey⟩
    -- the standard entry may have the same normal form, but it stands in front
    obtain ⟨before, after, hSplit⟩ := List.append_of_mem hKept
    refine ⟨(pythonExtension, (user.lookup pythonExtension).getD pythonTag) :: before, after,
      ?_, ?_⟩
    · unfold merged
      rw [hSplit]
      rfl
    · intro entry hOther hForm
      have hNodup : IsUnambiguous (before ++ (key, tag) :: after) := by
        rw [← hSplit]
        exact h.sublist (List.filter_sublist.map _)
      unfold IsUnambiguous at hNodup
      rw [List.map_append, List.map_cons, List.nodup_append, List.nodup_cons] at hNodup
      exact hNodup.2.1.1 (List.mem_map.mpr ⟨entry, hOther, hForm⟩)

theorem normalForm_pythonExtension : normalForm pythonExtension = pythonExtension := by
  decide +kernel

theorem lookup_merged_of_mem (h : IsUnambiguous user) (hEntry : (key, tag) ∈ user) :
    (normalise (merged user)).lookup (normalForm key) = some tag := by
  obtain ⟨before, after, hMerged, hAfter⟩ := exists_merged_eq h hEntry
  rw [hMerged, lookup_normalise_of_last hAfter]

theorem lookup_merged_python (h : ∀ entry ∈ user, normalForm entry.1 ≠ pythonExtension) :
    (normalise (merged user)).lookup pythonExtension = some pythonTag := by
  have hLookup : user.lookup pythonExtension = none := by
    rw [List.lookup_eq_none_iff]
    intro entry hEntry
    rw [bne_iff_ne]
    intro hKey
    apply h entry hEntry
    rw [← hKey, normalForm_pythonExtension]
  have hBehind : ∀ entry ∈ user.filter fun entry => entry.1 != pythonExtension,
      normalForm entry.1 ≠ normalForm pythonExtension := by
    intro entry hEntry
    rw [normalForm_pythonExtension]
    exact h entry (List.mem_filter.mp hEntry).1
  have hLast := @lookup_normalise_of_last pythonExtension pythonTag [] _ hBehind
  rw [normalForm_pythonExtension] at hLast
  unfold merged
  rw [hLookup]
  exact hLast

theorem lookup_merged_of_forall_ne (h : ∀ entry ∈ user, normalForm entry.1 ≠ extension)
    (hPython : extension ≠ pythonExtension) :
    (normalise (merged user)).lookup extension = none := by
  apply lookup_normalise_of_forall_ne
  refine List.forall_mem_cons.mpr ⟨?_, ?_⟩
  · rw [normalForm_pythonExtension]
    exact hPython.symm
  · intro entry hEntry
    exact h entry (List.mem_filter.mp hEntry).1

/-! ## The tag of a file -/

/-- The tag of the files with a suffix: the one that is given for it, in whatever spelling, or else
the standard one, or else the suffix itself. -/
inductive FenceTag (user : List (Text × Text)) (suffix : Text) : Text → Prop
  | given {key tag : Text} (hEntry : (key, tag) ∈ user) (hKey : normalForm key = suffix.lower) :
      FenceTag user suffix tag
  | python (hNone : ∀ entry ∈ user, normalForm entry.1 ≠ suffix.lower)
      (hSuffix : suffix.lower = pythonExtension) : FenceTag user suffix pythonTag
  | verbatim (hNone : ∀ entry ∈ user, normalForm entry.1 ≠ suffix.lower)
      (hSuffix : suffix.lower ≠ pythonExtension) : FenceTag user suffix suffix

theorem fenceTag_tagOf (h : IsUnambiguous user) (filename : Text) :
    FenceTag user (Path.ofText filename).extension ((normalise (merged user)).tagOf filename) := by
  by_cases hGiven : ∃ entry ∈ user,
      normalForm entry.1 = (Path.ofText filename).extension.lower
  · obtain ⟨⟨key, tag⟩, hEntry, hKey⟩ := hGiven
    have hLookup := lookup_merged_of_mem h hEntry
    rw [hKey] at hLookup
    rw [tagOf_of_lookup hLookup]
    exact .given hEntry hKey
  · have hNone : ∀ entry ∈ user, normalForm entry.1 ≠ (Path.ofText filename).extension.lower :=
      fun entry hEntry hKey => hGiven ⟨entry, hEntry, hKey⟩
    by_cases hPython : (Path.ofText filename).extension.lower = pythonExtension
    · have hLookup := lookup_merged_python (hPython ▸ hNone)
      rw [← hPython] at hLookup
      rw [tagOf_of_lookup hLookup]
      exact .python hNone hPython
    · rw [tagOf_of_not_mem (lookup_merged_of_forall_ne hNone hPython)]
      exact .verbatim hNone hPython

end LanguageTable

/-! ## Options -/

namespace Markdown

open LanguageTable

variable {set : OptionSetter} {judge : Judge} {before after : Fields}

theorem lookup_standard_isNone (key : Text) (tag : Datum) :
    (List.lookup key [(pythonExtension, tag)]).isNone = (key != pythonExtension) := by
  rw [List.lookup_cons]
  cases h : key == pythonExtension <;> simp [bne, h]

theorem mergeLanguages_fields (user : List (Text × Text)) :
    mergeLanguages (.record (fields user)) = .ok (fields (merged user)) := by
  cases user with
  | nil => rfl
  | cons entry rest =>
    have hFront : ((fields (entry :: rest)).lookup pythonExtension).getD (.text pythonTag) =
        .text (((entry :: rest).lookup pythonExtension).getD pythonTag) := by
      rw [lookup_fields]
      cases (entry :: rest).lookup pythonExtension <;> rfl
    have hBehind : (fields (entry :: rest)).filter (fun field =>
          (List.lookup field.1 [(pythonExtension, Datum.text pythonTag)]).isNone) =
        fields ((entry :: rest).filter fun entry => entry.1 != pythonExtension) := by
      simp only [lookup_standard_isNone]
      unfold fields
      rw [List.filter_map]
      rfl
    change Except.ok ([(pythonExtension,
        ((fields (entry :: rest)).lookup pythonExtension).getD (.text pythonTag))] ++
      (fields (entry :: rest)).filter fun field =>
        (List.lookup field.1 [(pythonExtension, Datum.text pythonTag)]).isNone) = _
    rw [hFront, hBehind]
    rfl

/-- Options that do not name the table are set alike whatever the table is. -/
theorem setAll_languages (hSet : set.KeepsApart) {given : Fields}
    (hNone : ∀ option ∈ given, option.1 ≠ Settings.languagesField) (options : Options)
    (table : Datum) :
    setAll set { options with languages := table } given =
      (setAll set options given).map fun options => { options with languages := table } := by
  induction given generalizing options with
  | nil => rfl
  | cons option rest ih =>
    obtain ⟨hName, hRest⟩ := List.forall_mem_cons.mp hNone
    unfold setAll at ih ⊢
    rw [List.foldlM_cons, List.foldlM_cons, hSet.other options option.2 table hName]
    cases set options option.1 option.2 with
    | error e => rfl
    | ok next => exact ih hRest next

theorem readOptions_eq_ok_iff {given : Fields} {settings : Settings} :
    readOptions set judge given = .ok settings ↔
      ∃ options languages, setAll set {} given = .ok options ∧
        mergeLanguages options.languages = .ok languages ∧
        Settings.ofFields judge
          (Settings.record options.root (.record languages) options.skipFences) =
            .ok settings := by
  unfold readOptions settingsOf
  simp only [bind_eq_ok_iff, mapError_eq_ok_iff]
  exact exists_congr fun options => exists_and_left.symm

/-- Only the table of the settings changes with the table that is given. -/
theorem ofFields_languages (hJudge : judge.TakesTexts) {root skipFences : Datum}
    {entries : List (Text × Text)} {settings : Settings}
    (h : Settings.ofFields judge
      (Settings.record root (.record (fields entries)) skipFences) = .ok settings)
    (entries' : List (Text × Text)) :
    Settings.ofFields judge (Settings.record root (.record (fields entries')) skipFences) =
      .ok { settings with languages := normalise entries' } := by
  obtain ⟨given, hGiven, rfl⟩ := map_eq_ok_iff.mp h
  exact map_eq_ok_iff.mpr ⟨_, hJudge.languages hGiven entries', rfl⟩

/-- Options with a table, and the same options without it. -/
theorem readOptions_languages (hSet : set.KeepsApart) (hJudge : judge.TakesTexts)
    {settings : Settings} (user : List (Text × Text))
    (hNone : ∀ option ∈ before ++ after, option.1 ≠ Settings.languagesField)
    (h : readOptions set judge (before ++ after) = .ok settings) :
    readOptions set judge (before ++ (Settings.languagesField, .record (fields user)) :: after) =
      .ok { settings with languages := normalise (merged user) } := by
  obtain ⟨options, languages, hOptions, hLanguages, hSettings⟩ := readOptions_eq_ok_iff.mp h
  -- without a table the standard one is there, as if an empty one were given
  have hStart : setAll set {} (before ++ after) =
      (setAll set {} (before ++ after)).map
        fun options => { options with languages := .record [] } :=
    setAll_languages hSet hNone {} (.record [])
  rw [hOptions] at hStart
  have hEmpty : options.languages = .record (fields []) :=
    congrArg Options.languages (Except.ok.inj hStart)
  rw [hEmpty, mergeLanguages_fields] at hLanguages
  obtain rfl := Except.ok.inj hLanguages
  refine readOptions_eq_ok_iff.mpr ⟨{ options with languages := .record (fields user) },
    fields (merged user), ?_, mergeLanguages_fields user,
    ofFields_languages hJudge hSettings (merged user)⟩
  unfold setAll at hOptions ⊢
  rw [List.foldlM_append] at hOptions ⊢
  obtain ⟨front, hBefore, hAfter⟩ := bind_eq_ok_iff.mp hOptions
  refine bind_eq_ok_iff.mpr ⟨front, hBefore, ?_⟩
  rw [List.foldlM_cons, hSet.languages]
  have hBehind := setAll_languages hSet
    (fun option hOption => hNone option (List.mem_append_right before hOption)) front
    (.record (fields user))
  exact hBehind.trans (congrArg (Except.map _) hAfter)

/-! ## The tags of all files -/

/-- Options are kept apart, and a table of texts is taken as it is. Then a table can be given with
all options with which there are settings, and the tag of every file, and so of every block that is
inserted, is the one that the table has for its last suffix, in whatever case and with whatever dots
in front of it. -/
theorem fence_tags (hSet : set.KeepsApart) (hJudge : judge.TakesTexts)
    {user : List (Text × Text)} (hUser : IsUnambiguous user) {settings : Settings}
    (hNone : ∀ option ∈ before ++ after, option.1 ≠ Settings.languagesField)
    (h : readOptions set judge (before ++ after) = .ok settings) :
    ∃ table,
      readOptions set judge
          (before ++ (Settings.languagesField, .record (fields user)) :: after) =
        .ok { settings with languages := table } ∧
      (∀ filename, ∃ suffix, Path.LastSuffix (Path.ofText filename).name suffix ∧
        FenceTag user suffix (table.tagOf filename)) ∧
      ∀ disk line i, (Insertion.build ⟨disk, settings.root, table⟩ line).outcome = .ok i →
        ∃ filename suffix, Command.targetName line = .ok filename ∧
          Path.LastSuffix (Path.ofText filename).name suffix ∧ FenceTag user suffix i.tag := by
  have hTag (filename : Text) : Path.LastSuffix (Path.ofText filename).name
      (Path.ofText filename).extension := Path.extension_eq_iff.mp rfl
  refine ⟨normalise (merged user), readOptions_languages hSet hJudge user hNone h, ?_, ?_⟩
  · intro filename
    exact ⟨_, hTag filename, fenceTag_tagOf hUser filename⟩
  · intro disk line i hBuild
    obtain ⟨c, wanted, block, hParse, rfl⟩ := Insertion.exists_assemble_of_build hBuild
    exact ⟨c.filename, _, Command.targetName_of_parse hParse, hTag c.filename,
      fenceTag_tagOf hUser c.filename⟩

/-- Tags that are given for a header and, in another spelling, for the standard extension. -/
def headerTags : List (Text × Text) := [(".H".toList, "cpp".toList), ("..Py".toList, "py3".toList)]

/-- The given tags hold for any spelling, and other suffixes keep their case. -/
theorem fence_tags_spelled :
    ∃ table, readOptions setOption Settings.judge [(Settings.rootField, .text ['s']),
        (Settings.languagesField, .record (fields headerTags)),
        (Settings.skipFencesField, .text "no".toList)] = .ok ⟨⟨.relative, [['s']]⟩, table, false⟩ ∧
      (∃ suffix, Path.LastSuffix "a.b.h".toList suffix ∧
        FenceTag headerTags suffix (table.tagOf "d/a.b.h".toList)) ∧
      table.tagOf "a.PY".toList = "py3".toList ∧ table.tagOf "a.Rs".toList = "Rs".toList := by
  have hUser : IsUnambiguous headerTags := by
    unfold IsUnambiguous
    decide +kernel
  have hRead : readOptions setOption Settings.judge ([(Settings.rootField, .text ['s'])] ++
      [(Settings.skipFencesField, .text "no".toList)]) =
        .ok ⟨⟨.relative, [['s']]⟩, .standard, false⟩ := by
    rfl
  obtain ⟨table, hTable, hTags, -⟩ :=
    fence_tags setOption_keepsApart Settings.judge_takesTexts hUser (by decide) hRead
  obtain rfl : [("py".toList, "py3".toList), ("h".toList, "cpp".toList)] = table := by
    cases hTable
    rfl
  exact ⟨_, hTable, hTags "d/a.b.h".toList, by decide +kernel, by decide +kernel⟩

end Markdown

end Excerpt
