import Excerpt.Settings

/-!
# The judge of settings

Every field is judged by itself, and all that is wrong is reported together. A truth value may be
given as a number or in words, a path as a text, and a table as a record of texts.

* `isAbout_of_judge`: every issue is about a field that is given.
* `judge_takesTexts`: a table of texts is taken as it is.
-/

namespace Excerpt

/-- What is wrong with a field. -/
inductive IssueKind where
  | extraForbidden
  | boolParsing
  | boolType
  | dictType
  | stringType
  | pathType
  deriving DecidableEq, Repr

namespace IssueKind

def label : IssueKind → String
  | .extraForbidden => "extra_forbidden"
  | .boolParsing => "bool_parsing"
  | .boolType => "bool_type"
  | .dictType => "dict_type"
  | .stringType => "string_type"
  | .pathType => "path_type"

/-- The issue with a field. -/
def issue (kind : IssueKind) (field : Text) : Issue := ⟨kind.label, field⟩

end IssueKind

namespace Settings

/-! ## Fields -/

/-- The texts that mean yes. -/
def yesTexts : List Text := ["1", "t", "y", "on", "yes", "true"].map String.toList

/-- The texts that mean no. -/
def noTexts : List Text := ["0", "f", "n", "no", "off", "false"].map String.toList

/-- A text with the letters of ASCII in lower case. -/
def asciiLower (t : Text) : Text := t.map Char.toLower

/-- Whether an integer can be weighed as a truth value at all: it fits a word with a sign. -/
def isSmall (n : Int) : Bool := -9223372036854775808 ≤ n && n ≤ 9223372036854775807

/-- A datum as a truth value. -/
def readBool (field : Text) : Datum → Except (List Issue) Bool
  | .bool b => .ok b
  | .int 0 => .ok false
  | .int 1 => .ok true
  | .int n => .error [(if isSmall n then IssueKind.boolParsing else .boolType).issue field]
  | .text t =>
    if yesTexts.contains (asciiLower t) then .ok true
    else if noTexts.contains (asciiLower t) then .ok false
    else .error [IssueKind.boolParsing.issue field]
  | _ => .error [IssueKind.boolType.issue field]

/-- A datum as a path. -/
def readPath (field : Text) : Datum → Except (List Issue) Path
  | .text t => .ok (Path.ofText t)
  | _ => .error [IssueKind.pathType.issue field]

/-- The name of a field inside another. -/
def inner (field key : Text) : Text := field ++ '.' :: key

/-- The entry that a field of a table is, if its value is a text. -/
def entry? : Text × Datum → Option (Text × Text)
  | (key, .text tag) => some (key, tag)
  | _ => none

/-- What is wrong with the field of a table. -/
def entryIssue? (field : Text) (entry : Text × Datum) : Option Issue :=
  match entry? entry with
  | some _ => none
  | none => some (IssueKind.stringType.issue (inner field entry.1))

/-- The entries of a record of texts, or its values that are none. -/
def readEntries (field : Text) (fields : Fields) : Except (List Issue) (List (Text × Text)) :=
  match fields.filterMap (entryIssue? field) with
  | [] => .ok (fields.filterMap entry?)
  | issues => .error issues

/-- A datum as a table of languages. -/
def readLanguages (field : Text) : Datum → Except (List Issue) (List (Text × Text))
  | .record fields => readEntries field fields
  | _ => .error [IssueKind.dictType.issue field]

/-- The value of a field that need not be there. -/
def field? {α : Type} (fields : Fields) (name : Text)
    (read : Text → Datum → Except (List Issue) α) : Except (List Issue) (Option α) :=
  match fields.lookup name with
  | none => .ok none
  | some value => (read name value).map some

def issuesOf {α : Type} : Except (List Issue) α → List Issue
  | .ok _ => []
  | .error issues => issues

/-- The fields that no setting has. -/
def extraIssues (fields : Fields) : List Issue :=
  (fields.filter fun field =>
    !knownFields.contains field.1).map fun field => IssueKind.extraForbidden.issue field.1

/-- Judges the fields of settings. -/
def judge : Judge := fun fields =>
  let root := field? fields rootField readPath
  let languages := field? fields languagesField readLanguages
  let skipFences := field? fields skipFencesField readBool
  match root, languages, skipFences, extraIssues fields with
  | .ok root, .ok languages, .ok skipFences, [] => .ok ⟨root, languages, skipFences⟩
  | root, languages, skipFences, extra =>
    .error (issuesOf root ++ issuesOf languages ++ issuesOf skipFences ++ extra)

/-! ## Laws -/

/-- Whether the issue is about the field, or about one inside it. -/
def IsAbout (field : Text) (issue : Issue) : Prop :=
  issue.field = field ∨ ∃ key, issue.field = inner field key

theorem isAbout_of_mem {field : Text} (kind : IssueKind) {issue : Issue}
    (h : issue ∈ [kind.issue field]) : IsAbout field issue := by
  cases List.mem_singleton.mp h
  exact .inl rfl

theorem isAbout_of_readPath {field : Text} {value : Datum} {issues : List Issue}
    (h : readPath field value = .error issues) : ∀ issue ∈ issues, IsAbout field issue := by
  unfold readPath at h
  split at h
  · cases h
  · cases h
    exact fun _ => isAbout_of_mem _

theorem isAbout_of_readBool {field : Text} {value : Datum} {issues : List Issue}
    (h : readBool field value = .error issues) : ∀ issue ∈ issues, IsAbout field issue := by
  have hOne : ∃ kind : IssueKind, issues = [kind.issue field] := by
    unfold readBool at h
    split at h
    · cases h
    · cases h
    · cases h
    · cases h
      exact ⟨_, rfl⟩
    · split at h
      · cases h
      · split at h
        · cases h
        · cases h
          exact ⟨_, rfl⟩
    · cases h
      exact ⟨_, rfl⟩
  obtain ⟨kind, rfl⟩ := hOne
  exact fun _ => isAbout_of_mem kind

theorem isAbout_of_readLanguages {field : Text} {value : Datum} {issues : List Issue}
    (h : readLanguages field value = .error issues) : ∀ issue ∈ issues, IsAbout field issue := by
  unfold readLanguages at h
  split at h
  · unfold readEntries at h
    split at h
    · cases h
    · cases h
      intro issue hIssue
      obtain ⟨entry, -, hEntry⟩ := List.mem_filterMap.mp hIssue
      unfold entryIssue? at hEntry
      split at hEntry
      · cases hEntry
      · cases hEntry
        exact .inr ⟨entry.1, rfl⟩
  · cases h
    exact fun _ => isAbout_of_mem _

/-- A field that is not given has no issues. -/
theorem exists_field_of_issue {α : Type} {fields : Fields} {name : Text}
    {read : Text → Datum → Except (List Issue) α}
    (hRead : ∀ value issues, read name value = .error issues →
      ∀ issue ∈ issues, IsAbout name issue)
    {issue : Issue} (hIssue : issue ∈ issuesOf (field? fields name read)) :
    ∃ field ∈ fields, IsAbout field.1 issue := by
  unfold field? at hIssue
  split at hIssue
  · cases hIssue
  · rename_i value hLookup
    obtain ⟨before, after, rfl, -⟩ := List.lookup_eq_some_iff.mp hLookup
    cases hValue : read name value with
    | ok a =>
      rw [hValue] at hIssue
      cases hIssue
    | error issues =>
      rw [hValue] at hIssue
      exact ⟨(name, value), by simp, hRead value issues hValue issue hIssue⟩

/-- Every issue is about a field that is given, or about one inside it. -/
theorem isAbout_of_judge {fields : Fields} {issues : List Issue}
    (h : judge fields = .error issues) :
    ∀ issue ∈ issues, ∃ field ∈ fields, IsAbout field.1 issue := by
  have hIssues : issues = issuesOf (field? fields rootField readPath) ++
      issuesOf (field? fields languagesField readLanguages) ++
      issuesOf (field? fields skipFencesField readBool) ++ extraIssues fields := by
    unfold judge at h
    dsimp only at h
    split at h
    · cases h
    · exact (Except.error.inj h).symm
  subst hIssues
  intro issue hIssue
  simp only [List.mem_append] at hIssue
  rcases hIssue with ((hRoot | hLanguages) | hSkip) | hExtra
  · exact exists_field_of_issue (fun _ _ => isAbout_of_readPath) hRoot
  · exact exists_field_of_issue (fun _ _ => isAbout_of_readLanguages) hLanguages
  · exact exists_field_of_issue (fun _ _ => isAbout_of_readBool) hSkip
  · obtain ⟨field, hField, rfl⟩ := List.mem_map.mp hExtra
    exact ⟨field, (List.mem_filter.mp hField).1, .inl rfl⟩

theorem readEntries_fields (field : Text) (entries : List (Text × Text)) :
    readEntries field (LanguageTable.fields entries) = .ok entries := by
  have hNone : (LanguageTable.fields entries).filterMap (entryIssue? field) = [] := by
    rw [LanguageTable.fields, List.filterMap_map]
    exact List.filterMap_eq_nil_iff.mpr fun _ _ => rfl
  have hAll : (LanguageTable.fields entries).filterMap entry? = entries := by
    rw [LanguageTable.fields, List.filterMap_map]
    exact List.filterMap_some
  rw [readEntries, hNone, hAll]

/-- What is judged of the record of all fields. -/
theorem judge_record_eq_ok_iff {root skipFences : Datum} {entries : List (Text × Text)}
    {given : GivenSettings} :
    judge (record root (.record (LanguageTable.fields entries)) skipFences) = .ok given ↔
      ∃ path skip, readPath rootField root = .ok path ∧
        readBool skipFencesField skipFences = .ok skip ∧
        given = ⟨some path, some entries, some skip⟩ := by
  have hLanguages : readLanguages languagesField (.record (LanguageTable.fields entries)) =
      .ok entries := readEntries_fields _ entries
  have hJudge : judge (record root (.record (LanguageTable.fields entries)) skipFences) =
      match (readPath rootField root).map some,
        (readLanguages languagesField (.record (LanguageTable.fields entries))).map some,
        (readBool skipFencesField skipFences).map some, ([] : List Issue) with
      | .ok root, .ok languages, .ok skipFences, [] => .ok ⟨root, languages, skipFences⟩
      | root, languages, skipFences, extra =>
        .error (issuesOf root ++ issuesOf languages ++ issuesOf skipFences ++ extra) := rfl
  rw [hJudge, hLanguages]
  cases readPath rootField root <;> cases readBool skipFencesField skipFences <;>
    simp [Except.map, eq_comm]

theorem judge_takesTexts : Judge.TakesTexts judge where
  languages h entries' := by
    obtain ⟨path, skip, hPath, hSkip, rfl⟩ := judge_record_eq_ok_iff.mp h
    exact judge_record_eq_ok_iff.mpr ⟨path, skip, hPath, hSkip, rfl⟩

end Settings

end Excerpt
