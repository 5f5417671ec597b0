import Excerpt.Main.Settings
import Excerpt.Markdown

/-!
# The keeper of options

An option that is a switch may be given in words; any other one is stored as it is, and only the
options that there are can be set.

* `setOption_keepsApart`: every option is stored by itself.
* `readSwitch_of_not_text`: a switch that is no text is judged by whether there is something in it.
* `readOptions_nothing`: without options the standard settings hold.
-/

namespace Excerpt.Markdown

/-- The texts that switch something on. -/
def onTexts : List Text := ["true", "yes", "y", "on", "1"].map String.toList

/-- The texts that switch something off. -/
def offTexts : List Text := ["false", "no", "n", "off", "0", "none"].map String.toList

/-- The value of a switch. -/
def readSwitch : Datum → Except OptionsError Bool
  | .text t =>
    if onTexts.contains (Text.lower t) then .ok true
    else if offTexts.contains (Text.lower t) then .ok false
    else .error (.refused "ValueError" ("Cannot parse bool value: ".toList ++ t.quoted))
  | value => .ok value.isTruthy

/-- Sets one option. -/
def setOption : OptionSetter := fun options name value =>
  if name = Settings.skipFencesField then
    (readSwitch value).map fun on => { options with skipFences := .bool on }
  else if name = Settings.rootField then .ok { options with root := value }
  else if name = Settings.languagesField then .ok { options with languages := value }
  else .error (.refused "KeyError" name.quoted)

theorem setOption_keepsApart : OptionSetter.KeepsApart setOption where
  languages options value := rfl
  other options value table hName := by
    unfold setOption
    split
    · cases readSwitch value <;> rfl
    · split <;> rfl

theorem readSwitch_of_not_text {value : Datum} (h : ∀ t, value ≠ .text t) :
    readSwitch value = .ok value.isTruthy := by
  cases value with
  | text t => exact absurd rfl (h t)
  | _ => rfl

/-- The standard options are accepted, and mean the standard settings. -/
theorem readOptions_nothing : readOptions setOption Settings.judge [] = .ok {} := by
  have hJudge : Settings.judge (Settings.record (.text ['.'])
      (.record (LanguageTable.fields LanguageTable.standard)) (.bool true)) =
        .ok ⟨some (Path.ofText ['.']), some LanguageTable.standard, some true⟩ :=
    Settings.judge_record_eq_ok_iff.mpr ⟨_, true, rfl, rfl, rfl⟩
  have hRoot : Path.ofText ['.'] = ⟨.relative, []⟩ := by decide
  have hTable : LanguageTable.normalise LanguageTable.standard = LanguageTable.standard := by
    decide +kernel
  have hMeant : Settings.ofGiven
      ⟨some (Path.ofText ['.']), some LanguageTable.standard, some true⟩ = {} := by
    simp [Settings.ofGiven, hRoot, hTable]
  change (Settings.ofFields Settings.judge (Settings.record (.text ['.'])
    (.record (LanguageTable.fields LanguageTable.standard)) (.bool true))).mapError .invalid = _
  rw [Settings.ofFields, hJudge]
  exact congrArg Except.ok hMeant

end Excerpt.Markdown
