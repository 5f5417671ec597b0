import Excerpt.Proofs.Command.Phases
import Excerpt.Proofs.Selector.Body
import Excerpt.Proofs.Source.Below

/-!
# Insertions whose block stands further down

Selectors that count from the block move with it, so the block is rendered as before. Its numbers
matter only for what a recorder is told of the insertion.

* `Highlights.onto_shift`, `Edits.onto_shift`: relative selectors move with their block.
* `Insertion.toldTo_eq`: what a recorder leaves of an insertion.
* `Insertion.alike_fenced`, `Insertion.alike_toldTo`: an insertion further down.
-/

namespace Excerpt

/-! ## Relative selectors -/

/-- Whether the selectors that are there count from the block. -/
def Suffixes.IsRelative (s : Suffixes) : Prop :=
  ∀ source, s.highlight = some source ∨ s.edit = some source → source.mode = .relative

/-- Whether all items count from the block. -/
def Instructions.IsRelative (wanted : Instructions) : Prop :=
  (wanted.highlights.mode = .relative ∨ wanted.highlights.items = []) ∧
    (wanted.edits.mode = .relative ∨ wanted.edits.items = [])

theorem LineRange.above_shift (r : LineRange) (k : Nat) :
    (r.shift k).first - 1 = r.first - 1 + k := by
  have hFirst := r.one_le_first
  simp only [shift]
  omega

theorem Highlights.onto_shift {h : Highlights} (hRelative : h.mode = .relative ∨ h.items = [])
    (base : LineRange) (k : Nat) : h.onto (base.shift k) = (h.onto base).shift k := by
  obtain ⟨items, mode⟩ := h
  cases mode with
  | absolute =>
    obtain rfl : items = [] := by simpa using hRelative
    rfl
  | relative => simp [onto, Highlights.shift, LineRange.above_shift, Item.shift_shift]

theorem Edits.onto_shift {e : Edits} (hRelative : e.mode = .relative ∨ e.items = [])
    (base : LineRange) (k : Nat) : e.onto (base.shift k) = (e.onto base).shift k := by
  obtain ⟨items, mode⟩ := e
  cases mode with
  | absolute =>
    obtain rfl : items = [] := by simpa using hRelative
    rfl
  | relative => simp [onto, Edits.shift, Edit.shift, LineRange.above_shift, Item.shift_shift]

theorem mode_of_readEdits {source : SelectorSource} {e : Edits}
    (hRead : (readEdits (some source)).outcome = .ok e) : e.mode = source.mode := by
  unfold readEdits at hRead
  rw [Journal.outcome_bind] at hRead
  obtain ⟨edits, -, hRead⟩ := bind_eq_ok_iff.mp hRead
  cases hRead
  rfl

theorem isRelative_of_read {s : Suffixes} (hRelative : s.IsRelative) {wanted : Instructions}
    (h : s.read.outcome = .ok wanted) : wanted.IsRelative := by
  unfold Suffixes.read at h
  simp only [Journal.outcome_bind, Journal.outcome_lift, Journal.outcome_pure] at h
  obtain ⟨options, -, h⟩ := bind_eq_ok_iff.mp h
  obtain ⟨highlights, hHighlights, h⟩ := bind_eq_ok_iff.mp h
  obtain ⟨edits, hEdits, h⟩ := bind_eq_ok_iff.mp h
  cases h
  constructor
  · cases hSource : s.highlight with
    | none =>
      rw [hSource] at hHighlights
      cases hHighlights
      exact .inr rfl
    | some source =>
      rw [hSource] at hHighlights
      exact .inl ((mode_of_readHighlights hHighlights).trans (hRelative source (.inl hSource)))
  · cases hSource : s.edit with
    | none =>
      rw [hSource] at hEdits
      cases hEdits
      exact .inr rfl
    | some source =>
      rw [hSource] at hEdits
      exact .inl ((mode_of_readEdits hEdits).trans (hRelative source (.inr hSource)))

/-! ## Insertions further down -/

theorem alike_settle_error {recorder : Recorder} {line : Text} {fault fault' : Fault} :
    Alike (settle recorder line (.error fault')) (settle recorder line (.error fault)) ↔
      fault'.kind = fault.kind := by
  unfold settle
  by_cases h : fault.kind = .notFound
  · by_cases h' : fault'.kind = .notFound
    · simp [h, h', alike_refl]
    · have hDiffer : fault'.kind ≠ fault.kind := fun hEq => h' (hEq.trans h)
      simp only [if_pos h, if_neg h', hDiffer, iff_false]
      exact fun hAlike => not_alike_ok_error hAlike.symm
  · by_cases h' : fault'.kind = .notFound
    · have hDiffer : fault'.kind ≠ fault.kind := fun hEq => h (hEq.symm.trans h')
      simp only [if_neg h, if_pos h', hDiffer, iff_false]
      exact not_alike_ok_error
    · simp only [if_neg h, if_neg h']
      exact alike_error_iff

theorem settle_of_isWriting {recorder : Recorder} {line : Text} {fault : Fault}
    (h : fault.IsWriting) : settle recorder line (.error fault) = .error fault := by
  have hKind : fault.kind ≠ .notFound := by
    rcases h with h | h <;> simp [h]
  simp [settle, hKind]

namespace Insertion

variable {sources sources' : Sources} {c c' : Command} {wanted : Instructions}

theorem alike_fenced (hLanguages : sources'.languages = sources.languages)
    (hName : c'.filename = c.filename) (hRelative : wanted.IsRelative) (block : CodeBlock)
    (k : Nat) : Alike (assemble sources' c' wanted (block.shift k)).fenced
      (assemble sources c wanted block).fenced := by
  obtain ⟨hHighlights, hEdits⟩ := hRelative
  have hTag : (assemble sources' c' wanted (block.shift k)).tag =
      (assemble sources c wanted block).tag := by
    simp only [assemble, hLanguages, hName]
  have hRendering : (assemble sources' c' wanted (block.shift k)).rendering =
      (assemble sources c wanted block).rendering.shift k := by
    unfold rendering
    rw [hTag]
    simp only [assemble, CodeBlock.shift, Rendering.shift]
    rw [Highlights.onto_shift hHighlights, Edits.onto_shift hEdits]
  unfold fenced text
  rw [hRendering, hTag]
  exact alike_map (Rendering.text_shift _ _ _) _

theorem toldTo_eq (recorder : Recorder) (i : Insertion) : i.toldTo recorder =
    if recorder = .wording ∧ numberBound ≤ i.block.range.last then .error .numberTooLong
    else i.fenced := by
  unfold toldTo
  rw [Recorder.refusal?_inserted]
  by_cases h : recorder = .wording ∧ numberBound ≤ i.block.range.last
  · rw [if_pos h, if_pos h]
  · rw [if_neg h, if_neg h]

/-- Only a recorder that is told numbers too long for it makes a difference. -/
theorem alike_toldTo (hLanguages : sources'.languages = sources.languages)
    (hName : c'.filename = c.filename) (hRelative : wanted.IsRelative) (block : CodeBlock)
    (k : Nat) (recorder : Recorder) :
    Alike ((assemble sources' c' wanted (block.shift k)).toldTo recorder)
      ((assemble sources c wanted block).toldTo recorder) ↔
      ¬ (recorder = .wording ∧ LineRange.Outgrows k block.range.last) := by
  have hFenced := alike_fenced hLanguages hName hRelative block k
  cases recorder with
  | keeping => simpa [toldTo_eq] using hFenced
  | wording =>
    have hLast : (assemble sources' c' wanted (block.shift k)).block.range.last =
      block.range.last + k := rfl
    have hLast' : (assemble sources c wanted block).block.range.last = block.range.last := rfl
    unfold LineRange.Outgrows
    rw [toldTo_eq, toldTo_eq, hLast, hLast']
    simp only [true_and]
    by_cases h : numberBound ≤ block.range.last
    · have hMore : numberBound ≤ block.range.last + k := Nat.le_add_right_of_le h
      simp [h, hMore, alike_refl]
    · by_cases hMore : numberBound ≤ block.range.last + k
      · simp only [if_neg h, if_pos hMore]
        -- a rendering never ends with the fault of the recorder
        have hDiffer :
            ¬ Alike (.error .numberTooLong) (assemble sources c wanted block).fenced := by
          cases hText : (assemble sources c wanted block).fenced with
          | ok t => exact fun hAlike => not_alike_ok_error hAlike.symm
          | error fault =>
            rw [alike_error_iff]
            rcases kind_of_fenced hText with hKind | hKind
            · rw [hKind]
              decide
            · rw [hKind]
              decide
        simp only [hDiffer, false_iff, not_not]
        omega
      · simp [h, hMore, hFenced]

end Insertion

end Excerpt
