import Excerpt.Datum
import Excerpt.Proofs.Selector.Reading

/-!
# What options ask for

Each pair of a text of options asks for something, unless it is malformed: a pair without a value,
a switch that is neither on nor off, an integer that is none. A malformed pair is a fault wherever
it stands. Otherwise the last pair for a key decides, and a pair for any other key is told and asks
for nothing. So two pairs for different keys can be exchanged.

* `RenderOptions.signedDigits?_eq_some_iff`: the integers, with their signs.
* `RenderOptions.asks_or_malformed`: what a pair asks for.
* `RenderOptions.foldlM_readPair`, `RenderOptions.exists_error_of_malformed`: a list of pairs.
* `RenderOptions.foldl_onto`: the last pair for each key.
* `RenderOptions.pairs_text`: options that are written.
* `RenderOptions.read_grammar`: all of this for a text.
-/

namespace Excerpt

/-! ## Integers in digits -/

namespace Datum

variable {n : Int} {c : Char}

theorem mem_ofInt (h : c ∈ ofInt n) : c = '-' ∨ c ∈ Numeral.ofNat n.natAbs := by
  unfold ofInt at h
  split at h
  · exact List.mem_cons.mp h
  · exact .inr h

theorem not_mem_ofInt (hMinus : c ≠ '-') (hDigit : c.isDigit = false) (n : Int) : c ∉ ofInt n := by
  intro h
  rcases mem_ofInt h with hSign | hNumeral
  · exact hMinus hSign
  · exact Numeral.not_mem_ofNat hDigit hNumeral

theorem isBlank_of_mem_ofInt (h : c ∈ ofInt n) : isBlank c = false := by
  rcases mem_ofInt h with rfl | hNumeral
  · rfl
  · exact Numeral.isBlank_of_mem_ofNat hNumeral

end Datum

namespace RenderOptions

/-! ## Integers with signs -/

/-- The text is a numeral with a sign in front of it, or without one, and the integer its value. -/
inductive IntegerText : Text → Int → Prop
  | plain {t : Text} {digits : List Nat} (hDigits : Numeral.digits? t = some digits) :
      IntegerText t (Numeral.value digits)
  | plus {t : Text} {digits : List Nat} (hDigits : Numeral.digits? t = some digits) :
      IntegerText ('+' :: t) (Numeral.value digits)
  | minus {t : Text} {digits : List Nat} (hDigits : Numeral.digits? t = some digits) :
      IntegerText ('-' :: t) (-(Numeral.value digits : Int))

theorem signedDigits?_eq_some_iff {t : Text} {negative : Bool} {digits : List Nat} :
    signedDigits? t = some (negative, digits) ↔
      (negative = false ∧ Numeral.digits? t = some digits) ∨
      ∃ numeral, Numeral.digits? numeral = some digits ∧
        t = (if negative then '-' else '+') :: numeral := by
  have hPlus (u : Text) : Numeral.digits? ('+' :: u) = none :=
    Numeral.digits?_cons_of_not_isDigit (by decide) u
  have hMinus (u : Text) : Numeral.digits? ('-' :: u) = none :=
    Numeral.digits?_cons_of_not_isDigit (by decide) u
  unfold signedDigits?
  split
  · cases negative <;> simp [hPlus]
  · cases negative <;> simp [hMinus]
  · rename_i hNotPlus hNotMinus
    cases negative with
    | false =>
      simp only [Option.map_eq_some_iff, Prod.mk.injEq, true_and, exists_eq_right,
        Bool.false_eq_true, if_false]
      refine ⟨.inl, ?_⟩
      rintro (hDigits | ⟨numeral, -, rfl⟩)
      · exact hDigits
      · exact absurd rfl (hNotPlus numeral)
    | true =>
      simp only [Option.map_eq_some_iff, Prod.mk.injEq, Bool.false_eq_true, false_and, and_false,
        exists_false, if_true, Bool.true_eq_false, false_or, false_iff, not_exists, not_and]
      intro numeral _ hText
      exact hNotMinus numeral hText

/-- The integer with the given absolute value. -/
def signed (negative : Bool) (n : Nat) : Int := if negative then -(n : Int) else n

theorem integerText_iff {t : Text} {n : Int} :
    IntegerText t n ↔ ∃ negative digits, signedDigits? t = some (negative, digits) ∧
      n = signed negative (Numeral.value digits) := by
  constructor
  · intro hInteger
    cases hInteger with
    | @plain _ digits hDigits =>
      exact ⟨false, digits, signedDigits?_eq_some_iff.mpr (.inl ⟨rfl, hDigits⟩), rfl⟩
    | @plus numeral digits hDigits =>
      exact ⟨false, digits, signedDigits?_eq_some_iff.mpr (.inr ⟨numeral, hDigits, rfl⟩), rfl⟩
    | @minus numeral digits hDigits =>
      exact ⟨true, digits, signedDigits?_eq_some_iff.mpr (.inr ⟨numeral, hDigits, rfl⟩), rfl⟩
  · rintro ⟨negative, digits, hSigned, rfl⟩
    rcases signedDigits?_eq_some_iff.mp hSigned with ⟨rfl, hDigits⟩ | ⟨numeral, hDigits, rfl⟩
    · exact .plain hDigits
    · cases negative with
      | false => exact .plus hDigits
      | true => exact .minus hDigits

theorem integerText_ofInt (n : Int) : IntegerText (Datum.ofInt n) n := by
  obtain ⟨digits, hDigits, hValue⟩ := Numeral.exists_digits_ofNat n.natAbs
  unfold Datum.ofInt
  split
  · have hMinus := IntegerText.minus hDigits
    have hAbs : -(Numeral.value digits : Int) = n := by omega
    rwa [hAbs] at hMinus
  · have hPlain := IntegerText.plain hDigits
    have hAbs : (Numeral.value digits : Int) = n := by omega
    rwa [hAbs] at hPlain

theorem readInteger_of_integerText {key value : Text} {n : Int} (h : IntegerText value.trim n)
    (hRun : ¬ value.HasLongRun) : readInteger key value = .ok n := by
  obtain ⟨negative, digits, hSigned, rfl⟩ := integerText_iff.mp h
  have hFaults := failsBy_readInteger key value
  unfold readInteger at hFaults ⊢
  rw [hSigned] at hFaults ⊢
  dsimp only at hFaults ⊢
  cases hNumber : numberOf digits with
  | ok n =>
    obtain ⟨-, rfl⟩ := numberOf_eq_ok_iff.mp hNumber
    rfl
  | error fault =>
    rw [hNumber] at hFaults
    rcases hFaults fault rfl with hParse | ⟨-, hLong⟩
    · unfold numberOf at hNumber
      split at hNumber
      · cases hNumber
        cases hParse
      · cases hNumber
    · exact absurd hLong hRun

theorem readInteger_of_not_integerText {key value : Text} (h : ∀ n, ¬ IntegerText value.trim n) :
    readInteger key value = .error (.invalidInteger key value) := by
  unfold readInteger
  cases hSigned : signedDigits? value.trim with
  | none => rfl
  | some signed =>
    exact absurd (integerText_iff.mpr ⟨signed.1, signed.2, hSigned, rfl⟩) (h _)

/-! ## Pairs -/

/-- What a pair can ask for. -/
inductive Directive where
  | comments (shown : Bool)
  | indent (change : Int)
  | other (key : Text)

/-- The values of a switch that is on, or off. -/
def switchValues (on : Bool) : List Text := if on then onValues else offValues

/-- What a pair asks for. -/
inductive Asks : Text → Directive → Prop
  | comments {key value : Text} {shown : Bool} (hEqual : '=' ∉ key)
      (hKey : key.trim.lower = commentsKey) (hValue : value.trim.lower ∈ switchValues shown) :
      Asks (key ++ '=' :: value) (.comments shown)
  | indent {key value : Text} {change : Int} (hEqual : '=' ∉ key)
      (hKey : key.trim.lower = indentKey) (hValue : IntegerText value.trim change) :
      Asks (key ++ '=' :: value) (.indent change)
  | other {key value : Text} (hEqual : '=' ∉ key) (hComments : key.trim.lower ≠ commentsKey)
      (hIndent : key.trim.lower ≠ indentKey) :
      Asks (key ++ '=' :: value) (.other key.trim.lower)

/-- Whether a pair asks for nothing that can be done. -/
inductive Malformed : Text → Prop
  | bare {pair : Text} (hEqual : '=' ∉ pair) : Malformed pair
  | switch {key value : Text} (hEqual : '=' ∉ key) (hKey : key.trim.lower = commentsKey)
      (hValue : value.trim.lower ∉ onValues ++ offValues) : Malformed (key ++ '=' :: value)
  | integer {key value : Text} (hEqual : '=' ∉ key) (hKey : key.trim.lower = indentKey)
      (hValue : ∀ n, ¬ IntegerText value.trim n) : Malformed (key ++ '=' :: value)

namespace Directive

/-- What is told of a pair. -/
def notices : Directive → List Notice
  | .other key => [.unknownOption key]
  | _ => []

/-- The options with what a pair asks for. -/
def onto (options : RenderOptions) : Directive → RenderOptions
  | .comments shown => { options with hideComments := !shown }
  | .indent change => { options with indent := change }
  | .other _ => options

/-- Whether comments are to be shown, if the pair says so. -/
def shown? : Directive → Option Bool
  | .comments shown => some shown
  | _ => none

/-- The change of the indentation, if the pair says so. -/
def change? : Directive → Option Int
  | .indent change => some change
  | _ => none

/-- The key of the pair. -/
def key : Directive → Text
  | .comments _ => commentsKey
  | .indent _ => indentKey
  | .other key => key

end Directive

/-- The key of a pair, if it has a value. -/
def keyOf? (pair : Text) : Option Text := (Text.cut '=' pair).map fun parts => parts.1.trim.lower

variable {value pair : Text} {d : Directive}

theorem asks_or_malformed (pair : Text) : (∃ d, Asks pair d) ∨ Malformed pair := by
  cases hCut : Text.cut '=' pair with
  | none => exact .inr (.bare (Text.cut_eq_none_iff.mp hCut))
  | some parts =>
    obtain ⟨key, value⟩ := parts
    obtain ⟨rfl, hEqual⟩ := Text.cut_eq_some hCut
    by_cases hComments : key.trim.lower = commentsKey
    · by_cases hOn : value.trim.lower ∈ onValues
      · exact .inl ⟨_, @Asks.comments key value true hEqual hComments hOn⟩
      · by_cases hOff : value.trim.lower ∈ offValues
        · exact .inl ⟨_, @Asks.comments key value false hEqual hComments hOff⟩
        · exact .inr (.switch hEqual hComments (by simp [hOn, hOff]))
    · by_cases hIndent : key.trim.lower = indentKey
      · by_cases hInteger : ∃ n, IntegerText value.trim n
        · obtain ⟨n, hInteger⟩ := hInteger
          exact .inl ⟨_, .indent hEqual hIndent hInteger⟩
        · exact .inr (.integer hEqual hIndent (not_exists.mp hInteger))
      · exact .inl ⟨_, .other hEqual hComments hIndent⟩

theorem Asks.keyOf? (h : Asks pair d) : keyOf? pair = some d.key := by
  unfold RenderOptions.keyOf?
  cases h with
  | comments hEqual hKey _ => rw [Text.cut_append hEqual, Option.map_some, hKey]; rfl
  | indent hEqual hKey _ => rw [Text.cut_append hEqual, Option.map_some, hKey]; rfl
  | other hEqual _ _ => rw [Text.cut_append hEqual, Option.map_some]; rfl

theorem switchOf?_of_mem {on : Bool} (h : value.trim.lower ∈ switchValues on) :
    switchOf? value = some on := by
  cases on with
  | true => exact switchOf?_true h
  | false =>
    have hApart : ∀ word ∈ offValues, word ∉ onValues := by decide
    exact switchOf?_false h (hApart _ h)

theorem indentKey_ne_commentsKey : indentKey ≠ commentsKey := by decide

/-- A pair is read as what it asks for. -/
theorem readPair_of_asks (h : Asks pair d) (hRun : ¬ pair.HasLongRun) (options : RenderOptions) :
    options.readPair pair = ⟨d.notices, .ok (d.onto options)⟩ := by
  unfold readPair
  cases h with
  | comments hEqual hKey hValue =>
    simp only [Text.cut_append hEqual, hKey, if_true, readSwitch, switchOf?_of_mem hValue]
    rfl
  | @indent key value change hEqual hKey hValue =>
    have hShort := not_hasLongRun_inside hRun (Text.infix_behind key '=' value)
    simp only [Text.cut_append hEqual, hKey, indentKey_ne_commentsKey, if_true, if_false,
      readInteger_of_integerText hValue hShort]
    rfl
  | other hEqual hComments hIndent =>
    simp only [Text.cut_append hEqual, hComments, hIndent, if_false]
    rfl

theorem readPair_of_malformed (h : Malformed pair) (options : RenderOptions) :
    ∃ fault, options.readPair pair = Journal.fail fault ∧ fault.kind = .parse := by
  unfold readPair
  cases h with
  | bare hEqual =>
    rw [Text.cut_eq_none_iff.mpr hEqual]
    exact ⟨_, rfl, rfl⟩
  | switch hEqual hKey hValue =>
    rw [List.mem_append, not_or] at hValue
    simp only [Text.cut_append hEqual, hKey, if_true, readSwitch, switchOf?,
      List.contains_eq_mem, hValue.1, hValue.2, decide_false, Bool.false_eq_true, if_false]
    exact ⟨_, rfl, rfl⟩
  | integer hEqual hKey hValue =>
    simp only [Text.cut_append hEqual, hKey, indentKey_ne_commentsKey, if_true, if_false,
      readInteger_of_not_integerText hValue]
    exact ⟨_, rfl, rfl⟩

/-! ## Lists of pairs -/

variable {ds : List Directive}

theorem foldlM_readPair {pairs : List Text} (h : List.Forall₂ Asks pairs ds)
    (hRun : ∀ pair ∈ pairs, ¬ pair.HasLongRun) (options : RenderOptions) :
    pairs.foldlM readPair options =
      ⟨ds.flatMap Directive.notices, .ok (ds.foldl Directive.onto options)⟩ := by
  induction h generalizing options with
  | nil => rfl
  | @cons pair d pairs ds hFirst _ ih =>
    obtain ⟨hShort, hRest⟩ := List.forall_mem_cons.mp hRun
    rw [List.foldlM_cons, readPair_of_asks hFirst hShort]
    change Journal.andThen _ _ = _
    simp only [Journal.andThen, ih hRest, List.flatMap_cons, List.foldl_cons]

/-- A malformed pair is a fault, whatever stands in front of it or behind it. -/
theorem exists_error_of_malformed {pairs : List Text} (hRun : ∀ pair ∈ pairs, ¬ pair.HasLongRun)
    (h : ∃ pair ∈ pairs, Malformed pair) (options : RenderOptions) :
    ∃ fault, (pairs.foldlM readPair options).outcome = .error fault ∧ fault.kind = .parse := by
  induction pairs generalizing options with
  | nil =>
    obtain ⟨pair, hPair, -⟩ := h
    cases hPair
  | cons first rest ih =>
    obtain ⟨hShort, hRest⟩ := List.forall_mem_cons.mp hRun
    rw [List.foldlM_cons, Journal.outcome_bind]
    -- a pair that is in order cannot fail, so reading comes to the first malformed one
    by_cases hFirst : Malformed first
    · obtain ⟨fault, hRead, hKind⟩ := readPair_of_malformed hFirst options
      rw [hRead]
      exact ⟨fault, rfl, hKind⟩
    · obtain ⟨d, hAsks⟩ := (asks_or_malformed first).resolve_right hFirst
      have hLater : ∃ pair ∈ rest, Malformed pair := by
        obtain ⟨pair, hPair, hBad⟩ := h
        rcases List.mem_cons.mp hPair with rfl | hPair
        · exact absurd hBad hFirst
        · exact ⟨pair, hPair, hBad⟩
      rw [readPair_of_asks hAsks hShort]
      exact ih hRest hLater (d.onto options)

theorem exists_asks {pairs : List Text} (h : ∀ pair ∈ pairs, ¬ Malformed pair) :
    ∃ ds, List.Forall₂ Asks pairs ds :=
  exists_forall₂ fun pair hPair => (asks_or_malformed pair).resolve_right (h pair hPair)

/-- The last pair for each key decides. -/
theorem foldl_onto (ds : List Directive) (options : RenderOptions) :
    ds.foldl Directive.onto options =
      ⟨(ds.filterMap Directive.change?).getLast?.getD options.indent,
        ((ds.filterMap Directive.shown?).getLast?.map (!·)).getD options.hideComments⟩ := by
  induction ds generalizing options with
  | nil => rfl
  | cons d ds ih =>
    rw [List.foldl_cons, ih]
    cases d with
    | comments shown =>
      cases hLast : (ds.filterMap Directive.shown?).getLast? <;>
        simp [Directive.onto, Directive.change?, Directive.shown?, List.getLast?_cons, hLast]
    | indent change =>
      simp [Directive.onto, Directive.change?, Directive.shown?, List.getLast?_cons]
    | other key => simp [Directive.onto, Directive.change?, Directive.shown?]

/-- What pairs for different keys ask for does not depend on their order. -/
theorem Directive.onto_comm {d e : Directive} (h : d.key ≠ e.key) (options : RenderOptions) :
    e.onto (d.onto options) = d.onto (e.onto options) := by
  cases d <;> cases e <;> first | rfl | exact absurd rfl h

theorem outcome_foldlM_swap {a b : Text} {d e : Directive} (ha : Asks a d) (hb : Asks b e)
    (hKeys : d.key ≠ e.key) (hShort : ¬ a.HasLongRun) (hShort' : ¬ b.HasLongRun)
    {before behind : List Text} (options : RenderOptions) :
    ((before ++ a :: b :: behind).foldlM readPair options).outcome =
      ((before ++ b :: a :: behind).foldlM readPair options).outcome := by
  simp only [List.foldlM_append, List.foldlM_cons, Journal.outcome_bind,
    readPair_of_asks ha hShort, readPair_of_asks hb hShort']
  congr 1
  funext reached
  change (behind.foldlM readPair (e.onto (d.onto reached))).outcome =
    (behind.foldlM readPair (d.onto (e.onto reached))).outcome
  rw [Directive.onto_comm hKeys]

/-! ## Texts of options -/

variable {t : Text}

theorem not_hasLongRun_of_mem_pairs (hRun : ¬ t.HasLongRun) :
    ∀ pair ∈ pairs t, ¬ pair.HasLongRun := by
  intro pair hPair
  exact not_hasLongRun_inside hRun (infix_of_mem_pairs hPair)

theorem read_of_asks (hRun : ¬ t.HasLongRun) (h : List.Forall₂ Asks (pairs t) ds) :
    read (some t) = ⟨ds.flatMap Directive.notices, .ok (ds.foldl Directive.onto {})⟩ :=
  foldlM_readPair h (not_hasLongRun_of_mem_pairs hRun) {}

theorem exists_read_error_iff (hRun : ¬ t.HasLongRun) :
    (∃ fault, (read (some t)).outcome = .error fault ∧ fault.kind = .parse) ↔
      ∃ pair ∈ pairs t, Malformed pair := by
  constructor
  · rintro ⟨fault, hRead, -⟩
    by_contra hNone
    obtain ⟨ds, hAsks⟩ := exists_asks fun pair hPair hBad => hNone ⟨pair, hPair, hBad⟩
    rw [read_of_asks hRun hAsks] at hRead
    cases hRead
  · intro h
    exact exists_error_of_malformed (not_hasLongRun_of_mem_pairs hRun) h {}

/-- Two neighbours for different keys can be exchanged. -/
theorem outcome_read_swap {t' a b : Text} {before behind : List Text} {options : RenderOptions}
    (hRun : ¬ t.HasLongRun) (hPairs : pairs t = before ++ a :: b :: behind)
    (hSwapped : pairs t' = before ++ b :: a :: behind) (hKeys : keyOf? a ≠ keyOf? b)
    (h : (read (some t)).outcome = .ok options) : (read (some t')).outcome = .ok options := by
  have hAsks : ∀ pair ∈ pairs t, ∃ d, Asks pair d := by
    intro pair hPair
    refine (asks_or_malformed pair).resolve_right fun hBad => ?_
    obtain ⟨fault, hFault, -⟩ := (exists_read_error_iff hRun).mpr ⟨pair, hPair, hBad⟩
    cases h.symm.trans hFault
  have hShort := not_hasLongRun_of_mem_pairs hRun
  have ha : a ∈ pairs t := by simp [hPairs]
  have hb : b ∈ pairs t := by simp [hPairs]
  obtain ⟨d, hFirst⟩ := hAsks a ha
  obtain ⟨e, hSecond⟩ := hAsks b hb
  have hOrder : d.key ≠ e.key := by
    intro hSame
    rw [hFirst.keyOf?, hSecond.keyOf?, hSame] at hKeys
    exact hKeys rfl
  rw [← h]
  change ((pairs t').foldlM readPair {}).outcome = ((pairs t).foldlM readPair {}).outcome
  rw [hPairs, hSwapped]
  exact outcome_foldlM_swap hSecond hFirst hOrder.symm (hShort b hb) (hShort a ha) {}

/-! ## Options that are written -/

/-- The options as they are written. -/
def text (o : RenderOptions) : Text :=
  indentKey ++ '=' :: Datum.ofInt o.indent ++
    ',' :: (commentsKey ++ '=' :: if o.hideComments then "false".toList else "true".toList)

theorem pairs_text (o : RenderOptions) :
    pairs o.text = [indentKey ++ '=' :: Datum.ofInt o.indent,
      commentsKey ++ '=' :: if o.hideComments then "false".toList else "true".toList] := by
  have hComma : ',' ∉ indentKey ++ '=' :: Datum.ofInt o.indent := by
    intro h
    rcases List.mem_append.mp h with hKey | hValue
    · revert hKey
      decide
    · rcases List.mem_cons.mp hValue with hEqual | hValue
      · cases hEqual
      · exact Datum.not_mem_ofInt (by decide) (by decide) _ hValue
  have hTrim : Text.trim (indentKey ++ '=' :: Datum.ofInt o.indent) =
      indentKey ++ '=' :: Datum.ofInt o.indent := by
    apply Text.trim_eq_self
    intro c hc
    have hLetters : indentKey.all (!isBlank ·) = true := by decide
    rcases List.mem_append.mp hc with hKey | hValue
    · simpa using List.all_eq_true.mp hLetters c hKey
    · rcases List.mem_cons.mp hValue with rfl | hValue
      · rfl
      · exact Datum.isBlank_of_mem_ofInt hValue
  have hSwitch : (Text.splitOn ',' (commentsKey ++ '=' ::
        if o.hideComments then "false".toList else "true".toList)).map Text.trim =
      [commentsKey ++ '=' :: if o.hideComments then "false".toList else "true".toList] := by
    cases o.hideComments <;> decide +kernel
  unfold pairs text
  rw [Text.splitOn_append hComma, List.map_cons, hTrim, hSwitch]
  rfl

/-- What is written is read back, and nothing is told. -/
theorem read_text (o : RenderOptions) (hRun : ¬ o.text.HasLongRun) :
    read (some o.text) = pure o := by
  have hIndent : Asks (indentKey ++ '=' :: Datum.ofInt o.indent) (.indent o.indent) := by
    refine .indent (by decide) (by decide +kernel) ?_
    rw [Text.trim_eq_self fun c hc => Datum.isBlank_of_mem_ofInt hc]
    exact integerText_ofInt o.indent
  have hComments : Asks (commentsKey ++ '=' ::
      if o.hideComments then "false".toList else "true".toList) (.comments (!o.hideComments)) := by
    refine .comments (by decide) (by decide +kernel) ?_
    cases o.hideComments <;> decide +kernel
  have hAsks : List.Forall₂ Asks (pairs o.text)
      [.indent o.indent, .comments (!o.hideComments)] := by
    rw [pairs_text]
    exact .cons hIndent (.cons hComments .nil)
  rw [read_of_asks hRun hAsks]
  simp [Directive.notices, Directive.onto]
  rfl

/-! ## The grammar -/

/-- What is read of options. -/
theorem read_grammar (t : Text) (hRun : ¬ t.HasLongRun) :
    ((∃ fault, (read (some t)).outcome = .error fault ∧ fault.kind = .parse) ↔
      ∃ pair ∈ pairs t, Malformed pair) ∧
    ((¬ ∃ pair ∈ pairs t, Malformed pair) → ∃ ds, List.Forall₂ Asks (pairs t) ds ∧
      read (some t) = ⟨ds.flatMap Directive.notices,
        .ok ⟨(ds.filterMap Directive.change?).getLast?.getD 0,
          ((ds.filterMap Directive.shown?).getLast?.map (!·)).getD false⟩⟩) ∧
    (∀ o : RenderOptions, ¬ o.text.HasLongRun → read (some o.text) = pure o) ∧
    ∀ t' before a b behind options, pairs t = before ++ a :: b :: behind →
      pairs t' = before ++ b :: a :: behind → keyOf? a ≠ keyOf? b →
      (read (some t)).outcome = .ok options → (read (some t')).outcome = .ok options := by
  refine ⟨exists_read_error_iff hRun, ?_, read_text, ?_⟩
  · intro hNone
    obtain ⟨ds, hAsks⟩ := exists_asks fun pair hPair hBad => hNone ⟨pair, hPair, hBad⟩
    refine ⟨ds, hAsks, ?_⟩
    rw [read_of_asks hRun hAsks, foldl_onto]
  · intro t' before a b behind options
    exact outcome_read_swap hRun

/-- A switch that is none is not mended by a later pair. Among pairs that are in order the last
one for a key decides, also where another key comes between them. -/
theorem read_grammar_mixed :
    (∃ fault, (read (some "comments=x,comments=1".toList)).outcome = .error fault ∧
      fault.kind = .parse) ∧
    (∃ ds, List.Forall₂ Asks ["Indent = 4".toList, "a=1".toList, "indent=-2".toList] ds) ∧
    read (some (RenderOptions.mk (-2) true).text) = pure ⟨-2, true⟩ ∧
    (read (some "a=1, Indent = 4,indent=-2".toList)).outcome = .ok ⟨-2, false⟩ := by
  have hShort {t : Text} (h : t.length ≤ 40) : ¬ t.HasLongRun :=
    not_hasLongRun_of_length (h.trans (by decide))
  have hMixed := read_grammar " Indent = 4 ,a=1,,indent=-2".toList (hShort (by decide))
  have hRead : (read (some " Indent = 4 ,a=1,,indent=-2".toList)).outcome = .ok ⟨-2, false⟩ := by
    decide +kernel
  refine ⟨?_, ?_, ?_, ?_⟩
  · apply (read_grammar _ (hShort (by decide))).1.mpr
    refine ⟨"comments=x".toList, by decide +kernel, ?_⟩
    exact @Malformed.switch commentsKey "x".toList (by decide) (by decide +kernel)
      (by decide +kernel)
  · obtain ⟨ds, hAsks, -⟩ := hMixed.2.1 fun hBad => by
      obtain ⟨fault, hFault, -⟩ := hMixed.1.mpr hBad
      cases hRead.symm.trans hFault
    exact ⟨ds, hAsks⟩
  · exact hMixed.2.2.1 _ (hShort (by decide +kernel))
  · exact hMixed.2.2.2 "a=1, Indent = 4,indent=-2".toList [] "Indent = 4".toList "a=1".toList
      ["indent=-2".toList] _ (by decide +kernel) (by decide +kernel) (by decide +kernel) hRead

end RenderOptions

end Excerpt
