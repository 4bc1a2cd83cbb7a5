import Teller.Proofs.Amount.Range
import Teller.Proofs.Amount.Texts

/-!
# Amounts behind a hedge

"Around 500" reads as 500: none of the other strategies finds anything in a text that begins with a
hedge and goes on with a number, and the expression takes the number behind the hedge. It takes only
the number: a unit, which the same text has without the hedge, is not read.

    exists_stated                what the strategies for numbers and units read
    candidate?_hedged            no other strategy reads a hedged number
    Stated.of_parse_hedged       what is read behind a hedge
    hedge_drops_unit             a hedge keeps an amount exactly if it is stated without a unit
    around_loses_thousands       an amount with a unit becomes another one
-/

namespace Teller

namespace Amount

open Text Number

variable {text rest : List Char} {n : Float} {c : Candidate}

/-! ## Numbers with and without a unit -/

/-- What units multiply by. -/
theorem denotes_unitFactor {unit : Char} {factor : Float} (h : unitFactor? unit = some factor) :
    ∃ f, Denotes factor f ∧ 2 ≤ f := by
  obtain ⟨thousand, million, billion, trillion⟩ := denotes_units
  unfold unitFactor? at h
  split at h
  · cases h
    exact ⟨_, thousand, by norm_num⟩
  · cases h
    exact ⟨_, million, by norm_num⟩
  · cases h
    exact ⟨_, billion, by norm_num⟩
  · cases h
    exact ⟨_, trillion, by norm_num⟩
  · cases h

/-- A number, alone or with a unit. -/
inductive Stated (text : List Char) (n : Float) : Candidate → Prop
  | alone {c : Candidate} {rest : List Char} (numeral : numeral? text = some (n, rest))
      (blank : rest.dropWhile isBlank = []) (none : c.unit = none) (value : c.value = n) :
      Stated text n c
  | unit {c : Candidate} {rest : List Char} {mark : Char} {factor : Float}
      (numeral : numeral? text = some (n, rest)) (mark_eq : rest.dropWhile isBlank = [mark])
      (known : unitFactor? mark = some factor) (some : c.unit ≠ none) (value : c.value = n * factor) :
      Stated text n c

/-- What the strategies for numbers and units read. -/
theorem exists_stated (h : numeralOnly? text = some c ∨ withUnit? text = some c)
    (permits : Config.Permits {} c.value) : ∃ n, Stated text n c := by
  rcases h with exact | unit
  · unfold numeralOnly? at exact
    split at exact
    · next value numeral =>
      cases exact
      exact ⟨value, .alone numeral rfl rfl rfl⟩
    · cases exact
  · obtain ⟨⟨value, rest⟩, numeral, unit⟩ := Option.bind_eq_some_iff.1 unit
    dsimp only at unit
    split at unit
    · next blank =>
      cases unit
      obtain ⟨_, _, d, _, _, rfl⟩ := numeral?_eq_some numeral
      exact ⟨_, .alone numeral blank rfl (mul_one_of_permits d.isNearest permits)⟩
    · next mark_eq =>
      obtain ⟨factor, known, rfl⟩ := Option.map_eq_some_iff.1 unit
      exact ⟨value, .unit numeral mark_eq known (Option.some_ne_none _) rfl⟩
    · cases unit

/-- Characters of numbers with a unit. -/
def isAmountChar (c : Char) : Bool := isDigit c || c == '.' || isBlank c || (unitFactor? c).isSome

namespace Stated

theorem numeral (h : Stated text n c) : ∃ rest, numeral? text = some (n, rest) := by
  cases h with
  | alone numeral | unit numeral => exact ⟨_, numeral⟩

theorem pos (h : Stated text n c) (permits : Config.Permits {} c.value) : 0 < n := by
  cases h with
  | alone _ _ _ value =>
    rw [value] at permits
    exact permits.positive
  | unit numeral _ known _ value =>
    rw [value] at permits
    obtain ⟨_, _, d, _, _, rfl⟩ := numeral?_eq_some numeral
    obtain ⟨f, factor, large⟩ := denotes_unitFactor known
    obtain ⟨u, _, pos, denotes, _⟩ := exists_denotes_of_mul d.isNearest factor (by linarith) permits
    exact (denotes_zero.lt_iff denotes).2 pos

/-- The amount is the number exactly if there is no unit. -/
theorem value_eq_iff (h : Stated text n c) (permits : Config.Permits {} c.value) :
    n = c.value ↔ c.unit = none := by
  cases h with
  | alone _ _ none value => exact iff_of_true value.symm none
  | unit numeral _ known some value =>
    refine iff_of_false (fun same => ?_) some
    rw [value] at permits same
    obtain ⟨_, _, d, _, _, rfl⟩ := numeral?_eq_some numeral
    obtain ⟨f, factor, large⟩ := denotes_unitFactor known
    exact mul_ne_of_permits d.isNearest factor large permits same.symm

/-- The text begins with a digit. -/
theorem exists_cons (h : Stated text n c) : ∃ first others, text = first :: others ∧
    isDigit first = true := by
  obtain ⟨rest, numeral⟩ := h.numeral
  obtain ⟨whole, tail, _, rfl, form, _⟩ := numeral?_eq_some numeral
  obtain ⟨first, others, rfl⟩ := List.exists_cons_of_ne_nil form.whole_ne_nil
  exact ⟨first, _, rfl, form.whole_isDigit first List.mem_cons_self⟩

/-- The text has no other characters. -/
theorem isAmountChar (h : Stated text n c) {d : Char} (hd : d ∈ text) : isAmountChar d = true := by
  have blanks (rest : List Char) (e : Char) (he : e ∈ rest.takeWhile isBlank) :
      Amount.isAmountChar e = true := by
    unfold Amount.isAmountChar
    rw [List.mem_takeWhile_imp he, Bool.or_true, Bool.true_or]
  have behind {rest : List Char} (last : ∀ e ∈ rest.dropWhile isBlank, Amount.isAmountChar e = true) :
      ∀ e ∈ rest, Amount.isAmountChar e = true := by
    intro e he
    rw [← List.takeWhile_append_dropWhile (p := isBlank) (l := rest)] at he
    exact (List.mem_append.1 he).elim (blanks rest e) (last e)
  obtain ⟨rest, numeral, after⟩ : ∃ rest, numeral? text = some (n, rest) ∧
      ∀ e ∈ rest, Amount.isAmountChar e = true := by
    cases h with
    | alone numeral blank => exact ⟨_, numeral, behind (by rw [blank]; exact nofun)⟩
    | unit numeral mark_eq known =>
      refine ⟨_, numeral, behind fun e he => ?_⟩
      rw [mark_eq] at he
      rw [List.mem_singleton.1 he]
      unfold Amount.isAmountChar
      rw [known]
      exact Bool.or_true _
  obtain ⟨whole, tail, _, rfl, form, _⟩ := numeral?_eq_some numeral
  rw [← List.append_assoc] at hd
  rcases List.mem_append.1 hd with hd | hd
  · rcases cases_of_mem_numeral form hd with rfl | digit
    · rfl
    · unfold Amount.isAmountChar
      rw [digit]
      rfl
  · exact after d hd

end Stated

/-! ## Numbers behind a hedge -/

/-- Characters of hedged numbers. -/
def isHedgedChar (c : Char) : Bool := "around about roughly".toList.contains c || isAmountChar c

variable {word : String}

/-- Hedges are words in lower case, in characters of hedged numbers. -/
theorem hedge_table : ∀ word ∈ hedges, word.toList ≠ [] ∧ (word.toList.all fun d =>
    isHedgedChar d ∧ isDigit d = false ∧ lowerOf d = [d] ∧ isBlank d = false ∧ d ≠ ',' ∧ d ≠ 'Σ') =
      true := by
  decide +kernel

/-- Every number word and every phrase for a round number has another character. -/
theorem strange_table :
    (∀ entry ∈ numberWords, (entry.1.toList.any fun d => !isHedgedChar d) = true) ∧
    (∀ entry ∈ roundPhrases, ∀ phrase ∈ entry.1, (phrase.toList.any fun d => !isHedgedChar d) = true) ∧
    (['ſ', 'ς', 'σ'].all fun d => !isHedgedChar d) = true := by
  decide +kernel

theorem letters_of_mem (hw : word ∈ hedges) {d : Char} (hd : d ∈ word.toList) :
    isHedgedChar d = true ∧ isDigit d = false ∧ IsSettled d := by
  obtain ⟨hedged, no_digit, lower, visible, no_comma, no_sigma⟩ :=
    of_decide_eq_true (List.all_eq_true.1 (hedge_table word hw).2 d hd)
  exact ⟨hedged, no_digit, lower, visible, no_comma, no_sigma⟩

/-- A hedge begins with a letter. -/
theorem exists_start (hw : word ∈ hedges) : ∃ start others, word.toList = start :: others ∧
    isDigit start = false := by
  obtain ⟨start, others, same⟩ := List.exists_cons_of_ne_nil (hedge_table word hw).1
  exact ⟨start, others, same, (letters_of_mem hw (same ▸ List.mem_cons_self)).2.1⟩

/-- The hedge is recognized. -/
theorem hedgedHere?_behind (hw : word ∈ hedges) (text : List Char) :
    hedgedHere? (word.toList ++ ' ' :: text) = (numeral? (text.dropWhile isBlank)).map (·.1) := by
  simp only [hedges, List.mem_cons, List.not_mem_nil, or_false] at hw
  rcases hw with rfl | rfl | rfl <;> rfl

namespace Stated

variable {s : Strategy}

/-- All characters of the hedged text. -/
theorem isHedgedChar (h : Stated text n c) (hw : word ∈ hedges) {d : Char}
    (hd : d ∈ word.toList ++ ' ' :: text) : isHedgedChar d = true := by
  rcases List.mem_append.1 hd with hd | hd
  · exact (letters_of_mem hw hd).1
  · rcases List.mem_cons.1 hd with rfl | hd
    · decide
    · unfold Amount.isHedgedChar
      rw [h.isAmountChar hd, Bool.or_true]

/-- A part of the hedged text has no other characters. -/
theorem occursIn_eq_false (h : Stated text n c) (hw : word ∈ hedges) {needle : List Char}
    (strange : (needle.any fun d => !Amount.isHedgedChar d) = true) :
    occursIn needle (word.toList ++ ' ' :: text) = false := by
  apply eq_false_of_ne_true
  intro occurs
  obtain ⟨d, hd, other⟩ := List.any_eq_true.1 strange
  rw [h.isHedgedChar hw (mem_of_occursIn occurs hd)] at other
  cases other

/-- No number word has a place in the text. -/
theorem spelledValue_eq_zero (h : Stated text n c) (hw : word ∈ hedges) :
    spelledValue (word.toList ++ ' ' :: text) = 0 :=
  Amount.spelledValue_eq_zero fun entry mem => h.occursIn_eq_false hw (strange_table.1 entry mem)

/-- The expression is the number. -/
theorem expressionValue?_eq (h : Stated text n c) (hw : word ∈ hedges)
    (permits : Config.Permits {} c.value) :
    expressionValue? (word.toList ++ ' ' :: text) = some n := by
  obtain ⟨-, strange, letters⟩ := strange_table
  have no_long_s : 'ſ' ∉ word.toList ++ ' ' :: text := by
    intro mem
    have other := List.all_eq_true.1 letters 'ſ' (by decide)
    rw [h.isHedgedChar hw mem] at other
    cases other
  obtain ⟨first, others, rfl, digit⟩ := h.exists_cons
  obtain ⟨rest, numeral⟩ := h.numeral
  have here : hedgedHere? (word.toList ++ ' ' :: first :: others) = some n := by
    rw [hedgedHere?_behind hw, List.dropWhile_cons_of_neg (by simp [not_isBlank_of_isDigit digit]),
      numeral]
    rfl
  have hedged : hedged? (word.toList ++ ' ' :: first :: others) = some n := by
    obtain ⟨start, letters, word_eq, -⟩ := exists_start hw
    rw [word_eq] at here ⊢
    rw [List.cons_append] at here ⊢
    rw [hedged?, here]
    rfl
  rw [Amount.expressionValue?_eq no_long_s fun entry mem phrase hp =>
    h.occursIn_eq_false hw (strange entry mem phrase hp), hedged]
  exact if_pos (decide_eq_true (h.pos permits))

/-- No other strategy reads a hedged number. -/
theorem candidate?_hedged (h : Stated text n c) (hw : word ∈ hedges) (other : s ≠ .expression) :
    candidate? {} none (word.toList ++ ' ' :: text) s = .ok none := by
  have no_numeral : numeral? (word.toList ++ ' ' :: text) = none := by
    obtain ⟨start, letters, word_eq, no_digit⟩ := exists_start hw
    rw [word_eq]
    exact numeral?_of_not_isDigit no_digit
  cases s with
  | exact =>
    show Except.ok (numeralOnly? _) = _
    rw [numeralOnly?, no_numeral]
  | unit =>
    show Except.ok (withUnit? _) = _
    rw [withUnit?, no_numeral]
    rfl
  | percentage | relative => rfl
  | spelled =>
    show spelled? _ = _
    unfold spelled?
    rw [h.spelledValue_eq_zero hw]
    rfl
  | expression => exact absurd rfl other

theorem exists_candidate?_hedged (h : Stated text n c) (hw : word ∈ hedges)
    (permits : Config.Permits {} c.value) : ∃ c', c'.value = n ∧
      candidate? {} none (word.toList ++ ' ' :: text) .expression = .ok (some c') := by
  refine ⟨_, ?_, congrArg Except.ok (congrArg _ (h.expressionValue?_eq hw permits))⟩
  rfl

end Stated

/-! ## Reading hedged amounts -/

variable {t : String} {r : Reading}

/-- What the strategy of an amount has read. -/
theorem exists_stated_of_parse (h : parse {} none (some t) = .ok r)
    (plain : r.strategy = .exact ∨ r.strategy = .unit) :
    Config.Permits {} r.value ∧ ∃ n, Stated (normalize t) n r.candidate := by
  obtain ⟨candidate, permits⟩ := candidate_of_parse h
  refine ⟨permits, exists_stated ?_ permits⟩
  rcases plain with exact | unit
  · rw [exact] at candidate
    exact .inl (Except.ok.inj candidate)
  · rw [unit] at candidate
    exact .inr (Except.ok.inj candidate)

/-- The hedge stays in front of the amount. -/
theorem Stated.normalize_hedged {n : Float} {c : Candidate} (h : Stated (normalize t) n c)
    (hw : word ∈ hedges) : normalize (word ++ " " ++ t) = word.toList ++ ' ' :: normalize t := by
  obtain ⟨start, letters, word_eq, -⟩ := exists_start hw
  obtain ⟨first, others, text_eq, digit⟩ := h.exists_cons
  have begins : word.toList.head? = some start := by
    rw [word_eq]
    rfl
  have no_sigma {d : Char} (sigma : d ∈ ['ſ', 'ς', 'σ']) : d ∉ normalize t := by
    intro mem
    have other := List.all_eq_true.1 strange_table.2.2 d sigma
    rw [Amount.isHedgedChar, h.isAmountChar mem, Bool.or_true] at other
    cases other
  refine normalize_behind (fun d hd => (letters_of_mem hw hd).2.2) begins text_eq
    (not_isBlank_of_isDigit digit) fun d hd => ⟨?_, ?_⟩
  · rintro rfl
    exact no_sigma (by decide) hd
  · rintro rfl
    exact no_sigma (by decide) hd

/-- What is read behind a hedge is the number. -/
theorem Stated.of_parse_hedged {n : Float} {c : Candidate} (h : Stated (normalize t) n c)
    (hw : word ∈ hedges) (permits : Config.Permits {} c.value)
    (hr : parse {} none (some (word ++ " " ++ t)) = .ok r) : r.strategy = .expression ∧ r.value = n := by
  obtain ⟨c', value, expression⟩ := h.exists_candidate?_hedged hw permits
  obtain ⟨candidate, _⟩ := candidate_of_parse hr
  rw [h.normalize_hedged hw] at candidate
  by_cases other : r.strategy = .expression
  · rw [other, expression] at candidate
    cases candidate
    exact ⟨other, value⟩
  · rw [h.candidate?_hedged hw other] at candidate
    cases candidate

/-- A number that is permitted is read behind a hedge. -/
theorem Stated.exists_parse_hedged {n : Float} {c : Candidate} (h : Stated (normalize t) n c)
    (hw : word ∈ hedges) (permits : Config.Permits {} c.value) (number : Config.Permits {} n) :
    ∃ r, parse {} none (some (word ++ " " ++ t)) = .ok r ∧ r.value = n := by
  obtain ⟨c', value, expression⟩ := h.exists_candidate?_hedged hw permits
  have text := h.normalize_hedged hw
  have passed : PassedOver {} (candidate? {} none (normalize (word ++ " " ++ t)))
      [.exact, .unit, .percentage, .relative, .spelled] [] := by
    rw [text]
    have absent {s : Strategy} (other : s ≠ .expression) := h.candidate?_hedged hw other
    exact .without (absent nofun) (.without (absent nofun) (.without (absent nofun)
      (.without (absent nofun) (.without (absent nofun) .nil))))
  rw [← text] at expression
  have nonempty : normalize (word ++ " " ++ t) ≠ [] := by
    rw [text]
    simp
  exact ⟨⟨_, .expression, c'⟩, parse_eq_ok_iff.2 ⟨nonempty, rfl,
    search_eq_found_iff.2 ⟨[.exact, .unit, .percentage, .relative, .spelled], [], [], rfl, passed,
      expression, value ▸ number⟩⟩, value⟩

/-- Behind a hedge the number of an amount is read and its unit is not. So the hedged text reads as
the same amount exactly if there is no unit. -/
theorem hedge_drops_unit (hw : word ∈ ["around", "about", "roughly"])
    (h : parse {} none (some t) = .ok r) (plain : r.strategy = .exact ∨ r.strategy = .unit) :
    (∀ r', parse {} none (some (word ++ " " ++ t)) = .ok r' →
      r'.strategy = .expression ∧ (numeral? (normalize t)).map (·.1) = some r'.value) ∧
    ((∃ r', parse {} none (some (word ++ " " ++ t)) = .ok r' ∧ r'.value = r.value) ↔
      r.candidate.unit = none) := by
  obtain ⟨permits, n, stated⟩ := exists_stated_of_parse h plain
  refine ⟨fun r' h' => ?_, ?_⟩
  · obtain ⟨rest, numeral⟩ := stated.numeral
    obtain ⟨strategy, value⟩ := stated.of_parse_hedged hw permits h'
    rw [numeral, value]
    exact ⟨strategy, rfl⟩
  · rw [← stated.value_eq_iff permits]
    constructor
    · rintro ⟨r', h', same⟩
      rw [← (stated.of_parse_hedged hw permits h').2, same]
      rfl
    · intro same
      obtain ⟨r', h', value⟩ := stated.exists_parse_hedged hw permits (same ▸ permits)
      exact ⟨r', h', value.trans same⟩

/-- "500" keeps its value behind "about", and "1.5k" behind "around" does not. -/
theorem about_five_hundred :
    (∃ r r', parse {} none (some "500") = .ok r ∧ parse {} none (some "about 500") = .ok r' ∧
      r'.value = r.value) ∧
    ∃ r, parse {} none (some "1.5k") = .ok r ∧
      ¬∃ r', parse {} none (some "around 1.5k") = .ok r' ∧ r'.value = r.value := by
  constructor
  · have exact : (parse {} none (some "500")).toOption.any
        fun r => r.strategy == .exact && r.candidate.unit.isNone := by
      decide +kernel
    obtain ⟨r, hr, checked⟩ := exists_eq_ok_of_any exact
    obtain ⟨strategy, no_unit⟩ := Bool.and_eq_true_iff.1 checked
    have hedge : "about" ∈ ["around", "about", "roughly"] := by decide
    have together : "about" ++ " " ++ "500" = "about 500" := by decide
    have reads := hedge_drops_unit hedge hr (.inl (eq_of_beq strategy))
    rw [together] at reads
    obtain ⟨r', hr', same⟩ := reads.2.2 (Option.isNone_iff_eq_none.1 no_unit)
    exact ⟨r, r', hr, hr', same⟩
  · have unit : (parse {} none (some "1.5k")).toOption.any
        fun r => r.strategy == .unit && r.candidate.unit.isSome := by
      decide +kernel
    obtain ⟨r, hr, checked⟩ := exists_eq_ok_of_any unit
    obtain ⟨strategy, stated⟩ := Bool.and_eq_true_iff.1 checked
    have hedge : "around" ∈ ["around", "about", "roughly"] := by decide
    have together : "around" ++ " " ++ "1.5k" = "around 1.5k" := by decide
    have reads := hedge_drops_unit hedge hr (.inr (eq_of_beq strategy))
    rw [together] at reads
    refine ⟨r, hr, fun alike => ?_⟩
    rw [reads.2.1 alike] at stated
    cases stated

/-- Around 1.5 thousand is read as 1.5. -/
theorem around_loses_thousands : ∃ r r', parse {} none (some "1.5k") = .ok r ∧ r.strategy = .unit ∧
    r.value = 1500 ∧ parse {} none (some "around 1.5k") = .ok r' ∧ r'.value = 1.5 := by
  have stated : (parse {} none (some "1.5k")).toOption.any
      fun r => r.strategy == .unit && r.value = 1500 := by
    decide +kernel
  have hedged : (parse {} none (some "around 1.5k")).toOption.any fun r => r.value = 1.5 := by
    decide +kernel
  obtain ⟨r, hr, checked⟩ := exists_eq_ok_of_any stated
  obtain ⟨strategy, value⟩ := Bool.and_eq_true_iff.1 checked
  obtain ⟨r', hr', value'⟩ := exists_eq_ok_of_any hedged
  exact ⟨r, r', hr, eq_of_beq strategy, of_decide_eq_true value, hr', of_decide_eq_true value'⟩

end Amount

end Teller
