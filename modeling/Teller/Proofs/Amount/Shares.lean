import Teller.Proofs.Amount.Search
import Teller.Proofs.Amount.Texts
import Teller.Proofs.Number.Doubles

/-!
# Shares of a base

A percentage alone is read as a share of at most the whole or not at all: no other strategy finds
anything in such a text. Behind a percentage of something more words may follow, and a later
strategy reads these when the percentage is beyond a hundred or its share is refused. Of the words
for shares the first one of the table that occurs decides, so a share may exceed those of the words
after it.

    percentage?_eq_some          what the strategy for percentages reads
    BarePercentage.silent        no strategy finds a word in a percentage alone
    mul_le_mul_of_fraction       a greater fraction is a greater share
    percentage_cases             what an amount is if the text states a percentage
    relative_cases               what an amount is if a word for a share is read
    shares_are_bounded           what an amount may be if the text states a share
    share_of_all_exceeded        a percentage, and a word for a share, that are exceeded
-/

namespace Teller

namespace Amount

open Text Number

variable {config : Config} {bases : Bases} {text rest : List Char} {n : Float} {c : Candidate}

/-! ## Percentages -/

/-- The marks of a percentage that stands alone. -/
def percentMarks : List String := ["%", "percent", "pct", "percentage"]

/-- A number with a mark for percentages, and nothing else. -/
inductive BarePercentage (text : List Char) : Prop
  | intro {n : Float} {rest : List Char} {mark : String} (numeral : numeral? text = some (n, rest))
      (mem : mark ∈ percentMarks) (after : rest.dropWhile isBlank = mark.toList) : BarePercentage text

/-- Characters before the mark of a percentage. -/
def isBeforeMark (c : Char) : Bool := c == '.' || isDigit c || isBlank c

/-- A mark begins with a character that is no unit, and the long s has no place in a percentage. -/
theorem mark_table : (∀ mark ∈ percentMarks, mark.toList ≠ [] ∧
    (unitFactor? (mark.toList.headD ' ')).isNone = true ∧ 'ſ' ∉ mark.toList) ∧
      isBeforeMark 'ſ' = false := by
  decide +kernel

/-- What follows the number of a percentage begins with a character that is no unit. -/
theorem exists_of_isPercentMark (h : isPercentMark rest = true) :
    ∃ first others, rest = first :: others ∧ unitFactor? first = none := by
  have starts (mark : String) (mem : mark ∈ percentMarks) :
      ∃ first others, mark.toList = first :: others ∧ unitFactor? first = none := by
    obtain ⟨nonempty, no_unit, -⟩ := mark_table.1 mark mem
    obtain ⟨first, others, same⟩ := List.exists_cons_of_ne_nil nonempty
    rw [same] at no_unit
    exact ⟨first, others, same, Option.isNone_iff_eq_none.1 no_unit⟩
  rcases Bool.or_eq_true_iff.1 h with alone | more
  · obtain ⟨mark, mem, same⟩ := List.any_eq_true.1 alone
    rw [beq_iff_eq.1 same]
    exact starts mark mem
  · obtain ⟨mark, mem, found⟩ := List.any_eq_true.1 more
    obtain ⟨after, rfl⟩ := List.isPrefixOf_iff_prefix.1 (Bool.and_eq_true_iff.1 found).1
    have among : mark ∈ percentMarks := by
      simp only [List.mem_cons, List.not_mem_nil, or_false] at mem
      rcases mem with rfl | rfl <;> decide
    obtain ⟨first, others, same, no_unit⟩ := starts mark among
    exact ⟨first, others ++ after, by rw [same, List.cons_append], no_unit⟩

/-- What a percentage looks like. -/
theorem exists_of_percent? (h : percent? text = some n) :
    ∃ rest first others, numeral? text = some (n, rest) ∧
      rest.dropWhile isBlank = first :: others ∧ unitFactor? first = none := by
  obtain ⟨⟨value, rest⟩, numeral, marked⟩ := Option.bind_eq_some_iff.1 h
  dsimp only at marked
  split at marked
  · next mark =>
    cases marked
    obtain ⟨first, others, same, no_unit⟩ := exists_of_isPercentMark mark
    exact ⟨rest, first, others, numeral, same, no_unit⟩
  · cases marked

/-- A percentage is neither a number alone nor a number with a unit. -/
theorem numberOnly_of_percent? (h : percent? text = some n) :
    numeralOnly? text = none ∧ withUnit? text = none := by
  obtain ⟨rest, first, others, numeral, mark, no_unit⟩ := exists_of_percent? h
  unfold numeralOnly? withUnit?
  rw [numeral]
  constructor
  · cases rest with
    | nil => cases mark
    | cons _ _ => rfl
  · dsimp only [Option.bind_some]
    rw [mark]
    cases others with
    | nil =>
      dsimp only
      rw [no_unit]
      rfl
    | cons _ _ => rfl

/-- The number of a percentage is the double for a decimal. -/
theorem isNearest_of_percent? (h : percent? text = some n) : ∃ v, IsNearest n v := by
  obtain ⟨rest, _, _, numeral, _⟩ := exists_of_percent? h
  obtain ⟨_, _, d, _, _, rfl⟩ := numeral?_eq_some numeral
  exact ⟨d.value, d.isNearest⟩

/-- What the strategy for percentages reads. -/
theorem percentage?_eq_some (h : percentage? config (some bases) text = some c) :
    ∃ n base sum, percent? text = some n ∧ ¬100 < n ∧ bases.first? Base.order = some (base, sum) ∧
      c.value = sum * n / 100 := by
  unfold percentage? at h
  simp only [bind, Option.bind_some, Option.bind_eq_some_iff] at h
  obtain ⟨n, percent, h⟩ := h
  split at h
  · cases h
  · next within =>
    obtain ⟨⟨base, sum⟩, first, h⟩ := Option.bind_eq_some_iff.1 h
    cases h
    simp only [Bool.or_eq_true, not_or, decide_eq_true_eq] at within
    exact ⟨n, base, sum, percent, within.2, first, rfl⟩

/-- A percentage up to a hundred has a share of the first base. -/
theorem exists_percentage? {base : Base} {sum : Float} (allowed : config.percentages = true)
    (percent : percent? text = some n) (within : ¬100 < n)
    (first : bases.first? Base.order = some (base, sum)) :
    ∃ c, percentage? config (some bases) text = some c ∧ c.value = sum * n / 100 := by
  obtain ⟨v, nearest⟩ := isNearest_of_percent? percent
  have accepted : ¬(!config.percentages || decide (n < 0) || decide (100 < n)) = true := by
    simp [allowed, nearest.not_neg, within]
  unfold percentage?
  simp only [bind, Option.bind_some, percent, if_neg accepted, first]
  exact ⟨_, rfl, rfl⟩

/-- What the strategy for relative words reads. -/
theorem relative?_eq_some (h : relative? config (some bases) text = some c) :
    ∃ entry base sum, (relativeWords.find? fun (word, _) => standsFrom word.toList true text) =
      some entry ∧ bases.first? (baseOrder text) = some (base, sum) ∧ c.value = sum * entry.2 := by
  unfold relative? at h
  simp only [bind, Option.bind_some, Option.bind_eq_some_iff] at h
  obtain ⟨entry, found, h⟩ := h
  split at h
  · cases h
  · obtain ⟨⟨base, sum⟩, first, h⟩ := Option.bind_eq_some_iff.1 h
    cases h
    exact ⟨entry, base, sum, found, first, rfl⟩

/-! ## Percentages alone -/

/-- All words and phrases that strategies look for. -/
def vocabulary : List String :=
  relativeWords.map (·.1) ++ numberWords.map (·.1) ++ roundPhrases.flatMap (·.1) ++ hedges

/-- Words begin with a letter and are not in the marks. -/
theorem vocabulary_table : ∀ word ∈ vocabulary, word.toList ≠ [] ∧
    isBeforeMark (word.toList.headD ' ') = false ∧
    ∀ mark ∈ percentMarks, occursIn word.toList mark.toList = false := by
  decide +kernel

theorem mem_vocabulary_of_share {entry : String × Float} (h : entry ∈ relativeWords) :
    entry.1 ∈ vocabulary := by
  unfold vocabulary
  simp only [List.mem_append]
  exact .inl (.inl (.inl (List.mem_map_of_mem h)))

theorem mem_vocabulary_of_number {entry : String × Nat} (h : entry ∈ numberWords) :
    entry.1 ∈ vocabulary := by
  unfold vocabulary
  simp only [List.mem_append]
  exact .inl (.inl (.inr (List.mem_map_of_mem h)))

theorem mem_vocabulary_of_phrase {entry : List String × Float} {phrase : String}
    (h : entry ∈ roundPhrases) (hp : phrase ∈ entry.1) : phrase ∈ vocabulary := by
  unfold vocabulary
  simp only [List.mem_append]
  exact .inl (.inr (List.mem_flatMap.2 ⟨entry, h, hp⟩))

theorem mem_vocabulary_of_hedge {word : String} (h : word ∈ hedges) : word ∈ vocabulary :=
  List.mem_append_right _ h

namespace BarePercentage

/-- What stands before the mark. -/
theorem exists_append (h : BarePercentage text) : ∃ before, (∀ c ∈ before, isBeforeMark c = true) ∧
    ∃ mark ∈ percentMarks, text = before ++ mark.toList := by
  obtain @⟨n, rest, mark, numeral, mem, after⟩ := h
  obtain ⟨whole, tail, _, rfl, form, _⟩ := numeral?_eq_some numeral
  refine ⟨whole ++ tail ++ rest.takeWhile isBlank, ?_, mark, mem, ?_⟩
  · intro c hc
    unfold isBeforeMark
    rcases List.mem_append.1 hc with hc | hc
    · rcases cases_of_mem_numeral form hc with rfl | digit
      · rfl
      · rw [digit, Bool.or_true, Bool.true_or]
    · rw [List.mem_takeWhile_imp hc, Bool.or_true]
  · rw [← after, List.append_assoc (whole ++ tail), List.takeWhile_append_dropWhile, List.append_assoc]

/-- No strategy finds a word. -/
theorem silent (h : BarePercentage text) {word : String} (mem : word ∈ vocabulary) :
    occursIn word.toList text = false := by
  obtain ⟨before, numeric, mark, hm, rfl⟩ := h.exists_append
  obtain ⟨nonempty, letter, absent⟩ := vocabulary_table word mem
  obtain ⟨first, others, same⟩ := List.exists_cons_of_ne_nil nonempty
  apply eq_false_of_ne_true
  intro occurs
  rw [same] at occurs letter absent
  have apart : first ∉ before := by
    intro inside
    rw [List.headD_cons, numeric first inside] at letter
    cases letter
  have inside := occursIn_of_append occurs apart
  rw [absent mark hm] at inside
  cases inside

theorem no_long_s (h : BarePercentage text) : 'ſ' ∉ text := by
  obtain ⟨marks, other⟩ := mark_table
  obtain ⟨before, numeric, mark, hm, rfl⟩ := h.exists_append
  intro mem
  rcases List.mem_append.1 mem with inside | inside
  · rw [numeric _ inside] at other
    cases other
  · exact (marks mark hm).2.2 inside

/-- The strategies that look for words find nothing. -/
theorem candidate?_eq_none (h : BarePercentage text) {s : Strategy}
    (words : s = .relative ∨ s = .spelled ∨ s = .expression) :
    candidate? config (some bases) text s = .ok none := by
  rcases words with rfl | rfl | rfl
  · show Except.ok (relative? config (some bases) text) = _
    cases found : relative? config (some bases) text with
    | none => rfl
    | some c =>
      obtain ⟨entry, _, _, stands, _⟩ := relative?_eq_some found
      have occurs := List.find?_some stands
      have silent := h.silent (mem_vocabulary_of_share (List.mem_of_find?_eq_some stands))
      rw [occursIn_of_standsFrom occurs] at silent
      cases silent
  · have none : spelledValue text = 0 :=
      spelledValue_eq_zero fun entry mem => h.silent (mem_vocabulary_of_number mem)
    show spelled? text = _
    unfold spelled?
    rw [none]
    rfl
  · have none : hedged? text = none :=
      hedged?_eq_none fun word mem => h.silent (mem_vocabulary_of_hedge mem)
    show Except.ok (expression? text) = _
    unfold expression?
    rw [expressionValue?_eq h.no_long_s fun entry mem phrase hp =>
      h.silent (mem_vocabulary_of_phrase mem hp), none]
    rfl

end BarePercentage

/-! ## Shares -/

/-- The first base is one of the sums. -/
theorem first?_eq_some {order : List Base} {base : Base} {sum : Float}
    (h : bases.first? order = some (base, sum)) : bases.get? base = some sum := by
  obtain ⟨other, _, found⟩ := List.exists_of_findSome?_eq_some h
  obtain ⟨_, get, same⟩ := Option.map_eq_some_iff.1 found
  cases same
  exact get

/-- A base that is a sum is found in every order. -/
theorem exists_first? {base : Base} {sum : Float} (h : bases.get? base = some sum)
    {order : List Base} (mem : base ∈ order) :
    ∃ first sum, bases.first? order = some (first, sum) := by
  have found : ((bases.first? order).isSome) = true := by
    refine List.findSome?_isSome_iff.2 ⟨base, mem, ?_⟩
    rw [h]
    rfl
  obtain ⟨⟨first, sum⟩, same⟩ := Option.isSome_iff_exists.1 found
  exact ⟨first, sum, same⟩

/-- A base that is not negative is positive. -/
theorem pos_of_get? {base : Base} {sum : Float} (h : bases.get? base = some sum) (nonneg : 0 ≤ sum) :
    0 < sum := by
  obtain ⟨_, nonzero⟩ := Option.filter_eq_some_iff.1 h
  refine pos_of_nonneg nonneg ?_
  simpa [bne] using nonzero

/-- The fractions of the table are parts of a whole. -/
theorem exists_denotes_of_mem {entry : String × Float} (h : entry ∈ relativeWords) :
    ∃ v, Denotes entry.2 v ∧ 0 < v ∧ v ≤ 1 := by
  have table : ∀ entry ∈ relativeWords, 0 < entry.2 ∧ entry.2.isFinite = true ∧ entry.2 ≤ 1 := by
    decide +kernel
  obtain ⟨positive, finite, part⟩ := table entry h
  obtain ⟨v, pos, denotes⟩ := exists_denotes positive finite
  exact ⟨v, denotes, pos, (denotes.le_iff denotes_one).1 part⟩

/-- A greater fraction is a greater share. -/
theorem mul_le_mul_of_fraction {sum f g : Float} {v w : Rat} (positive : 0 < sum) (hf : Denotes f v)
    (hg : Denotes g w) (pos : 0 < v) (le : v ≤ w) (part : w ≤ 1) : sum * f ≤ sum * g := by
  cases finite : sum.isFinite with
  | false =>
    have unpack := unpack_of_pos positive finite
    have hx := Denotes.infinite_mul unpack hf pos
    have hy := Denotes.infinite_mul unpack hg (pos.trans_le le)
    rw [Number.le_iff, order, hx, hy]
    exact ⟨not_isNaN_of_unpack hx rfl, not_isNaN_of_unpack hy rfl, rfl⟩
  | true =>
    obtain ⟨u, pos', hu⟩ := exists_denotes positive finite
    have grown : u * v ≤ u * w := mul_le_mul_of_nonneg_left le pos'.le
    have moderate : Moderate (u * w) := hu.moderate.of_le (mul_le_of_le_one_right pos'.le part)
    obtain ⟨p, rounds, share⟩ := (hu.mul hf).exists_denotes (moderate.of_le grown)
    obtain ⟨q, rounds', share'⟩ := (hu.mul hg).exists_denotes moderate
    exact (share.le_iff share').2 (rounds.mono rounds' grown)

/-! ## Reading shares -/

variable {raw : String} {r : Reading}

/-- What comes after percentages in the order comes after percentages. -/
theorem mem_before_of_later {before after : List Strategy} {s : Strategy}
    (h : Strategy.order = before ++ s :: after) (later : s = .relative ∨ s = .spelled ∨ s = .expression) :
    .percentage ∈ before := by
  unfold Strategy.order at h
  rcases before with _ | ⟨a, _ | ⟨b, _ | ⟨d, before⟩⟩⟩
  · cases h
    simp at later
  · cases h
    simp at later
  · cases h
    simp at later
  · simp only [List.cons_append, List.cons.injEq] at h
    simp [h.2.2.1]

/-- What an amount is if the text states a percentage: the percentage of the first base, up to a
hundred. Only behind the percentage of something a later strategy may read other words, if the
percentage is beyond a hundred or its share is not permitted. -/
theorem percentage_cases {base : Base} {sum : Float} (allowed : config.percentages = true)
    (some_base : bases.get? base = some sum) (h : parse config (some bases) (some raw) = .ok r)
    (percent : percent? (normalize raw) = some n) : ∃ base sum,
    bases.first? Base.order = some (base, sum) ∧
      (r.strategy = .percentage ∧ n ≤ 100 ∧ r.value = sum * n / 100 ∨
        ¬BarePercentage (normalize raw) ∧
          (r.strategy = .relative ∨ r.strategy = .spelled ∨ r.strategy = .expression) ∧
          (100 < n ∨ ¬config.Permits (sum * n / 100))) := by
  obtain ⟨_, _, found⟩ := parse_eq_ok_iff.1 h
  obtain ⟨before, after, rejected, order_eq, passed, candidate, permits⟩ := search_eq_found_iff.1 found
  have tried : base ∈ Base.order := by cases base <;> decide
  obtain ⟨base, sum, first⟩ := exists_first? some_base tried
  obtain ⟨not_exact, not_unit⟩ := numberOnly_of_percent? percent
  obtain ⟨v, nearest⟩ := isNearest_of_percent? percent
  refine ⟨base, sum, first, ?_⟩
  have kinds : r.strategy = .exact ∨ r.strategy = .unit ∨ r.strategy = .percentage ∨
      (r.strategy = .relative ∨ r.strategy = .spelled ∨ r.strategy = .expression) := by
    cases r.strategy <;> simp
  rcases kinds with exact | unit | percentage | later
  · rw [exact] at candidate
    cases not_exact.symm.trans (Except.ok.inj candidate)
  · rw [unit] at candidate
    cases not_unit.symm.trans (Except.ok.inj candidate)
  · rw [percentage] at candidate
    obtain ⟨m, base', sum', percent', within, first', value⟩ :=
      percentage?_eq_some (Except.ok.inj candidate)
    rw [percent] at percent'
    cases percent'
    rw [first] at first'
    cases first'
    exact .inl ⟨percentage, le_of_not_lt nearest.not_isNaN (by decide) within, value⟩
  · refine .inr ⟨?_, later, ?_⟩
    · intro bare
      rw [bare.candidate?_eq_none later] at candidate
      cases candidate
    · -- a percentage up to a hundred has a candidate, which was passed over
      by_contra! within
      obtain ⟨c, share, value⟩ := exists_percentage? allowed percent within.1 first
      refine passed.not_permits (mem_before_of_later order_eq later) (congrArg Except.ok share) ?_
      rw [value]
      exact within.2

/-- What an amount is if a word for a share is read: the share of the first word of the table that
occurs, so at most that of any other one with a fraction at least as great. -/
theorem relative_cases (nonneg : ∀ base sum, bases.get? base = some sum → 0 ≤ sum)
    (h : parse config (some bases) (some raw) = .ok r) (relative : r.strategy = .relative) :
    ∃ base sum word fraction, bases.first? (baseOrder (normalize raw)) = some (base, sum) ∧
      (relativeWords.find? fun (word, _) => standsFrom word.toList true (normalize raw)) =
        some (word, fraction) ∧ r.value = sum * fraction ∧
      ∀ entry ∈ relativeWords, fraction ≤ entry.2 → r.value ≤ sum * entry.2 := by
  obtain ⟨candidate, _⟩ := candidate_of_parse h
  rw [relative] at candidate
  obtain ⟨⟨word, fraction⟩, base, sum, stands, first, value⟩ :=
    relative?_eq_some (Except.ok.inj candidate)
  have positive := pos_of_get? (first?_eq_some first) (nonneg _ _ (first?_eq_some first))
  obtain ⟨v, part, pos, _⟩ := exists_denotes_of_mem (List.mem_of_find?_eq_some stands)
  refine ⟨base, sum, word, fraction, first, stands, value, fun entry mem le => ?_⟩
  obtain ⟨w, other, _, whole⟩ := exists_denotes_of_mem mem
  rw [Reading.value, value]
  exact mul_le_mul_of_fraction positive part other pos ((part.le_iff other).1 le) whole

/-- What an amount may be if the text states a share of bases that are not negative. A percentage
alone is read as such, with a number up to a hundred. A percentage of something is read as such too,
unless the number is greater or the share is not permitted; then a later strategy may read the rest
of the text. A word is read as the share that the first word of the table stands for, which is no
greater than the share of any word with a fraction at least as great. -/
theorem shares_are_bounded {base : Base} {sum : Float} (allowed : config.percentages = true)
    (some_base : bases.get? base = some sum)
    (nonneg : ∀ base sum, bases.get? base = some sum → 0 ≤ sum)
    (h : parse config (some bases) (some raw) = .ok r) :
    (∀ n, percent? (normalize raw) = some n → ∃ base sum,
      bases.first? Base.order = some (base, sum) ∧
        (r.strategy = .percentage ∧ n ≤ 100 ∧ r.value = sum * n / 100 ∨
          ¬BarePercentage (normalize raw) ∧
            (r.strategy = .relative ∨ r.strategy = .spelled ∨ r.strategy = .expression) ∧
            (100 < n ∨ ¬config.Permits (sum * n / 100)))) ∧
    (r.strategy = .relative → ∃ base sum word fraction,
      bases.first? (baseOrder (normalize raw)) = some (base, sum) ∧
      (relativeWords.find? fun (word, _) => standsFrom word.toList true (normalize raw)) =
        some (word, fraction) ∧ r.value = sum * fraction ∧
      ∀ entry ∈ relativeWords, fraction ≤ entry.2 → r.value ≤ sum * entry.2) :=
  ⟨fun _ percent => percentage_cases allowed some_base h percent, relative_cases nonneg h⟩

/-- A quarter as a percentage, and a third, which is no more than most. -/
theorem quarter_and_third_bounded :
    (∃ r n, parse {} (some { balance := some 1000 }) (some "25%") = .ok r ∧
      percent? (normalize "25%") = some n ∧ n ≤ 100 ∧ r.strategy = .percentage) ∧
    ∃ r sum, parse {} (some { balance := some 1000 }) (some "a third or most") = .ok r ∧
      r.strategy = .relative ∧ r.value ≤ sum * 0.8 := by
  have some_base : Bases.get? { balance := some 1000 } .balance = some 1000 := by decide +kernel
  have nonneg : ∀ base sum, Bases.get? { balance := some 1000 } base = some sum → 0 ≤ sum := by
    intro base sum h
    cases base with
    | balance =>
      rw [some_base] at h
      cases h
      decide +kernel
    | portfolio | position => cases h
  constructor
  · have read : (parse {} (some { balance := some 1000 }) (some "25%")).toOption.any
        fun r => r.strategy == .percentage := by
      decide +kernel
    have percent : percent? (normalize "25%") = some 25 := by decide +kernel
    obtain ⟨r, hr, strategy⟩ := exists_eq_ok_of_any read
    obtain ⟨base, sum, first, share | ⟨_, later, _⟩⟩ :=
      (shares_are_bounded rfl some_base nonneg hr).1 25 percent
    · exact ⟨r, 25, hr, percent, share.2.1, share.1⟩
    · rw [eq_of_beq strategy] at later
      simp at later
  · have read : (parse {} (some { balance := some 1000 }) (some "a third or most")).toOption.any
        fun r => r.strategy == .relative := by
      decide +kernel
    have third : (relativeWords.find? fun (word, _) =>
        standsFrom word.toList true (normalize "a third or most")) = some ("third", 0.333) := by
      decide +kernel
    obtain ⟨r, hr, strategy⟩ := exists_eq_ok_of_any read
    obtain ⟨base, sum, word, fraction, _, found, _, bounded⟩ :=
      (shares_are_bounded rfl some_base nonneg hr).2 (eq_of_beq strategy)
    rw [third] at found
    cases found
    have most : ("most", 0.8) ∈ relativeWords := by simp [relativeWords]
    have less : (0.333 : Float) ≤ 0.8 := by decide +kernel
    have within := bounded ("most", 0.8) most
    dsimp only at within
    exact ⟨r, sum, hr, eq_of_beq strategy, within less⟩

/-- More than the whole is read as the whole, and half of some as a half. -/
theorem share_of_all_exceeded :
    (∃ r, parse {} (some { balance := some 1000 }) (some "150% of all") = .ok r ∧
      percent? (normalize "150% of all") = some 150 ∧ r.strategy = .relative ∧ r.value = 1000) ∧
    ∃ r, parse {} (some { balance := some 1000 }) (some "half of some") = .ok r ∧
      r.strategy = .relative ∧ standsFrom "some".toList true (normalize "half of some") = true ∧
      relativeWords.lookup "some" = some 0.3 ∧ 1000 * 0.3 < r.value := by
  constructor
  · have read : (parse {} (some { balance := some 1000 }) (some "150% of all")).toOption.any
        fun r => r.strategy == .relative && r.value = 1000 := by
      decide +kernel
    obtain ⟨r, hr, checked⟩ := exists_eq_ok_of_any read
    obtain ⟨strategy, value⟩ := Bool.and_eq_true_iff.1 checked
    exact ⟨r, hr, by decide +kernel, eq_of_beq strategy, of_decide_eq_true value⟩
  · have read : (parse {} (some { balance := some 1000 }) (some "half of some")).toOption.any
        fun r => r.strategy == .relative && decide (1000 * 0.3 < r.value) := by
      decide +kernel
    obtain ⟨r, hr, checked⟩ := exists_eq_ok_of_any read
    obtain ⟨strategy, exceeds⟩ := Bool.and_eq_true_iff.1 checked
    exact ⟨r, hr, eq_of_beq strategy, by decide +kernel, by decide +kernel, of_decide_eq_true exceeds⟩

end Amount

end Teller
