import Teller.Amount.Reading
import Teller.Proofs.Number.Bounds
import Teller.Proofs.Success

/-!
# Which strategy reads an amount

The strategies are asked in their order. One without a candidate is passed over, and so is one whose
candidate is refused; the first candidate that is permitted ends the search. When none is, the
report lists the candidates that were refused.

A bound that is NaN limits nothing: an amount is refused when it is outside of a bound, and nothing
is outside of NaN.

    rangeFault?_eq_some_iff           what each refusal says of an amount
    rangeFault?_eq_none_iff_permits   what is permitted
    search_cons_eq_ok_iff             one step of the search
    search_eq_found_iff               the first permitted candidate
    search_eq_rejected_iff            no permitted candidate, and what was refused
    search_outcome                    what an amount that is read comes from, and what a failure reports
    unbounded_by_nan                  an amount that is not within a bound of NaN
-/

namespace Teller

namespace Amount

variable {config : Config} {x : Float}

/-! ## Refusals -/

/-- What a refusal says of an amount. -/
def RangeFault.Applies (config : Config) (x : Float) : RangeFault → Prop
  | notPositive => x.isNaN = true ∨ x ≤ 0
  | tooSmall => 0 < x ∧ x < config.least
  | tooLarge => 0 < x ∧ ¬x < config.least ∧ config.most < x

/-- A positive number outside of neither bound. -/
structure Config.Permits (config : Config) (x : Float) : Prop where
  number : x.isNaN = false
  positive : 0 < x
  not_below : ¬x < config.least
  not_above : ¬config.most < x

/-- What is permitted lies between the bounds, as far as these are numbers. -/
theorem Config.Permits.least_le (h : config.Permits x) (bound : config.least.isNaN = false) :
    config.least ≤ x :=
  Number.le_of_not_lt bound h.number h.not_below

theorem Config.Permits.le_most (h : config.Permits x) (bound : config.most.isNaN = false) :
    x ≤ config.most :=
  Number.le_of_not_lt h.number bound h.not_above

theorem not_le_zero_iff (number : x.isNaN = false) : ¬x ≤ 0 ↔ 0 < x := by
  have zero : (0 : Float).isNaN = false := by decide
  rw [Number.le_iff, Number.lt_iff zero number, Number.isLE_order_iff]
  simp only [number, zero, true_and, Classical.not_not]

theorem rangeFault?_eq_none_iff_permits : rangeFault? config x = none ↔ config.Permits x := by
  rw [rangeFault?_eq_none_iff]
  constructor
  · rintro ⟨⟨number, positive⟩, not_below, not_above⟩
    exact ⟨number, (not_le_zero_iff number).1 positive, not_below, not_above⟩
  · rintro ⟨number, positive, not_below, not_above⟩
    exact ⟨⟨number, (not_le_zero_iff number).2 positive⟩, not_below, not_above⟩

/-- What each refusal says of an amount. -/
theorem rangeFault?_eq_some_iff {fault : RangeFault} :
    rangeFault? config x = some fault ↔ fault.Applies config x := by
  unfold rangeFault?
  by_cases wrong : x.isNaN = true ∨ x ≤ 0
  · -- what is no positive number is refused for that alone
    have not_positive : ¬0 < x := by
      intro positive
      rcases wrong with nan | small
      · rw [(Number.not_isNaN_of_lt positive).2] at nan
        cases nan
      · exact (not_le_zero_iff (Number.not_isNaN_of_lt positive).2).2 positive small
    rw [if_pos (Bool.or_eq_true _ _ ▸ wrong.imp_right decide_eq_true)]
    cases fault
    case notPositive => exact iff_of_true rfl wrong
    case tooSmall => exact iff_of_false nofun (fun applies => not_positive applies.1)
    case tooLarge => exact iff_of_false nofun (fun applies => not_positive applies.1)
  · have positive : 0 < x := by
      rw [not_or, Bool.not_eq_true] at wrong
      exact (not_le_zero_iff wrong.1).1 wrong.2
    rw [if_neg (fun nan => wrong ((Bool.or_eq_true _ _ ▸ nan).imp_right of_decide_eq_true))]
    by_cases below : x < config.least
    · rw [if_pos below]
      cases fault
      case notPositive => exact iff_of_false nofun wrong
      case tooSmall => exact iff_of_true rfl ⟨positive, below⟩
      case tooLarge => exact iff_of_false nofun (fun applies => applies.2.1 below)
    · rw [if_neg below]
      cases fault
      case notPositive => exact iff_of_false (by simp) wrong
      case tooSmall => exact iff_of_false (by simp) (fun applies => below applies.2)
      case tooLarge => simp [RangeFault.Applies, positive, below]

/-! ## The search -/

/-- Strategies that the search passes over, and the candidates among them that are refused. -/
inductive PassedOver (config : Config) (candidate : Strategy → Except Fault (Option Candidate)) :
    List Strategy → List Rejection → Prop
  | nil : PassedOver config candidate [] []
  | without {s : Strategy} {rest : List Strategy} {rejected : List Rejection}
      (none : candidate s = .ok none) (others : PassedOver config candidate rest rejected) :
      PassedOver config candidate (s :: rest) rejected
  | refused {s : Strategy} {c : Candidate} {fault : RangeFault} {rest : List Strategy}
      {rejected : List Rejection} (some : candidate s = .ok (some c))
      (applies : fault.Applies config c.value) (others : PassedOver config candidate rest rejected) :
      PassedOver config candidate (s :: rest) (⟨s, c.value, fault⟩ :: rejected)

variable {candidate : Strategy → Except Fault (Option Candidate)} {order : List Strategy}

/-- What the first strategy contributes to a search: nothing, the candidate that is found, or a
refusal that is reported if the others find nothing either. -/
theorem search_cons_eq_ok_iff {first : Strategy}
    {result : Except (List Rejection) (Strategy × Candidate)} :
    search config candidate (first :: order) = .ok result ↔
      candidate first = .ok none ∧ search config candidate order = .ok result ∨
      ∃ c, candidate first = .ok (some c) ∧ (config.Permits c.value ∧ result = .ok (first, c) ∨
        ∃ fault later, fault.Applies config c.value ∧ search config candidate order = .ok later ∧
          result = later.mapError (⟨first, c.value, fault⟩ :: ·)) := by
  rw [search]
  constructor
  · intro h
    obtain ⟨found, hc, h⟩ := bind_eq_ok h
    cases found with
    | none => exact .inl ⟨hc, h⟩
    | some c =>
      refine .inr ⟨c, hc, ?_⟩
      dsimp only at h
      cases range : rangeFault? config c.value with
      | none =>
        rw [range] at h
        cases h
        exact .inl ⟨rangeFault?_eq_none_iff_permits.1 range, rfl⟩
      | some fault =>
        rw [range] at h
        obtain ⟨later, others, h⟩ := bind_eq_ok h
        refine .inr ⟨fault, later, rangeFault?_eq_some_iff.1 range, others, ?_⟩
        cases later with
        | error | ok => exact (Except.ok.inj h).symm
  · rintro (⟨hc, h⟩ | ⟨c, hc, ⟨permits, rfl⟩ | ⟨fault, later, applies, others, rfl⟩⟩)
    · rw [hc, ok_bind]
      exact h
    · rw [hc, ok_bind]
      simp only [rangeFault?_eq_none_iff_permits.2 permits]
      rfl
    · rw [hc, ok_bind]
      simp only [rangeFault?_eq_some_iff.2 applies, others]
      cases later with
      | error | ok => rfl

/-- The first permitted candidate is found. -/
theorem search_eq_found_iff {s : Strategy} {c : Candidate} :
    search config candidate order = .ok (.ok (s, c)) ↔
      ∃ before after rejected, order = before ++ s :: after ∧
        PassedOver config candidate before rejected ∧ candidate s = .ok (some c) ∧
        config.Permits c.value := by
  constructor
  · intro h
    induction order with
    | nil => cases h
    | cons first rest ih =>
      obtain ⟨hf, h⟩ | ⟨c', hf, ⟨permits, same⟩ | ⟨fault, later, applies, others, same⟩⟩ :=
        search_cons_eq_ok_iff.1 h
      · obtain ⟨before, after, rejected, rfl, passed, found⟩ := ih h
        exact ⟨first :: before, after, rejected, rfl, .without hf passed, found⟩
      · cases same
        exact ⟨[], rest, [], rfl, .nil, hf, permits⟩
      · cases later with
        | error => cases same
        | ok =>
          cases same
          obtain ⟨before, after, rejected, rfl, passed, found⟩ := ih others
          exact ⟨first :: before, after, _, rfl, .refused hf applies passed, found⟩
  · rintro ⟨before, after, rejected, rfl, passed, hc, permits⟩
    induction passed with
    | nil => exact search_cons_eq_ok_iff.2 (.inr ⟨c, hc, .inl ⟨permits, rfl⟩⟩)
    | without hf _ ih => exact search_cons_eq_ok_iff.2 (.inl ⟨hf, ih⟩)
    | refused hf applies _ ih =>
      exact search_cons_eq_ok_iff.2 (.inr ⟨_, hf, .inr ⟨_, _, applies, ih, rfl⟩⟩)

/-- Nothing is found if every strategy is passed over. -/
theorem search_eq_rejected_iff {rejected : List Rejection} :
    search config candidate order = .ok (.error rejected) ↔
      PassedOver config candidate order rejected := by
  constructor
  · intro h
    induction order generalizing rejected with
    | nil =>
      cases h
      exact .nil
    | cons first rest ih =>
      obtain ⟨hf, h⟩ | ⟨c, hf, ⟨_, same⟩ | ⟨fault, later, applies, others, same⟩⟩ :=
        search_cons_eq_ok_iff.1 h
      · exact .without hf (ih h)
      · cases same
      · cases later with
        | ok => cases same
        | error =>
          cases same
          exact .refused hf applies (ih others)
  · intro passed
    induction passed with
    | nil => rfl
    | without hf _ ih => exact search_cons_eq_ok_iff.2 (.inl ⟨hf, ih⟩)
    | refused hf applies _ ih =>
      exact search_cons_eq_ok_iff.2 (.inr ⟨_, hf, .inr ⟨_, _, applies, ih, rfl⟩⟩)

/-- A candidate that was passed over is not permitted. -/
theorem PassedOver.not_permits {rejected : List Rejection} {s : Strategy} {c : Candidate}
    (h : PassedOver config candidate order rejected) (mem : s ∈ order)
    (some : candidate s = .ok (some c)) : ¬config.Permits c.value := by
  induction h with
  | nil => cases mem
  | without none _ ih =>
    rcases List.mem_cons.1 mem with rfl | later
    · rw [none] at some
      cases some
    · exact ih later
  | refused found applies _ ih =>
    rcases List.mem_cons.1 mem with rfl | later
    · rw [found] at some
      cases some
      rw [← rangeFault?_eq_none_iff_permits, rangeFault?_eq_some_iff.2 applies]
      exact nofun
    · exact ih later

/-! ## Reading -/

variable {bases : Option Bases} {raw : String}

/-- What an amount that is read comes from. -/
theorem read_eq_ok_iff {r : Reading} :
    read config bases raw = .ok r ↔ normalize raw ≠ [] ∧ r.input = raw ∧
      search config (candidate? config bases (normalize raw)) Strategy.order =
        .ok (.ok (r.strategy, r.candidate)) := by
  unfold read
  dsimp only
  split
  · next blank => simp [List.isEmpty_iff.1 blank]
  · next text =>
    rw [List.isEmpty_iff] at text
    split
    · next found => simp [found]
    · next found => simp [found]
    · next strategy candidate found =>
      rw [found]
      constructor
      · rintro ⟨⟩
        exact ⟨text, rfl, rfl⟩
      · rintro ⟨_, rfl, same⟩
        cases same
        rfl

theorem parse_eq_ok_iff {r : Reading} :
    parse config bases (some raw) = .ok r ↔ normalize raw ≠ [] ∧ r.input = raw ∧
      search config (candidate? config bases (normalize raw)) Strategy.order =
        .ok (.ok (r.strategy, r.candidate)) :=
  (mapError_eq_ok_iff ..).trans read_eq_ok_iff

/-- An amount that is read is a permitted candidate of its strategy. -/
theorem candidate_of_parse {r : Reading} (h : parse config bases (some raw) = .ok r) :
    candidate? config bases (normalize raw) r.strategy = .ok (some r.candidate) ∧
      config.Permits r.value := by
  obtain ⟨_, _, found⟩ := parse_eq_ok_iff.1 h
  obtain ⟨_, candidate, range⟩ := search_eq_ok found
  exact ⟨candidate, rangeFault?_eq_none_iff_permits.1 range⟩

/-- A failure without a permitted candidate. -/
theorem read_eq_unreadable_iff {text : List Char} {rejected : List Rejection} :
    read config bases raw = .error (.unreadable text rejected) ↔ normalize raw ≠ [] ∧
      text = normalize raw ∧
      search config (candidate? config bases (normalize raw)) Strategy.order =
        .ok (.error rejected) := by
  unfold read
  dsimp only
  split
  · next blank => simp [List.isEmpty_iff.1 blank]
  · next stated =>
    rw [List.isEmpty_iff] at stated
    split
    · next found => simp [found]
    · next found => simp [found, stated, eq_comm]
    · next found => simp [found]

theorem exists_rejected_of_code {error : ReadError} {input : Option String}
    (h : (error.failure config bases input).code = .amountParsingFailed) :
    ∃ text rejected, error = .unreadable text rejected ∧
      (error.failure config bases input).details.lookup "rejected" =
        some (.listOf Rejection.document rejected) := by
  cases error with
  | empty => cases h
  | unreadable text rejected => exact ⟨text, rejected, rfl, rfl⟩
  | broken fault => cases h

/-- What an amount that is read comes from: it is permitted, and all earlier strategies were passed
over. What a failure reports: all strategies were passed over, and these candidates were refused. -/
theorem search_outcome (config : Config) (bases : Option Bases) (input : Option String) :
    (∀ r, parse config bases input = .ok r → input = some r.input ∧ config.Permits r.value ∧
      (config.least.isNaN = false → config.least ≤ r.value) ∧
      (config.most.isNaN = false → r.value ≤ config.most) ∧
      ∃ before after rejected, Strategy.order = before ++ r.strategy :: after ∧
        PassedOver config (candidate? config bases (normalize r.input)) before rejected ∧
        candidate? config bases (normalize r.input) r.strategy = .ok (some r.candidate)) ∧
    ∀ f, parse config bases input = .error f → f.code = .amountParsingFailed →
      ∃ rejected, f.details.lookup "rejected" = some (.listOf Rejection.document rejected) ∧
        PassedOver config (candidate? config bases (normalize (input.getD ""))) Strategy.order
          rejected := by
  constructor
  · intro r h
    obtain ⟨stated, given, found⟩ := read_eq_ok_iff.1 ((mapError_eq_ok_iff ..).1 h)
    have input_eq : input = some r.input := by
      cases input with
      | none => exact absurd rfl stated
      | some raw => exact congrArg some given.symm
    rw [← given] at found
    obtain ⟨before, after, rejected, order_eq, passed, hc, permits⟩ := search_eq_found_iff.1 found
    exact ⟨input_eq, permits, permits.least_le, permits.le_most, before, after, rejected, order_eq,
      passed, hc⟩
  · intro f h code
    cases hr : read config bases (input.getD "") with
    | ok r =>
      rw [parse, hr] at h
      cases h
    | error error =>
      rw [parse, hr] at h
      cases h
      obtain ⟨text, rejected, rfl, details⟩ := exists_rejected_of_code code
      obtain ⟨_, _, found⟩ := read_eq_unreadable_iff.1 hr
      exact ⟨rejected, details, search_eq_rejected_iff.1 found⟩

/-- No percent of half: the percentage is refused, as it is zero, and "half" is read. A zero alone
is refused twice. -/
theorem half_found_zero_rejected :
    (∃ r, parse {} (some { balance := some 1000 }) (some "0% of half") = .ok r ∧ r.value = 500 ∧
      Config.Permits {} r.value ∧ ∃ before after rejected,
        Strategy.order = before ++ r.strategy :: after ∧
        PassedOver {} (candidate? {} (some { balance := some 1000 }) (normalize r.input)) before
          rejected) ∧
    ∃ f rejected, parse {} none (some "0") = .error f ∧
      f.details.lookup "rejected" = some (.listOf Rejection.document rejected) ∧
      PassedOver {} (candidate? {} none (normalize "0")) Strategy.order rejected := by
  constructor
  · have found : (parse {} (some { balance := some 1000 }) (some "0% of half")).toOption.any
        fun r => r.value = 500 := by
      decide +kernel
    obtain ⟨r, hr, half⟩ := exists_eq_ok_of_any found
    obtain ⟨_, permits, _, _, before, after, rejected, order_eq, passed, _⟩ :=
      (search_outcome {} _ _).1 r hr
    exact ⟨r, hr, of_decide_eq_true half, permits, before, after, rejected, order_eq, passed⟩
  · have failed : (error? (parse {} none (some "0"))).any (·.code == .amountParsingFailed) := by
      decide +kernel
    obtain ⟨f, hf, code⟩ := exists_eq_error_of_any failed
    obtain ⟨rejected, details, passed⟩ := (search_outcome {} _ _).2 f hf (eq_of_beq code)
    exact ⟨f, rejected, hf, details, passed⟩

/-- An amount is read although it is not within the bounds, if these are NaN. -/
theorem unbounded_by_nan : ∃ r, parse { least := 0 / 0 } none (some "5") = .ok r ∧
    r.value = 5 ∧ ¬(0 / 0 ≤ r.value) := by
  have read_five : (parse { least := 0 / 0 } none (some "5")).toOption.any
      fun r => r.value = 5 := by
    decide +kernel
  obtain ⟨r, hr, five⟩ := exists_eq_ok_of_any read_five
  have five : r.value = 5 := of_decide_eq_true five
  refine ⟨r, hr, five, ?_⟩
  rw [five]
  decide +kernel

end Amount

end Teller
