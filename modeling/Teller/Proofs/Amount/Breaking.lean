import Teller.Proofs.Amount.Search
import Teller.Proofs.Amount.Texts

/-!
# Searches that break off

Only the strategy for spelled-out numbers can break off, and it does at a number beyond all doubles:
that is no candidate which could be refused, so the strategies after it are not asked. For every
other strategy such a number is a candidate that is too large; it is refused and reported, and the
search goes on.

    search_eq_error_iff          a search ends with the first strategy that breaks off
    candidate?_eq_error_iff      the strategy that breaks off
    Ending                       how the reading of an amount can end
    breaks_off_iff               when it breaks off, and what is reported otherwise
    expression_out_of_reach      an amount that is not read, because an earlier strategy breaks off
-/

namespace Teller

namespace Amount

variable {config : Config} {bases : Option Bases} {text : List Char}

/-! ## The search -/

section Search

variable {candidate : Strategy → Except Fault (Option Candidate)} {order : List Strategy} {fault : Fault}

/-- A search breaks off at its first strategy, or after this has been passed over. -/
theorem search_cons_eq_error_iff {first : Strategy} :
    search config candidate (first :: order) = .error fault ↔
      candidate first = .error fault ∨
      search config candidate order = .error fault ∧ (candidate first = .ok none ∨
        ∃ c refusal, candidate first = .ok (some c) ∧ RangeFault.Applies config c.value refusal) := by
  rw [search]
  cases hc : candidate first with
  | error broken => simp [bind, Except.bind]
  | ok found =>
    cases found with
    | none => simp [bind, Except.bind]
    | some c =>
      cases range : rangeFault? config c.value with
      | none =>
        have permitted (refusal : RangeFault) : ¬refusal.Applies config c.value := by
          simp [← rangeFault?_eq_some_iff, range]
        simp [bind, Except.bind, pure, Except.pure, range, permitted]
      | some refusal =>
        have applies := rangeFault?_eq_some_iff.1 range
        cases others : search config candidate order with
        | error broken =>
          have refused : ∃ refusal, RangeFault.Applies config c.value refusal := ⟨refusal, applies⟩
          simp [bind, Except.bind, range, refused]
        | ok later => cases later <;> simp [bind, Except.bind, pure, Except.pure, range]

/-- A search ends with the first strategy that breaks off, if all before it are passed over. -/
theorem search_eq_error_iff :
    search config candidate order = .error fault ↔
      ∃ before s after rejected, order = before ++ s :: after ∧
        PassedOver config candidate before rejected ∧ candidate s = .error fault := by
  constructor
  · intro h
    induction order with
    | nil => cases h
    | cons first rest ih =>
      obtain hf | ⟨later, passed_over⟩ := search_cons_eq_error_iff.1 h
      · exact ⟨[], first, rest, [], rfl, .nil, hf⟩
      · obtain ⟨before, s, after, rejected, rfl, passed, broken⟩ := ih later
        rcases passed_over with hf | ⟨c, refusal, hf, applies⟩
        · exact ⟨first :: before, s, after, rejected, rfl, .without hf passed, broken⟩
        · exact ⟨first :: before, s, after, _, rfl, .refused hf applies passed, broken⟩
  · rintro ⟨before, s, after, rejected, rfl, passed, broken⟩
    induction passed with
    | nil => exact search_cons_eq_error_iff.2 (.inl broken)
    | without hf _ ih => exact search_cons_eq_error_iff.2 (.inr ⟨ih, .inl hf⟩)
    | refused hf applies _ ih =>
      exact search_cons_eq_error_iff.2 (.inr ⟨ih, .inr ⟨_, _, hf, applies⟩⟩)

/-- Every candidate that was refused is reported, with the reason. -/
theorem PassedOver.mem_rejected {rejected : List Rejection} {s : Strategy} {c : Candidate}
    {refusal : RangeFault} (h : PassedOver config candidate order rejected) (mem : s ∈ order)
    (some : candidate s = .ok (some c)) (applies : refusal.Applies config c.value) :
    ⟨s, c.value, refusal⟩ ∈ rejected := by
  induction h with
  | nil => cases mem
  | without none _ ih =>
    rcases List.mem_cons.1 mem with rfl | later
    · rw [none] at some
      cases some
    · exact ih later
  | refused found applies' _ ih =>
    rcases List.mem_cons.1 mem with rfl | later
    · rw [found] at some
      cases some
      rw [← rangeFault?_eq_some_iff] at applies applies'
      cases applies.symm.trans applies'
      exact List.mem_cons_self
    · exact List.mem_cons_of_mem _ (ih later)

end Search

/-! ## The strategies -/

/-- The strategies that come before that for spelled-out numbers. -/
def Strategy.beforeSpelled : List Strategy := [exact, unit, percentage, relative]

/-- Only a spelled-out number beyond all doubles breaks a strategy off. -/
theorem candidate?_eq_error_iff {s : Strategy} {fault : Fault} :
    candidate? config bases text s = .error fault ↔
      s = .spelled ∧ fault = .tooLarge ∧ Number.wholeBound ≤ spelledValue text := by
  cases s with
  | exact | unit | percentage | relative | expression => exact iff_of_false nofun nofun
  | spelled =>
    show spelled? text = _ ↔ _
    unfold spelled?
    dsimp only
    have positive : 0 < Number.wholeBound := by decide +kernel
    by_cases none : spelledValue text = 0
    · rw [if_pos none, none]
      exact iff_of_false nofun fun large => Nat.not_le.2 positive large.2.2
    · have converted :
          (Number.realOf (spelledValue text)).map (fun x => some { value := x : Candidate }) =
            .error fault ↔ Number.realOf (spelledValue text) = .error fault := by
        cases Number.realOf (spelledValue text) <;> simp [Except.map]
      rw [if_neg none]
      exact converted.trans (Number.realOf_eq_error_iff.trans (by simp))

/-! ## Reading -/

/-- How the reading of an amount can end: with a permitted candidate, when the strategies before its
own have been passed over; without a text; when all strategies have been passed over; or with a
spelled-out number beyond all doubles, when the strategies before that for spelled-out numbers have
been passed over. -/
inductive Ending (config : Config) (bases : Option Bases) (text : List Char) :
    Except Failure Reading → Prop
  | read {r : Reading} {before after : List Strategy} {rejected : List Rejection}
      (order : Strategy.order = before ++ r.strategy :: after)
      (passed : PassedOver config (candidate? config bases text) before rejected)
      (candidate : candidate? config bases text r.strategy = .ok (some r.candidate))
      (permits : config.Permits r.value) : Ending config bases text (.ok r)
  | empty {f : Failure} (nothing : text = []) (code : f.code = .invalidAmountInput) :
      Ending config bases text (.error f)
  | unreadable {f : Failure} {rejected : List Rejection}
      (passed : PassedOver config (candidate? config bases text) Strategy.order rejected)
      (code : f.code = .amountParsingFailed)
      (reported : f.details.lookup "rejected" = some (.listOf Rejection.document rejected)) :
      Ending config bases text (.error f)
  | broken {f : Failure} {rejected : List Rejection}
      (passed : PassedOver config (candidate? config bases text) Strategy.beforeSpelled rejected)
      (large : Number.wholeBound ≤ spelledValue text) (code : f.code = .parsingError) :
      Ending config bases text (.error f)

/-- Only the strategies before that for spelled-out numbers are asked before it. -/
theorem eq_beforeSpelled {before after : List Strategy}
    (h : Strategy.order = before ++ .spelled :: after) : before = Strategy.beforeSpelled := by
  unfold Strategy.order at h
  rcases before with _ | ⟨a, _ | ⟨b, _ | ⟨c, _ | ⟨d, _ | ⟨e, _ | ⟨f, before⟩⟩⟩⟩⟩⟩ <;>
    simp_all [Strategy.beforeSpelled]

/-- They are passed over if they find nothing. -/
theorem passedOver_beforeSpelled (exact : numeralOnly? text = none) (unit : withUnit? text = none)
    (percentage : percentage? config bases text = none) (relative : relative? config bases text = none) :
    PassedOver config (candidate? config bases text) Strategy.beforeSpelled [] :=
  .without (congrArg Except.ok exact) (.without (congrArg Except.ok unit)
    (.without (congrArg Except.ok percentage) (.without (congrArg Except.ok relative) .nil)))

/-- A search breaks off at a spelled-out number beyond all doubles that no earlier strategy keeps it
from. -/
theorem search_breaks_off_iff {fault : Fault} :
    search config (candidate? config bases text) Strategy.order = .error fault ↔
      fault = .tooLarge ∧ Number.wholeBound ≤ spelledValue text ∧
        ∃ rejected, PassedOver config (candidate? config bases text) Strategy.beforeSpelled rejected := by
  rw [search_eq_error_iff]
  constructor
  · rintro ⟨before, s, after, rejected, order, passed, broken⟩
    obtain ⟨rfl, same, large⟩ := candidate?_eq_error_iff.1 broken
    rw [eq_beforeSpelled order] at passed
    exact ⟨same, large, rejected, passed⟩
  · rintro ⟨same, large, rejected, passed⟩
    exact ⟨Strategy.beforeSpelled, .spelled, [.expression], rejected, rfl, passed,
      candidate?_eq_error_iff.2 ⟨rfl, same, large⟩⟩

/-- How the reading of an amount ends. -/
theorem ending (config : Config) (bases : Option Bases) (input : Option String) :
    Ending config bases (normalize (input.getD "")) (parse config bases input) := by
  unfold parse read
  dsimp only
  generalize normalize (input.getD "") = text
  split
  · next blank => exact .empty (List.isEmpty_iff.1 blank) rfl
  · cases found : search config (candidate? config bases text) Strategy.order with
    | error fault =>
      obtain ⟨-, large, rejected, passed⟩ := search_breaks_off_iff.1 found
      exact .broken passed large rfl
    | ok answer =>
      cases answer with
      | error rejected => exact .unreadable (search_eq_rejected_iff.1 found) rfl rfl
      | ok first =>
        obtain ⟨before, after, rejected, order, passed, candidate, permits⟩ :=
          search_eq_found_iff.1 found
        exact .read order passed candidate permits

/-- When the reading of an amount breaks off. -/
theorem parsingError_iff (config : Config) (bases : Option Bases) (input : Option String) :
    (∃ f, parse config bases input = .error f ∧ f.code = .parsingError) ↔
      Number.wholeBound ≤ spelledValue (normalize (input.getD "")) ∧
        ∃ rejected, PassedOver config (candidate? config bases (normalize (input.getD "")))
          Strategy.beforeSpelled rejected := by
  constructor
  · rintro ⟨f, failed, code⟩
    have ends := ending config bases input
    rw [failed] at ends
    cases ends with
    | empty _ code' | unreadable _ code' _ => cases code.symm.trans code'
    | broken passed large => exact ⟨large, _, passed⟩
  · rintro ⟨large, rejected, passed⟩
    have broken := search_breaks_off_iff.2 ⟨rfl, large, rejected, passed⟩
    have stated : ¬(normalize (input.getD "")).isEmpty = true := by
      intro blank
      rw [List.isEmpty_iff.1 blank] at large
      exact absurd large (by decide +kernel)
    unfold parse read
    dsimp only
    rw [if_neg stated, broken]
    exact ⟨_, rfl, rfl⟩

/-- When the reading of an amount breaks off: the text spells a number beyond all doubles, and no
strategy before that for spelled-out numbers reads an amount. In all other cases an amount is read,
or there is no text, or no strategy reads one and the refused candidates are reported; those that
are too large are among them. -/
theorem breaks_off_iff (config : Config) (bases : Option Bases) (input : Option String) :
    Ending config bases (normalize (input.getD "")) (parse config bases input) ∧
    ((∃ f, parse config bases input = .error f ∧ f.code = .parsingError) ↔
      Number.wholeBound ≤ spelledValue (normalize (input.getD "")) ∧
        ∃ rejected, PassedOver config (candidate? config bases (normalize (input.getD "")))
          Strategy.beforeSpelled rejected) ∧
    ∀ strategies rejected,
      PassedOver config (candidate? config bases (normalize (input.getD ""))) strategies rejected →
      ∀ s ∈ strategies, ∀ c,
        candidate? config bases (normalize (input.getD "")) s = .ok (some c) →
        RangeFault.tooLarge.Applies config c.value → ⟨s, c.value, .tooLarge⟩ ∈ rejected :=
  ⟨ending config bases input, parsingError_iff config bases input,
    fun _ _ passed _ mem _ => passed.mem_rejected mem⟩

/-- One, multiplied by a hundred until it is beyond all doubles. -/
def boundless : List Char := "one".toList ++ (List.replicate 155 " hundred".toList).flatten

/-- A share that is too large is refused, and the rest of the text is read. A number beyond all
doubles is not refused. -/
theorem half_of_one_recorded :
    (∃ r rejected x, parse {} (some { balance := some 1e300 }) (some "50% of one") = .ok r ∧ r.value = 1 ∧
      (⟨.percentage, x, .tooLarge⟩ : Rejection) ∈ rejected ∧
      PassedOver {} (candidate? {} (some { balance := some 1e300 }) (normalize "50% of one"))
        Strategy.beforeSpelled rejected) ∧
    ∃ f, parse {} none (some (String.ofList boundless)) = .error f ∧ f.code = .parsingError := by
  constructor
  · obtain ⟨ends, -, recorded⟩ := breaks_off_iff {} (some { balance := some 1e300 }) (some "50% of one")
    have share : (percentage? {} (some { balance := some 1e300 }) (normalize "50% of one")).any
        fun c => rangeFault? {} c.value == some .tooLarge := by
      decide +kernel
    have found : (parse {} (some { balance := some 1e300 }) (some "50% of one")).toOption.any
        fun r => r.strategy == .spelled && r.value = 1 := by
      decide +kernel
    obtain ⟨c, hc, large⟩ := (Option.any_eq_true ..).1 share
    obtain ⟨r, hr, checked⟩ := exists_eq_ok_of_any found
    obtain ⟨spelled, one⟩ := Bool.and_eq_true_iff.1 checked
    rw [hr] at ends
    cases ends with
    | read order passed =>
      rw [eq_of_beq spelled] at order
      rw [eq_beforeSpelled order] at passed
      exact ⟨r, _, c.value, hr, of_decide_eq_true one, recorded _ _ passed .percentage (by decide) c
        (congrArg Except.ok hc) (rangeFault?_eq_some_iff.1 (eq_of_beq large)), passed⟩
  · have text : normalize (String.ofList boundless) = boundless := by
      rw [normalize_eq, String.toList_ofList]
      decide +kernel
    have exact : (numeralOnly? boundless).isNone = true := by decide +kernel
    have unit : (withUnit? boundless).isNone = true := by decide +kernel
    rw [Option.isNone_iff_eq_none] at exact unit
    refine (breaks_off_iff {} none (some (String.ofList boundless))).2.1.2 ?_
    rw [Option.getD_some, text]
    exact ⟨by decide +kernel, [], passedOver_beforeSpelled exact unit rfl rfl⟩

/-- A number is hedged, but the search breaks off before expressions are looked for. -/
theorem expression_out_of_reach :
    (∃ f, parse {} none (some (String.ofList ("around 5 or ".toList ++ boundless))) = .error f ∧
      f.code = .parsingError) ∧
    ∃ c, candidate? {} none (normalize (String.ofList ("around 5 or ".toList ++ boundless))) .expression =
      .ok (some c) ∧ c.value = 5 ∧ Config.Permits {} c.value := by
  have text : normalize (String.ofList ("around 5 or ".toList ++ boundless)) =
      "around 5 or ".toList ++ boundless := by
    rw [normalize_eq, String.toList_ofList]
    decide +kernel
  have exact : (numeralOnly? ("around 5 or ".toList ++ boundless)).isNone = true := by decide +kernel
  have unit : (withUnit? ("around 5 or ".toList ++ boundless)).isNone = true := by decide +kernel
  have hedged : (expression? ("around 5 or ".toList ++ boundless)).any
      fun c => c.value = 5 && (rangeFault? {} c.value).isNone := by
    decide +kernel
  rw [Option.isNone_iff_eq_none] at exact unit
  constructor
  · rw [parsingError_iff, Option.getD_some, text]
    exact ⟨by decide +kernel, [], passedOver_beforeSpelled exact unit rfl rfl⟩
  · obtain ⟨c, hc, checked⟩ := (Option.any_eq_true ..).1 hedged
    obtain ⟨five, permitted⟩ := Bool.and_eq_true_iff.1 checked
    rw [text]
    exact ⟨c, congrArg Except.ok hc, of_decide_eq_true five,
      rangeFault?_eq_none_iff_permits.1 (Option.isNone_iff_eq_none.1 permitted)⟩

end Amount

end Teller
