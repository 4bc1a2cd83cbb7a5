import Teller.Proofs.Desk.Limits
import Teller.Proofs.Desk.Required
import Teller.Proofs.Number.Sums

/-!
# What backs a command

The business rules look at the parameters that the command is built from, inferred ones included. So
what is lent or swapped is covered by a known balance, the tokens of a swap differ, and what is
borrowed is never above the permitted part of what was lent. That part is NaN if lent values are
infinite in both directions, or if it is none of an infinite value; then nothing is above it.

    Command.Backed                  what backs a command
    backed_of_reports               the business rules have looked at the command
    isNaN_borrowLimit               when the permitted part is a number
    backed                          every command is backed
    borrowed_without_limit          a command to borrow when the permitted part is NaN
-/

namespace Teller

/-- The balances of an account are numbers. -/
def Account.HasNumericBalances (a : Account) : Prop :=
  ∀ token x, a.balanceOf? token = some x → x.isNaN = false

/-- What may be borrowed: the permitted part of what was lent. -/
def Account.borrowLimit (a : Account) (config : Review.Config) : Float :=
  a.collateral * config.borrowLtv

/-- The amount of a command is a number up to this bound. -/
def Command.AmountAtMost (c : Command) (bound : Float) : Prop :=
  ∃ x, Review.amountOf? c.parameters.primary = some x ∧ x ≤ bound

/-- What backs a command, if that is known: the balance of the token that is lent or swapped, for
another one than it is swapped for, and the permitted part of what was lent, if that is a number. -/
structure Command.Backed (c : Command) (config : Review.Config) (account : Option Account) : Prop where
  lend : c.intent = .lend → ∀ b,
    Review.balanceOf? account c.parameters.primary.token = some b → c.AmountAtMost b
  swap : c.intent = .swap → (∃ given wanted, c.parameters.primary.fromToken = some given ∧
      c.parameters.primary.toToken = some wanted ∧ Text.upper given ≠ Text.upper wanted) ∧
    ∀ b, Review.balanceOf? account c.parameters.primary.fromToken = some b → c.AmountAtMost b
  borrow : c.intent = .borrow → ∀ a, account = some a →
    (∃ x, Review.amountOf? c.parameters.primary = some x ∧ ¬a.borrowLimit config < x) ∧
      ((a.borrowLimit config).isNaN = false → c.AmountAtMost (a.borrowLimit config))

/-! ## Business rules -/

namespace Review

variable {config : Config} {s : Subject}

theorem not_lt_of_checkLending (h : (checkLending config s).errors = []) {x b : Float}
    (hx : amountOf? s.parameters.primary = some x)
    (hb : balanceOf? s.account s.parameters.primary.token = some b) : ¬b < x := by
  intro uncovered
  simp [checkLending, hx, hb, uncovered] at h

theorem not_lt_of_checkBorrowing (h : (checkBorrowing config s).errors = []) {x : Float}
    {a : Account} (hx : amountOf? s.parameters.primary = some x)
    (stated : (stated? s.parameters.primary.token).isSome) (ha : s.account = some a) :
    ¬a.borrowLimit config < x := by
  intro uncovered
  obtain ⟨token, ht⟩ := Option.isSome_iff_exists.1 stated
  unfold Account.borrowLimit at uncovered
  simp [checkBorrowing, hx, ht, ha, uncovered] at h

theorem not_isSelfSwap_of_checkSwap (h : (checkSwap config s).errors = []) :
    isSelfSwap s.parameters.primary = false := by
  rw [← Bool.not_eq_true]
  intro same
  simp [checkSwap, same] at h

theorem not_lt_of_checkSwap (h : (checkSwap config s).errors = []) {x b : Float}
    (hx : amountOf? s.parameters.primary = some x)
    (hb : balanceOf? s.account s.parameters.primary.fromToken = some b) : ¬b < x := by
  intro uncovered
  simp [checkSwap, hx, hb, uncovered] at h

theorem upper_ne_of_not_isSelfSwap {p : Primary} (h : isSelfSwap p = false)
    (given_stated : (stated? p.fromToken).isSome) (wanted_stated : (stated? p.toToken).isSome) :
    ∃ given wanted, p.fromToken = some given ∧ p.toToken = some wanted ∧
      Text.upper given ≠ Text.upper wanted := by
  obtain ⟨given, hg⟩ := Option.isSome_iff_exists.1 given_stated
  obtain ⟨wanted, hw⟩ := Option.isSome_iff_exists.1 wanted_stated
  refine ⟨given, wanted, (Option.filter_eq_some_iff.1 hg).1, (Option.filter_eq_some_iff.1 hw).1, ?_⟩
  rw [isSelfSwap, hg, hw] at h
  simpa using h

/-- The review and a command read the same amount. -/
theorem amountOf_eq {p : Parameters} {x : Float} (h : amountOf? p.primary = some x) :
    Command.amountOf p = x := by
  unfold Command.amountOf
  rw [show p.primary.amount.bind Number.read? = some x from h]
  rfl

end Review

/-! ## Commands -/

namespace Outcome.Reports

open Desk Review

variable {desk : Desk} {s : Subject} {o : Outcome} {c : Command}

theorem stated (h : o.Reports (examine desk s)) (posed : s.Posed) (hc : o.command = some c)
    {field : String} (required : field ∈ s.template.required) (text : Option String)
    (hf : c.parameters.primary.get? field = text.map .text) : (stated? text).isSome := by
  rw [← isStated_eq text hf]
  exact h.isStated posed.template_eq hc required

/-- A required amount is a number. -/
theorem exists_amount (h : o.Reports (examine desk s)) (posed : s.Posed) (hc : o.command = some c)
    (required : "amount" ∈ s.template.required) :
    ∃ x, amountOf? c.parameters.primary = some x ∧ x.isNaN = false := by
  obtain ⟨known, _⟩ := Template.of?_eq_some posed.template_eq
  obtain ⟨rule, mem, field⟩ := Template.exists_amount_rule known required
  obtain ⟨text, ht⟩ := Option.isSome_iff_exists.1
    (h.stated posed hc required c.parameters.primary.amount rfl)
  have ha := (Option.filter_eq_some_iff.1 ht).1
  obtain ⟨x, hx, above⟩ := h.amount_of_rule posed hc mem field ha
  refine ⟨x, ?_, (Number.not_isNaN_of_le above).2⟩
  rw [amountOf?, ha]
  exact hx

/-- The business rules of the intent have looked at the command. -/
theorem business_eq_nil (h : o.Reports (examine desk s)) (hc : o.command = some c) :
    (business desk.reviews { (examine desk s).subject with
      intent := c.intent, parameters := c.parameters, account := s.account }).errors = [] := by
  rw [h.intent_of_command hc, h.parameters_of_command hc, ← intent_examine desk s,
    ← account_examine desk s]
  exact (h.stages_eq_nil hc).2.2

end Outcome.Reports

namespace Desk

open Review

theorem atMost_of_not_lt {c : Command} {x b : Float} (hx : amountOf? c.parameters.primary = some x)
    (amount : x.isNaN = false) (bound : b.isNaN = false) (h : ¬b < x) : c.AmountAtMost b :=
  ⟨x, hx, Number.le_of_not_lt amount bound h⟩

theorem isNaN_balanceOf? {account : Option Account} {token : Option String} {b : Float}
    (numeric : ∀ a, account = some a → a.HasNumericBalances)
    (hb : balanceOf? account token = some b) : b.isNaN = false := by
  obtain ⟨a, ha, found⟩ := Option.bind_eq_some_iff.1 hb
  exact numeric a ha token b found

/-- The business rules have looked at the command. -/
theorem backed_of_reports {desk : Desk} {s : Subject} {o : Outcome} {c : Command}
    (h : o.Reports (examine desk s)) (posed : s.Posed) (hc : o.command = some c)
    (numeric : ∀ a, s.account = some a → a.HasNumericBalances) :
    c.Backed desk.reviews s.account := by
  have template_eq := posed.template_eq
  rw [← h.intent_of_command hc] at template_eq
  have no_errors := h.business_eq_nil hc
  constructor
  · intro lend b hb
    rw [lend] at template_eq no_errors
    obtain ⟨x, hx, number⟩ := h.exists_amount posed hc
      (Template.mem_required template_eq "amount" (by decide))
    exact atMost_of_not_lt hx number (isNaN_balanceOf? numeric hb)
      (not_lt_of_checkLending no_errors hx hb)
  · intro swap
    rw [swap] at template_eq no_errors
    constructor
    · have given := h.stated posed hc (Template.mem_required template_eq "from_token" (by decide))
        c.parameters.primary.fromToken rfl
      have wanted := h.stated posed hc (Template.mem_required template_eq "to_token" (by decide))
        c.parameters.primary.toToken rfl
      exact upper_ne_of_not_isSelfSwap (not_isSelfSwap_of_checkSwap no_errors) given wanted
    · intro b hb
      obtain ⟨x, hx, number⟩ := h.exists_amount posed hc
        (Template.mem_required template_eq "amount" (by decide))
      exact atMost_of_not_lt hx number (isNaN_balanceOf? numeric hb)
        (not_lt_of_checkSwap no_errors hx hb)
  · intro borrow a ha
    rw [borrow] at template_eq no_errors
    obtain ⟨x, hx, number⟩ := h.exists_amount posed hc
      (Template.mem_required template_eq "amount" (by decide))
    have token := h.stated posed hc (Template.mem_required template_eq "token" (by decide))
      c.parameters.primary.token rfl
    have not_above := not_lt_of_checkBorrowing no_errors hx token ha
    exact ⟨⟨x, hx, not_above⟩, fun limit => atMost_of_not_lt hx number limit not_above⟩

/-- When the permitted part of what was lent is a number: for finite values, of which some part is
permitted. -/
theorem isNaN_borrowLimit {config : Config} {a : Account}
    (finite : ∀ p ∈ a.positions, p.kind = "lending" → p.value.isFinite = true)
    (part : config.borrowLtv.isFinite = true) (some_part : (config.borrowLtv == 0) = false) :
    (a.borrowLimit config).isNaN = false := by
  refine Number.isNaN_mul (Number.isNaN_foldl_add _ ?_ (by decide)) part some_part
  intro p hp
  obtain ⟨mem, lending⟩ := List.mem_filter.1 hp
  exact finite p mem (eq_of_beq lending)

/-- Every command is backed, be it handed out for a request or for an answered question. What may be
borrowed is a number if the values of what was lent are finite and some part of them is permitted.
-/
theorem backed (desk : Desk) (moment : Moment) (number : Nat) (o : Outcome) (c : Command)
    (hc : o.command = some c) :
    (∀ r : Request, parse desk moment number r = .ok o →
      (∀ a, r.account = some a → a.HasNumericBalances) → c.Backed desk.reviews r.account) ∧
    (∀ r : Reply, resolve desk moment number r = .ok o →
      (∀ a, r.account = some a → a.HasNumericBalances) → c.Backed desk.reviews r.account) ∧
    ∀ a : Account, (∀ p ∈ a.positions, p.kind = "lending" → p.value.isFinite = true) →
      desk.reviews.borrowLtv.isFinite = true → (desk.reviews.borrowLtv == 0) = false →
      (a.borrowLimit desk.reviews).isNaN = false := by
  refine ⟨?_, ?_, fun a => isNaN_borrowLimit⟩
  · intro r ho numeric
    rcases parse_eq_ok ho with ⟨_, clarifies, _⟩ | ⟨t, ht, reports⟩
    · rw [clarifies.command_eq] at hc
      cases hc
    · exact backed_of_reports reports (posed_requested desk moment ht) hc numeric
  · intro r ho numeric
    obtain ⟨choice, t, _, _, ht, reports⟩ := resolve_eq_ok ho
    exact backed_of_reports reports (posed_replied desk ht) hc numeric

/-- An account of someone who has lent these values. -/
def lender (values : List Float) : Account where
  positions := values.map fun value => { protocol := "silo", kind := "lending", value }

/-- To borrow a hundred USDC at Silo against these values. -/
def borrowAgainst (values : List Float) : Request where
  intent := .borrow
  entities := [{ kind := .amount, value := "100", normalized := "100" },
    { kind := .token, value := "USDC", normalized := "USDC" },
    { kind := .protocol, value := "Silo", normalized := "silo" }]
  account := some (lender values)

theorem borrowAgainst_backed : ∃ o c, parse {} ⟨0, 0⟩ 1 (borrowAgainst [200, 0.5]) = .ok o ∧
    o.command = some c ∧ c.AmountAtMost ((lender [200, 0.5]).borrowLimit {}) := by
  obtain ⟨o, c, _, ho, hc, borrow, _, _⟩ :=
    exists_command_stating (parse {} ⟨0, 0⟩ 1 (borrowAgainst [200, 0.5])) .borrow
      (amountOf? ·.parameters.primary) (fun _ => true) (by decide +kernel)
  refine ⟨o, c, ho, hc, ?_⟩
  obtain ⟨requests, _, numeric_limit⟩ := backed {} ⟨0, 0⟩ 1 o c hc
  have numeric : ∀ a, (borrowAgainst [200, 0.5]).account = some a → a.HasNumericBalances := by
    rintro a ⟨⟩ token x found
    obtain ⟨name, _, found⟩ := Option.bind_eq_some_iff.1 found
    cases found
  apply ((requests (borrowAgainst [200, 0.5]) ho numeric).borrow borrow _ rfl).2
  exact numeric_limit _ (by decide) (by decide) (by decide)

/-- A command to borrow is handed out against infinite values in both directions. What may be
borrowed against them is NaN, and no amount is up to that. -/
theorem borrowed_without_limit : (∀ p ∈ (lender [1 / 0, -1 / 0]).positions, p.value.isNaN = false) ∧
    ∃ o c, parse {} ⟨0, 0⟩ 1 (borrowAgainst [1 / 0, -1 / 0]) = .ok o ∧ o.command = some c ∧
      c.intent = .borrow ∧ ¬c.AmountAtMost ((lender [1 / 0, -1 / 0]).borrowLimit {}) := by
  refine ⟨by decide, ?_⟩
  obtain ⟨o, c, x, ho, hc, borrow, hx, above⟩ :=
    exists_command_stating (parse {} ⟨0, 0⟩ 1 (borrowAgainst [1 / 0, -1 / 0])) .borrow
      (amountOf? ·.parameters.primary)
      (fun x => !decide (x ≤ (lender [1 / 0, -1 / 0]).borrowLimit {})) (by decide +kernel)
  rw [Bool.not_eq_true', decide_eq_false_iff_not] at above
  refine ⟨o, c, ho, hc, borrow, ?_⟩
  rintro ⟨y, hy, below⟩
  rw [hx] at hy
  cases hy
  exact above below

end Desk

end Teller
