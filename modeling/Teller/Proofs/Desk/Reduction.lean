import Teller.Proofs.Command.Points
import Teller.Proofs.Desk.Alike
import Teller.Proofs.Desk.Choosing
import Teller.Proofs.Desk.Dialogue
import Teller.Proofs.Desk.Naming
import Teller.Proofs.Desk.Progress
import Teller.Proofs.Number.Halves

/-!
# Reducing a risk

To reduce a risk is to halve the amount and to cap the leverage. The amount is written out and read
again before the risk is judged, and it is taken from entities while the risk is judged by
parameters. Still no point of the risk grows, so the command is at most as risky as the one that
goes ahead.

    ReducedFrom                 what a reduction does to what was stated
    reducedFrom_revise          the offered reduction is one
    lt_leverage_of_capped       a capped leverage has no more points
    exists_answer               the outcome of an answer that keeps intent and token
    reducing_is_no_riskier      to reduce a risk is no riskier than to proceed
-/

namespace Teller

open Number

/-! ## What a reduction does -/

/-- What was stated, after a reduction: a positive amount is not greater, the leverage is at most
two, and all else is the same. -/
structure Primary.ReducedFrom (p' p : Primary) : Prop where
  amount_le : ∀ x, p.amount.bind read? = some x → 0 < x →
    ∃ z, p'.amount.bind read? = some z ∧ z ≤ x
  amount_eq : p.amount.bind read? = none → p'.amount = p.amount
  leverage_eq : p'.leverage = p.leverage.map fun x => if 2 < x then 2 else x
  leverage_le : ∀ x, p'.leverage = some x → x.isNaN = false → x ≤ 2
  others_eq : p' = { p with amount := p'.amount, leverage := p'.leverage }

namespace Question

open Ambiguity

variable {p : Primary} {i : Inquiry}

theorem leverage_revise_reducedRisk (leverage_eq : firstNumber? .leverage i.entities = p.leverage) :
    (p.revise (reducedRisk i)).leverage = p.leverage.map fun x => if 2 < x then 2 else x := by
  show Revised.apply (reducedRisk i).leverage p.leverage = _
  rw [leverage_reducedRisk, leverage_eq]
  cases p.leverage with
  | none => rfl
  | some x =>
    by_cases high : 2 < x <;> simp [Revised.apply, high]

/-- The reduced amount is written plainly. -/
theorem amount_revise_reducedRisk
    (amount_eq : firstNumber? .amount i.entities = p.amount.bind read?) :
    (p.revise (reducedRisk i)).amount =
      match p.amount.bind read? with
      | some x => if x == 0 then p.amount else some (plain (x / 2))
      | none => p.amount := by
  show Revised.apply (reducedRisk i).amount p.amount = _
  unfold reducedRisk
  dsimp only
  rw [amount_eq]
  cases p.amount.bind read? with
  | none => rfl
  | some x =>
    cases zero : x == 0 <;> simp [Revised.apply, Option.filter, zero, bne]

/-- The offered reduction is one. -/
theorem reducedFrom_revise (amount_eq : firstNumber? .amount i.entities = p.amount.bind read?)
    (leverage_eq : firstNumber? .leverage i.entities = p.leverage) :
    (p.revise (reducedRisk i)).ReducedFrom p := by
  have leverage := leverage_revise_reducedRisk leverage_eq
  have amount := amount_revise_reducedRisk amount_eq
  refine ⟨?_, ?_, leverage, ?_, rfl⟩
  · intro x hx positive
    rw [hx] at amount
    dsimp only at amount
    rw [beq_zero_of_pos positive, if_neg Bool.false_ne_true] at amount
    obtain ⟨z, hz⟩ := exists_read?_plain (x / 2)
    refine ⟨z, ?_, le_of_read?_half positive hz⟩
    rw [amount]
    exact hz
  · intro unreadable
    rw [unreadable] at amount
    exact amount
  · intro x hx number
    rw [leverage] at hx
    obtain ⟨y, _, rfl⟩ := Option.map_eq_some_iff.1 hx
    by_cases high : 2 < y
    · rw [if_pos high]
      decide +kernel
    · rw [if_neg high] at number ⊢
      exact le_of_not_lt number (by decide +kernel) high

/-- The question about a risk offers to proceed with an acknowledgement alone. -/
theorem exists_proceed (i : Inquiry) : ∃ c, (riskConfirmation i).find? c.id = some c ∧
    c.id = proceedId ∧ c.intent = none ∧
    c.revision = { tuning := { riskAcknowledged := some (some true) } } :=
  ⟨(riskConfirmation i).first, rfl, rfl, rfl, rfl⟩

/-- It offers the reduction with the same acknowledgement. -/
theorem exists_reduce (i : Inquiry) : ∃ c, (riskConfirmation i).find? c.id = some c ∧
    c.id = reduceId ∧ c.intent = none ∧
    c.revision = { primary := reducedRisk i, tuning := { riskAcknowledged := some (some true) } } :=
  ⟨(riskConfirmation i).others.getLast nofun, rfl, rfl, rfl, rfl⟩

end Question

/-! ## Points of a risk -/

/-- A leverage that is capped at two is above no bound that it was not above before. -/
theorem Command.lt_leverage_of_capped {p p' : Parameters} {bound : Float}
    (h : p'.primary.leverage = p.primary.leverage.map fun x => if 2 < x then 2 else x)
    (above : bound < (leverage? p').getD 1) : bound < (leverage? p).getD 1 := by
  unfold leverage? at above ⊢
  rw [h] at above
  cases leverage : p.primary.leverage with
  | none =>
    rw [leverage] at above
    exact above
  | some x =>
    rw [leverage, Option.map_some] at above
    by_cases high : 2 < x
    · have kept : (x != 0) = true := by
        rw [bne, beq_zero_of_pos (lt_trans (by decide +kernel) high)]
        rfl
      rw [Option.filter_some, if_pos kept]
      rw [if_pos high] at above
      exact lt_trans above high
    · rw [if_neg high] at above
      exact above

/-- No estimate of the price impact has any points. -/
theorem Desk.impactPoints_estimated (desk : Desk) (intent : Intent) (template : Option Template)
    (account : Option Account) (p : Parameters) :
    Command.impactPoints (estimated desk intent template account p).estimates.priceImpact = 0 := by
  have low (amount : Float) : ¬5 < Estimates.impactOf amount := by
    unfold Estimates.impactOf
    split
    · decide +kernel
    · split <;> decide +kernel
  show Command.impactPoints ((p.primary.amount.bind read?).bind fun x =>
    p.primary.spent?.bind fun _ => some (Estimates.impactOf x)) = 0
  unfold Command.impactPoints
  rw [if_neg]
  intro high
  obtain ⟨impact, found, above⟩ := (Option.any_eq_true ..).1 high
  obtain ⟨x, _, found⟩ := Option.bind_eq_some_iff.1 found
  obtain ⟨_, _, found⟩ := Option.bind_eq_some_iff.1 found
  cases found
  exact low x (of_decide_eq_true above)

/-! ## The amount of a command -/

/-- The reduced amount is above no positive number that the amount is not above. -/
theorem Question.lt_amountOf_of_reduced {p p' : Parameters} {i : Inquiry} {bound : Float}
    (amount_eq : Ambiguity.firstNumber? .amount i.entities = p.primary.amount.bind read?)
    (positive : 0 < bound) (primary_eq : p'.primary = p.primary.revise (reducedRisk i))
    (above : bound < Command.amountOf p') : bound < Command.amountOf p := by
  have amount := amount_revise_reducedRisk amount_eq
  unfold Command.amountOf at above ⊢
  rw [primary_eq, amount] at above
  cases read : p.primary.amount.bind read? with
  | none =>
    rw [read] at above
    dsimp only at above
    rw [read] at above
    exact above
  | some x =>
    rw [read] at above
    dsimp only at above
    rw [Option.getD_some]
    by_cases zero : (x == 0) = true
    · rw [if_pos zero, read] at above
      exact above
    · obtain ⟨z, hz⟩ := exists_read?_plain (x / 2)
      rw [if_neg zero, Option.bind_some, hz, Option.getD_some] at above
      by_cases hx : 0 < x
      · exact lt_of_lt_of_le above (le_of_read?_half hx hz)
      · exact absurd (lt_trans positive above) (not_pos_of_read?_half hx hz)

/-! ## Answers to the question -/

namespace Desk

open Review

theorem risk_of_process {desk : Desk} {moment : Moment} {number : Nat} {confidence : Float}
    {s : Subject} {o : Outcome} (h : process desk moment number confidence s = .ok o) :
    o.risk = some (Command.riskOf (examine desk s).subject.intent
      (examine desk s).subject.parameters) := by
  obtain ⟨c, built, ho⟩ := bind_eq_ok h
  cases ho
  obtain ⟨gas, -, rfl⟩ := Command.build_eq_ok_iff.1 built
  rfl

variable {desk : Desk} {moment : Moment} {r : Request} {t : Template} {o : Outcome}

/-- An answer that keeps intent and token is reviewed as it is, with nothing left to infer. -/
theorem exists_answer (ht : Template.of? r.intent = some t)
    (reports : o.Reports (examine desk (requested desk moment r t))) {q : Question} {c : Choice}
    (found : q.find? c.id = some c) (proceeds : c.id ≠ Question.cancelId) (keeps : c.intent = none)
    (token_kept : c.revision.primary.token = none) (moment' : Moment) (number : Nat)
    (confidence : Float) :
    ∃ o', resolve desk moment' number
        { intent := o.intent, parameters := o.parameters, choice := c.id, question := q
          account := r.account, confidence } = .ok o' ∧
      o'.parameters = estimated desk r.intent (some t) r.account (o.parameters.revise c.revision) ∧
      o'.risk = some (Command.riskOf r.intent o'.parameters) := by
  have token_eq : (o.parameters.revise c.revision).primary.token =
      (examine desk (requested desk moment r t)).subject.parameters.primary.token := by
    rw [← reports.parameters_eq]
    show Revised.apply c.revision.primary.token o.parameters.primary.token = _
    rw [token_kept]
    rfl
  have nothing : inferences (revised desk r t (o.parameters.revise c.revision)) = [] :=
    inferences_eq_nil_of_examined (s := requested desk moment r t) ht rfl rfl rfl token_eq
  have template_eq : Template.of? (revised desk r t (o.parameters.revise c.revision)).intent =
      some (revised desk r t (o.parameters.revise c.revision)).template := ht
  obtain ⟨o', ho'⟩ := exists_process_eq_ok desk moment' number confidence template_eq
  have parameters_eq := (process_eq_ok ho').parameters_eq
  have risk_eq := risk_of_process ho'
  rw [examine_of_inferences_eq_nil desk _ nothing] at parameters_eq risk_eq
  refine ⟨o', ?_, parameters_eq, ?_⟩
  · rw [resolve_eq_process ht reports found proceeds keeps]
    exact ho'
  · rw [parameters_eq]
    exact risk_eq

/-- To reduce a risk is no riskier than to proceed. Both answers have an outcome; the reduction
keeps all that was stated but for a smaller amount and a leverage of at most two, and acknowledges
the risk. -/
theorem reducing_is_no_riskier {number : Nat} {q : Question} (h : parse desk moment number r = .ok o)
    (asked : o.question = some q) (about : q.ambiguity = some .riskConfirmation)
    (moment₁ moment₂ : Moment) (number₁ number₂ : Nat) (confidence : Float) :
    ∃ reduced proceeded,
      resolve desk moment₁ number₁
        { intent := o.intent, parameters := o.parameters, choice := Question.reduceId, question := q
          account := r.account, confidence } = .ok reduced ∧
      resolve desk moment₂ number₂
        { intent := o.intent, parameters := o.parameters, choice := Question.proceedId, question := q
          account := r.account, confidence } = .ok proceeded ∧
      reduced.parameters.primary.ReducedFrom o.parameters.primary ∧
      reduced.parameters.tuning.riskAcknowledged = some true ∧
      ∃ lower higher, reduced.risk = some lower ∧ proceeded.risk = some higher ∧
        lower.rank ≤ higher.rank := by
  have asks : o.AsksAbout .riskConfirmation := by
    rw [Outcome.AsksAbout, asked]
    exact about
  obtain ⟨t, ht, reports⟩ := reports_of_parse h asks (by decide)
  -- the question is made from entities that tell the amount and the leverage of the parameters
  cases about_of_asksAbout reports asks asked
  have amount_eq := amount_allEntities_examine desk (posed_requested desk moment ht)
  have leverage_eq := leverage_allEntities_requested desk moment ht
  rw [← amount_examine desk, ← reports.parameters_eq] at amount_eq
  rw [← leverage_examine desk, ← reports.parameters_eq] at leverage_eq
  obtain ⟨reduce, found, reduce_id, keeps, reduce_revision⟩ :=
    Question.exists_reduce (inquiry (examine desk (requested desk moment r t)).subject)
  obtain ⟨proceed, found', proceed_id, keeps', proceed_revision⟩ :=
    Question.exists_proceed (inquiry (examine desk (requested desk moment r t)).subject)
  obtain ⟨reduced, reduces, reduced_eq, reduced_risk⟩ :=
    exists_answer ht reports found (by rw [reduce_id]; decide) keeps (by rw [reduce_revision]; rfl)
      moment₁ number₁ confidence
  obtain ⟨proceeded, proceeds, proceeded_eq, proceeded_risk⟩ :=
    exists_answer ht reports found' (by rw [proceed_id]; decide) keeps' (by rw [proceed_revision])
      moment₂ number₂ confidence
  rw [reduce_id] at reduces
  rw [proceed_id] at proceeds
  rw [reduce_revision] at reduced_eq
  rw [proceed_revision] at proceeded_eq
  refine ⟨reduced, proceeded, reduces, proceeds, ?_, ?_, _, _, reduced_risk, proceeded_risk, ?_⟩
  · rw [reduced_eq]
    exact Question.reducedFrom_revise amount_eq leverage_eq
  · rw [reduced_eq]
    rfl
  · rw [reduced_eq, proceeded_eq]
    have no_impact := impactPoints_estimated desk r.intent (some t) r.account
    refine Command.rank_riskOf_le rfl (Command.points_le rfl ?_ ?_ ?_)
    · rw [no_impact, no_impact]
    · intro bound positive above
      exact Question.lt_amountOf_of_reduced amount_eq positive rfl above
    · intro bound _ above
      exact Command.lt_leverage_of_capped (Question.leverage_revise_reducedRisk leverage_eq) above

/-- Thirty thousand with twofold leverage are no riskier to borrow than sixty thousand with
sevenfold. -/
theorem borrowLevered_reduced : ∃ o q, parse {} ⟨0, 0⟩ 1 (borrowLevered.naming takara) = .ok o ∧
    o.question = some q ∧ q.ambiguity = some .riskConfirmation ∧ ∃ reduced proceeded,
      resolve {} ⟨1, 1000⟩ 2
        { intent := o.intent, parameters := o.parameters, choice := Question.reduceId, question := q
          account := borrowLevered.account } = .ok reduced ∧
      resolve {} ⟨1, 1000⟩ 3
        { intent := o.intent, parameters := o.parameters, choice := Question.proceedId, question := q
          account := borrowLevered.account } = .ok proceeded ∧
      reduced.parameters.primary.ReducedFrom o.parameters.primary ∧
      reduced.parameters.tuning.riskAcknowledged = some true ∧
      ∃ lower higher, reduced.risk = some lower ∧ proceeded.risk = some higher ∧
        lower.rank ≤ higher.rank := by
  have asks : (parse {} ⟨0, 0⟩ 1 (borrowLevered.naming takara)).toOption.any fun o =>
      o.question.any fun q => q.ambiguity = some .riskConfirmation := by
    decide +kernel
  obtain ⟨o, ho, hq⟩ := exists_eq_ok_of_any asks
  obtain ⟨q, asked, about⟩ := (Option.any_eq_true ..).1 hq
  have about := of_decide_eq_true about
  exact ⟨o, q, ho, asked, about, reducing_is_no_riskier ho asked about ⟨1, 1000⟩ ⟨1, 1000⟩ 2 3 1⟩

end Desk

end Teller
