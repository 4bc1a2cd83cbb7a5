import Teller.Proofs.Desk.Answers
import Teller.Proofs.Desk.Numbering

/-!
# Estimates that come with an answer

Whoever answers a question hands in the parameters and the question, and with them estimates of the
parameters and of every choice. None of these estimates is read: they are made anew from what was
stated before anything is reviewed. So an answer without them is resolved in the same way, and
nobody can hide or feign a price impact, a fee or a health factor.

    Reply.withoutEstimates          an answer without the estimates that come with it
    resolve_withoutEstimates        it is resolved in the same way
    estimates_not_injected          answers that differ in estimates alone have the same outcome
-/

namespace Teller

/-! ## Without estimates -/

/-- Parameters without estimates. -/
def Parameters.withoutEstimates (p : Parameters) : Parameters := { p with estimates := {} }

def Parameters.Revision.withoutEstimates (r : Parameters.Revision) : Parameters.Revision :=
  { r with estimates := {} }

def Choice.withoutEstimates (c : Choice) : Choice := { c with revision := c.revision.withoutEstimates }

def Question.withoutEstimates (q : Question) : Question :=
  { q with first := q.first.withoutEstimates, others := q.others.map (·.withoutEstimates) }

def Reply.withoutEstimates (r : Reply) : Reply :=
  { r with parameters := r.parameters.withoutEstimates, question := r.question.withoutEstimates }

namespace Question

variable (q : Question) (id : String)

theorem choices_withoutEstimates :
    q.withoutEstimates.choices = q.choices.map (·.withoutEstimates) := rfl

theorem find?_withoutEstimates :
    q.withoutEstimates.find? id = (q.find? id).map (·.withoutEstimates) := by
  unfold find?
  rw [choices_withoutEstimates, List.find?_map]
  rfl

theorem invalidChoice_withoutEstimates : q.withoutEstimates.invalidChoice id = q.invalidChoice id := by
  have same_ids : q.withoutEstimates.choices.map (·.id) = q.choices.map (·.id) := by
    rw [choices_withoutEstimates, List.map_map]
    rfl
  unfold invalidChoice
  rw [same_ids]

end Question

namespace Desk

variable (desk : Desk)

/-- Estimates are made anew from the parameters and the revision without theirs. -/
theorem estimated_revise_withoutEstimates (intent : Intent) (template : Option Template)
    (account : Option Account) (p : Parameters) (r : Parameters.Revision) :
    estimated desk intent template account (p.withoutEstimates.revise r.withoutEstimates) =
      estimated desk intent template account (p.revise r) := rfl

theorem replied_withoutEstimates (r : Reply) (choice : Choice) (t : Template) :
    replied desk r.withoutEstimates choice.withoutEstimates t = replied desk r choice t := by
  have same_parameters := estimated_revise_withoutEstimates desk (chosenIntent r choice) (some t)
    r.account r.parameters choice.revision
  exact congrArg (fun p => Review.Subject.mk (chosenIntent r choice) p t r.account none) same_parameters

/-- The estimates that come with an answer are not looked at. -/
theorem resolve_withoutEstimates (moment : Moment) (number : Nat) (r : Reply) :
    resolve desk moment number r.withoutEstimates = resolve desk moment number r := by
  have same_choice : r.withoutEstimates.question.find? r.withoutEstimates.choice =
      (r.question.find? r.choice).map (·.withoutEstimates) :=
    Question.find?_withoutEstimates r.question r.choice
  rw [resolve_eq, resolve_eq, same_choice]
  cases found : r.question.find? r.choice with
  | none => exact congrArg Except.error (Question.invalidChoice_withoutEstimates r.question r.choice)
  | some choice =>
    by_cases cancels : r.choice = Question.cancelId
    · dsimp only [Option.map_some]
      rw [if_pos cancels, if_pos]
      · rfl
      · exact cancels
    · have same_intent : chosenIntent r.withoutEstimates choice.withoutEstimates =
          chosenIntent r choice := rfl
      have proceeds : ¬ r.withoutEstimates.choice = Question.cancelId := cancels
      dsimp only [Option.map_some]
      rw [if_neg cancels, if_neg proceeds, same_intent]
      cases ht : Template.of? (chosenIntent r choice) with
      | none => rfl
      | some t =>
        dsimp only
        rw [replied_withoutEstimates]
        rfl

/-- An answer depends on the number of its command in nothing else. -/
theorem unnumbered_resolve (moment : Moment) (number number' : Nat) (r : Reply) :
    (resolve desk moment number r).map (·.unnumbered) =
      (resolve desk moment number' r).map (·.unnumbered) := by
  rw [resolve_eq, resolve_eq]
  cases found : r.question.find? r.choice with
  | none => rfl
  | some choice =>
    dsimp only
    by_cases cancels : r.choice = Question.cancelId
    · rw [if_pos cancels, if_pos cancels]
    · rw [if_neg cancels, if_neg cancels]
      cases ht : Template.of? (chosenIntent r choice) with
      | none => rfl
      | some t =>
        dsimp only
        rw [process_eq_conclude, process_eq_conclude]
        exact unnumbered_conclude desk moment r.confidence number number' _

/-- Answers that differ in estimates alone have the same outcome, up to the number of its command.
-/
theorem estimates_not_injected (moment : Moment) (number number' : Nat) (r r' : Reply)
    (same : r.withoutEstimates = r'.withoutEstimates) :
    (resolve desk moment number r).map (·.unnumbered) =
      (resolve desk moment number' r').map (·.unnumbered) := by
  calc (resolve desk moment number r).map (·.unnumbered)
      = (resolve desk moment number r.withoutEstimates).map (·.unnumbered) := by
        rw [resolve_withoutEstimates]
    _ = (resolve desk moment number r'.withoutEstimates).map (·.unnumbered) := by rw [same]
    _ = (resolve desk moment number r').map (·.unnumbered) := by rw [resolve_withoutEstimates]
    _ = (resolve desk moment number' r').map (·.unnumbered) :=
        unnumbered_resolve desk moment number number' r'

/-- To swap 2000 USDC at the only venue that is offered, with these estimates of the parameters and
of the choice. -/
def swapAtSymphony (estimates : Estimates) (chosen : Estimates.Revision) : Reply where
  intent := .swap
  parameters := {
    primary := { amount := some "2000", fromToken := some "USDC", toToken := some "SEI" }
    estimates }
  choice := "protocol_symphony"
  question := {
    text := "Which protocol would you like to use?"
    first := {
      id := "protocol_symphony"
      label := "Symphony"
      description := "Advanced DEX with concentrated liquidity"
      revision := { primary := { protocol := some (some "symphony") }, estimates := chosen }
      confidence := 0.8 }
    others := [] }

/-- A price impact of 99 percent, stated by the parameters and again by the choice, changes nothing:
the swap still has the impact that its amount has. -/
theorem swapAtSymphony_not_injected :
    (swapAtSymphony { priceImpact := some 99 } { priceImpact := some (some 99) }).withoutEstimates =
        (swapAtSymphony {} {}).withoutEstimates ∧
      (resolve {} ⟨0, 0⟩ 1
          (swapAtSymphony { priceImpact := some 99 } { priceImpact := some (some 99) })).map
        (·.unnumbered) = (resolve {} ⟨0, 0⟩ 2 (swapAtSymphony {} {})).map (·.unnumbered) ∧
      ∃ o, resolve {} ⟨0, 0⟩ 2 (swapAtSymphony {} {}) = .ok o ∧
        o.command.isSome && o.parameters.estimates.priceImpact == some 0.1 := by
  refine ⟨rfl, estimates_not_injected {} ⟨0, 0⟩ 1 2 _ _ rfl, exists_eq_ok_of_any ?_⟩
  decide +kernel

end Desk

end Teller
