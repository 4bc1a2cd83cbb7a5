import Teller.Proofs.Desk.Answers

/-!
# The gate before a command

A command is handed out exactly if there are no errors and nothing is asked, and it is the command
that was reviewed: it has the intent and the parameters of its outcome. Errors and warnings never
mix.

    Outcome.Gated               what the gate lets through
    gated_of_gives              every outcome of a desk has passed the gate
-/

namespace Teller

/-! ## The report of a question -/

theorem Outcome.get?_requires_disambiguation (o : Outcome) :
    o.document.get? "requires_disambiguation" = some (.flag o.asks) := by
  simp [document, Document.get?]

theorem Outcome.get?_disambiguation_options (o : Outcome) :
    o.document.get? "disambiguation_options" = some (.orNull Question.document o.question) := by
  simp [document, Document.get?]

/-! ## The gate -/

/-- What the gate lets through. -/
structure Outcome.Gated (o : Outcome) : Prop where
  command_isSome_iff : o.command.isSome ↔
    o.errors = [] ∧ o.document.get? "requires_disambiguation" = some (.flag false)
  asks_iff : o.document.get? "requires_disambiguation" = some (.flag true) ↔
    o.document.get? "disambiguation_options" ≠ some .null
  filed : Finding.Filed o.errors o.warnings
  of_command : ∀ c, o.command = some c → c.intent = o.intent ∧ c.parameters = o.parameters

namespace Outcome

/-- An outcome that asks exactly if it has a question reports so. -/
theorem asks_iff_offers {o : Outcome} (h : o.asks = o.question.isSome) :
    o.document.get? "requires_disambiguation" = some (.flag true) ↔
      o.document.get? "disambiguation_options" ≠ some .null := by
  rw [get?_requires_disambiguation, get?_disambiguation_options, h]
  cases o.question <;> simp [Document.orNull, Question.document]

theorem asks_nothing_iff (o : Outcome) :
    o.document.get? "requires_disambiguation" = some (.flag false) ↔ o.asks = false := by
  rw [get?_requires_disambiguation]
  simp

theorem Clarifies.gated {o : Outcome} (h : o.Clarifies) : o.Gated where
  command_isSome_iff := by
    rw [asks_nothing_iff, h.command_eq, h.asks_eq]
    simp
  asks_iff := by
    obtain ⟨q, _, hq⟩ := h.question_eq
    refine asks_iff_offers ?_
    rw [h.asks_eq, hq]
    rfl
  filed := by
    rw [h.errors_eq, h.warnings_eq]
    exact .nil
  of_command := by
    intro c hc
    rw [h.command_eq] at hc
    cases hc

theorem Reports.gated {desk : Desk} {s : Review.Subject} {o : Outcome}
    (h : o.Reports (Desk.examine desk s)) : o.Gated where
  command_isSome_iff := by
    have filed := Desk.filed_examine desk s
    rw [asks_nothing_iff, h.command_isSome, Finding.Filed.isValid_iff _ filed, h.errors_eq, h.asks_eq]
  asks_iff := by
    refine asks_iff_offers ?_
    rw [h.asks_eq, h.question_eq]
    exact Desk.asks_examine desk s
  filed := by
    rw [h.errors_eq, h.warnings_eq]
    exact Desk.filed_examine desk s
  of_command := h.of_command

end Outcome

/-- Every outcome of a desk has passed the gate. -/
theorem Desk.gated_of_gives {desk : Desk} {o : Outcome} (h : Gives desk o) : o.Gated := by
  rcases h.reports with clarifies | ⟨s, _, reports⟩
  · exact clarifies.gated
  · exact reports.gated

def Request.lendAtSilo : Request where
  intent := .lend
  entities := [{ kind := .amount, value := "100", normalized := "100" },
    { kind := .token, value := "USDC", normalized := "USDC" },
    { kind := .protocol, value := "Silo", normalized := "silo" }]

theorem Desk.gated_lendAtSilo :
    ∃ o, parse {} ⟨0, 0⟩ 1 .lendAtSilo = .ok o ∧ o.command.isSome ∧ o.Gated := by
  have handed_out : (parse {} ⟨0, 0⟩ 1 .lendAtSilo).toOption.any (·.command.isSome) := by
    decide +kernel
  obtain ⟨o, ho, hc⟩ := exists_eq_ok_of_any handed_out
  exact ⟨o, ho, hc, gated_of_gives (.parsed _ _ _ ho)⟩

end Teller
