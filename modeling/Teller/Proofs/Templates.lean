import Teller.Template
import Teller.Venue

/-!
# What templates have in common

Templates are looked up by intent. None requires a protocol, so a protocol is never inferred; a swap
requires its two tokens by names of their own; and for an intent that is carried out at a venue
there is a rule for protocols. A rule for amounts asks for a positive number from a hundredth
upwards.

    of?_eq_some                 the template of an intent is one of all templates
    protocol_not_required       no template requires a protocol
    exists_protocol_rule        an intent carried out at a venue has a rule for protocols
    amount_rule                 what a rule for amounts asks for
-/

namespace Teller.Template

theorem of?_eq_some {intent : Intent} {t : Template} (h : of? intent = some t) :
    t ∈ all ∧ t.intent = intent :=
  ⟨List.mem_of_find?_eq_some h, by simpa using List.find?_some h⟩

theorem mem_required {intent : Intent} {t : Template} (ht : of? intent = some t) (field : String)
    (h : (of? intent).any (·.required.contains field) = true) : field ∈ t.required := by
  rw [ht] at h
  exact List.contains_iff_mem.1 h

theorem protocol_not_required {t : Template} (h : t ∈ all) : "protocol" ∉ t.required := by
  have none_requires : ∀ t ∈ all, "protocol" ∉ t.required := by decide
  exact none_requires t h

theorem token_not_required_of_swap {t : Template} (h : t ∈ all) (swap : t.intent = .swap) :
    "token" ∉ t.required := by
  have none_requires : ∀ t ∈ all, t.intent = .swap → "token" ∉ t.required := by decide
  exact none_requires t h swap

theorem exists_protocol_rule {t : Template} (h : t ∈ all)
    (required : Venue.isRequired t.intent = true) :
    ∃ rule ∈ t.rules, rule.field = "protocol" ∧ rule.kind = .protocol := by
  have all_have_one : ∀ t ∈ all, Venue.isRequired t.intent = true →
      ∃ rule ∈ t.rules, rule.field = "protocol" ∧ rule.kind = .protocol := by
    decide
  exact all_have_one t h required

/-- The check for positive numbers. -/
def isPositive : Rule.Check → Bool
  | .positive => true
  | .supportedToken | .other .. => false

theorem eq_positive_of_any {check : Option Rule.Check} (h : check.any isPositive = true) :
    check = some .positive := by
  obtain ⟨found, rfl, positive⟩ := (Option.any_eq_true ..).1 h
  cases found with
  | positive => rfl
  | supportedToken | other => cases positive

theorem amount_rule {t : Template} (h : t ∈ all) {rule : Rule} (mem : rule ∈ t.rules)
    (field : rule.field = "amount") :
    rule.check = some .positive ∧ ∃ k, rule.constraints = some k ∧ k.least = some 0.01 := by
  have all_alike : ∀ t ∈ all, ∀ rule ∈ t.rules, rule.field = "amount" →
      rule.check.any isPositive ∧ rule.constraints.any fun k => k.least = some 0.01 := by
    decide +kernel
  obtain ⟨check, constrained⟩ := all_alike t h rule mem field
  replace check := eq_positive_of_any check
  obtain ⟨k, hk, least⟩ := (Option.any_eq_true ..).1 constrained
  exact ⟨check, k, hk, of_decide_eq_true least⟩

theorem exists_amount_rule {t : Template} (h : t ∈ all) (required : "amount" ∈ t.required) :
    ∃ rule ∈ t.rules, rule.field = "amount" := by
  have all_have_one : ∀ t ∈ all, "amount" ∈ t.required →
      ∃ rule ∈ t.rules, rule.field = "amount" := by
    decide
  exact all_have_one t h required

theorem of?_unknown : of? .unknown = none := by
  decide

end Teller.Template
