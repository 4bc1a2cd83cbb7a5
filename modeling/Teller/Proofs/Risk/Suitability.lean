import Teller.Proofs.Risk.Range

/-!
# Bolder profiles

An operation suits a user if its risk is tolerated, its size affordable and its complexity
manageable. A bolder profile passes all three checks where a more cautious one does. Two of them
read the profile only. The risk is assessed for the profile, and there experience counts as well:
the score of a beginner is the score of anyone else, raised, so that experience never makes an
operation riskier.

    compatible_iff               the three checks
    Profile.AtMost               one profile is at most as bold as another
    rawScore_profile             how the profile enters the score
    score_le_of_experience       experience does not raise the score
    rank_overall_le              nor the assessed level
    suits_bolder                 what suits a profile suits every bolder one
-/

namespace Teller.Risk

open Teller.Number

variable {config : Config} {op : Operation} {p q : Profile} {level : Option Level}

/-! ## The checks -/

/-- An operation suits a user exactly if it can be assessed and passes the three checks. -/
theorem compatible_iff : (compatibility config op p).compatible = true ↔
    ∃ a, assess config { op with profile := some p } = .ok a ∧ a.overall.rank ≤ p.tolerance.rank ∧
      affordableBy p op = true ∧ manageableBy p op = true := by
  unfold compatibility assess
  simp only [mapError_eq_ok_iff]
  cases assess? config { op with profile := some p } with
  | error fault => exact ⟨nofun, fun ⟨_, failed, _⟩ => nomatch failed⟩
  | ok a => simp [toleratedBy, and_assoc]

/-- The place of a degree of experience in the order. -/
def Experience.rank : Experience → Nat
  | beginner => 0
  | intermediate => 1
  | advanced => 2
  | expert => 3

/-- The user with profile `q` tolerates as much risk as the one with profile `p`, or more, puts as
much of a portfolio at risk, and is as experienced. -/
structure Profile.AtMost (p q : Profile) : Prop where
  tolerance : p.tolerance.rank ≤ q.tolerance.rank
  capacity : p.capacity ≤ q.capacity
  experience : p.experience.rank ≤ q.experience.rank

theorem affordableBy_mono (le : p.capacity ≤ q.capacity) (affordable : affordableBy p op = true) :
    affordableBy q op = true := by
  unfold affordableBy at *
  simp only [Bool.or_eq_true, decide_eq_true_eq] at *
  exact affordable.imp_right fun within => le_trans within le

theorem manageableBy_iff : manageableBy p op = true ↔
    Text.lower op.operation ∉ complexOperations ∨ Experience.advanced.rank ≤ p.experience.rank := by
  unfold manageableBy
  cases p.experience <;> simp [Experience.rank]

theorem manageableBy_mono (le : p.experience.rank ≤ q.experience.rank)
    (manageable : manageableBy p op = true) :
    manageableBy q op = true := by
  rw [manageableBy_iff] at *
  exact manageable.imp_right fun enough => Nat.le_trans enough le

/-! ## The score for a profile -/

/-- The profile raises the score of beginners, and has no other part in it. -/
theorem rawScore_profile (fs : List (Factor Float)) (op : Operation) (p : Profile) :
    rawScore fs { op with profile := some p } =
      if p.experience = .beginner then rawScore fs { op with profile := none } * Scale.decimal 11 1
      else rawScore fs { op with profile := none } := by
  obtain ⟨_, _, _, experience, _⟩ := p
  cases experience <;> rfl

/-- A beginner's score is no lower for being raised. -/
theorem le_raised {n : Nat} {x : Float} {v : Rat} (h : Approximates n x v) :
    x ≤ x * Scale.decimal 11 1 := by
  obtain ⟨w, denotes, -⟩ := h
  obtain ⟨u, -, denotes'⟩ :=
    exists_denotes (x := Scale.decimal 11 1) (by decide +kernel) (by decide +kernel)
  exact denotes.le_mul denotes' ((denotes_one.le_iff denotes').1 (by decide +kernel))

theorem atMost_mono {cap x y : Float} (number : cap.isNaN = false) (le : x ≤ y) :
    Scale.atMost cap x ≤ Scale.atMost cap y := by
  obtain ⟨hx, -⟩ := not_isNaN_of_le le
  unfold Scale.atMost
  by_cases above : cap < x
  · rw [if_pos above, if_pos (lt_of_lt_of_le above le)]
    exact le_self number
  · rw [if_neg above]
    split
    · exact le_of_not_lt hx number above
    · exact le

/-- Of two users the more experienced one has no higher score. -/
theorem score_le_of_experience (op : Operation) (sound : config.IsSound)
    (above : ∀ l ∈ level, l ≠ .veryLow) (le : p.experience.rank ≤ q.experience.rank) :
    score (listed Float config op (leverageFactors Float op) level) { op with profile := some q } ≤
      score (listed Float config op (leverageFactors Float op) level) { op with profile := some p } := by
  have calculated := (approximates_rawScore { op with profile := none } sound above).1
  have raised := le_raised calculated
  have self := le_self (not_isNaN_of_le raised).1
  refine atMost_mono (by decide +kernel) ?_
  rw [rawScore_profile, rawScore_profile]
  by_cases beginner : q.experience = .beginner
  · -- then both are beginners
    have both : p.experience = .beginner := by
      rw [beginner] at le
      revert le
      cases p.experience <;> decide
    rw [if_pos beginner, if_pos both]
    exact le_self (not_isNaN_of_le raised).2
  · rw [if_neg beginner]
    split
    · exact raised
    · exact self

/-- An operation that is assessed for one user is assessed for a more experienced one, and is not of
a higher level. -/
theorem rank_overall_le {a : Assessment} (sound : config.IsSound)
    (le : p.experience.rank ≤ q.experience.rank)
    (assessed : assess config { op with profile := some p } = .ok a) :
    ∃ b, assess config { op with profile := some q } = .ok b ∧ b.overall.rank ≤ a.overall.rank := by
  obtain ⟨level, found, -, overall⟩ := exists_level assessed
  obtain ⟨b, assessed'⟩ : ∃ b, assess config { op with profile := some q } = .ok b := exists_assess found
  obtain ⟨level', found', -, overall'⟩ := exists_level assessed'
  obtain rfl : level = level' := Except.ok.inj (found.symm.trans found')
  have no_higher := score_le_of_experience op sound (ne_of_volatilityLevel? found) le
  refine ⟨b, assessed', ?_⟩
  rw [overall, overall']
  exact Level.rank_ofScore_le fun n _ _ below => le_trans no_higher below

/-! ## Compatibility -/

/-- What suits a profile suits every profile that is at least as bold. And an operation suits a
profile exactly if there is nothing to warn of. -/
theorem suits_bolder (sound : config.IsSound) (op : Operation) (bolder : p.AtMost q) :
    ((compatibility config op p).compatible = true → (compatibility config op q).compatible = true) ∧
    ∀ profile, (compatibility config op profile).compatible = true ↔
      (compatibility config op profile).warnings = [] := by
  refine ⟨fun suits => ?_, fun profile => ?_⟩
  · obtain ⟨a, assessed, tolerated, affordable, manageable⟩ := compatible_iff.1 suits
    obtain ⟨b, assessed', no_higher⟩ := rank_overall_le sound bolder.experience assessed
    refine compatible_iff.2 ⟨b, assessed', ?_, ?_, ?_⟩
    · exact no_higher.trans (tolerated.trans bolder.tolerance)
    · exact affordableBy_mono bolder.capacity affordable
    · exact manageableBy_mono bolder.experience manageable
  · rw [compatible_eq_isEmpty_warnings, List.isEmpty_iff]

/-- A loan with leverage on three tenths of a portfolio. It is of high risk for beginners, and of
medium risk else. -/
def leveredLoan : Operation :=
  { amount := 3000, protocol := "takara", operation := "borrow", leverage := some 4,
    portfolioValue := some 10000 }

/-- A beginner who tolerates high risk. -/
def novice : Profile :=
  { tolerance := .high, capacity := 0.3, horizon := .short, experience := .beginner }

/-- A user who tolerates as much, with experience. -/
def veteran : Profile := { novice with capacity := 0.36, experience := .advanced }

/-- The loan suits both, though just so for the beginner. -/
theorem leveredLoan_suits_bolder :
    (({} : Config).IsSound ∧ novice.AtMost veteran) ∧
    (compatibility {} leveredLoan novice).compatible = true ∧
    (compatibility {} leveredLoan veteran).compatible = true ∧
    (compatibility {} leveredLoan { novice with tolerance := .medium }).compatible = false ∧
    (compatibility {} leveredLoan { veteran with tolerance := .medium }).warnings = [] := by
  have bolder : novice.AtMost veteran := ⟨by decide, by decide +kernel, by decide⟩
  have suits : (compatibility {} leveredLoan novice).compatible = true := by decide +kernel
  obtain ⟨carries, silent⟩ := suits_bolder isSound_default leveredLoan bolder
  refine ⟨⟨isSound_default, bolder⟩, suits, carries suits, by decide +kernel, ?_⟩
  exact (silent { veteran with tolerance := .medium }).1 (by decide +kernel)

end Teller.Risk
