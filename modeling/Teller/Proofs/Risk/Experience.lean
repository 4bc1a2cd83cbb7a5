import Teller.Proofs.Risk.Suitability

/-!
# Experience in whole words

Tolerance is read off an answer in whole words, experience off any part of it. So a word for much
experience counts even where it only stands inside a longer word, as in inexperienced. Then complex
operations are open to the user and more of a portfolio is put at risk. Answers are read as they
ought to be exactly if the words that decide them also stand alone.

    Occurs, StandsAlone          a word in a text, and one that is no part of a longer word
    ofText_eq_expert_iff, ofText_eq_advanced_iff    how experience is read
    capacity_lt_capacity         more experience, more capacity
    Profile.ReadInWords          how experience ought to be read
    MerelyEmbeds                 where it goes wrong
    read_in_words_iff            when experience is read in whole words
    inexperienced_read_as_advanced    a text where it is not
-/

namespace Teller.Risk

open Teller.Number

variable {text word : String} {p : Profile} {a : Answers}

/-! ## Words in a text -/

/-- The word is a part of the text. -/
def Occurs (word text : String) : Prop := ∃ before after, text.toList = before ++ (word.toList ++ after)

/-- The word is a part of the text, and there not a part of a longer word. -/
def StandsAlone (word text : String) : Prop :=
  ∃ before after, text.toList = before ++ (word.toList ++ after) ∧
    (∀ c ∈ before.getLast?, Text.isWord c = false) ∧ ∀ c ∈ after.head?, Text.isWord c = false

theorem StandsAlone.occurs (h : StandsAlone word text) : Occurs word text :=
  let ⟨before, after, split, _⟩ := h
  ⟨before, after, split⟩

theorem contains_iff : Text.contains text word = true ↔ Occurs word text := Text.occursIn_eq_true_iff

theorem standsIn_iff : Text.standsIn word text = true ↔ StandsAlone word text := by
  have start (before : List Char) : (before.getLast?.map (!Text.isWord ·)).getD true = true ↔
      ∀ c ∈ before.getLast?, Text.isWord c = false := by
    cases before.getLast? <;> simp
  have stop (after : List Char) : Text.startsOutsideWord after = true ↔
      ∀ c ∈ after.head?, Text.isWord c = false := by
    cases after <;> simp [Text.startsOutsideWord]
  rw [Text.standsIn_eq_true_iff]
  simp only [start, stop, StandsAlone]

instance : Decidable (Occurs word text) := decidable_of_iff _ contains_iff

instance : Decidable (StandsAlone word text) := decidable_of_iff _ standsIn_iff

/-! ## Reading experience -/

/-- The words for a degree of experience. -/
def Experience.words : Experience → List String
  | expert => ["expert", "professional"]
  | advanced => ["advanced", "experienced"]
  | intermediate => ["intermediate", "some experience"]
  | beginner => []

/-- A word for this experience is a part of the text. -/
def Mentions (text : String) (e : Experience) : Prop := ∃ w ∈ e.words, Occurs w text

/-- A word for this experience stands alone in the text. -/
def Names (text : String) (e : Experience) : Prop := ∃ w ∈ e.words, StandsAlone w text

theorem Names.mentions {e : Experience} (h : Names text e) : Mentions text e :=
  let ⟨w, listed, stands⟩ := h
  ⟨w, listed, stands.occurs⟩

theorem mentions_iff {e : Experience} {w w' : String} (words : e.words = [w, w']) :
    Mentions text e ↔ (Text.contains text w || Text.contains text w') = true := by
  simp [Mentions, words, ← contains_iff]

/-- Expert is who mentions a word for it. -/
theorem ofText_eq_expert_iff : Experience.ofText text = .expert ↔ Mentions (Text.lower text) .expert := by
  rw [mentions_iff rfl]
  unfold Experience.ofText
  dsimp only
  split
  · next expert => exact iff_of_true rfl expert
  · next not_expert =>
    refine iff_of_false ?_ not_expert
    split_ifs <;> exact nofun

/-- Advanced is who mentions a word for it, and none for an expert. -/
theorem ofText_eq_advanced_iff : Experience.ofText text = .advanced ↔
    ¬Mentions (Text.lower text) .expert ∧ Mentions (Text.lower text) .advanced := by
  rw [mentions_iff rfl, mentions_iff rfl]
  unfold Experience.ofText
  dsimp only
  split
  · next expert => exact iff_of_false nofun fun h => h.1 expert
  · next not_expert =>
    split
    · next advanced => exact iff_of_true rfl ⟨not_expert, advanced⟩
    · next not_advanced =>
      refine iff_of_false ?_ fun h => not_advanced h.2
      split_ifs <;> exact nofun

/-- What the user says about experience, in lower case. -/
def Answers.said (a : Answers) : String := Text.lower (a.experience.getD "")

theorem profile_eq_ok (h : a.profile = .ok p) : p.experience = Experience.ofText (a.experience.getD "") ∧
    p.capacity = capacity (a.portfolioSize.getD 0) p.experience := by
  unfold Answers.profile at h
  cases stated : a.riskTolerance.filter (· ≠ "") with
  | none =>
    rw [stated] at h
    cases h
    simp only [and_self]
  | some text =>
    rw [stated] at h
    obtain ⟨level, -, h⟩ := bind_eq_ok h
    cases h
    simp only [and_self]

theorem expert_iff (h : a.profile = .ok p) : p.experience = .expert ↔ Mentions a.said .expert := by
  rw [(profile_eq_ok h).1, ofText_eq_expert_iff]
  rfl

theorem advanced_iff (h : a.profile = .ok p) :
    p.experience = .advanced ↔ ¬Mentions a.said .expert ∧ Mentions a.said .advanced := by
  rw [(profile_eq_ok h).1, ofText_eq_advanced_iff]
  rfl

/-! ## Capacity -/

/-- What may be put at risk at least and at most, before experience counts. -/
def bases : List Float := [0.3 * 1.2, 0.3 * 1.1, 0.3 * 0.8, 0.3]

theorem exists_base (size : Float) : ∃ base ∈ bases, ∀ e : Experience,
    capacity size e = Scale.atMost 0.5 (base * e.capacityFactor) := by
  unfold capacity
  dsimp only
  split_ifs
  · exact ⟨0.3 * 1.2, by simp [bases], fun _ => rfl⟩
  · exact ⟨0.3 * 1.1, by simp [bases], fun _ => rfl⟩
  · exact ⟨0.3 * 0.8, by simp [bases], fun _ => rfl⟩
  · exact ⟨0.3, by simp [bases], fun _ => rfl⟩

theorem capacity_table : ∀ base ∈ bases, ∀ e ∈ Experience.all, ∀ f ∈ Experience.all, e.rank < f.rank →
    Scale.atMost 0.5 (base * e.capacityFactor) < Scale.atMost 0.5 (base * f.capacityFactor) := by
  decide +kernel

/-- With more experience more may be put at risk, whatever the size of the portfolio. -/
theorem capacity_lt_capacity (size : Float) {e f : Experience} (less : e.rank < f.rank) :
    capacity size e < capacity size f := by
  have listed (e : Experience) : e ∈ Experience.all := by cases e <;> decide
  obtain ⟨base, among, eq⟩ := exists_base size
  rw [eq, eq]
  exact capacity_table base among e (listed e) f (listed f) less

/-! ## Reading in whole words -/

/-- Experience is read off words that stand alone in what the user says: much experience only where
a word for it does. Without any such word complex operations stay closed, and the capacity is not
raised. -/
structure Profile.ReadInWords (p : Profile) (a : Answers) : Prop where
  expert : p.experience = .expert → Names a.said .expert
  advanced : p.experience = .advanced → Names a.said .advanced
  capacity : ¬Names a.said .expert → ¬Names a.said .advanced →
    p.capacity ≤ Risk.capacity (a.portfolioSize.getD 0) .intermediate
  complex : ¬Names a.said .expert → ¬Names a.said .advanced → ∀ config op,
    Text.lower op.operation ∈ complexOperations → (compatibility config op p).compatible = false

/-- The text mentions words for this experience, but only as parts of longer words. -/
def MerelyEmbeds (text : String) (e : Experience) : Prop := Mentions text e ∧ ¬Names text e

/-- Users without much experience may not put more at risk than those with some. -/
theorem capacity_le_of_little (h : a.profile = .ok p)
    (little : p.experience.rank < Experience.advanced.rank) :
    p.capacity ≤ capacity (a.portfolioSize.getD 0) .intermediate := by
  have less := capacity_lt_capacity (a.portfolioSize.getD 0) (e := .beginner) (f := .intermediate)
    (by decide)
  rw [(profile_eq_ok h).2]
  cases experience : p.experience with
  | beginner => exact le_of_lt less
  | intermediate => exact le_self (not_isNaN_of_lt less).2
  | advanced | expert =>
    rw [experience] at little
    exact absurd little (by decide)

/-- And complex operations are closed to them. -/
theorem not_compatible_of_complex {config : Config} {op : Operation}
    (little : p.experience.rank < Experience.advanced.rank)
    (complex : Text.lower op.operation ∈ complexOperations) :
    (compatibility config op p).compatible = false := by
  rw [← Bool.not_eq_true, compatible_iff]
  rintro ⟨a, -, -, -, manageable⟩
  rcases manageableBy_iff.1 manageable with simple | enough
  · exact simple complex
  · omega

/-- Experience is read in whole words exactly if the words that decide it do not merely stand in
longer words. Where words for much experience do so, and none stands alone, the capacity is raised
and complex operations are open. -/
theorem read_in_words_iff (h : a.profile = .ok p) :
    (p.ReadInWords a ↔
      ¬MerelyEmbeds a.said .expert ∧ ¬(¬Mentions a.said .expert ∧ MerelyEmbeds a.said .advanced)) ∧
    (¬Names a.said .expert → ¬Names a.said .advanced →
      Mentions a.said .expert ∨ Mentions a.said .advanced →
      capacity (a.portfolioSize.getD 0) .intermediate < p.capacity ∧ ∀ op, manageableBy p op = true) := by
  have expert := expert_iff h
  have advanced := advanced_iff h
  refine ⟨⟨fun read => ⟨?_, ?_⟩, fun ⟨no_expert, no_advanced⟩ => ?_⟩, fun _ _ mentions => ?_⟩
  · rintro ⟨mentions, unnamed⟩
    exact unnamed (read.expert (expert.2 mentions))
  · rintro ⟨not_expert, mentions, unnamed⟩
    exact unnamed (read.advanced (advanced.2 ⟨not_expert, mentions⟩))
  · have named (is_expert : p.experience = .expert) : Names a.said .expert :=
      not_not.1 fun unnamed => no_expert ⟨expert.1 is_expert, unnamed⟩
    have named' (is_advanced : p.experience = .advanced) : Names a.said .advanced := by
      obtain ⟨not_expert, mentions⟩ := advanced.1 is_advanced
      exact not_not.1 fun unnamed => no_advanced ⟨not_expert, mentions, unnamed⟩
    have little (unnamed : ¬Names a.said .expert) (unnamed' : ¬Names a.said .advanced) :
        p.experience.rank < Experience.advanced.rank := by
      have not_expert := mt named unnamed
      have not_advanced := mt named' unnamed'
      revert not_expert not_advanced
      cases p.experience <;> decide
    exact ⟨named, named', fun unnamed unnamed' => capacity_le_of_little h (little unnamed unnamed'),
      fun unnamed unnamed' _ _ complex => not_compatible_of_complex (little unnamed unnamed') complex⟩
  · have much : Experience.intermediate.rank < p.experience.rank := by
      by_cases mentions_expert : Mentions a.said .expert
      · rw [expert.2 mentions_expert]
        decide
      · rw [advanced.2 ⟨mentions_expert, mentions.resolve_left mentions_expert⟩]
        decide
    refine ⟨?_, fun op => manageableBy_iff.2 (.inr much)⟩
    rw [(profile_eq_ok h).2]
    exact capacity_lt_capacity _ much

/-- A user who says so in a word of its own. -/
def expertTrader : Answers := { experience := some "Expert trader, inexperienced with options" }

/-- The word that decides stands alone, whatever else is embedded. -/
theorem expertTrader_read_in_words : ∃ p, expertTrader.profile = .ok p ∧ p.experience = .expert ∧
    MerelyEmbeds expertTrader.said .advanced ∧ p.ReadInWords expertTrader := by
  have checked : expertTrader.profile.toOption.any (·.experience = .expert) := by decide +kernel
  obtain ⟨p, h, experience⟩ := exists_eq_ok_of_any checked
  have names : Names expertTrader.said .expert := ⟨"expert", by decide, by decide +kernel⟩
  refine ⟨p, h, of_decide_eq_true experience, ⟨⟨"experienced", by decide, by decide +kernel⟩, ?_⟩, ?_⟩
  · unfold Names
    decide +kernel
  · exact (read_in_words_iff h).1.2 ⟨fun embeds => embeds.2 names, fun h => h.1 names.mentions⟩

/-- A user who says not to be experienced. -/
def inexperienced : Answers := { experience := some "Inexperienced" }

/-- A price difference taken at a venue with deep liquidity. -/
def arbitrage : Operation := { amount := 100, protocol := "dragonswap", operation := "arbitrage" }

/-- Inexperienced is read as experienced: a complex operation suits the user, and more may be put at
risk. -/
theorem inexperienced_read_as_advanced :
    ∃ p, inexperienced.profile = .ok p ∧ ¬p.ReadInWords inexperienced ∧
    ¬Names inexperienced.said .expert ∧ ¬Names inexperienced.said .advanced ∧ p.experience = .advanced ∧
    capacity 0 .intermediate < p.capacity ∧ (compatibility {} arbitrage p).compatible = true := by
  have checked : inexperienced.profile.toOption.any fun p => p.experience = .advanced ∧
      capacity 0 .intermediate < p.capacity ∧ (compatibility {} arbitrage p).compatible = true := by
    decide +kernel
  obtain ⟨p, h, found⟩ := exists_eq_ok_of_any checked
  obtain ⟨experience, larger, suits⟩ := of_decide_eq_true found
  have unnamed : ¬Names inexperienced.said .expert := by
    unfold Names
    decide +kernel
  have unnamed' : ¬Names inexperienced.said .advanced := by
    unfold Names
    decide +kernel
  exact ⟨p, h, fun read => unnamed' (read.advanced experience), unnamed, unnamed', experience,
    larger, suits⟩

end Teller.Risk
