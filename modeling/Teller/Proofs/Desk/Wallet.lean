import Teller.Proofs.Amount.Wallet
import Teller.Proofs.Desk.Accounting

/-!
# Lending and swapping shares of a balance

What is lent or swapped is compared with the balance as its text names it. So a share of the balance
is rejected exactly if the balance is below it at twelve places, and in the default range that
happens to nearly all of a balance only.

    Primary.givenFor                  the token that is lent, or that is swapped for another
    exists_insufficientBalance_iff    when a review finds that a balance does not cover the amount
    amountOf?_requested               the amount that is reviewed is the text of the amount that was read
    givenFor_examine                  the token that is reviewed is the one whose balance was shared
    wallet_covers_iff                 when shares of a balance stay within it, and are not rejected for it
    all_exceeds_balance               a whole balance that is rejected
-/

namespace Teller

/-- The token that an intent gives away: the one that is swapped for another, or else the only one.
-/
def Primary.givenFor (p : Primary) (intent : Intent) : Option String :=
  if intent = .swap then p.fromToken else p.token

/-- A request to lend one token, or to swap one for another. -/
def Request.IsDirect (r : Request) : Prop :=
  r.intent = .lend ∧ (Entity.ofKind .token r.entities).length = 1 ∨
    r.intent = .swap ∧ 1 < (Entity.ofKind .token r.entities).length

/-! ## What a review says about the balance -/

namespace Rule

variable {catalog : Asset.Catalog} {rule : Rule} {f : Finding}

/-- What a rule finds is about the value of its field. -/
theorem code_of_finding? {value : FieldValue} (h : finding? catalog rule value = .ok (some f)) :
    f.code = .invalidType ∨ f.code = .validationFailed ∨ f.code = .constraintViolation := by
  unfold finding? at h
  simp only [bind, Except.bind, pure, Except.pure] at h
  repeat' split at h
  all_goals first
    | cases h
      simp [Finding.error]
    | cases h

/-- No rule is about a balance. -/
theorem code_ne_of_mem_checkAll {p : Parameters} {rules : List Rule} (h : f ∈ checkAll catalog p rules) :
    f.code ≠ .insufficientBalance := by
  obtain ⟨rule, _, found⟩ := List.mem_filterMap.1 h
  unfold findingIn? at found
  split at found
  · cases found
  · split at found
    · next answer carried =>
      rw [found] at carried
      rcases code_of_finding? carried with code | code | code <;> rw [code] <;> exact nofun
    · cases found
      exact nofun

end Rule

namespace Review

variable {config : Config} {s : Subject}

/-- The balance does not cover the amount. -/
def IsUncovered (s : Subject) : Prop :=
  ∃ amount balance, amountOf? s.parameters.primary = some amount ∧
    balanceOf? s.account (s.parameters.primary.givenFor s.intent) = some balance ∧ balance < amount

theorem exists_of_checkLending (lend : s.intent = .lend) :
    (∃ f ∈ (checkLending config s).errors, f.code = .insufficientBalance) ↔ IsUncovered s := by
  have token : s.parameters.primary.givenFor s.intent = s.parameters.primary.token := by
    rw [lend]
    rfl
  unfold IsUncovered checkLending
  dsimp only
  rw [token]
  cases amountOf? s.parameters.primary with
  | none => simp
  | some amount =>
    cases balanceOf? s.account s.parameters.primary.token with
    | none => simp
    | some balance =>
      by_cases uncovered : balance < amount
      · simp [uncovered, insufficientBalance, Finding.error]
      · dsimp only
        rw [if_neg uncovered]
        split <;> simp [uncovered]

theorem exists_of_checkSwap (swap : s.intent = .swap) :
    (∃ f ∈ (checkSwap config s).errors, f.code = .insufficientBalance) ↔ IsUncovered s := by
  have token : s.parameters.primary.givenFor s.intent = s.parameters.primary.fromToken := by
    rw [swap]
    rfl
  unfold IsUncovered checkSwap
  dsimp only
  rw [token]
  cases amountOf? s.parameters.primary with
  | none => cases isSelfSwap s.parameters.primary <;> simp [Finding.error]
  | some amount =>
    cases balanceOf? s.account s.parameters.primary.fromToken with
    | none => cases isSelfSwap s.parameters.primary <;> simp [Finding.error]
    | some balance =>
      by_cases uncovered : balance < amount
      · cases isSelfSwap s.parameters.primary <;>
          simp [uncovered, insufficientBalance, Finding.error]
      · cases isSelfSwap s.parameters.primary <;> simp [uncovered, Finding.error]

/-- A review of lending or swapping finds that a balance is insufficient if it does not cover the
amount. -/
theorem exists_insufficientBalance_iff {catalog : Asset.Catalog}
    (gives : s.intent = .lend ∨ s.intent = .swap) :
    (∃ f ∈ (review config catalog s).errors, f.code = .insufficientBalance) ↔ IsUncovered s := by
  have stage : (∃ f ∈ (business config s).errors, f.code = .insufficientBalance) ↔ IsUncovered s := by
    unfold business
    rcases gives with lend | swap
    · rw [lend]
      exact exists_of_checkLending lend
    · rw [swap]
      exact exists_of_checkSwap swap
  rw [← stage]
  constructor
  · rintro ⟨f, hf, code⟩
    rcases List.mem_append.1 hf with earlier | business
    · rcases List.mem_append.1 earlier with required | rules
      · rw [code_of_mem_requiredErrors required] at code
        cases code
      · exact absurd code (Rule.code_ne_of_mem_checkAll rules)
    · exact ⟨f, business, code⟩
  · rintro ⟨f, business, code⟩
    exact ⟨f, List.mem_append_right _ business, code⟩

end Review

/-! ## What is reviewed -/

namespace Desk

open Review

variable {r : Request}

/-- What the amounts of a request are shares of. -/
def sharedBases (desk : Desk) (r : Request) : Option Amount.Bases :=
  r.account.map fun a => basesFor a (firstToken? desk r.entities)

/-- The amount that is reviewed is the text of the amount that was read. -/
theorem amountOf?_requested {desk : Desk} {e : Entity} {reading : Amount.Reading} (moment : Moment)
    (t : Template)
    (first : (Entity.ofKind .amount r.entities).head? = some e)
    (reads : Amount.parse desk.amounts (sharedBases desk r)
      (some (if e.value.isEmpty then e.normalized else e.value)) = .ok reading) :
    amountOf? (requested desk moment r t).parameters.primary = Number.read? reading.normalized := by
  have kind : e.kind = .amount :=
    eq_of_beq (List.mem_filter.1 (List.mem_of_head? first)).2
  have text : normalizedText desk (sharedBases desk r) e = reading.normalized := by
    unfold normalizedText amountText
    rw [kind]
    dsimp only
    rw [reads]
  have amount : firstText? .amount (normalize desk r.entities r.account) = some reading.normalized := by
    unfold firstText?
    rw [ofKind_normalize, List.head?_map, first]
    exact congrArg some text
  show (firstText? .amount (normalize desk r.entities r.account)).bind Number.read? = _
  rw [amount]
  rfl

/-- The token that is reviewed is the one whose balance was shared. -/
theorem givenFor_requested (desk : Desk) (moment : Moment) (t : Template) (direct : r.IsDirect) :
    (requested desk moment r t).parameters.primary.givenFor r.intent = firstToken? desk r.entities := by
  have tokens : (Entity.ofKind .token (normalize desk r.entities r.account)).map (·.normalized) =
      (Entity.ofKind .token r.entities).map (tokenText desk) := by
    rw [ofKind_normalize, List.map_map]
    refine List.map_congr_left fun e he => ?_
    have kind : e.kind = .token := eq_of_beq (List.mem_filter.1 he).2
    show normalizedText desk _ e = _
    unfold normalizedText
    rw [kind]
  show (primaryOf _ (normalize desk r.entities r.account)).givenFor r.intent = _
  unfold Primary.givenFor primaryOf firstToken?
  dsimp only
  rw [tokens]
  rcases direct with ⟨lend, one⟩ | ⟨swap, several⟩
  · obtain ⟨e, only⟩ := List.length_eq_one_iff.1 one
    rw [lend, only]
    rfl
  · rw [swap, if_pos rfl]
    match Entity.ofKind .token r.entities, several with
    | given :: wanted :: others, _ => rfl

/-- Examining parameters does not change that token, as it is stated. -/
theorem givenFor_examine {desk : Desk} {token : String} (moment : Moment) (t : Template)
    (direct : r.IsDirect)
    (first : firstToken? desk r.entities = some token) (stated : token ≠ "") :
    (examine desk (requested desk moment r t)).subject.parameters.primary.givenFor r.intent =
      some token := by
  have given := givenFor_requested desk moment t direct
  rw [first] at given
  rcases direct with ⟨lend, -⟩ | ⟨swap, -⟩
  · rw [lend] at given ⊢
    have isStated_token : isStated (requested desk moment r t).parameters.primary "token" = true := by
      rw [isStated_eq (requested desk moment r t).parameters.primary.token rfl]
      rw [show (requested desk moment r t).parameters.primary.token = some token from given]
      simp [stated?, stated]
    show (examine desk (requested desk moment r t)).subject.parameters.primary.token = _
    rw [token_examine, get?_inferences_of_isStated isStated_token]
    exact given
  · rw [swap] at given ⊢
    rw [primary_examine]
    exact given

/-! ## Rejections -/

/-- A request to lend or swap is answered, and its first amount is read as this one. -/
structure GivesAmount (desk : Desk) (moment : Moment) (number : Nat) (r : Request) (o : Outcome)
    (reading : Amount.Reading) : Prop where
  answered : parse desk moment number r = .ok o
  gives : r.intent = .lend ∨ r.intent = .swap
  reads : ∃ e, (Entity.ofKind .amount r.entities).head? = some e ∧
    Amount.parse desk.amounts (sharedBases desk r)
      (some (if e.value.isEmpty then e.normalized else e.value)) = .ok reading

namespace GivesAmount

variable {desk : Desk} {moment : Moment} {number : Nat} {o : Outcome} {reading : Amount.Reading}

/-- The answer reports on an examined subject. -/
theorem exists_reports (h : GivesAmount desk moment number r o reading) :
    ∃ t, o.Reports (examine desk (requested desk moment r t)) := by
  rcases parse_eq_ok h.answered with ⟨unknown, _⟩ | ⟨t, _, reports⟩
  · have gives := h.gives
    rw [unknown] at gives
    simp at gives
  · exact ⟨t, reports⟩

/-- What is lent or swapped is rejected if the balance of the token that is given is below it at
twelve places. -/
theorem exists_insufficientBalance_iff (h : GivesAmount desk moment number r o reading) :
    (∃ f ∈ o.errors, f.code = .insufficientBalance) ↔ ∃ balance,
      balanceOf? r.account (o.parameters.primary.givenFor r.intent) = some balance ∧
        balance < Number.roundTo 12 reading.value := by
  obtain ⟨t, reports⟩ := h.exists_reports
  obtain ⟨e, first, reads⟩ := h.reads
  have amount := amountOf?_requested moment t first reads
  obtain ⟨_, permits⟩ := Amount.candidate_of_parse reads
  obtain ⟨u, names, -, above⟩ := Amount.exists_read?_plain_of_pos permits.positive
  rw [show reading.normalized = Number.plain reading.value from rfl, names] at amount
  rw [reports.errors_eq, errors_examine, Review.exists_insufficientBalance_iff
    (by rw [intent_examine]; exact h.gives), reports.parameters_eq]
  unfold IsUncovered
  rw [intent_examine, account_examine]
  unfold amountOf? at amount ⊢
  rw [amount_examine, amount]
  constructor
  · rintro ⟨_, balance, ⟨⟩, held, below⟩
    exact ⟨balance, held, (above balance).1 below⟩
  · rintro ⟨balance, held, below⟩
    exact ⟨u, balance, rfl, held, (above balance).2 below⟩

/-- If the token is clear, that is the balance of which the amount is a share. -/
theorem balance_lt_iff {b : Float} (h : GivesAmount desk moment number r o reading) (direct : r.IsDirect)
    (held : balanceOf? r.account (firstToken? desk r.entities) = some b) :
    (∃ f ∈ o.errors, f.code = .insufficientBalance) ↔ b < Number.roundTo 12 reading.value := by
  have given : o.parameters.primary.givenFor r.intent = firstToken? desk r.entities := by
    obtain ⟨t, reports⟩ := h.exists_reports
    obtain ⟨a, _, found⟩ := Option.bind_eq_some_iff.1 held
    rw [reports.parameters_eq]
    cases token : firstToken? desk r.entities with
    | none =>
      rw [token] at found
      cases found
    | some name =>
      rw [token] at found
      exact givenFor_examine moment t direct token (Account.ne_empty_of_balanceOf? found)
  rw [h.exists_insufficientBalance_iff, given, held]
  simp

end GivesAmount

/-- When shares of a balance stay within it, and are not rejected for it, whatever the range of
amounts. What the text of a share names is at most the balance, unless this is below the share at
twelve places; in the default range only nearly all of a balance can be above it. What is lent or
swapped is rejected if the balance that is looked at is below it at twelve places, and that is the
balance of the first token, if it is clear which one is given. -/
theorem wallet_covers_iff (desk : Desk) :
    (∀ bases raw reading b, Amount.ReadsShare desk.amounts bases raw reading b →
      Amount.IsShare (Amount.normalize raw) b reading.strategy reading.value ∧
      ((∃ u, Number.read? reading.normalized = some u ∧ u ≤ b) ↔
        ¬b < Number.roundTo 12 reading.value) ∧
      (desk.amounts = {} → b < Number.roundTo 12 reading.value →
        Amount.IsNearlyAll (Amount.normalize raw) b reading.strategy reading.value)) ∧
    ∀ moment number r o reading, GivesAmount desk moment number r o reading →
      ((∃ f ∈ o.errors, f.code = .insufficientBalance) ↔ ∃ balance,
        balanceOf? r.account (o.parameters.primary.givenFor r.intent) = some balance ∧
          balance < Number.roundTo 12 reading.value) ∧
      ∀ b, r.IsDirect → balanceOf? r.account (firstToken? desk r.entities) = some b →
        ((∃ f ∈ o.errors, f.code = .insufficientBalance) ↔ b < Number.roundTo 12 reading.value) := by
  constructor
  · intro bases raw reading b h
    obtain ⟨_, permits⟩ := Amount.candidate_of_parse h.reads
    refine ⟨h.isShare, Amount.plain_le_iff (Number.not_isNaN_of_lt h.positive).2 permits.positive, ?_⟩
    intro usual exceeded
    rw [usual] at permits
    exact Amount.isNearlyAll_of_exceeded h.positive h.finite h.isShare permits exceeded
  · intro moment number r o reading h
    exact ⟨h.exists_insufficientBalance_iff, fun b direct held => h.balance_lt_iff direct held⟩

/-- To lend this much USDC at Silo, with this balance. -/
def lendOf (amount balance : String) : Request where
  intent := .lend
  entities := [{ kind := .amount, value := amount, normalized := amount },
    { kind := .token, value := "USDC", normalized := "USDC" },
    { kind := .protocol, value := "Silo", normalized := "silo" }]
  account := some { balances := [("USDC", balance)] }

theorem exists_readsShare (amount : String) (b : Float) (p : Amount.Reading → Bool)
    (positive : 0 < b) (finite : b.isFinite = true)
    (unspecific : (Text.occursIn "portfolio".toList (Amount.normalize amount) ||
      Text.occursIn "position".toList (Amount.normalize amount)) = false)
    (read : (Amount.parse {} (some { balance := some b }) (some amount)).toOption.any fun reading =>
      (reading.strategy == .percentage || reading.strategy == .relative) && p reading) :
    ∃ reading, Amount.ReadsShare {} { balance := some b } amount reading b ∧ p reading = true := by
  obtain ⟨reading, reads, checked⟩ := exists_eq_ok_of_any read
  obtain ⟨share, result⟩ := Bool.and_eq_true_iff.1 checked
  obtain ⟨no_portfolio, no_position⟩ := Bool.or_eq_false_iff.1 unspecific
  have strategy : reading.strategy = .percentage ∨ reading.strategy = .relative := by simpa using share
  exact ⟨reading, ⟨rfl, positive, finite, no_portfolio, no_position, reads, strategy⟩, result⟩

theorem exists_rejected {amount balance : String}
    (answer : (parse {} ⟨0, 0⟩ 1 (lendOf amount balance)).toOption.any fun o =>
      o.errors.any (·.code == .insufficientBalance)) :
    ∃ o, parse {} ⟨0, 0⟩ 1 (lendOf amount balance) = .ok o ∧
      ∃ f ∈ o.errors, f.code = .insufficientBalance := by
  obtain ⟨o, answered, error⟩ := exists_eq_ok_of_any answer
  obtain ⟨f, mem, code⟩ := List.any_eq_true.1 error
  exact ⟨o, answered, f, mem, eq_of_beq code⟩

/-- All of a thousand is no more than that, and is not rejected. -/
theorem thousand_covers_all :
    (∃ reading, Amount.ReadsShare {} { balance := some 1000 } "100%" reading 1000 ∧
      ∃ u, Number.read? reading.normalized = some u ∧ u ≤ 1000) ∧
    ∃ o reading, GivesAmount {} ⟨0, 0⟩ 1 (lendOf "all" "1000") o reading ∧
      ¬∃ f ∈ o.errors, f.code = .insufficientBalance := by
  constructor
  · obtain ⟨reading, share, within⟩ := exists_readsShare "100%" 1000
      (fun reading => !decide (1000 < Number.roundTo 12 reading.value)) (by decide +kernel)
      (by decide +kernel) (by decide +kernel) (by decide +kernel)
    refine ⟨reading, share, (((wallet_covers_iff {}).1 _ _ _ _ share).2.1).2 ?_⟩
    simpa using within
  · have read : (Amount.parse {} (sharedBases {} (lendOf "all" "1000")) (some "all")).toOption.any
        fun reading => !decide (1000 < Number.roundTo 12 reading.value) := by
      decide +kernel
    obtain ⟨reading, reads, within⟩ := exists_eq_ok_of_any read
    have answers : (parse {} ⟨0, 0⟩ 1 (lendOf "all" "1000")).toOption.any fun _ => true := by
      decide +kernel
    obtain ⟨o, answered, -⟩ := exists_eq_ok_of_any answers
    have held : balanceOf? (lendOf "all" "1000").account
        (firstToken? {} (lendOf "all" "1000").entities) = some 1000 := by
      decide +kernel
    have given : GivesAmount {} ⟨0, 0⟩ 1 (lendOf "all" "1000") o reading :=
      ⟨answered, .inl rfl, _, rfl, reads⟩
    refine ⟨o, reading, given, ?_⟩
    rw [((wallet_covers_iff {}).2 _ _ _ _ _ given).2 1000 (.inl ⟨rfl, rfl⟩) held]
    simpa using within

/-- A hundred percent of a balance is more than the balance, all of one is shown as more, and
neither can be lent. -/
theorem all_exceeds_balance :
    (∃ reading, Amount.ReadsShare {} { balance := some 10485.772 } "100%" reading 10485.772 ∧
      ¬∃ u, Number.read? reading.normalized = some u ∧ u ≤ 10485.772) ∧
    (∃ reading, Amount.ReadsShare {} { balance := some 0.1234567890126 } "all" reading 0.1234567890126 ∧
      ¬∃ u, Number.read? reading.normalized = some u ∧ u ≤ 0.1234567890126) ∧
    (∃ o, parse {} ⟨0, 0⟩ 1 (lendOf "100%" "10485.772") = .ok o ∧
      ∃ f ∈ o.errors, f.code = .insufficientBalance) ∧
    ∃ o, parse {} ⟨0, 0⟩ 1 (lendOf "all" "0.1234567890126") = .ok o ∧
      ∃ f ∈ o.errors, f.code = .insufficientBalance := by
  refine ⟨?_, ?_, exists_rejected (by decide +kernel), exists_rejected (by decide +kernel)⟩
  · obtain ⟨reading, share, above⟩ := exists_readsShare "100%" 10485.772
      (fun reading => !(Number.read? reading.normalized).any (· ≤ 10485.772)) (by decide +kernel)
      (by decide +kernel) (by decide +kernel) (by decide +kernel)
    refine ⟨reading, share, ?_⟩
    rintro ⟨u, names, within⟩
    simp [names, within] at above
  · obtain ⟨reading, share, above⟩ := exists_readsShare "all" 0.1234567890126
      (fun reading => !(Number.read? reading.normalized).any (· ≤ 0.1234567890126))
      (by decide +kernel) (by decide +kernel) (by decide +kernel) (by decide +kernel)
    refine ⟨reading, share, ?_⟩
    rintro ⟨u, names, within⟩
    simp [names, within] at above

end Desk

end Teller
