import Teller.Command.Readiness
import Teller.Proofs.Desk.Backing

/-!
# Balances at execution

A command that is to be executed has its balance looked at once more, by a check of its own: another
choice of the token, another reading of the amount, the comparison the other way round, and an
objection where the balance is not known. The review has let pass whatever a known balance is not
below. So what the later check can still object to is a balance that is not known, and to that it
always objects.

    eq_balance_of_message      the words about a balance are those of no other obstacle
    objectsTo_iff              when the later check objects to a balance
    objectsTo_iff_of_not_lt    where no known balance is below the amount, it objects to an unknown
                               one only
    primary_of_swap            what is swapped is what the request states
    objects_iff                the later check objects exactly if the balance is not known
-/

namespace Teller

/-! ## The later check -/

namespace Command

theorem toList_message_balance (token : String) : (Obstacle.balance token).message.toList =
    "Insufficient ".toList ++ token.toList ++ " balance".toList := by
  show ("Insufficient " ++ token ++ " balance").toList = _
  rw [String.toList_append, String.toList_append]

/-- The words about a balance end in a word that no others end in. -/
theorem eq_balance_of_message {o : Obstacle} {token : String}
    (same : o.message = (Obstacle.balance token).message) :
    o = .balance token := by
  have letters := congrArg String.toList same
  rw [toList_message_balance] at letters
  cases o with
  | balance t =>
    rw [toList_message_balance] at letters
    rw [String.toList_inj.1 (List.append_cancel_left (List.append_cancel_right letters))]
  | approvals | gas | risk =>
    have last := congrArg List.getLast? letters
    rw [List.getLast?_append, show " balance".toList.getLast? = some 'e' from rfl, Option.some_or] at last
    exact absurd last (by decide)

variable {c : Command} {p : Parameters} {a : Account} {account : Option Account} {token : String}

/-- When the balance is objected to. -/
theorem mem_balanceObstacle_iff (spent : p.primary.spent? = some token)
    (stated : (stated? p.primary.amount).isSome) (known : a.balances ≠ []) :
    .balance token ∈ balanceObstacle p (some a) ↔
      ∀ b, a.balanceOf? (some token) = some b → b < amountOf p := by
  have looks : ¬((stated? p.primary.amount).isNone || a.balances.isEmpty) = true := by
    simp [Option.isSome_iff_ne_none.1 stated, known]
  unfold balanceObstacle
  rw [spent]
  dsimp only
  rw [if_neg looks]
  cases a.balanceOf? (some token) with
  | none => simp
  | some b => simp

theorem balance_mem_obstacles_iff :
    .balance token ∈ obstacles c account ↔ .balance token ∈ balanceObstacle c.parameters account := by
  unfold obstacles obstaclesOf gasObstacle
  simp

/-- The later check objects to the balance of this token. -/
def ObjectsTo (c : Command) (account : Option Account) (token : String) : Prop :=
  s!"Insufficient {token} balance" ∈ (obstacles c account).map (·.message)

theorem objectsTo_iff :
    c.ObjectsTo account token ↔ .balance token ∈ balanceObstacle c.parameters account := by
  rw [← balance_mem_obstacles_iff]
  unfold ObjectsTo
  rw [List.mem_map]
  constructor
  · rintro ⟨o, mem, same⟩
    rwa [← eq_balance_of_message same]
  · exact fun mem => ⟨_, mem, rfl⟩

/-- Where no known balance is below the amount, only an unknown one is objected to. -/
theorem objectsTo_iff_of_not_lt (spent : c.parameters.primary.spent? = some token)
    (stated : (stated? c.parameters.primary.amount).isSome) (known : a.balances ≠ [])
    (covered : ∀ b, a.balanceOf? (some token) = some b → ¬b < amountOf c.parameters) :
    c.ObjectsTo (some a) token ↔ a.balanceOf? (some token) = none := by
  rw [objectsTo_iff, mem_balanceObstacle_iff spent stated known]
  constructor
  · intro short
    cases found : a.balanceOf? (some token) with
    | none => rfl
    | some b => exact absurd (short b found) (covered b found)
  · intro unknown b found
    rw [unknown] at found
    cases found

end Command

/-! ## What the review has let pass -/

namespace Desk

open Review Command

theorem spent?_of_token {p : Primary} {token : String} (h : stated? p.token = some token) :
    p.spent? = some token := by
  unfold Primary.spent?
  rw [h]
  rfl

theorem spent?_of_fromToken {p : Primary} {token : String} (h : stated? p.fromToken = some token)
    (undirected : p.token = none) : p.spent? = some token := by
  unfold Primary.spent?
  rw [h, undirected]
  rfl

/-- Entities state one token, or a direction. -/
theorem token_eq_none_of_fromToken {deadline : Int} {entities : List Entity} {token : String}
    (h : (primaryOf deadline entities).fromToken = some token) :
    (primaryOf deadline entities).token = none := by
  unfold primaryOf at h ⊢
  dsimp only at h ⊢
  generalize (Entity.ofKind .token entities).map (·.normalized) = tokens at h ⊢
  rcases tokens with _ | ⟨first, _ | ⟨second, others⟩⟩
  · cases h
  · cases h
  · rfl

variable {desk : Desk} {s : Subject} {o : Outcome} {c : Command} {a : Account} {token : String}

/-- Where the review has compared the balance with the amount, the later check objects to an unknown
one only. -/
theorem objectsTo_iff_of_reports (h : o.Reports (examine desk s)) (posed : s.Posed)
    (hc : o.command = some c)
    (required : "amount" ∈ s.template.required) (spent : c.parameters.primary.spent? = some token)
    (known : a.balances ≠ []) (covered : ∀ x b, amountOf? c.parameters.primary = some x →
      a.balanceOf? (some token) = some b → ¬b < x) :
    c.ObjectsTo (some a) token ↔ a.balanceOf? (some token) = none := by
  obtain ⟨x, hx, -⟩ := h.exists_amount posed hc required
  refine objectsTo_iff_of_not_lt spent (h.stated posed hc required _ rfl) known fun b hb => ?_
  rw [amountOf_eq hx]
  exact covered x b hx hb

theorem objectsTo_iff_of_lend (h : o.Reports (examine desk s)) (posed : s.Posed) (hc : o.command = some c)
    (ha : s.account = some a) (known : a.balances ≠ []) (lend : c.intent = .lend) :
    ∃ token, c.parameters.primary.token = some token ∧
      (c.ObjectsTo (some a) token ↔ a.balanceOf? (some token) = none) := by
  have template_eq := posed.template_eq
  have no_errors := h.business_eq_nil hc
  rw [← h.intent_of_command hc, lend] at template_eq
  rw [lend, ha] at no_errors
  have required := Template.mem_required template_eq
  obtain ⟨token, stated⟩ := Option.isSome_iff_exists.1
    (h.stated posed hc (required "token" (by decide)) c.parameters.primary.token rfl)
  have token_eq := (Option.filter_eq_some_iff.1 stated).1
  refine ⟨token, token_eq, objectsTo_iff_of_reports h posed hc (required "amount" (by decide))
    (spent?_of_token stated) known fun x b hx hb => ?_⟩
  rw [← token_eq] at hb
  exact not_lt_of_checkLending no_errors hx hb

/-- The tokens of a command to swap are those that its request states. -/
theorem primary_of_swap (h : o.Reports (examine desk s)) (posed : s.Posed) (hc : o.command = some c)
    (swap : c.intent = .swap) : c.parameters.primary = s.parameters.primary := by
  have nothing := inferences_eq_nil_of_swap s posed.template_eq ((h.intent_of_command hc).symm.trans swap)
  rw [h.parameters_of_command hc, examine_of_inferences_eq_nil desk s nothing]

theorem objectsTo_iff_of_swap {moment : Moment} {r : Request} {t : Template}
    (ht : Template.of? r.intent = some t)
    (h : o.Reports (examine desk (requested desk moment r t))) (hc : o.command = some c)
    (ha : r.account = some a) (known : a.balances ≠ []) (swap : c.intent = .swap) :
    ∃ token, c.parameters.primary.fromToken = some token ∧
      (c.ObjectsTo (some a) token ↔ a.balanceOf? (some token) = none) := by
  have posed := posed_requested desk moment ht
  have template_eq := posed.template_eq
  have no_errors := h.business_eq_nil hc
  have primary_eq := primary_of_swap h posed hc swap
  rw [← h.intent_of_command hc, swap] at template_eq
  rw [swap, show (requested desk moment r t).account = some a from ha] at no_errors
  have required := Template.mem_required template_eq
  obtain ⟨token, stated⟩ := Option.isSome_iff_exists.1
    (h.stated posed hc (required "from_token" (by decide)) c.parameters.primary.fromToken rfl)
  have token_eq := (Option.filter_eq_some_iff.1 stated).1
  -- The later check looks for the one token first, which a request for a swap never states beside
  -- a direction.
  have undirected : c.parameters.primary.token = none := by
    rw [primary_eq] at token_eq ⊢
    exact token_eq_none_of_fromToken token_eq
  refine ⟨token, token_eq, objectsTo_iff_of_reports h posed hc (required "amount" (by decide))
    (spent?_of_fromToken stated undirected) known fun x b hx hb => ?_⟩
  rw [← token_eq] at hb
  exact not_lt_of_checkSwap no_errors hx hb

/-- A command to lend or to swap for an account with balances: the later check objects to the
balance of what is lent or given away exactly if this balance is not known. -/
theorem objects_iff (desk : Desk) (moment : Moment) (number : Nat) (r : Request) (o : Outcome)
    (c : Command)
    (a : Account) (ho : parse desk moment number r = .ok o) (hc : o.command = some c)
    (ha : r.account = some a) (known : a.balances ≠ []) :
    (c.intent = .lend → ∃ token, c.parameters.primary.token = some token ∧
      (c.ObjectsTo (some a) token ↔ a.balanceOf? (some token) = none)) ∧
    (c.intent = .swap → ∃ token, c.parameters.primary.fromToken = some token ∧
      (c.ObjectsTo (some a) token ↔ a.balanceOf? (some token) = none)) := by
  rcases parse_eq_ok ho with ⟨_, clarifies, _⟩ | ⟨t, ht, reports⟩
  · rw [clarifies.command_eq] at hc
    cases hc
  · exact ⟨objectsTo_iff_of_lend reports (posed_requested desk moment ht) hc ha known,
      objectsTo_iff_of_swap ht reports hc ha known⟩

/-- An account that holds SEI and has an unreadable balance of USDC. -/
def unreadableHolder : Account where
  balances := [("SEI", "5"), ("USDC", "plenty")]

/-- To lend a hundred of the unreadable balance. -/
def lendUnreadable : Request where
  intent := .lend
  entities := [{ kind := .amount, value := "100", normalized := "100" },
    { kind := .token, value := "usdc", normalized := "usdc" },
    { kind := .protocol, value := "Silo", normalized := "silo" }]
  account := some unreadableHolder

/-- To swap the whole balance of SEI. -/
def swapEverything : Request where
  intent := .swap
  entities := [{ kind := .amount, value := "all", normalized := "all" },
    { kind := .token, value := "SEI", normalized := "SEI" },
    { kind := .token, value := "USDC", normalized := "USDC" },
    { kind := .protocol, value := "symphony", normalized := "symphony" }]
  account := some unreadableHolder

/-- The command to lend is handed out and objected to, the one to swap is handed out and not
objected to. -/
theorem unreadable_objected : (∃ o c, parse {} ⟨0, 0⟩ 1 lendUnreadable = .ok o ∧ o.command = some c ∧
      c.ObjectsTo (some unreadableHolder) "USDC") ∧
    ∃ o c, parse {} ⟨0, 0⟩ 1 swapEverything = .ok o ∧ o.command = some c ∧
      ¬c.ObjectsTo (some unreadableHolder) "SEI" := by
  have lends : (parse {} ⟨0, 0⟩ 1 lendUnreadable).toOption.any fun o => o.command.any fun c =>
      c.intent = .lend ∧ c.parameters.primary.token = some "USDC" := by
    decide +kernel
  have swaps : (parse {} ⟨0, 0⟩ 1 swapEverything).toOption.any fun o => o.command.any fun c =>
      c.intent = .swap ∧ c.parameters.primary.fromToken = some "SEI" := by
    decide +kernel
  obtain ⟨o, c, ho, hc, lends⟩ := exists_command_of_any lends
  obtain ⟨o', c', ho', hc', swaps⟩ := exists_command_of_any swaps
  obtain ⟨lend, token_eq⟩ := of_decide_eq_true lends
  obtain ⟨swap, token_eq'⟩ := of_decide_eq_true swaps
  obtain ⟨token, same, objects⟩ :=
    (objects_iff {} ⟨0, 0⟩ 1 lendUnreadable o c unreadableHolder ho hc rfl (by decide)).1 lend
  obtain ⟨token', same', objects'⟩ :=
    (objects_iff {} ⟨0, 0⟩ 1 swapEverything o' c' unreadableHolder ho' hc' rfl (by decide)).2 swap
  cases token_eq.symm.trans same
  cases token_eq'.symm.trans same'
  refine ⟨⟨o, c, ho, hc, objects.2 (by decide +kernel)⟩, o', c', ho', hc', fun objected => ?_⟩
  exact absurd (objects'.1 objected) (by decide +kernel)

end Desk

end Teller
