import Teller.Question.Detection

/-!
# Entities that parameters imply

Without recognised entities, ambiguities are looked for among those that the parameters imply. There
is at most one of them for an amount, a protocol, a leverage and a slippage, so several amounts or
contradicting numbers are never found. The implied amount has the number of the stated amount; the
implied leverage has the number that its plain written form reads back as.

    ofKind_implied                     the implied entities of one kind
    firstNumber?_amount_implied        the number of the implied amount
    firstNumber?_leverage_implied      the number of the implied leverage
    not_hasConflict_implied            implied numbers never contradict each other
-/

namespace Teller.Ambiguity

/-! ## Entities of one kind -/

theorem ofKind_append (kind : Entity.Kind) (xs ys : List Entity) :
    Entity.ofKind kind (xs ++ ys) = Entity.ofKind kind xs ++ Entity.ofKind kind ys :=
  List.filter_append ..

theorem ofKind_entityOf_self (kind : Entity.Kind) (text : Option String) :
    Entity.ofKind kind (entityOf kind text) = entityOf kind text := by
  unfold entityOf
  split
  · rfl
  · rfl
  · simp [Entity.ofKind]

theorem ofKind_entityOf_of_ne {kind other : Entity.Kind} (h : other ≠ kind)
    (text : Option String) : Entity.ofKind kind (entityOf other text) = [] := by
  unfold entityOf
  split
  · rfl
  · rfl
  · simp [Entity.ofKind, h]

theorem length_entityOf_le (kind : Entity.Kind) (text : Option String) :
    (entityOf kind text).length ≤ 1 := by
  unfold entityOf
  split <;> simp

theorem entityOf_eq_nil_iff (kind : Entity.Kind) (text : Option String) :
    entityOf kind text = [] ↔ stated? text = none := by
  unfold entityOf
  split
  · simp [stated?]
  · simp [stated?]
  · next s hs =>
    have : s ≠ "" := fun e => hs (by rw [e])
    simp [stated?, this]

theorem read?_empty : Number.read? "" = none := by
  decide +kernel

theorem number_head?_entityOf (kind : Entity.Kind) (text : Option String) :
    (entityOf kind text).head?.bind numberOf? = text.bind Number.read? := by
  unfold entityOf
  split
  · rfl
  · exact read?_empty.symm
  · rfl

/-! ## The implied entities -/

/-- The text of a parameter that at most one implied entity stands for. -/
def impliedText (p : Primary) : Entity.Kind → Option String
  | .amount => p.amount
  | .protocol => p.protocol
  | .leverage => p.leverage.map Number.plain
  | .slippage => p.slippage.map Number.plain
  | .token => none

theorem ofKind_implied (p : Primary) (kind : Entity.Kind) (h : kind ≠ .token) :
    Entity.ofKind kind (entitiesOf p) = entityOf kind (impliedText p kind) := by
  unfold entitiesOf
  simp only [ofKind_append]
  cases kind with
  | token => exact absurd rfl h
  | amount => simp [ofKind_entityOf_self, ofKind_entityOf_of_ne, impliedText]
  | protocol => simp [ofKind_entityOf_self, ofKind_entityOf_of_ne, impliedText]
  | leverage => simp [ofKind_entityOf_self, ofKind_entityOf_of_ne, impliedText]
  | slippage => simp [ofKind_entityOf_self, ofKind_entityOf_of_ne, impliedText]

/-- The tokens that parameters imply: the one token, and both tokens of a swap. -/
theorem ofKind_token_implied (p : Primary) :
    Entity.ofKind .token (entitiesOf p) =
      entityOf .token p.token ++ entityOf .token p.fromToken ++ entityOf .token p.toToken := by
  unfold entitiesOf
  simp [ofKind_append, ofKind_entityOf_self, ofKind_entityOf_of_ne]

/-- Without any token stated, no token is implied. -/
theorem ofKind_token_implied_eq_nil {p : Primary} (token : stated? p.token = none)
    (given : stated? p.fromToken = none) (wanted : stated? p.toToken = none) :
    Entity.ofKind .token (entitiesOf p) = [] := by
  rw [ofKind_token_implied, (entityOf_eq_nil_iff .token p.token).2 token,
    (entityOf_eq_nil_iff .token p.fromToken).2 given, (entityOf_eq_nil_iff .token p.toToken).2 wanted]
  rfl

theorem length_ofKind_implied_le (p : Primary) (kind : Entity.Kind) (h : kind ≠ .token) :
    (Entity.ofKind kind (entitiesOf p)).length ≤ 1 := by
  rw [ofKind_implied p kind h]
  exact length_entityOf_le ..

theorem firstNumber?_implied (p : Primary) (kind : Entity.Kind) (h : kind ≠ .token) :
    firstNumber? kind (entitiesOf p) = (impliedText p kind).bind Number.read? := by
  unfold firstNumber?
  rw [ofKind_implied p kind h, number_head?_entityOf]

theorem firstNumber?_amount_implied (p : Primary) :
    firstNumber? .amount (entitiesOf p) = p.amount.bind Number.read? :=
  firstNumber?_implied p .amount (by decide)

theorem firstNumber?_leverage_implied (p : Primary) :
    firstNumber? .leverage (entitiesOf p) =
      p.leverage.bind fun x => Number.read? (Number.plain x) := by
  rw [firstNumber?_implied p .leverage (by decide)]
  cases h : p.leverage <;> simp [impliedText, h]

theorem namesProtocol_implied (p : Primary) :
    namesProtocol (entitiesOf p) = (stated? p.protocol).isSome := by
  unfold namesProtocol
  rw [ofKind_implied p .protocol (by decide)]
  show (!(entityOf .protocol p.protocol).isEmpty) = _
  cases he : entityOf .protocol p.protocol with
  | nil =>
    rw [(entityOf_eq_nil_iff .protocol p.protocol).1 he]
    rfl
  | cons e es =>
    cases h : stated? p.protocol with
    | none =>
      rw [(entityOf_eq_nil_iff .protocol p.protocol).2 h] at he
      cases he
    | some s => rfl

/-! ## Contradictions -/

theorem length_addDistinct_le (seen : List (Entity × Float)) (e : Entity) :
    (addDistinct seen e).length ≤ seen.length + 1 := by
  unfold addDistinct
  split
  · split <;> simp
  · omega

theorem length_foldl_addDistinct_le (es : List Entity) (seen : List (Entity × Float)) :
    (es.foldl addDistinct seen).length ≤ seen.length + es.length := by
  induction es generalizing seen with
  | nil => simp
  | cons e es ih =>
    have := ih (addDistinct seen e)
    have := length_addDistinct_le seen e
    simp only [List.foldl_cons, List.length_cons]
    omega

theorem length_distinctNumbers_le (kind : Entity.Kind) (es : List Entity) :
    (distinctNumbers kind es).length ≤ (Entity.ofKind kind es).length := by
  have := length_foldl_addDistinct_le (Entity.ofKind kind es) []
  simpa [distinctNumbers] using this

/-- Numbers contradict each other only if there are several of one kind. -/
theorem not_hasConflict_of_length_le {entities : List Entity}
    (one_leverage : (Entity.ofKind .leverage entities).length ≤ 1)
    (one_slippage : (Entity.ofKind .slippage entities).length ≤ 1) : hasConflict entities = false := by
  have leverages := length_distinctNumbers_le .leverage entities
  have slippages := length_distinctNumbers_le .slippage entities
  simp only [hasConflict, Bool.or_eq_false_iff, decide_eq_false_iff_not]
  omega

theorem not_hasConflict_implied (p : Primary) : hasConflict (entitiesOf p) = false :=
  not_hasConflict_of_length_le (length_ofKind_implied_le p .leverage (by decide))
    (length_ofKind_implied_le p .slippage (by decide))

end Teller.Ambiguity
