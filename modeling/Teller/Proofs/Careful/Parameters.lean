import Teller.Desk.Answering
import Teller.Proofs.Number.Numerals
import Teller.Proofs.Number.Order
import Teller.Proofs.Success
import Teller.Proofs.Templates

/-!
# Parameters with care

The desk takes for granted that its steps can be carried out: that a numeral is a number, that what
is written as a whole number has a whole part, that nothing is divided by zero. Here its work is
done once more, with a fault wherever such a step could break off. Whether a list has a first
element or a table an entry is asked by a pattern at the same place, and needs no care. First come
the normalization of entities and the estimates; neither ever has a fault.

    quotient_eq_ok              a number can be divided by any number but zero
    normalize_eq_ok             entities can be normalized
    estimated_eq_ok             estimates can be made
    extract_eq_ok               parameters can be extracted
-/

namespace Teller.Careful

open Desk

variable {α : Type}

/-! ## Steps -/

/-- The steps of a stage. A fault is caught by a handler, which reports a code. -/
def within (code : Failure.Code) (steps : Except Fault α) : Except Failure.Code α :=
  steps.mapError fun _ => code

theorem within_ok (code : Failure.Code) (a : α) : within code (.ok a) = .ok a := rfl

/-- A number divided by another, which must not be zero. -/
def quotient (x y : Float) : Except Fault Float :=
  if y == 0 then .error .zeroDivision else .ok (x / y)

theorem quotient_eq_ok (x : Float) {y : Float} (h : (y == 0) = false) :
    quotient x y = .ok (x / y) := by
  unfold quotient
  rw [h]
  rfl

/-- A list is mapped without a fault if each of its elements is. -/
theorem mapM_eq_ok {ε β : Type} {f : α → Except ε β} {g : α → β} {xs : List α}
    (h : ∀ x ∈ xs, f x = .ok (g x)) : xs.mapM f = .ok (xs.map g) := by
  induction xs with
  | nil => rfl
  | cons x rest ih =>
    rw [List.mapM_cons, h x List.mem_cons_self, ih fun y hy => h y (List.mem_cons_of_mem _ hy)]
    rfl

theorem optionMapM_eq_ok {ε β : Type} {f : α → Except ε β} {g : α → β} {o : Option α}
    (h : ∀ x, o = some x → f x = .ok (g x)) : o.mapM f = .ok (o.map g) := by
  cases o with
  | none => rfl
  | some x =>
    rw [Option.mapM_some, h x rfl]
    rfl

/-! ## Normalization -/

/-- A minus sign at the start of a text, or nothing, and what follows. -/
def splitMinus : List Char → List Char × List Char
  | '-' :: rest => (['-'], rest)
  | rest => ([], rest)

/-- The numeral at the start of a text, which may be negative. -/
def numeralAt? (cs : List Char) : Option (List Char) :=
  let (minus, digits) := splitMinus cs
  let numeral := leadingNumeral digits
  if numeral.isEmpty then none else some (minus ++ numeral)

/-- The first numeral in a text. -/
def firstNumeral? : List Char → Option (List Char)
  | [] => none
  | c :: rest => (numeralAt? (c :: rest)).or (firstNumeral? rest)

/-- The first numeral in the text of a leverage or slippage, which must be a number, or the text
itself. -/
def figureText (e : Entity) : Except Fault String :=
  match firstNumeral? e.text.toList with
  | some numeral => do Number.plainOf (← Number.ofText (String.ofList numeral))
  | none => .ok e.normalized

def amountText (desk : Desk) (bases : Option Amount.Bases) (e : Entity) : Except Fault String :=
  let typed := if e.value.isEmpty then e.normalized else e.value
  match Amount.parse desk.amounts bases (some typed) with
  | .ok r => Number.plainOf r.value
  | .error _ => .ok e.normalized

def normalizedText (desk : Desk) (bases : Option Amount.Bases) (e : Entity) : Except Fault String :=
  match e.kind with
  | .token => .ok (tokenText desk e)
  | .amount => amountText desk bases e
  | .protocol => .ok (protocolText e)
  | .leverage | .slippage => figureText e

def normalizeEntity (desk : Desk) (bases : Option Amount.Bases) (e : Entity) :
    Except Fault Entity := do
  return { e with normalized := ← normalizedText desk bases e }

def normalize (desk : Desk) (entities : List Entity) (account : Option Account) :
    Except Fault (List Entity) :=
  let bases := account.map fun a => basesFor a (firstToken? desk entities)
  entities.mapM (normalizeEntity desk bases)

/-- What stands at the start of a text is digits, with a fraction or without one. -/
theorem leadingNumeral_eq (cs : List Char) : leadingNumeral cs = [] ∨
    ∃ whole tail, leadingNumeral cs = whole ++ tail ∧ Number.IsNumeral [] whole tail := by
  have digits (l : List Char) : ∀ c ∈ l.takeWhile Text.isDigit, Text.isDigit c = true :=
    fun c hc => List.mem_takeWhile_imp hc
  unfold leadingNumeral
  cases taken : cs.takeWhile Text.isDigit with
  | nil => exact .inl rfl
  | cons first others =>
    have whole_isDigit := digits cs
    rw [taken] at whole_isDigit
    have alone : Number.IsNumeral [] (first :: others) [] :=
      ⟨.inl rfl, List.cons_ne_nil _ _, whole_isDigit, .inl rfl⟩
    right
    dsimp only
    split
    · split
      · exact ⟨_, [], (List.append_nil _).symm, alone⟩
      · exact ⟨_, _, rfl, .inl rfl, List.cons_ne_nil _ _, whole_isDigit, .inr ⟨_, rfl, digits _⟩⟩
    · exact ⟨_, [], (List.append_nil _).symm, alone⟩

theorem numeralAt?_eq_some {cs numeral : List Char} (h : numeralAt? cs = some numeral) :
    ∃ minus whole tail, numeral = minus ++ (whole ++ tail) ∧ Number.IsNumeral minus whole tail := by
  have sign : (splitMinus cs).1 = [] ∨ (splitMinus cs).1 = ['-'] := by
    unfold splitMinus
    split
    · exact .inr rfl
    · exact .inl rfl
  unfold numeralAt? at h
  dsimp only at h
  rcases leadingNumeral_eq (splitMinus cs).2 with empty | ⟨whole, tail, composed, shape⟩
  · rw [empty] at h
    cases h
  · have present : (whole ++ tail).isEmpty = false := by
      simp [shape.whole_ne_nil]
    rw [composed, present] at h
    cases h
    exact ⟨_, whole, tail, rfl, sign, shape.whole_ne_nil, shape.whole_isDigit, shape.tail_eq⟩

theorem numberAt?_eq (cs : List Char) : numberAt? cs =
    (numeralAt? cs).bind fun numeral => Number.read? (String.ofList numeral) := by
  show (if (leadingNumeral (splitMinus cs).2).isEmpty then none else _) = _
  unfold numeralAt?
  dsimp only
  split
  · rfl
  · rfl

/-- The first number in a text is its first numeral. -/
theorem firstNumber?_eq (cs : List Char) : firstNumber? cs =
    (firstNumeral? cs).bind fun numeral => Number.read? (String.ofList numeral) := by
  induction cs with
  | nil => rfl
  | cons c rest ih =>
    unfold firstNumber? firstNumeral?
    rw [numberAt?_eq, ih]
    cases found : numeralAt? (c :: rest) with
    | none => rfl
    | some numeral =>
      obtain ⟨minus, whole, tail, rfl, shape⟩ := numeralAt?_eq_some found
      obtain ⟨x, hx⟩ := shape.exists_read?
      simp only [Option.bind_some, Option.some_or, hx]

theorem firstNumeral?_eq_some {cs numeral : List Char} (h : firstNumeral? cs = some numeral) :
    ∃ x, Number.read? (String.ofList numeral) = some x := by
  induction cs with
  | nil => cases h
  | cons c rest ih =>
    rcases Option.or_eq_some_iff.1 h with found | ⟨_, found⟩
    · obtain ⟨minus, whole, tail, rfl, shape⟩ := numeralAt?_eq_some found
      exact shape.exists_read?
    · exact ih found

theorem figureText_eq_ok (e : Entity) : figureText e = .ok (Desk.figureText e) := by
  unfold figureText Desk.figureText
  rw [firstNumber?_eq]
  cases found : firstNumeral? e.text.toList with
  | none => rfl
  | some numeral =>
    obtain ⟨x, hx⟩ := firstNumeral?_eq_some found
    simp only [Option.bind_some, Number.ofText, hx]
    exact Number.plainOf_eq_ok x

theorem amountText_eq_ok (desk : Desk) (bases : Option Amount.Bases) (e : Entity) :
    amountText desk bases e = .ok (Desk.amountText desk bases e) := by
  unfold amountText Desk.amountText
  dsimp only
  generalize Amount.parse desk.amounts bases _ = answer
  cases answer with
  | ok r => exact Number.plainOf_eq_ok r.value
  | error f => rfl

theorem normalizeEntity_eq_ok (desk : Desk) (bases : Option Amount.Bases) (e : Entity) :
    normalizeEntity desk bases e = .ok (Desk.normalizeEntity desk bases e) := by
  have text_eq : normalizedText desk bases e = .ok (Desk.normalizedText desk bases e) := by
    unfold normalizedText Desk.normalizedText
    cases e.kind with
    | token | protocol => rfl
    | amount => exact amountText_eq_ok desk bases e
    | leverage | slippage => exact figureText_eq_ok e
  unfold normalizeEntity
  rw [text_eq]
  rfl

/-- Entities can be normalized. -/
theorem normalize_eq_ok (desk : Desk) (entities : List Entity) (account : Option Account) :
    normalize desk entities account = .ok (Desk.normalize desk entities account) :=
  mapM_eq_ok fun e _ => normalizeEntity_eq_ok desk _ e

/-! ## Estimates -/

def outputOf (amount slippage : Float) : Except Fault String :=
  Number.plainOf (amount * (1 - slippage / 100))

def feesOf (p : Primary) (gas : Float) : Except Fault (List Fee) :=
  if gas == 0 then .ok []
  else do
    let cost ← Number.plainOf (gas * Estimates.gasPrice * Estimates.referencePrice)
    return [{ kind := .protocol
              amount := Number.full Estimates.protocolFee
              token := p.spent?.getD "USDC"
              percentage := Estimates.protocolFee },
            { kind := .gas, amount := cost, token := Command.gasToken }]

/-- The sum of fees, whose amounts must be numbers. -/
def total (fees : List Fee) : Except Fault Float :=
  fees.foldlM (fun sum f => do return sum + (← Number.ofText f.amount)) 0

/-- The price at which a leveraged position is liquidated. -/
def liquidationAt (leverage : Float) : Except Fault String := do
  Number.plainOf (Estimates.referencePrice * (1 - (← quotient 1 leverage)))

/-- The amount of a swap from one token to another. -/
def swapped? (p : Primary) : Option Float := do
  let x ← p.amount.bind Number.read?
  let _ ← stated? p.fromToken
  let _ ← stated? p.toToken
  return x

/-- The leverage of a position that can be liquidated. -/
def levered? (p : Primary) : Option Float := do
  let leverage ← p.leverage.filter (0 < ·)
  let _ ← p.spent?
  return leverage

/-- The estimates for a command with this gas. The price impact and the health of a position need no
care: they are found by comparing and subtracting. -/
def derive (usualSlippage : Float) (intent : Intent) (p : Primary) (t : Tuning) (gas : Float)
    (account : Option Account) : Except Fault Estimates := do
  let outputAmount ← (swapped? p).mapM fun x => outputOf x (t.maxSlippage.getD usualSlippage)
  let fees ← feesOf p gas
  let liquidationPrice ← (levered? p).mapM liquidationAt
  let totalCost ← (p.amount.bind Number.read?).mapM fun x => do
    Number.plainOf (x + (← total fees))
  return { Estimates.derive usualSlippage intent p t gas account with
    outputAmount
    fees := if fees.isEmpty then none else some fees
    liquidationPrice
    totalCost }

def estimated (desk : Desk) (intent : Intent) (template : Option Template) (account : Option Account)
    (p : Parameters) : Except Fault Parameters := do
  let gas ← Estimates.gasIn template
  return { p with estimates := ← derive desk.slippage intent p.primary p.tuning gas account }

def extract (desk : Desk) (moment : Moment) (intent : Intent) (template : Option Template)
    (account : Option Account) (entities : List Entity) : Except Fault Parameters :=
  let primary := primaryOf (moment.seconds + desk.deadline) entities
  estimated desk intent template account { primary, tuning := tuningOf desk primary account }

/-- A template of the desk, or none. -/
def IsKnown (template : Option Template) : Prop := ∀ t, template = some t → t ∈ Template.all

theorem isKnown_none : IsKnown none := nofun

theorem isKnown_of? {intent : Intent} {t : Template} (ht : Template.of? intent = some t) :
    IsKnown (some t) := by
  rintro _ ⟨⟩
  exact (Template.of?_eq_some ht).1

theorem realOf_eq_ok_of_toBool {n : Int} (h : (Number.realOf n).toBool = true) :
    Number.realOf n = .ok (Float.ofInt n) := by
  unfold Number.realOf Number.ofInt? at h ⊢
  by_cases large : Number.wholeBound ≤ n.natAbs
  · rw [if_pos large] at h
    cases h
  · rw [if_neg large]

theorem gasIn_eq_ok {template : Option Template} (known : IsKnown template) :
    Estimates.gasIn template = .ok (gasOf template) := by
  have convertible : ∀ t ∈ Template.all, (Number.realOf t.gas).toBool = true := by decide +kernel
  cases template with
  | none => rfl
  | some t => exact realOf_eq_ok_of_toBool (convertible t (known t rfl))

theorem feesOf_eq_ok (p : Primary) (gas : Float) : feesOf p gas = .ok (Estimates.feesOf p gas) := by
  unfold feesOf Estimates.feesOf
  split
  · rfl
  · rw [Number.plainOf_eq_ok]
    rfl

/-- The amounts of the fees, whatever they are paid in, are numbers. -/
theorem fees_readable (p : Primary) {template : Option Template} (known : IsKnown template) :
    ∀ f ∈ Estimates.feesOf p (gasOf template), (Number.read? f.amount).isSome = true := by
  have protocol_readable : (Number.read? (Number.full Estimates.protocolFee)).isSome = true := by
    decide +kernel
  have gas_readable : ∀ t ∈ Template.all, (Number.read? (Number.plain
      (gasOf (some t) * Estimates.gasPrice * Estimates.referencePrice))).isSome = true := by
    decide +kernel
  have no_gas : (gasOf none == 0) = true := by decide +kernel
  intro f hf
  unfold Estimates.feesOf at hf
  split at hf
  · cases hf
  · next some_gas =>
    rcases List.mem_cons.1 hf with rfl | hf
    · exact protocol_readable
    · rw [List.mem_singleton.1 hf]
      cases template with
      | none => exact absurd no_gas some_gas
      | some t => exact gas_readable t (known t rfl)

theorem total_eq_ok {fees : List Fee} (h : ∀ f ∈ fees, (Number.read? f.amount).isSome = true) :
    total fees = .ok (Estimates.total fees) := by
  have added (sum : Float) : fees.foldlM (fun sum f => do return sum + (← Number.ofText f.amount)) sum =
      Except.ok (fees.foldl (fun sum f => sum + (Number.read? f.amount).getD 0) sum) := by
    induction fees generalizing sum with
    | nil => rfl
    | cons f rest ih =>
      obtain ⟨x, hx⟩ := Option.isSome_iff_exists.1 (h f List.mem_cons_self)
      simp only [List.foldlM_cons, List.foldl_cons, Number.ofText, hx, Option.getD_some]
      exact ih (fun g hg => h g (List.mem_cons_of_mem _ hg)) _
  exact added 0

theorem liquidationAt_eq_ok {leverage : Float} (h : 0 < leverage) :
    liquidationAt leverage = .ok (Estimates.liquidationAt leverage) := by
  unfold liquidationAt
  rw [quotient_eq_ok 1 (Number.beq_zero_of_pos h)]
  exact Number.plainOf_eq_ok _

theorem outputOf_eq_ok (amount slippage : Float) :
    outputOf amount slippage = .ok (Estimates.outputOf amount slippage) :=
  Number.plainOf_eq_ok _

theorem pos_of_levered? {p : Primary} {leverage : Float} (h : levered? p = some leverage) :
    0 < leverage := by
  obtain ⟨x, positive, rest⟩ := Option.bind_eq_some_iff.1 h
  obtain ⟨_, _, same⟩ := Option.bind_eq_some_iff.1 rest
  cases same
  exact of_decide_eq_true (Option.filter_eq_some_iff.1 positive).2

theorem derive_eq_ok (usualSlippage : Float) (intent : Intent) (p : Primary) (t : Tuning)
    {template : Option Template} (known : IsKnown template) (account : Option Account) :
    derive usualSlippage intent p t (gasOf template) account =
      .ok (Estimates.derive usualSlippage intent p t (gasOf template) account) := by
  have output_eq : ((swapped? p).mapM fun x => outputOf x (t.maxSlippage.getD usualSlippage)) =
      .ok (Estimates.derive usualSlippage intent p t (gasOf template) account).outputAmount := by
    rw [optionMapM_eq_ok fun x _ => outputOf_eq_ok x _]
    unfold swapped? Estimates.derive
    dsimp only
    cases p.amount.bind Number.read? <;> cases stated? p.fromToken <;> cases stated? p.toToken <;> rfl
  have liquidation_eq : (levered? p).mapM liquidationAt =
      .ok (Estimates.derive usualSlippage intent p t (gasOf template) account).liquidationPrice := by
    rw [optionMapM_eq_ok fun leverage stated => liquidationAt_eq_ok (pos_of_levered? stated)]
    unfold levered? Estimates.derive
    dsimp only
    cases p.leverage.filter (0 < ·) <;> cases p.spent? <;> rfl
  have cost_eq : ((p.amount.bind Number.read?).mapM fun x => do
      Number.plainOf (x + (← total (Estimates.feesOf p (gasOf template))))) =
      .ok (Estimates.derive usualSlippage intent p t (gasOf template) account).totalCost := by
    rw [total_eq_ok (fees_readable p known)]
    exact optionMapM_eq_ok fun x _ => Number.plainOf_eq_ok _
  unfold derive
  rw [output_eq, feesOf_eq_ok, liquidation_eq, ok_bind, ok_bind, ok_bind, cost_eq]
  rfl

/-- Estimates can be made. -/
theorem estimated_eq_ok (desk : Desk) (intent : Intent) {template : Option Template}
    (known : IsKnown template) (account : Option Account) (p : Parameters) :
    estimated desk intent template account p =
      .ok (Desk.estimated desk intent template account p) := by
  unfold estimated
  rw [gasIn_eq_ok known]
  simp only [bind, Except.bind]
  rw [derive_eq_ok desk.slippage intent p.primary p.tuning known account]
  rfl

/-- Parameters can be extracted. -/
theorem extract_eq_ok (desk : Desk) (moment : Moment) (intent : Intent) {template : Option Template}
    (known : IsKnown template) (account : Option Account) (entities : List Entity) :
    extract desk moment intent template account entities =
      .ok (Desk.extract desk moment intent template account entities) :=
  estimated_eq_ok desk intent known account _

end Teller.Careful
