import Teller.Proofs.Desk.Dialogue
import Teller.Proofs.Desk.Progress
import Teller.Proofs.Question.Choices

/-!
# The slippage that is permitted

A slippage is kept twice: as the user stated it, and as the one that is permitted, which estimates
are made with. A request enters the first stated slippage, or else the usual one, in both places. No
choice changes the permitted one afterwards, but one between contradicting slippages changes the
stated one. So in a dialogue the two agree unless the request leads to such a choice, that is if
nothing more urgent is ambiguous than that it contradicts itself.

    Outcome.IsCoherent              the permitted slippage is the one that was stated or chosen
    output_of_gives                 what is expected follows from the permitted slippage
    Dialogue.permitsSlippage        what becomes of slippages in a dialogue
    exists_replies_of_offered       any of contradicting slippages can be chosen
    keepsSlippage_iff               when the permitted slippage is the one that was stated or chosen
    swapWithEither_not_keepsSlippage
                                    a request for which it is not
-/

namespace Teller

/-- What a swap yields with this slippage. -/
def Primary.outputWith (p : Primary) (slippage : Float) : Option String := do
  let x ← p.amount.bind Number.read?
  let _ ← stated? p.fromToken
  let _ ← stated? p.toToken
  return Estimates.outputOf x slippage

/-- The permitted slippage, and the one that the expected output allows for, is the one that the
user has stated or chosen, or else the usual one. -/
structure Outcome.IsCoherent (usual : Float) (o : Outcome) : Prop where
  permitted : o.parameters.tuning.maxSlippage = some (o.parameters.primary.slippage.getD usual)
  output : o.parameters.estimates.outputAmount =
    o.parameters.primary.outputWith (o.parameters.primary.slippage.getD usual)

/-- What becomes of slippages: one stays permitted, and the stated one is the same or was offered.
-/
structure Outcome.PermitsSlippage (usual limit : Float) (offered : List Float) (o : Outcome) :
    Prop where
  permitted : o.parameters.tuning.maxSlippage = some limit
  stated : o.parameters.primary.slippage.getD usual = limit ∨
    ∃ x ∈ offered, o.parameters.primary.slippage = some x
  choices : ∀ q, o.question = some q → ∀ c ∈ q.choices, c.revision.tuning.maxSlippage = none ∧
    (c.revision.primary.slippage = none ∨ ∃ x ∈ offered, c.revision.primary.slippage = some (some x))

namespace Desk

open Ambiguity Review

/-- An outcome that answers the question of another with a choice that was offered, for this
account. -/
def Replies (desk : Desk) (account : Option Account) (o o' : Outcome) : Prop :=
  ∃ (moment : Moment) (number : Nat) (confidence : Float) (question : Question) (choice : Choice),
    o.question = some question ∧ choice ∈ question.choices ∧
      resolve desk moment number
        { intent := o.intent, parameters := o.parameters, choice := choice.id, question, account
          confidence } = .ok o'

/-- The outcomes of dialogues about a request in which the account stays the same. -/
inductive Reached (desk : Desk) (r : Request) : Outcome → Prop
  | start {o : Outcome} (moment : Moment) (number : Nat) (h : parse desk moment number r = .ok o) :
      Reached desk r o
  | next {o o' : Outcome} (d : Reached desk r o) (h : Replies desk r.account o o') : Reached desk r o'

/-- Whatever is answered, the permitted slippage is the one that was stated or chosen. -/
def KeepsSlippage (desk : Desk) (r : Request) : Prop :=
  ∀ o, Reached desk r o → o.IsCoherent desk.slippage

/-- The slippage that a request permits: the first stated one, or else the usual one. -/
def permittedSlippage (desk : Desk) (r : Request) : Float :=
  ((firstText? .slippage (normalize desk r.entities r.account)).bind Number.read?).getD desk.slippage

/-- The slippages that a request leads to a choice between: contradicting ones, if nothing more
urgent is ambiguous. -/
def offeredSlippages (desk : Desk) (r : Request) : List Float :=
  if (Template.of? r.intent).isSome ∧ mostUrgent? (detected desk r) = some .parameterConflict then
    contradicting .slippage (normalize desk r.entities r.account)
  else []

theorem mem_offeredSlippages {desk : Desk} {r : Request} {x : Float} :
    x ∈ offeredSlippages desk r ↔ (∃ t, Template.of? r.intent = some t) ∧
      mostUrgent? (detected desk r) = some .parameterConflict ∧
      x ∈ contradicting .slippage (normalize desk r.entities r.account) := by
  unfold offeredSlippages
  rw [← Option.isSome_iff_exists]
  split
  · next conflict => simp [conflict.1, conflict.2]
  · next no_conflict =>
    constructor
    · exact nofun
    · rintro ⟨known, urgent, _⟩
      exact absurd ⟨known, urgent⟩ no_conflict

/-! ## Expected output -/

theorem output_examine {desk : Desk} {s : Subject}
    (h : s.parameters.estimates.outputAmount =
      s.parameters.primary.outputWith (s.parameters.tuning.maxSlippage.getD desk.slippage)) :
    (examine desk s).subject.parameters.estimates.outputAmount =
      (examine desk s).subject.parameters.primary.outputWith
        ((examine desk s).subject.parameters.tuning.maxSlippage.getD desk.slippage) := by
  unfold examine
  dsimp only
  split
  · exact h
  · rfl

/-- What is expected follows from the permitted slippage. -/
theorem output_of_gives {desk : Desk} {o : Outcome} (h : Gives desk o) :
    o.parameters.estimates.outputAmount =
      o.parameters.primary.outputWith (o.parameters.tuning.maxSlippage.getD desk.slippage) := by
  cases h with
  | parsed moment number r h =>
    rcases parse_eq_ok h with ⟨_, _, parameters_eq⟩ | ⟨t, _, reports⟩
    · rw [parameters_eq]
      rfl
    · rw [reports.parameters_eq]
      exact output_examine rfl
  | resolved moment number r h =>
    obtain ⟨choice, t, _, _, _, reports⟩ := resolve_eq_ok h
    rw [reports.parameters_eq]
    exact output_examine rfl

/-! ## Slippages in a dialogue -/

theorem contradicting_congr {kind : Entity.Kind} {entities entities' : List Entity}
    (h : Entity.ofKind kind entities = Entity.ofKind kind entities') :
    contradicting kind entities = contradicting kind entities' := by
  unfold contradicting distinctNumbers
  rw [h]

theorem slippage_of_openQuestion? {s : Subject} {q : Question} (h : openQuestion? s = some q)
    {c : Choice} (hc : c ∈ q.choices) : c.revision.tuning.maxSlippage = none ∧
      (c.revision.primary.slippage = none ∨ q.ambiguity = some .parameterConflict ∧
        ∃ x ∈ contradicting .slippage s.allEntities,
          c.revision.primary.slippage = some (some x)) := by
  obtain ⟨a, _, about⟩ := about_openQuestion? h
  rw [Question.ambiguity_of_about? about, Option.some.injEq]
  exact Question.slippage_of_about? about hc

theorem contradicting_examine (desk : Desk) (moment : Moment) {r : Request} {t : Template}
    (ht : Template.of? r.intent = some t) :
    contradicting .slippage (examine desk (requested desk moment r t)).subject.allEntities =
      contradicting .slippage (normalize desk r.entities r.account) :=
  contradicting_congr (ofKind_allEntities_examine desk (requested desk moment r t) ht .slippage
    (.inl (by decide)))

theorem permitsSlippage_of_parse {desk : Desk} {moment : Moment} {number : Nat} {r : Request}
    {o : Outcome} (h : parse desk moment number r = .ok o) :
    o.PermitsSlippage desk.slippage (permittedSlippage desk r) (offeredSlippages desk r) := by
  have urgent := ambiguity_of_parse h
  rcases parse_eq_ok h with ⟨_, clarifies, parameters_eq⟩ | ⟨t, ht, reports⟩
  · refine ⟨by rw [parameters_eq]; rfl, .inl (by rw [parameters_eq]; rfl), ?_⟩
    intro q hq c hc
    obtain ⟨q', asked, hq'⟩ := clarifies.question_eq
    rw [hq'] at hq
    cases hq
    rw [Question.unclearIntent_choices asked hc]
    exact ⟨rfl, .inl rfl⟩
  · refine ⟨?_, .inl ?_, ?_⟩
    · rw [reports.parameters_eq, tuning_examine]
      rfl
    · rw [reports.parameters_eq, slippage_examine]
      rfl
    · intro q hq c hc
      have asked := hq
      rw [reports.question_eq, question_examine] at asked
      obtain ⟨kept, slippage⟩ := slippage_of_openQuestion? asked hc
      refine ⟨kept, slippage.imp_right ?_⟩
      rintro ⟨conflict, x, hx, chosen⟩
      rw [contradicting_examine desk moment ht] at hx
      rw [hq, Option.bind_some, conflict] at urgent
      exact ⟨x, mem_offeredSlippages.2 ⟨⟨t, ht⟩, urgent.symm, hx⟩, chosen⟩

/-- An answer permits what was permitted before. -/
theorem Follows.permitsSlippage {desk : Desk} {o o' : Outcome} {limit : Float}
    {offered : List Float} (h : Follows desk o o')
    (before : o.PermitsSlippage desk.slippage limit offered) :
    o'.PermitsSlippage desk.slippage limit offered := by
  obtain ⟨s, q, choice, asked, mem, _, _, primary_eq, tuning_eq, _, reports⟩ := h.reports
  obtain ⟨kept, slippage⟩ := before.choices q asked choice mem
  refine ⟨?_, ?_, ?_⟩
  · rw [reports.parameters_eq, tuning_examine, tuning_eq]
    show choice.revision.tuning.maxSlippage.apply o.parameters.tuning.maxSlippage = _
    rw [kept]
    exact before.permitted
  · rw [reports.parameters_eq, slippage_examine, primary_eq]
    show (choice.revision.primary.slippage.apply o.parameters.primary.slippage).getD _ = _ ∨
      ∃ x ∈ offered, choice.revision.primary.slippage.apply o.parameters.primary.slippage = some x
    rcases slippage with unchanged | ⟨x, hx, chosen⟩
    · rw [unchanged]
      exact before.stated
    · rw [chosen]
      exact .inr ⟨x, hx, rfl⟩
  · intro q' hq' c hc
    have asked' := hq'
    rw [reports.question_eq, question_examine] at asked'
    obtain ⟨kept', slippage'⟩ := slippage_of_openQuestion? asked' hc
    refine ⟨kept', .inl (slippage'.resolve_right ?_)⟩
    rintro ⟨conflict, _⟩
    refine h.not_asksAbout (.inr rfl) ?_
    rw [Outcome.AsksAbout, hq', Option.bind_some, conflict]

/-- What becomes of slippages in a dialogue. -/
theorem Dialogue.permitsSlippage {desk : Desk} {r : Request} {outcomes : List Outcome}
    (d : Dialogue desk r outcomes) : ∀ o ∈ outcomes,
      o.PermitsSlippage desk.slippage (permittedSlippage desk r) (offeredSlippages desk r) :=
  d.invariant (fun _ _ _ h => permitsSlippage_of_parse h) fun _ _ follows before =>
    follows.permitsSlippage before

theorem Reached.exists_dialogue {desk : Desk} {r : Request} {o : Outcome} (h : Reached desk r o) :
    ∃ earlier, Dialogue desk r (o :: earlier) := by
  induction h with
  | start moment number h => exact ⟨[], .start moment number h⟩
  | next d h ih =>
    obtain ⟨moment, number, confidence, question, choice, asked, offered, answered⟩ := h
    obtain ⟨earlier, d⟩ := ih
    exact ⟨_, d.next ⟨moment, number, r.account, confidence, question, choice, asked, offered, answered⟩⟩

theorem Reached.permitsSlippage {desk : Desk} {r : Request} {o : Outcome} (h : Reached desk r o) :
    o.PermitsSlippage desk.slippage (permittedSlippage desk r) (offeredSlippages desk r) := by
  obtain ⟨earlier, d⟩ := h.exists_dialogue
  exact d.permitsSlippage o List.mem_cons_self

theorem Reached.gives {desk : Desk} {r : Request} {o : Outcome} (h : Reached desk r o) :
    Gives desk o := by
  obtain ⟨earlier, d⟩ := h.exists_dialogue
  exact d.gives o List.mem_cons_self

/-! ## Choices between contradicting slippages -/

theorem intent_of_parse {desk : Desk} {moment : Moment} {number : Nat} {r : Request} {o : Outcome}
    (h : parse desk moment number r = .ok o) : o.intent = r.intent := by
  rcases parse_eq_ok h with ⟨unknown, clarifies, _⟩ | ⟨t, _, reports⟩
  · rw [clarifies.intent_eq, unknown]
  · rw [reports.intent_eq, intent_examine]
    rfl

theorem exists_question_of_offered {desk : Desk} {moment : Moment} {number : Nat} {r : Request}
    {o : Outcome} {x : Float} (hx : x ∈ offeredSlippages desk r)
    (h : parse desk moment number r = .ok o) :
    ∃ q, o.question = some q ∧ ∃ c ∈ q.choices, q.find? c.id = some c ∧
      c.id ≠ Question.cancelId ∧ c.intent = none ∧
      c.revision = { primary := { slippage := some (some x) } } := by
  obtain ⟨⟨t, ht⟩, urgent, hx⟩ := mem_offeredSlippages.1 hx
  rw [← ambiguity_of_parse h] at urgent
  obtain ⟨q, hq, conflict⟩ := Option.bind_eq_some_iff.1 urgent
  rcases parse_eq_ok h with ⟨unknown, _, _⟩ | ⟨t', ht', reports⟩
  · rw [unknown, Template.of?_unknown] at ht
    cases ht
  · have asked := hq
    rw [reports.question_eq, question_examine] at asked
    obtain ⟨a, _, about⟩ := about_openQuestion? asked
    rw [Question.ambiguity_of_about? about] at conflict
    cases conflict
    rw [← contradicting_examine desk moment ht'] at hx
    exact ⟨q, hq, Question.exists_slippage_choice ((mapError_eq_ok_iff ..).1 about) hx⟩

theorem slippage_of_resolve {desk : Desk} {moment : Moment} {number : Nat} {r : Reply}
    {o : Outcome} {c : Choice} {x : Float} (h : resolve desk moment number r = .ok o)
    (found : r.question.find? r.choice = some c)
    (revision_eq : c.revision = { primary := { slippage := some (some x) } }) :
    o.parameters.primary.slippage = some x := by
  obtain ⟨c', t, found', _, _, reports⟩ := resolve_eq_ok h
  rw [found] at found'
  cases found'
  rw [reports.parameters_eq, slippage_examine]
  show c.revision.primary.slippage.apply r.parameters.primary.slippage = some x
  rw [revision_eq]
  rfl

/-- Any of contradicting slippages can be chosen. -/
theorem exists_replies_of_offered {desk : Desk} {r : Request} {x : Float}
    (hx : x ∈ offeredSlippages desk r) :
    ∃ o o', parse desk ⟨0, 0⟩ 1 r = .ok o ∧ Replies desk r.account o o' ∧
      o'.parameters.primary.slippage = some x := by
  obtain ⟨⟨t, ht⟩, _, _⟩ := mem_offeredSlippages.1 hx
  obtain ⟨o, ho⟩ := exists_parse_eq_ok desk ⟨0, 0⟩ 1 ht
  obtain ⟨q, hq, c, offered, found, proceeds, intent_eq, revision_eq⟩ :=
    exists_question_of_offered hx ho
  let reply : Reply := { intent := o.intent, parameters := o.parameters, choice := c.id
                         question := q, account := r.account }
  have same_intent : chosenIntent reply c = r.intent := by
    rw [chosenIntent, intent_eq]
    exact intent_of_parse ho
  obtain ⟨o', ho'⟩ := exists_resolve_eq_ok (r := reply) desk ⟨0, 0⟩ 1 found proceeds
    (by rw [same_intent]; exact ht)
  exact ⟨o, o', ho, ⟨⟨0, 0⟩, 1, 1, q, c, hq, offered, ho'⟩, slippage_of_resolve ho' found revision_eq⟩

/-! ## Coherence -/

theorem isCoherent_iff {desk : Desk} {r : Request} {o : Outcome} (h : Reached desk r o) :
    o.IsCoherent desk.slippage ↔
      o.parameters.primary.slippage.getD desk.slippage = permittedSlippage desk r := by
  have permitted := h.permitsSlippage.permitted
  have output := output_of_gives h.gives
  rw [permitted, Option.getD_some] at output
  constructor
  · intro coherent
    rw [coherent.permitted] at permitted
    exact Option.some.inj permitted
  · intro same
    refine ⟨?_, ?_⟩
    · rw [permitted, same]
    · rw [output, same]

theorem eq_permitted_of_keepsSlippage {desk : Desk} {r : Request} (keeps : KeepsSlippage desk r) :
    ∀ x ∈ offeredSlippages desk r, x = permittedSlippage desk r := by
  intro x hx
  obtain ⟨o, o', ho, replies, chosen⟩ := exists_replies_of_offered hx
  have reached : Reached desk r o' := (Reached.start ⟨0, 0⟩ 1 ho).next replies
  have same := (isCoherent_iff reached).1 (keeps o' reached)
  rw [chosen] at same
  exact same

/-- When the permitted slippage is the one that was stated or chosen: if a request leads to no
choice between contradicting slippages, or to none but what it permits. -/
theorem keepsSlippage_iff (desk : Desk) (r : Request) :
    KeepsSlippage desk r ↔ ∀ x ∈ offeredSlippages desk r, x = permittedSlippage desk r := by
  constructor
  · exact eq_permitted_of_keepsSlippage
  · intro h o reached
    rw [isCoherent_iff reached]
    rcases reached.permitsSlippage.stated with same | ⟨x, hx, chosen⟩
    · exact same
    · rw [chosen]
      exact h x hx

/-- To swap a hundred USDC for ETH at DragonSwap, with these slippages. -/
def swapWith (slippages : List String) : Request where
  intent := .swap
  entities := [{ kind := .amount, value := "100", normalized := "100" },
    { kind := .token, value := "USDC", normalized := "USDC" },
    { kind := .token, value := "ETH", normalized := "ETH" },
    { kind := .protocol, value := "DragonSwap", normalized := "dragonswap" }] ++
    slippages.map fun text => { kind := .slippage, value := text, normalized := text }

theorem swapWithTwo_keepsSlippage : KeepsSlippage {} (swapWith ["2%"]) := by
  refine (keepsSlippage_iff {} (swapWith ["2%"])).2 ?_
  decide +kernel

/-- Whoever chooses two percent after stating half a percent and two swaps with half a percent. -/
theorem swapWithEither_not_keepsSlippage : ¬KeepsSlippage {} (swapWith ["0.5%", "2%"]) := by
  intro keeps
  have offered : offeredSlippages {} (swapWith ["0.5%", "2%"]) = [0.5, 2] := by decide +kernel
  have permitted : permittedSlippage {} (swapWith ["0.5%", "2%"]) = 0.5 := by decide +kernel
  have same := eq_permitted_of_keepsSlippage keeps 2 (by rw [offered]; simp)
  rw [permitted] at same
  exact absurd same (by decide)

end Desk

end Teller
