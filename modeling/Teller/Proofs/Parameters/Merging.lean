import Mathlib.Data.List.Nodup
import Teller.Parameters.Merging
import Teller.Proofs.Parameters.Fields

/-!
# The laws of merging

Nothing is lost when parameters are merged as documents: merging always succeeds, and is revision by
the override. What comes out has all of its fields given.

    get?_update, get?_ofGiven    what a merged record answers
    fee_document, hop_document   fees and exchanges are read as they were given
    given_update                 a field is read as it is given, or else as it was
    primary_update, tuning_update, estimates_update
                                 so is each section
    merged_eq                    merging is revision
    merging                      the laws of merging
-/

namespace Teller

/-! ## Records of given fields -/

namespace Document

variable {fields : List (String × Document)} {given : List (String × Option Document)}

/-- In a record without a name twice it does not matter from which end a field is looked for. -/
theorem get?_record (distinct : (fields.map (·.1)).Nodup) (name : String) :
    (record fields).get? name = Table.get? fields name := by
  have reversed : (fields.reverse.map (·.1)).Nodup := by
    rw [List.map_reverse]
    exact List.nodup_reverse.2 distinct
  apply Option.ext
  intro value
  show (fields.reverse.find? (·.1 = name)).map (·.2) = _ ↔ _
  rw [← Table.get?_eq_find?, Table.get?_eq_some_iff reversed, Table.get?_eq_some_iff distinct,
    List.mem_reverse]

/-- A merged record answers with the fields put over it first. -/
theorem get?_update (distinct : (fields.map (·.1)).Nodup) (others : List (String × Document))
    (name : String) :
    ((record fields).update (record others)).get? name =
      ((record others).get? name).or ((record fields).get? name) := by
  rw [update, get?_record (Table.nodup_foldl_put others distinct), Table.get?_foldl_put,
    get?_record distinct]
  rfl

theorem nodup_filterMap (distinct : (given.map (·.1)).Nodup) :
    ((given.filterMap entry?).map (·.1)).Nodup := by
  have sublist : ((given.filterMap entry?).map (·.1)).Sublist (given.map (·.1)) := by
    clear distinct
    induction given with
    | nil => exact .slnil
    | cons e given ih =>
      obtain ⟨name, value⟩ := e
      cases value with
      | none => exact ih.cons name
      | some d => exact ih.cons_cons name
  exact distinct.sublist sublist

/-- The record of the fields that are given answers with these. -/
theorem get?_ofGiven (distinct : (given.map (·.1)).Nodup) (name : String) :
    (ofGiven given).get? name = (Table.get? given name).join := by
  apply Option.ext
  intro d
  rw [ofGiven, get?_record (nodup_filterMap distinct), Table.get?_eq_some_iff (nodup_filterMap distinct),
    Option.join_eq_some_iff, Table.get?_eq_some_iff distinct, List.mem_filterMap]
  constructor
  · rintro ⟨⟨_, value⟩, mem, entered⟩
    obtain ⟨_, rfl, ⟨⟩⟩ := Option.map_eq_some_iff.1 entered
    exact mem
  · exact fun mem => ⟨_, mem, rfl⟩

end Document

/-! ## Reading -/

namespace Intake

open Document

variable {α β : Type} {read : Document → Checked α} {name : String}

theorem nullable_text? (o : Option String) : nullable text (text? o) = Checked.ok o := by
  cases o <;> rfl

theorem nullable_real? (o : Option Float) : nullable real (real? o) = Checked.ok o := by
  cases o <;> rfl

theorem nullable_whole? (o : Option Int) : nullable whole (whole? o) = Checked.ok o := by
  cases o <;> rfl

theorem nullable_flag? (o : Option Bool) : nullable flag (flag? o) = Checked.ok o := by
  cases o <;> rfl

/-- A list is read item by item. -/
theorem list_listOf {form : β → Document} {complete : β → α}
    (reads : ∀ b, read (form b) = Checked.ok (complete b))
    (items : List β) : list read (listOf form items) = Checked.ok (items.map complete) := by
  -- Places only matter to complaints, so the induction is for every way to name them.
  have all_ok (place : Nat → Document → Checked α)
      (places : ∀ n b, place n (form b) = Checked.ok (complete b)) :
      Checked.all ((items.map form).mapIdx place) = Checked.ok (items.map complete) := by
    induction items generalizing place with
    | nil => rfl
    | cons b items ih =>
      rw [List.map_cons, List.mapIdx_cons, Checked.all, places, ih _ fun n => places (n + 1)]
      rfl
  refine all_ok _ fun n b => ?_
  rw [reads]
  rfl

theorem nullable_listOf {form : β → Document} {complete : β → α}
    (reads : ∀ b, read (form b) = Checked.ok (complete b)) (o : Option (List β)) :
    nullable (list read) (orNull (listOf form) o) = Checked.ok (o.map (List.map complete)) := by
  cases o with
  | none => rfl
  | some items =>
    show some <$> list read (listOf form items) = _
    rw [list_listOf reads]
    rfl

/-- Items that are written in full are read as they were. -/
theorem nullable_listOf_full {form : α → Document} (reads : ∀ a, read (form a) = Checked.ok a)
    (o : Option (List α)) :
    nullable (list read) (orNull (listOf form) o) = Checked.ok o := by
  have completes (a : α) : read (form a) = Checked.ok (id a) := reads a
  rw [nullable_listOf completes, List.map_id_fun, Option.map_id_fun]
  rfl

theorem nullable_texts (o : Option (List String)) :
    nullable (list text) (orNull texts o) = Checked.ok o :=
  nullable_listOf_full (fun s => show text (.text s) = Checked.ok s from rfl) o

/-- A fee is read as it was given, with no percentage for one that was left out. -/
theorem fee_document (d : Fee.Draft) : fee d.document = Checked.ok d.fee := by
  obtain ⟨kind, amount, token, percentage⟩ := d
  cases kind <;> cases percentage <;> rfl

/-- An exchange is read as it was given, with nothing for what was left out. -/
theorem hop_document (d : Hop.Draft) : hop d.document = Checked.ok d.hop := by
  obtain ⟨protocol, tokenIn, tokenOut, pool, amountIn, amountOut⟩ := d
  rcases pool with _ | _ | _ <;> rcases amountIn with _ | _ | _ <;>
    rcases amountOut with _ | _ | _ <;> rfl

/-- What was written in full is read as it was. -/
theorem fee_document_of_full (f : Fee) : fee f.document = Checked.ok f :=
  fee_document ⟨f.kind, f.amount, f.token, some f.percentage⟩

theorem hop_document_of_full (h : Hop) : hop h.document = Checked.ok h :=
  hop_document ⟨h.protocol, h.tokenIn, h.tokenOut, some h.pool, some h.amountIn, some h.amountOut⟩

/-- A field of a merged record is read as it is given, or else as it was. -/
theorem given_update_of_complete {form : Option β → Document} {form' : Option α → Document}
    {complete : β → α}
    {fields : List (String × Document)} {entries : Table (Option Document)} {new : Revised β}
    {old : Option α} (reads : ∀ o, nullable read (form o) = Checked.ok (o.map complete))
    (reads' : ∀ o, nullable read (form' o) = Checked.ok o)
    (entered : Table.get? entries name = some (new.map form))
    (held : (Document.record fields).get? name = some (form' old)) (distinct : (fields.map (·.1)).Nodup)
    (distinct' : (entries.map (·.1)).Nodup) :
    given name read ((Document.record fields).update (ofGiven entries)) =
      Checked.ok (some (Revised.apply (new.map (Option.map complete)) old)) := by
  unfold given
  rw [ofGiven, get?_update distinct, ← ofGiven, get?_ofGiven distinct', entered, held]
  cases new with
  | none =>
    show some <$> (nullable read (form' old)).within name = _
    rw [reads']
    rfl
  | some value =>
    show some <$> (nullable read (form value)).within name = _
    rw [reads]
    rfl

theorem given_update {form : Option α → Document} {fields : List (String × Document)}
    {entries : Table (Option Document)} {new : Revised α} {old : Option α}
    (reads : ∀ o, nullable read (form o) = Checked.ok o)
    (entered : Table.get? entries name = some (new.map form))
    (held : (Document.record fields).get? name = some (form old)) (distinct : (fields.map (·.1)).Nodup)
    (distinct' : (entries.map (·.1)).Nodup) :
    given name read ((Document.record fields).update (ofGiven entries)) =
      Checked.ok (some (new.apply old)) := by
  have completes (o : Option α) : nullable read (form o) = Checked.ok (o.map id) := by
    rw [Option.map_id_fun]
    exact reads o
  have given_new := given_update_of_complete completes reads entered held distinct distinct'
  rwa [Option.map_id_fun, Option.map_id_fun] at given_new

/-! ## Merged sections -/

theorem primary_update (p : Primary) (r : Primary.Revision) :
    primary (p.document.update (ofGiven r.entries)) = Checked.ok (p.revise r).restated := by
  have distinct :
      ["amount", "token", "from_token", "to_token", "protocol", "leverage", "slippage",
        "deadline"].Nodup := by
    decide
  have field {α : Type} {read : Document → Checked α} {form : Option α → Document}
      (reads : ∀ o, nullable read (form o) = Checked.ok o) (name : String) (new : Revised α)
      (old : Option α) (entered : Table.get? r.entries name = some (new.map form))
      (held : p.document.get? name = some (form old)) :
      given name read (p.document.update (ofGiven r.entries)) = Checked.ok (some (new.apply old)) :=
    given_update reads entered held distinct distinct
  -- From here on the merged section is some record, known by how its fields are read.
  obtain ⟨fields, merged⟩ : ∃ fields, p.document.update (ofGiven r.entries) = .record fields := ⟨_, rfl⟩
  rw [merged] at field ⊢
  unfold primary record
  dsimp only
  rw [field nullable_text? "amount" r.amount p.amount rfl rfl,
    field nullable_text? "token" r.token p.token rfl rfl,
    field nullable_text? "from_token" r.fromToken p.fromToken rfl rfl,
    field nullable_text? "to_token" r.toToken p.toToken rfl rfl,
    field nullable_text? "protocol" r.protocol p.protocol rfl rfl,
    field nullable_real? "leverage" r.leverage p.leverage rfl rfl,
    field nullable_real? "slippage" r.slippage p.slippage rfl rfl,
    field nullable_whole? "deadline" r.deadline p.deadline rfl rfl]
  rfl

theorem tuning_update (t : Tuning) (r : Tuning.Revision) :
    tuning (t.document.update (ofGiven r.entries)) = Checked.ok (t.revise r).restated := by
  have distinct : ["max_slippage", "min_output", "gas_limit", "gas_price", "recipient", "referrer",
      "route", "risk_acknowledged"].Nodup := by
    decide
  have field {α : Type} {read : Document → Checked α} {form : Option α → Document}
      (reads : ∀ o, nullable read (form o) = Checked.ok o) (name : String) (new : Revised α)
      (old : Option α) (entered : Table.get? r.entries name = some (new.map form))
      (held : t.document.get? name = some (form old)) :
      given name read (t.document.update (ofGiven r.entries)) = Checked.ok (some (new.apply old)) :=
    given_update reads entered held distinct distinct
  obtain ⟨fields, merged⟩ : ∃ fields, t.document.update (ofGiven r.entries) = .record fields := ⟨_, rfl⟩
  rw [merged] at field ⊢
  unfold tuning record
  dsimp only
  rw [field nullable_real? "max_slippage" r.maxSlippage t.maxSlippage rfl rfl,
    field nullable_text? "min_output" r.minOutput t.minOutput rfl rfl,
    field nullable_whole? "gas_limit" r.gasLimit t.gasLimit rfl rfl,
    field nullable_text? "gas_price" r.gasPrice t.gasPrice rfl rfl,
    field nullable_text? "recipient" r.recipient t.recipient rfl rfl,
    field nullable_text? "referrer" r.referrer t.referrer rfl rfl,
    field nullable_texts "route" r.route t.route rfl rfl,
    field nullable_flag? "risk_acknowledged" r.riskAcknowledged t.riskAcknowledged rfl rfl]
  rfl

theorem estimates_update (e : Estimates) (d : Estimates.Draft) :
    estimates (e.document.update (ofGiven d.entries)) = Checked.ok (e.revise d.revision).restated := by
  have distinct : ["output_amount", "price_impact", "fees", "route", "health_factor_after",
      "liquidation_price", "total_cost"].Nodup := by
    decide
  have field {α : Type} {read : Document → Checked α} {form : Option α → Document}
      (reads : ∀ o, nullable read (form o) = Checked.ok o) (name : String) (new : Revised α)
      (old : Option α) (entered : Table.get? d.entries name = some (new.map form))
      (held : e.document.get? name = some (form old)) :
      given name read (e.document.update (ofGiven d.entries)) = Checked.ok (some (new.apply old)) :=
    given_update reads entered held distinct distinct
  -- Fees and exchanges are given as drafts, but were held in full.
  have fees : given "fees" (list fee) (e.document.update (ofGiven d.entries)) =
      Checked.ok (some (d.revision.fees.apply e.fees)) :=
    given_update_of_complete (nullable_listOf fee_document)
      (nullable_listOf_full fee_document_of_full) rfl rfl
      distinct distinct
  have route : given "route" (list hop) (e.document.update (ofGiven d.entries)) =
      Checked.ok (some (d.revision.route.apply e.route)) :=
    given_update_of_complete (nullable_listOf hop_document)
      (nullable_listOf_full hop_document_of_full) rfl rfl
      distinct distinct
  obtain ⟨fields, merged⟩ : ∃ fields, e.document.update (ofGiven d.entries) = .record fields := ⟨_, rfl⟩
  rw [merged] at field fees route ⊢
  unfold estimates record
  dsimp only
  rw [field nullable_text? "output_amount" d.outputAmount e.outputAmount rfl rfl,
    field nullable_real? "price_impact" d.priceImpact e.priceImpact rfl rfl, fees, route,
    field nullable_real? "health_factor_after" d.healthFactorAfter e.healthFactorAfter rfl rfl,
    field nullable_text? "liquidation_price" d.liquidationPrice e.liquidationPrice rfl rfl,
    field nullable_text? "total_cost" d.totalCost e.totalCost rfl rfl]
  rfl

end Intake

namespace Parameters

/-- Merging is revision by what is given, and its outcome gives everything. -/
theorem merged_eq (p : Parameters) (d : Draft) :
    p.merged d = Intake.Checked.ok (p.revise d.revision).restated := by
  show Revision.mk <$> (Intake.primary _).within "primary" <*> (Intake.tuning _).within "optional"
    <*> (Intake.estimates _).within "derived" = _
  rw [Intake.primary_update, Intake.tuning_update, Intake.estimates_update]
  rfl

/-- The laws of merging. It always succeeds, as a revision, and sets every field of its outcome. A
field that an override sets takes its value, be it none, and any other keeps its own; fees and
exchanges are taken over with all they hold. So an override that sets nothing changes nothing, one
that is repeated changes nothing more, overrides of different fields commute, and of two that set a
field the later one counts. -/
theorem merging (p : Parameters) (a b : Draft) :
    (∃ r, p.merged a = Intake.Checked.ok r ∧ r.parameters = p.revise a.revision ∧
      ∀ (α : Type) (f : Field α), r.Sets f) ∧
    (∀ (α : Type) (f : Field α),
      (a.revision.Sets f → f.value (p.revise a.revision) = f.value a.revision.parameters) ∧
      (¬a.revision.Sets f → f.value (p.revise a.revision) = f.value p)) ∧
    (p.revise a.revision).estimates.fees =
      Revised.apply (a.estimates.fees.map (Option.map (List.map Fee.Draft.fee))) p.estimates.fees ∧
    (p.revise a.revision).estimates.route =
      Revised.apply (a.estimates.route.map (Option.map (List.map Hop.Draft.hop))) p.estimates.route ∧
    ((∀ (α : Type) (f : Field α), ¬a.revision.Sets f) → p.revise a.revision = p) ∧
    (p.revise a.revision).revise a.revision = p.revise a.revision ∧
    ((∀ (α : Type) (f : Field α), ¬(a.revision.Sets f ∧ b.revision.Sets f)) →
      (p.revise a.revision).revise b.revision = (p.revise b.revision).revise a.revision) ∧
    (∀ (α : Type) (f : Field α), b.revision.Sets f →
      f.value ((p.revise a.revision).revise b.revision) = f.value b.revision.parameters) :=
  ⟨⟨_, merged_eq p a, parameters_restated _, fun _ f => sets_restated f _⟩,
    fun _ _ => ⟨value_revise_of_sets, value_revise_of_not_sets⟩, rfl, rfl,
    revise_of_sets_nothing, revise_revise_self p a.revision, revise_comm, fun _ _ => value_revise_of_sets⟩

/-- A hundred USDC at a slippage of one percent, for a fee. -/
def sample : Parameters where
  primary := { amount := some "100", token := some "USDC", slippage := some 1 }
  estimates := { fees := some [{ kind := .gas, amount := "0.2", token := "SEI", percentage := 0.5 }] }

/-- An override without a slippage, with an exchange of which little is given. -/
def Draft.rerouting : Draft where
  primary := { slippage := some none }
  estimates := { route := some (some [{ protocol := "symphony", tokenIn := "USDC", tokenOut := "SEI" }]) }

def Draft.halving : Draft where
  primary := { amount := some (some "50") }

/-- The overrides can be put over the parameters in any order. -/
theorem rerouting_halving_comm : (sample.revise Draft.rerouting.revision).revise Draft.halving.revision =
    (sample.revise Draft.halving.revision).revise Draft.rerouting.revision := by
  obtain ⟨-, -, -, -, -, -, comm, -⟩ := merging sample .rerouting .halving
  exact comm fun α f => by cases f <;> decide

end Parameters

end Teller
