import Mathlib.Data.List.Nodup
import Teller.Proofs.Ranking
import Teller.Strategy.Basic

/-!
# Strategies by category

A strategy that is declared again under its identifier is replaced by the later one. The list of a
category is drawn from the declarations, not from what is left of them: it has an entry for each
declaration in the category, and the entry is the last strategy of that identifier. So it agrees
with the catalog exactly if no strategy of the category is declared again.

    get?_eq_find?                the last declaration of an identifier counts
    Agrees                       what the list of a category ought to be
    IsFinal                      no strategy of a category is declared again
    map_id_ofCategory            one entry for each declaration
    mem_ofCategory_of_get?       no strategy is left out
    ofCategory_ordered           the order of the list
    isFinal_iff                  what it takes for the entries to be right
    agrees_iff_isFinal           when the list agrees with the catalog
-/

namespace Teller.Strategy.Catalog

open Listing Number

variable {c : Catalog} {k : Category} {s t : Strategy} {id : String}

/-! ## What ought to be listed -/

/-- The list holds the strategies of the catalog that are in the category, each once and the most
popular first. -/
structure Agrees (c : Catalog) (k : Category) (listed : List Strategy) : Prop where
  mem_iff : ∀ s, s ∈ listed ↔ (∃ id, c.get? id = some s) ∧ s.category = k
  nodup : listed.Nodup
  ordered : listed.Pairwise fun s t => t.popularity ≤ s.popularity

/-- No strategy that is declared in the category is declared again later, in this or another
category. -/
def IsFinal (c : Catalog) (k : Category) : Prop :=
  c.declared.Pairwise fun s t => s.category = k → t.id ≠ s.id

instance : Decidable (c.IsFinal k) := by unfold IsFinal; infer_instance

/-! ## The last declaration -/

/-- The last declaration of an identifier counts. -/
theorem get?_eq_find? (c : Catalog) (id : String) : c.get? id = c.declared.reverse.find? (·.id = id) := by
  unfold get? table
  rw [Table.get?_ofList, ← List.map_reverse, List.find?_map, Option.map_map]
  exact congrFun Option.map_id _

theorem get?_cons (s : Strategy) (rest : List Strategy) (id : String) :
    get? ⟨s :: rest⟩ id = (get? ⟨rest⟩ id).or (if s.id = id then some s else none) := by
  rw [get?_eq_find?, get?_eq_find?, List.reverse_cons, List.find?_append]
  by_cases same : s.id = id <;> simp [same]

theorem id_of_get? (h : c.get? id = some s) : s.id = id := by
  rw [get?_eq_find?] at h
  simpa using List.find?_some h

theorem mem_declared_of_get? (h : c.get? id = some s) : s ∈ c.declared := by
  rw [get?_eq_find?] at h
  exact List.mem_reverse.1 (List.mem_of_find?_eq_some h)

/-- Whatever is declared is answered by something. -/
theorem exists_get?_of_mem (h : s ∈ c.declared) : ∃ t, c.get? s.id = some t := by
  rw [get?_eq_find?]
  cases found : c.declared.reverse.find? (·.id = s.id) with
  | some t => exact ⟨t, rfl⟩
  | none =>
    have absent := List.find?_eq_none.1 found s (List.mem_reverse.2 h)
    simp at absent

/-! ## The entries of a list -/

/-- The strategies that are declared in a category. -/
def declaredIn (c : Catalog) (k : Category) : List Strategy := c.declared.filter (·.category == k)

theorem mem_declaredIn : s ∈ c.declaredIn k ↔ s ∈ c.declared ∧ s.category = k := by
  simp [declaredIn]

theorem mem_ofCategory : s ∈ c.ofCategory k ↔ ∃ d ∈ c.declaredIn k, c.get? d.id = some s := by
  unfold ofCategory
  rw [mem_ranked, List.mem_filterMap]
  rfl

/-- There is one entry for each declaration in the category, under the same identifier. -/
theorem map_id_ofCategory (c : Catalog) (k : Category) :
    ((c.ofCategory k).map (·.id)).Perm ((c.declaredIn k).map (·.id)) := by
  have answered (ds : List Strategy) (declared : ∀ d ∈ ds, d ∈ c.declared) :
      (ds.filterMap fun d => c.get? d.id).map (·.id) = ds.map (·.id) := by
    induction ds with
    | nil => rfl
    | cons d ds ih =>
      obtain ⟨t, found⟩ := exists_get?_of_mem (declared d List.mem_cons_self)
      have rest := ih fun e he => declared e (List.mem_cons_of_mem _ he)
      rw [List.filterMap_cons_some (f := fun d : Strategy => c.get? d.id) found, List.map_cons,
        List.map_cons, id_of_get? found, rest]
  rw [← answered (c.declaredIn k) fun d hd => (mem_declaredIn.1 hd).1]
  exact (ranked_perm _ _).map _

/-- No strategy of the category is left out. -/
theorem mem_ofCategory_of_get? (h : c.get? id = some s) (category : s.category = k) :
    s ∈ c.ofCategory k := by
  refine mem_ofCategory.2 ⟨s, mem_declaredIn.2 ⟨mem_declared_of_get? h, category⟩, ?_⟩
  rw [id_of_get? h]
  exact h

theorem ofCategory_ordered (numbers : ∀ s ∈ c.declared, s.popularity.isNaN = false) (k : Category) :
    (c.ofCategory k).Pairwise fun s t => t.popularity ≤ s.popularity := by
  have found : ∀ s ∈ (c.declaredIn k).filterMap fun d => c.get? d.id, s.popularity.isNaN = false := by
    intro s hs
    obtain ⟨d, -, answer⟩ := List.mem_filterMap.1 hs
    exact numbers s (mem_declared_of_get? answer)
  have ranks : RanksBy (descending Strategy.popularity) (fun s t => t.popularity < s.popularity)
      ((c.declaredIn k).filterMap fun d => c.get? d.id) := ranksBy_descending found
  exact (ranked_pairwise ranks).imp_of_mem fun hs ht earlier =>
    (earlier.of_descending found (mem_ranked.1 hs) (mem_ranked.1 ht)).1

/-! ## Strategies that are declared again -/

/-- What is declared first is not declared again if it is declared once in the category and none of
another category takes its place. -/
theorem first_is_final_iff (category : s.category = k) (rest : List Strategy) :
    (∀ t ∈ rest, t.id ≠ s.id) ↔ (∀ t ∈ rest, t.category = k → s.id ≠ t.id) ∧
      ∀ t, get? ⟨s :: rest⟩ s.id = some t → t.category = k := by
  constructor
  · intro final
    refine ⟨fun t ht _ same => final t ht same.symm, fun t found => ?_⟩
    rw [get?_cons, if_pos rfl] at found
    cases answer : get? ⟨rest⟩ s.id with
    | none =>
      rw [answer] at found
      cases found
      exact category
    | some u => exact absurd (id_of_get? answer) (final u (mem_declared_of_get? answer))
  · rintro ⟨once, kept⟩ t ht same
    obtain ⟨u, found⟩ := exists_get?_of_mem (c := ⟨rest⟩) ht
    have answer : get? ⟨s :: rest⟩ s.id = some u := by
      rw [← same, get?_cons, found]
      rfl
    exact once u (mem_declared_of_get? found) (kept u answer) ((id_of_get? found).trans same).symm

/-- No strategy of a category is declared again if each is declared once in it and none of another
category takes its place. By induction on the declarations: each is replaced by later ones only. -/
theorem isFinal_iff : c.IsFinal k ↔ ((c.declaredIn k).map (·.id)).Nodup ∧
    ∀ s ∈ c.declared, s.category = k → ∀ t, c.get? s.id = some t → t.category = k := by
  obtain ⟨declared⟩ := c
  unfold IsFinal declaredIn List.Nodup
  rw [List.pairwise_map, List.pairwise_filter]
  induction declared with
  | nil => simp
  | cons s rest ih =>
    have later : ∀ d ∈ rest, get? ⟨s :: rest⟩ d.id = get? ⟨rest⟩ d.id := by
      intro d hd
      obtain ⟨t, found⟩ := exists_get?_of_mem (c := ⟨rest⟩) hd
      rw [get?_cons, found]
      rfl
    have kept : (∀ d ∈ rest, d.category = k → ∀ t, get? ⟨s :: rest⟩ d.id = some t → t.category = k) ↔
        ∀ d ∈ rest, d.category = k → ∀ t, get? ⟨rest⟩ d.id = some t → t.category = k :=
      forall₂_congr fun d hd => by rw [later d hd]
    rw [List.pairwise_cons, List.pairwise_cons, List.forall_mem_cons, ih, kept]
    by_cases category : s.category = k
    · have first := first_is_final_iff category rest
      simp only [category, beq_iff_eq, true_implies] at first ⊢
      rw [first]
      tauto
    · simp [category]

/-- The list of a category agrees with the catalog exactly if no strategy of the category is
declared again. -/
theorem agrees_iff_isFinal (k : Category) (numbers : ∀ s ∈ c.declared, s.popularity.isNaN = false) :
    c.Agrees k (c.ofCategory k) ↔ c.IsFinal k := by
  rw [isFinal_iff]
  constructor
  · intro agrees
    have distinct : ((c.ofCategory k).map (·.id)).Nodup := by
      refine agrees.nodup.map_on fun s hs t ht same => ?_
      obtain ⟨⟨_, hs⟩, -⟩ := (agrees.mem_iff s).1 hs
      obtain ⟨⟨_, ht⟩, -⟩ := (agrees.mem_iff t).1 ht
      rw [← id_of_get? hs] at hs
      rw [← id_of_get? ht, ← same, hs] at ht
      exact Option.some.inj ht
    refine ⟨(map_id_ofCategory c k).nodup_iff.1 distinct, fun d hd category t found => ?_⟩
    exact ((agrees.mem_iff t).1 (mem_ofCategory.2 ⟨d, mem_declaredIn.2 ⟨hd, category⟩, found⟩)).2
  · rintro ⟨distinct, kept⟩
    refine ⟨fun s => ⟨fun hs => ?_, fun ⟨⟨_, found⟩, category⟩ => ?_⟩, ?_,
      ofCategory_ordered numbers k⟩
    · obtain ⟨d, hd, found⟩ := mem_ofCategory.1 hs
      obtain ⟨declared, category⟩ := mem_declaredIn.1 hd
      exact ⟨⟨d.id, found⟩, kept d declared category s found⟩
    · exact mem_ofCategory_of_get? found category
    · exact List.Nodup.of_map _ ((map_id_ofCategory c k).nodup_iff.2 distinct)

def plan (id : String) (category : Category) (popularity : Float) : Strategy where
  id := id
  name := "Plan"
  description := "A plan"
  category := category
  risk := .low
  apy := 5
  least := 100
  protocols := ["silo"]
  steps := []
  popularity := popularity

/-- A loan that is declared again as a farm, between two other farms. -/
def refiled : Catalog :=
  ⟨[plan "harvest" .yieldFarming 0.25, plan "loan" .lending 0.5, plan "loan" .yieldFarming 0.5,
    plan "field" .yieldFarming 0.75]⟩

/-- The farms are listed as they should be. -/
theorem refiled_farms :
    (∀ s ∈ refiled.declared, s.popularity.isNaN = false) ∧ refiled.IsFinal .yieldFarming ∧
    (refiled.ofCategory .yieldFarming).map (·.id) = ["field", "loan", "harvest"] ∧
    refiled.Agrees .yieldFarming (refiled.ofCategory .yieldFarming) := by
  have numbers : ∀ s ∈ refiled.declared, s.popularity.isNaN = false := by decide +kernel
  have final : refiled.IsFinal .yieldFarming := by decide
  exact ⟨numbers, final, by decide +kernel, (agrees_iff_isFinal .yieldFarming numbers).2 final⟩

/-- The farm is still listed as a loan. -/
theorem refiled_loans : ¬refiled.Agrees .lending (refiled.ofCategory .lending) := by
  intro agrees
  have listed : (refiled.ofCategory .lending).map (·.category) = [.yieldFarming] := by decide +kernel
  obtain ⟨s, hs, category⟩ := List.mem_map.1 (listed ▸ List.mem_singleton_self Category.yieldFarming)
  rw [((agrees.mem_iff s).1 hs).2] at category
  cases category

end Teller.Strategy.Catalog
