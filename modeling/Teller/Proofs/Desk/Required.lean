import Teller.Proofs.Desk.Answers

/-!
# Required parameters of commands

The review passes over a required parameter that the account can supply, in the expectation that it
is entered. It is: what the account supplies is never empty, and it is what the second review looks
at. So a command states everything that its template requires.

    greatestBalance?_ne_empty       the token that an account supplies is not empty
    isStated_examine                nothing required is missing after examination
    Reports.isStated                a command states what its template requires
-/

namespace Teller

/-! ## What an account supplies -/

theorem Account.mem_of_foldl_greater (first : String × Float) (rest : List (String × Float)) :
    rest.foldl (fun best next => if best.2 < next.2 then next else best) first ∈ first :: rest := by
  induction rest generalizing first with
  | nil => exact List.mem_cons_self
  | cons next rest ih =>
    rcases List.mem_cons.1 (ih (if first.2 < next.2 then next else first)) with same | mem
    · rw [List.foldl_cons, same]
      split
      · exact List.mem_cons_of_mem _ List.mem_cons_self
      · exact List.mem_cons_self
    · exact List.mem_cons_of_mem _ (List.mem_cons_of_mem _ mem)

theorem Account.ne_empty_of_balanceOf? {a : Account} {token : String} {x : Float}
    (h : a.balanceOf? (some token) = some x) : token ≠ "" := by
  rintro rfl
  cases h

/-- The token that an account supplies is not empty. -/
theorem Account.greatestBalance?_ne_empty {a : Account} {token : String}
    (h : a.greatestBalance? = some token) : token ≠ "" := by
  unfold greatestBalance? at h
  dsimp only at h
  split at h
  · cases h
  · next first rest known =>
    cases h
    have mem := mem_of_foldl_greater first rest
    rw [← known] at mem
    obtain ⟨⟨name, text⟩, _, found⟩ := List.mem_filterMap.1 mem
    obtain ⟨x, balance, same⟩ := Option.map_eq_some_iff.1 found
    rw [← same]
    exact ne_empty_of_balanceOf? balance

namespace Review

theorem isStated_eq {p : Primary} {field : String} (text : Option String)
    (h : p.get? field = text.map .text) : isStated p field = (stated? text).isSome := by
  unfold isStated
  rw [h]
  cases text with
  | none => rfl
  | some t =>
    by_cases empty : t = ""
    · rw [empty]
      rfl
    · simp [stated?, empty]

theorem isStated_or_infer? {s : Subject} (clear : requiredErrors s = []) {field : String}
    (required : field ∈ s.template.required) :
    isStated s.parameters.primary field = true ∨ ∃ value, infer? s.account field = some value := by
  cases stated : isStated s.parameters.primary field with
  | true => exact .inl rfl
  | false =>
    right
    cases supplied : infer? s.account field with
    | some value => exact ⟨value, rfl⟩
    | none =>
      have unstated : (field, none) ∈ unstated s := by
        rw [← supplied]
        exact List.mem_map_of_mem (List.mem_filter.2 ⟨required, by rw [stated]; rfl⟩)
      have error : missing s.template.intent field ∈ requiredErrors s :=
        List.mem_filterMap.2 ⟨_, unstated, rfl⟩
      rw [clear] at error
      cases error

theorem get?_inferences_of_isStated {s : Subject} {field : String}
    (stated : isStated s.parameters.primary field = true) : (inferences s).get? field = none := by
  cases h : (inferences s).get? field with
  | none => rfl
  | some value =>
    have unstated := (mem_inferences (Table.mem_of_get?_eq_some h)).2.1
    rw [stated] at unstated
    cases unstated

theorem get?_inferences_of_infer? {s : Subject} {field value : String}
    (required : field ∈ s.template.required)
    (unstated : isStated s.parameters.primary field = false)
    (supplied : infer? s.account field = some value) :
    (inferences s).get? field = some value := by
  have listed : (field, some value) ∈ Review.unstated s := by
    rw [← supplied]
    exact List.mem_map_of_mem (List.mem_filter.2 ⟨required, by rw [unstated]; rfl⟩)
  have entered : ((inferences s).get? field).isSome = true :=
    Table.isSome_get?_ofList (List.mem_filterMap.2 ⟨(field, some value), listed, rfl⟩)
  obtain ⟨found, hf⟩ := Option.isSome_iff_exists.1 entered
  have same := (mem_inferences (Table.mem_of_get?_eq_some hf)).2.2
  rw [supplied] at same
  cases same
  exact hf

end Review

/-! ## What is required -/

namespace Desk

open Review

theorem token_examine (desk : Desk) (s : Subject) :
    (examine desk s).subject.parameters.primary.token =
      ((inferences s).get? "token" |>.map some).getD s.parameters.primary.token := by
  rw [primary_examine]
  rfl

theorem isStated_token_examine {desk : Desk} {s : Subject}
    (required : "token" ∈ s.template.required) {value : String}
    (supplied : infer? s.account "token" = some value) :
    isStated (examine desk s).subject.parameters.primary "token" = true := by
  rw [isStated_eq (examine desk s).subject.parameters.primary.token rfl, token_examine]
  cases stated : isStated s.parameters.primary "token" with
  | true =>
    rw [get?_inferences_of_isStated stated]
    rw [isStated_eq s.parameters.primary.token rfl] at stated
    exact stated
  | false =>
    rw [get?_inferences_of_infer? required stated supplied]
    obtain ⟨a, _, found⟩ := Option.bind_eq_some_iff.1 supplied
    simp [stated?, Account.greatestBalance?_ne_empty found]

/-- Nothing required is missing after examination. -/
theorem isStated_examine {desk : Desk} {s : Subject} (ht : Template.of? s.intent = some s.template)
    (clear : requiredErrors (examine desk s).subject = []) {field : String}
    (required : field ∈ s.template.required) :
    isStated (examine desk s).subject.parameters.primary field = true := by
  rcases isStated_or_infer? clear (by rw [template_examine]; exact required) with
    stated | ⟨value, supplied⟩
  · exact stated
  · rw [account_examine] at supplied
    rcases infer?_eq_some supplied with rfl | rfl
    · exact absurd required (Template.protocol_not_required (Template.of?_eq_some ht).1)
    · exact isStated_token_examine required supplied

end Desk

/-- A command states what its template requires. -/
theorem Outcome.Reports.isStated {desk : Desk} {s : Review.Subject} {o : Outcome} {c : Command}
    (h : o.Reports (Desk.examine desk s)) (ht : Template.of? s.intent = some s.template)
    (hc : o.command = some c) {field : String} (required : field ∈ s.template.required) :
    Review.isStated c.parameters.primary field = true := by
  rw [h.parameters_of_command hc]
  exact Desk.isStated_examine ht (h.stages_eq_nil hc).1 required

end Teller
