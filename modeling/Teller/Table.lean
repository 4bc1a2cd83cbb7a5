/-!
# Tables

A table gives values to names. A name that is entered again keeps its place and takes the new value.

    get?_put_self, get?_put_of_ne       what a table answers after an entry
    get?_ofList                         a table answers with what was entered last
    isSome_get?_ofList                  a table answers about every name that was entered
    mem_ofList                          a table holds nothing that was not entered
    nodup_ofList                        and no name twice
-/

namespace Teller

/-- Names with their values, in the order in which the names were first entered. -/
abbrev Table (α : Type) := List (String × α)

namespace Table

variable {α : Type}

def get? : Table α → String → Option α
  | [], _ => none
  | (other, value) :: rest, name => if other = name then some value else get? rest name

def put (name : String) (value : α) : Table α → Table α
  | [] => [(name, value)]
  | (other, old) :: rest =>
    if other = name then (other, value) :: rest else (other, old) :: put name value rest

/-- Enters a list of values, one after the other. -/
def ofList (entries : List (String × α)) : Table α :=
  entries.foldl (fun t (name, value) => put name value t) []

def values (t : Table α) : List α := t.map (·.2)

/-! ## Lemmas -/

theorem get?_put_self (name : String) (value : α) (t : Table α) :
    get? (put name value t) name = some value := by
  induction t with
  | nil => simp [put, get?]
  | cons e t ih => by_cases h : e.1 = name <;> simp [put, get?, h, ih]

theorem get?_put_of_ne {name asked : String} (value : α) (t : Table α) (h : name ≠ asked) :
    get? (put name value t) asked = get? t asked := by
  induction t with
  | nil => simp [put, get?, h]
  | cons e t ih =>
    by_cases he : e.1 = name
    · simp [put, get?, he, h]
    · by_cases ha : e.1 = asked
      · subst ha
        simp [put, get?, he]
      · simp [put, get?, he, ha, ih]

theorem get?_eq_find? (t : Table α) (name : String) : get? t name = (t.find? (·.1 = name)).map (·.2) := by
  induction t with
  | nil => rfl
  | cons e t ih => by_cases same : e.1 = name <;> simp [get?, same, ih]

theorem mem_of_get?_eq_some {name : String} {value : α} {t : Table α}
    (h : get? t name = some value) : (name, value) ∈ t := by
  induction t with
  | nil => cases h
  | cons e t ih =>
    unfold get? at h
    split at h
    · next he =>
      cases h
      rw [← he]
      exact List.mem_cons_self
    · exact List.mem_cons_of_mem _ (ih h)

theorem isSome_get?_foldl_put {entries : List (String × α)} {t : Table α} {name : String}
    (h : (get? t name).isSome ∨ name ∈ entries.map (·.1)) :
    (get? (entries.foldl (fun t (name, value) => put name value t) t) name).isSome := by
  induction entries generalizing t with
  | nil => exact h.resolve_right List.not_mem_nil
  | cons first entries ih =>
    apply ih
    by_cases same : first.1 = name
    · left
      rw [← same, get?_put_self]
      rfl
    · rw [get?_put_of_ne _ _ same]
      exact h.imp_right fun mem => (List.mem_cons.1 mem).resolve_left (Ne.symm same)

theorem isSome_get?_ofList {entries : List (String × α)} {name : String} {value : α}
    (h : (name, value) ∈ entries) : (get? (ofList entries) name).isSome :=
  isSome_get?_foldl_put (.inr (List.mem_map_of_mem h))

theorem mem_put {name : String} {value : α} {t : Table α} {e : String × α}
    (h : e ∈ put name value t) : e = (name, value) ∨ e ∈ t := by
  induction t with
  | nil => exact .inl (List.mem_singleton.1 h)
  | cons first t ih =>
    unfold put at h
    split at h
    · next he =>
      rcases List.mem_cons.1 h with h | h
      · exact .inl (by rw [h, he])
      · exact .inr (List.mem_cons_of_mem _ h)
    · rcases List.mem_cons.1 h with h | h
      · exact .inr (by rw [h]; exact List.mem_cons_self)
      · exact (ih h).imp_right (List.mem_cons_of_mem _)

theorem mem_foldl_put {entries : List (String × α)} {t : Table α} {e : String × α}
    (h : e ∈ entries.foldl (fun t (name, value) => put name value t) t) : e ∈ entries ∨ e ∈ t := by
  induction entries generalizing t with
  | nil => exact .inr h
  | cons first entries ih =>
    rcases ih h with h | h
    · exact .inl (List.mem_cons_of_mem _ h)
    · rcases mem_put h with h | h
      · exact .inl (by rw [h]; exact List.mem_cons_self)
      · exact .inr h

theorem mem_ofList {entries : List (String × α)} {e : String × α} (h : e ∈ ofList entries) :
    e ∈ entries :=
  (mem_foldl_put h).resolve_right (List.not_mem_nil)

theorem nodup_put {name : String} {value : α} {t : Table α} (h : (t.map (·.1)).Nodup) :
    ((put name value t).map (·.1)).Nodup := by
  induction t with
  | nil => simp [put]
  | cons e t ih =>
    obtain ⟨new, rest⟩ := List.nodup_cons.1 h
    unfold put
    by_cases he : e.1 = name
    · rw [if_pos he]
      exact h
    · rw [if_neg he]
      refine List.nodup_cons.2 ⟨fun old => ?_, ih rest⟩
      obtain ⟨d, hd, same⟩ := List.mem_map.1 old
      rcases mem_put hd with rfl | hd
      · exact he same.symm
      · exact new (List.mem_map.2 ⟨d, hd, same⟩)

theorem nodup_foldl_put (entries : List (String × α)) {t : Table α} (h : (t.map (·.1)).Nodup) :
    ((entries.foldl (fun t (name, value) => put name value t) t).map (·.1)).Nodup := by
  induction entries generalizing t with
  | nil => exact h
  | cons e entries ih => exact ih (nodup_put h)

theorem nodup_ofList (entries : List (String × α)) : ((ofList entries).map (·.1)).Nodup :=
  nodup_foldl_put entries List.nodup_nil

/-- What is entered later is answered first. -/
theorem get?_foldl_put (entries : List (String × α)) (t : Table α) (name : String) :
    get? (entries.foldl (fun t (name, value) => put name value t) t) name =
      ((entries.reverse.find? (·.1 = name)).map (·.2)).or (get? t name) := by
  induction entries generalizing t with
  | nil => rfl
  | cons e entries ih =>
    rw [List.foldl_cons, ih, List.reverse_cons, List.find?_append]
    by_cases same : e.1 = name
    · rw [← same, get?_put_self]
      cases entries.reverse.find? (·.1 = e.1) <;> simp
    · rw [get?_put_of_ne _ _ same]
      simp [same]

/-- A table answers with what was entered last under a name. -/
theorem get?_ofList (entries : List (String × α)) (name : String) :
    get? (ofList entries) name = (entries.reverse.find? (·.1 = name)).map (·.2) := by
  rw [ofList, get?_foldl_put, get?, Option.or_none]

/-- A table without a name twice answers what it holds. -/
theorem get?_eq_some_iff {name : String} {value : α} {t : Table α} (distinct : (t.map (·.1)).Nodup) :
    get? t name = some value ↔ (name, value) ∈ t := by
  refine ⟨mem_of_get?_eq_some, fun mem => ?_⟩
  induction t with
  | nil => cases mem
  | cons e t ih =>
    obtain ⟨new, rest⟩ := List.nodup_cons.1 distinct
    unfold get?
    rcases List.mem_cons.1 mem with rfl | mem
    · rw [if_pos rfl]
    · have other : e.1 ≠ name := by
        intro same
        exact new (List.mem_map.2 ⟨(name, value), mem, same.symm⟩)
      rw [if_neg other]
      exact ih rest mem

end Table

end Teller
