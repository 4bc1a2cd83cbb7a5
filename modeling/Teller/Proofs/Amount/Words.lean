import Teller.Proofs.Amount.Texts

/-!
# Words with spaces between

What the search for an amount makes of a text of words: normalization leaves it as it is, a part
without a space is a part of one of the words, and the pieces of the text are those of its words.

    squeeze_intercalate          single spaces between words stay
    normalize_of_lower           a text in any case becomes the text in lower case
    occursIn_intercalate         a part without a space is a part of a word
    pieces_intercalate           the pieces of a text are those of its words
-/

namespace Teller

namespace Text

/-! ## Single spaces -/

section Spaces

variable {w : List Char} {ws : List (List Char)}

theorem intercalate_eq_append (w v : List Char) (ws : List (List Char)) :
    [' '].intercalate (w :: v :: ws) = w ++ ' ' :: [' '].intercalate (v :: ws) := by
  rw [List.intercalate_cons_cons, List.append_assoc]
  rfl

/-- A text of words begins as its first word does. -/
theorem head?_intercalate (ws : List (List Char)) (nonempty : w ≠ []) :
    ([' '].intercalate (w :: ws)).head? = w.head? := by
  obtain ⟨first, rest, rfl⟩ := List.exists_cons_of_ne_nil nonempty
  cases ws with
  | nil => rw [List.intercalate_singleton]
  | cons v ws =>
    rw [intercalate_eq_append]
    rfl

/-- A text of words ends as one of its words does. -/
theorem exists_getLast?_intercalate (nonempty : ∀ v ∈ w :: ws, v ≠ []) :
    ∃ v ∈ w :: ws, ([' '].intercalate (w :: ws)).getLast? = v.getLast? := by
  induction ws generalizing w with
  | nil => exact ⟨w, List.mem_cons_self, by rw [List.intercalate_singleton]⟩
  | cons v ws ih =>
    obtain ⟨u, mem, ends⟩ := ih fun u hu => nonempty u (List.mem_cons_of_mem _ hu)
    have later : [' '].intercalate (v :: ws) ≠ [] := by
      intro nothing
      have begins := head?_intercalate ws (nonempty v (List.mem_cons_of_mem _ List.mem_cons_self))
      rw [nothing] at begins
      exact nonempty v (List.mem_cons_of_mem _ List.mem_cons_self) (List.head?_eq_none_iff.1 begins.symm)
    refine ⟨u, List.mem_cons_of_mem _ mem, ?_⟩
    rw [intercalate_eq_append, List.append_cons, List.getLast?_append_of_ne_nil _ later, ends]

theorem mem_intercalate {c : Char} (h : c ∈ [' '].intercalate ws) : c = ' ' ∨ ∃ w ∈ ws, c ∈ w := by
  induction ws with
  | nil => cases h
  | cons w ws ih =>
    cases ws with
    | nil =>
      rw [List.intercalate_singleton] at h
      exact .inr ⟨w, List.mem_cons_self, h⟩
    | cons v ws =>
      rw [intercalate_eq_append] at h
      rcases List.mem_append.1 h with here | h
      · exact .inr ⟨w, List.mem_cons_self, here⟩
      · rcases List.mem_cons.1 h with space | later
        · exact .inl space
        · exact (ih later).imp_right fun ⟨u, mem, inside⟩ => ⟨u, List.mem_cons_of_mem _ mem, inside⟩

/-- Single spaces between words stay. -/
theorem squeeze_intercalate (nonempty : ∀ w ∈ ws, w ≠ [])
    (visible : ∀ w ∈ ws, ∀ c ∈ w, isBlank c = false) :
    squeeze ([' '].intercalate ws) = [' '].intercalate ws := by
  induction ws with
  | nil => rfl
  | cons w ws ih =>
    have here := visible w List.mem_cons_self
    have rest := ih (fun v hv => nonempty v (List.mem_cons_of_mem _ hv))
      (fun v hv => visible v (List.mem_cons_of_mem _ hv))
    cases ws with
    | nil =>
      rw [List.intercalate_singleton]
      exact squeeze_eq_self here
    | cons v ws =>
      have mem : v ∈ w :: v :: ws := List.mem_cons_of_mem _ List.mem_cons_self
      have space : ∀ c ∈ [' '], isBlank c = true := fun c hc => List.mem_singleton.1 hc ▸ rfl
      have begins := head?_intercalate ws (nonempty v mem)
      obtain ⟨first, letters, rfl⟩ := List.exists_cons_of_ne_nil (nonempty v mem)
      obtain ⟨others, text⟩ := List.head?_eq_some_iff.1 begins
      rw [intercalate_eq_append, squeeze_append here, text, ← List.singleton_append,
        squeeze_blanks (by simp) space (visible _ mem first List.mem_cons_self), ← text, rest]
      rfl

end Spaces

/-! ## Parts -/

section Parts

variable {needle before after : List Char} {c : Char}

/-- A part without a character is a part of what stands on one side of it. -/
theorem occursIn_append_cons (apart : c ∉ needle) (h : occursIn needle (before ++ c :: after) = true) :
    occursIn needle before = true ∨ occursIn needle after = true := by
  obtain ⟨xs, ys, same⟩ := occursIn_eq_true_iff.1 h
  rcases List.append_eq_append_iff.1 same with ⟨as, rfl, rest⟩ | ⟨as, rfl, rest⟩
  · cases as with
    | nil =>
      -- the part would begin with the character, unless it is empty
      cases needle with
      | nil => exact .inl (occursIn_eq_true_iff.2 ⟨before, [], by simp⟩)
      | cons d needle =>
        cases rest
        exact absurd List.mem_cons_self apart
    | cons d as =>
      cases rest
      exact .inr (occursIn_eq_true_iff.2 ⟨as, ys, rfl⟩)
  · rcases List.append_eq_append_iff.1 rest with ⟨bs, rfl, _⟩ | ⟨bs, rfl, tail⟩
    · exact .inl (occursIn_eq_true_iff.2 ⟨xs, bs, rfl⟩)
    · cases bs with
      | nil => exact .inl (occursIn_eq_true_iff.2 ⟨xs, [], by simp⟩)
      | cons d bs =>
        cases tail
        exact absurd (List.mem_append_right _ List.mem_cons_self) apart

/-- A part without a space is a part of a word. -/
theorem occursIn_intercalate {ws : List (List Char)} (apart : ' ' ∉ needle) (nonempty : needle ≠ [])
    (h : occursIn needle ([' '].intercalate ws) = true) : ∃ w ∈ ws, occursIn needle w = true := by
  induction ws with
  | nil => exact absurd (List.isEmpty_iff.1 h) nonempty
  | cons w ws ih =>
    cases ws with
    | nil =>
      rw [List.intercalate_singleton] at h
      exact ⟨w, List.mem_cons_self, h⟩
    | cons v ws =>
      rw [intercalate_eq_append] at h
      rcases occursIn_append_cons apart h with here | later
      · exact ⟨w, List.mem_cons_self, here⟩
      · obtain ⟨u, mem, inside⟩ := ih later
        exact ⟨u, List.mem_cons_of_mem _ mem, inside⟩

end Parts

/-! ## Pieces -/

section Pieces

variable {separates : Char → Bool} {c d : Char} {w rest : List Char}

theorem pieces_ne_nil (separates : Char → Bool) (cs : List Char) : pieces separates cs ≠ [] := by
  obtain ⟨others, same, -⟩ := exists_pieces separates cs
  rw [same]
  exact List.cons_ne_nil _ _

/-- A separator between two texts that do not meet it with another one separates their pieces. -/
theorem pieces_append (separator : separates c = true) (begins : separates d = false)
    (ends : ∀ last ∈ w.getLast?, separates last = false) :
    pieces separates (w ++ c :: d :: rest) = pieces separates w ++ pieces separates (d :: rest) := by
  induction w with
  | nil =>
    rw [List.nil_append, pieces.eq_def separates (c :: _)]
    dsimp only
    rw [if_pos separator, begins]
    rfl
  | cons e w ih =>
    cases w with
    | nil =>
      have letter : separates e = false := ends e rfl
      rw [List.cons_append, pieces.eq_def separates (e :: _), pieces.eq_def separates [e]]
      dsimp only
      rw [letter, ih (by simp)]
      rfl
    | cons f w =>
      have later := ih fun last mem => ends last (by rwa [List.getLast?_cons_cons])
      obtain ⟨piece, others, same⟩ := List.exists_cons_of_ne_nil (pieces_ne_nil separates (f :: w))
      rw [List.cons_append, pieces.eq_def separates (e :: _), pieces.eq_def separates (e :: f :: w)]
      dsimp only [List.cons_append]
      rw [List.cons_append] at later
      rw [later, same]
      split
      · split <;> rfl
      · rfl

/-- The pieces of a text are those of its words. -/
theorem pieces_intercalate {ws : List (List Char)} (some_word : ws ≠ []) (space : separates ' ' = true)
    (nonempty : ∀ w ∈ ws, w ≠ []) (begins : ∀ w ∈ ws, ∀ first ∈ w.head?, separates first = false)
    (ends : ∀ w ∈ ws, ∀ last ∈ w.getLast?, separates last = false) :
    pieces separates ([' '].intercalate ws) = ws.flatMap (pieces separates) := by
  induction ws with
  | nil => exact absurd rfl some_word
  | cons w ws ih =>
    cases ws with
    | nil => rw [List.intercalate_singleton, List.flatMap_singleton]
    | cons v ws =>
      have mem : v ∈ w :: v :: ws := List.mem_cons_of_mem _ List.mem_cons_self
      have later := ih (by simp) (fun u hu => nonempty u (List.mem_cons_of_mem _ hu))
        (fun u hu => begins u (List.mem_cons_of_mem _ hu))
        (fun u hu => ends u (List.mem_cons_of_mem _ hu))
      have same := head?_intercalate ws (nonempty v mem)
      obtain ⟨first, letters, rfl⟩ := List.exists_cons_of_ne_nil (nonempty v mem)
      obtain ⟨others, text⟩ := List.head?_eq_some_iff.1 same
      rw [text] at later
      rw [intercalate_eq_append, text, pieces_append space (begins _ mem first rfl)
        (ends w List.mem_cons_self), later, ← List.flatMap_cons]

end Pieces

end Text

namespace Amount

open Text

variable {raw : String} {text : List Char}

/-- A text in any case becomes the text in lower case, with single spaces. -/
theorem normalize_of_lower {first last : Char} (lower : raw.toList.map Char.toLower = text)
    (plain : ∀ c ∈ text, c.toNat < 128 ∧ c ≠ ',') (begins : text.head? = some first)
    (first_visible : isBlank first = false) (ends : text.getLast? = some last)
    (last_visible : isBlank last = false) : normalize raw = squeeze text := by
  have ascii (c : Char) (small : c.toLower.toNat < 128) : c.toNat < 128 := by
    unfold Char.toLower at small
    split at small
    · next upper =>
      have := UInt32.le_iff_toNat_le.1 upper.2
      show c.val.toNat < 128
      exact Nat.lt_of_le_of_lt this (by decide)
    · exact small
  have source (c : Char) (hc : c ∈ raw.toList) : c.toNat < 128 ∧ isBlank c = isBlank c.toLower := by
    have small := ascii c (plain _ (lower ▸ List.mem_map_of_mem hc)).1
    refine ⟨small, ?_⟩
    apply of_ascii_table small
    decide +kernel
  have stripped : strip isBlank raw.toList = raw.toList := by
    rw [← lower, List.head?_map, Option.map_eq_some_iff] at begins
    rw [← lower, List.getLast?_map, Option.map_eq_some_iff] at ends
    obtain ⟨b, hb, rfl⟩ := begins
    obtain ⟨e, he, rfl⟩ := ends
    rw [← (source b (List.mem_of_head? hb)).2] at first_visible
    rw [← (source e (List.mem_of_getLast? he)).2] at last_visible
    have kept : strip isBlank (raw.toList ++ []) = raw.toList :=
      strip_append hb he first_visible last_visible (by simp)
    rwa [List.append_nil] at kept
  rw [normalize_eq, stripped, lowerFrom_eq_map fun c hc => (source c hc).1, lower,
    List.filter_eq_self.2 fun c hc => decide_eq_true (plain c hc).2]

end Amount

end Teller
