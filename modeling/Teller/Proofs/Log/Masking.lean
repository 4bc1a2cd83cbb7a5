import Teller.Log.Secret
import Teller.Proofs.Text.Reading

/-!
# What masking does to a text

Masking goes through a text from the left to the right. A character at which no secret begins is
kept; where one begins, its label is kept and the mask is written in the place of the secret
(`Masked`). What this looks like from any place of the result on is weaker: characters are kept, or
a mask stands for a secret whose label has just been written (`Covers`).

A mask begins and ends with an asterisk, but for an equals sign in front. So a word without
asterisks that is no part of the mask either stands in the text as it stands in the result, or ends
with the equals sign of a mask.

    masked_apply                  a rule masks a text
    Masked.covers                 what is masked is covered
    Covers.exists_of_append       a place of the result comes from a place of the text
    Covers.cases_of_not_mem       and the word there from a word there, unless it ends with the first
                                  sign of a mask
    Masked.exists_of_append       at such a place no secret begins, or a label stands there
-/

namespace Teller.Log

open Text

variable {rule : SecretRule} {before : Option Char} {c : Char}
  {label secret done cs out u v w x y : List Char}

/-! ## Matches -/

namespace SecretRule

variable {start middle finish : Place}

theorem matchAt?_eq_some (h : rule.matchAt? start = some (middle, finish)) :
    middle ∈ rule.label.rests start ∧ rule.secret.rest? middle = some finish := by
  obtain ⟨place, mem, found⟩ := List.exists_of_findSome?_eq_some h
  obtain ⟨found, hrest, heq⟩ := Option.map_eq_some_iff.1 found
  obtain ⟨rfl, rfl⟩ := Prod.mk.inj heq
  exact ⟨mem, hrest⟩

/-- A label and a secret are read where a match begins. -/
theorem exists_reads_of_matchAt? (h : rule.matchAt? start = some (middle, finish)) :
    ∃ label secret, rule.label.Accepts label ∧ rule.secret.Accepts secret ∧
      start.Reads label middle ∧ middle.Reads secret finish := by
  obtain ⟨mem, found⟩ := matchAt?_eq_some h
  obtain ⟨label, accepts, reads⟩ := Pattern.exists_reads_of_mem_rests mem
  obtain ⟨secret, accepts', reads'⟩ := Pattern.exists_reads_of_mem_rests (List.mem_of_head? found)
  exact ⟨label, secret, accepts, accepts', reads, reads'⟩

/-- A match begins where the label can be read and the secret behind it. -/
theorem matchAt?_ne_none_iff :
    rule.matchAt? start ≠ none ↔ ∃ q, q ∈ (rule.label.both rule.secret).rests start := by
  rw [matchAt?, Ne, List.findSome?_eq_none_iff]
  simp only [Option.map_eq_none_iff, Pattern.rest?, List.head?_eq_none_iff, Pattern.rests,
    List.mem_flatMap]
  constructor
  · intro h
    push Not at h
    obtain ⟨middle, mem, some_end⟩ := h
    obtain ⟨q, hq⟩ := List.exists_mem_of_ne_nil _ some_end
    exact ⟨q, middle, mem, hq⟩
  · rintro ⟨q, middle, mem, hq⟩ none_there
    rw [none_there middle mem] at hq
    cases hq

/-- A rule that does not look around finds every label with a secret behind it. -/
theorem matchAt?_ne_none_iff_of_isLocal (around : (rule.label.both rule.secret).isLocal = true) :
    rule.matchAt? start ≠ none ↔ ∃ w, (rule.label.both rule.secret).Accepts w ∧ w <+: start.rest := by
  rw [matchAt?_ne_none_iff]
  constructor
  · rintro ⟨q, hq⟩
    obtain ⟨w, accepts, reads⟩ := Pattern.exists_reads_of_mem_rests hq
    exact ⟨w, accepts, q.rest, reads.rest.symm⟩
  · rintro ⟨w, accepts, rest, h⟩
    exact ⟨⟨w.getLast?.or start.before, rest⟩, Pattern.mem_rests_of_reads around accepts ⟨h.symm, rfl⟩⟩

/-- No secret is found in the text. -/
def Spares (rule : SecretRule) (cs : List Char) : Prop :=
  ∀ x y, cs = x ++ y → rule.matchAt? ⟨x.getLast?, y⟩ = none

end SecretRule

/-! ## Masking step by step -/

/-- What a rule makes of a text that stands behind the given character. -/
inductive Masked (rule : SecretRule) : (before : Option Char) → (cs out : List Char) → Prop
  | nil (before : Option Char) : Masked rule before [] []
  | keep {before : Option Char} {c : Char} {cs out : List Char}
    (clear : rule.matchAt? ⟨before, c :: cs⟩ = none)
      (rest : Masked rule (some c) cs out) : Masked rule before (c :: cs) (c :: out)
  | hide {before : Option Char} {label secret cs out : List Char} (isLabel : rule.label.Accepts label)
      (isSecret : rule.secret.Accepts secret)
      (found : rule.matchAt? ⟨before, label ++ (secret ++ cs)⟩ =
        some (⟨label.getLast?.or before, secret ++ cs⟩, ⟨(label ++ secret).getLast?.or before, cs⟩))
      (rest : Masked rule ((label ++ secret).getLast?.or before) cs out) :
      Masked rule before (label ++ (secret ++ cs)) (label ++ (rule.mask ++ out))

theorem maskFrom_append (u : List Char) :
    rule.maskFrom before u.length (u ++ cs) = rule.maskFrom (u.getLast?.or before) 0 cs := by
  induction u generalizing before with
  | nil => rfl
  | cons c u ih =>
    rw [List.length_cons, List.cons_append, SecretRule.maskFrom, ih, List.getLast?_cons]
    cases u.getLast? <;> rfl

/-- Where a match begins, the label is kept and the mask is written for the secret. -/
theorem maskFrom_of_matchAt? (nonempty : secret ≠ [])
    (found : rule.matchAt? ⟨before, label ++ (secret ++ cs)⟩ =
      some (⟨label.getLast?.or before, secret ++ cs⟩, ⟨(label ++ secret).getLast?.or before, cs⟩)) :
    rule.maskFrom before 0 (label ++ (secret ++ cs)) =
      label ++ (rule.mask ++ rule.maskFrom ((label ++ secret).getLast?.or before) 0 cs) := by
  obtain ⟨c, w, hw⟩ : ∃ c w, label ++ secret = c :: w :=
    List.exists_cons_of_ne_nil (List.append_ne_nil_of_right_ne_nil label nonempty)
  have whole : label ++ (secret ++ cs) = c :: (w ++ cs) := by
    rw [← List.append_assoc, hw, List.cons_append]
  have length := congrArg List.length whole
  simp only [List.length_append, List.length_cons] at length
  have kept : (c :: (w ++ cs)).take ((w ++ cs).length + 1 - (secret ++ cs).length) = label := by
    rw [← whole, List.length_append, List.length_append]
    exact List.take_left' (by omega)
  have skipped : (w ++ cs).length - cs.length = w.length := by simp
  rw [whole] at found ⊢
  simp only [SecretRule.maskFrom, found, kept, skipped, maskFrom_append, List.append_assoc, hw,
    List.getLast?_cons]
  cases w.getLast? <;> rfl

/-- A rule whose secrets are not empty masks a text. -/
theorem masked_maskFrom (nonempty : 0 < rule.secret.shortest) (before : Option Char) (cs : List Char) :
    Masked rule before cs (rule.maskFrom before 0 cs) := by
  induction length : cs.length using Nat.strong_induction_on generalizing before cs with
  | _ n ih =>
    subst length
    cases cs with
    | nil => exact .nil before
    | cons c cs =>
      cases found : rule.matchAt? ⟨before, c :: cs⟩ with
      | none =>
        rw [rule.maskFrom_of_none before c cs found]
        exact .keep found (ih cs.length (Nat.lt_succ_self _) (some c) cs rfl)
      | some places =>
        obtain ⟨middle, finish⟩ := places
        obtain ⟨label, secret, isLabel, isSecret, toMiddle, toFinish⟩ :=
          SecretRule.exists_reads_of_matchAt? found
        obtain ⟨before', rest⟩ := finish
        have ends := (toMiddle.append toFinish).before
        obtain rfl : middle = ⟨label.getLast?.or before, secret ++ rest⟩ := by
          rw [toMiddle.eq, toFinish.rest]
        obtain rfl : before' = (label ++ secret).getLast?.or before := ends
        have whole : c :: cs = label ++ (secret ++ rest) := toMiddle.rest
        have positive : 0 < secret.length :=
          Nat.lt_of_lt_of_le nonempty (Pattern.shortest_le_length isSecret)
        rw [whole] at found ih ⊢
        rw [maskFrom_of_matchAt? (List.ne_nil_of_length_pos positive) found]
        refine .hide isLabel isSecret found (ih rest.length ?_ _ rest rfl)
        rw [List.length_append, List.length_append]
        omega

theorem masked_apply (nonempty : 0 < rule.secret.shortest) (cs : List Char) :
    Masked rule none cs (rule.apply cs) :=
  masked_maskFrom nonempty none cs

/-- A rule whose mask is shorter than any secret makes no text longer, and changes none that stays
as long. -/
theorem Masked.length_le (shorter : rule.mask.length < rule.secret.shortest)
    (h : Masked rule before cs out) :
    out.length ≤ cs.length ∧ (out.length = cs.length → out = cs) := by
  induction h with
  | nil => exact ⟨Nat.le_refl 0, fun _ => rfl⟩
  | @keep before c cs out clear rest ih =>
    exact ⟨Nat.succ_le_succ ih.1, fun length => by rw [ih.2 (Nat.succ.inj length)]⟩
  | hide isLabel isSecret found rest ih =>
    have := Pattern.shortest_le_length isSecret
    simp only [List.length_append]
    exact ⟨by omega, fun length => by omega⟩

theorem SecretRule.Spares.apply_eq_self (h : rule.Spares cs) : rule.apply cs = cs := by
  have from_any (x y : List Char) (hxy : cs = x ++ y) : rule.maskFrom x.getLast? 0 y = y := by
    induction y generalizing x with
    | nil => rfl
    | cons c y ih =>
      rw [rule.maskFrom_of_none _ c y (h x (c :: y) hxy)]
      have next := ih (x ++ [c]) (by rw [hxy, List.append_assoc]; rfl)
      rw [List.getLast?_concat] at next
      rw [next]
  exact from_any [] cs rfl

/-! ## Covers -/

/-- What may follow in the result of a rule, when some text is done, for the rest of the text:
characters are kept, and a mask stands for a secret behind its label. -/
inductive Covers (rule : SecretRule) : (done cs out : List Char) → Prop
  | nil (done : List Char) : Covers rule done [] []
  | keep {done : List Char} {c : Char} {cs out : List Char} (rest : Covers rule (done ++ [c]) cs out) :
      Covers rule done (c :: cs) (c :: out)
  | hide {done label secret cs out : List Char} (isLabel : rule.label.Accepts label)
    (follows : label <:+ done)
      (isSecret : rule.secret.Accepts secret) (rest : Covers rule (done ++ rule.mask) cs out) :
      Covers rule done (secret ++ cs) (rule.mask ++ out)

namespace Covers

/-- What is kept is covered. -/
theorem keepAll (h : Covers rule (done ++ u) cs out) : Covers rule done (u ++ cs) (u ++ out) := by
  induction u generalizing done with
  | nil => rwa [List.append_nil] at h
  | cons c u ih =>
    refine .keep (ih ?_)
    rwa [List.append_assoc, List.singleton_append]

end Covers

theorem Masked.covers (h : Masked rule before cs out) (done : List Char) : Covers rule done cs out := by
  induction h generalizing done with
  | nil => exact .nil done
  | keep clear rest ih => exact .keep (ih _)
  | hide isLabel isSecret found rest ih =>
    exact .keepAll (.hide isLabel (List.suffix_append done _) isSecret (ih _))

/-! ## Masks -/

/-- The mask begins and ends with an asterisk, but for an equals sign in front. -/
structure IsStarred (mask : List Char) : Prop where
  begins : mask.head? = some '*' ∨ mask.take 2 = ['=', '*']
  ends : mask.getLast? = some '*'

/-- Words without asterisks end before the next one. -/
theorem prefix_of_not_mem (avoids : '*' ∉ w) (ends : u.getLast? = some '*') (h : w <+: u ++ v) :
    w <+: u := by
  rcases List.prefix_or_prefix_of_prefix h (List.prefix_append u v) with shorter | ⟨w', rfl⟩
  · exact shorter
  · exact absurd (List.mem_append_left w' (List.mem_of_getLast? ends)) avoids

/-- A place in two texts after one another lies in the second one or properly in the first one. -/
theorem append_cases (h : x ++ y = u ++ v) :
    (∃ z, x = u ++ z ∧ v = z ++ y) ∨ ∃ m, m ≠ [] ∧ u = x ++ m ∧ y = m ++ v := by
  rcases List.append_eq_append_iff.1 h with ⟨m, rfl, rfl⟩ | second
  · by_cases empty : m = []
    · exact .inl ⟨[], by simp [empty], by simp [empty]⟩
    · exact .inr ⟨m, empty, rfl, rfl⟩
  · exact .inl second

namespace IsStarred

variable {mask : List Char}

/-- A word without asterisks that begins within the mask also ends there. -/
theorem infix_of_not_mem (starred : IsStarred mask) (avoids : '*' ∉ u) (split : mask = x ++ w)
    (nonempty : w ≠ []) (h : u ++ v = w ++ out) : u <:+: mask := by
  have ends : w.getLast? = some '*' := by
    rw [← List.getLast?_append_of_ne_nil x nonempty, ← split]
    exact starred.ends
  obtain ⟨w', rfl⟩ := prefix_of_not_mem avoids ends ⟨v, h⟩
  exact ⟨x, w', by rw [split, List.append_assoc]⟩

/-- A word without asterisks at the beginning of a mask is its first sign. -/
theorem eq_of_not_mem (starred : IsStarred mask) (avoids : '*' ∉ c :: u) (h : c :: u ++ v = mask ++ out) :
    c = '=' ∧ u = [] := by
  rcases starred.begins with begins | begins
  · obtain ⟨m, rfl⟩ := List.head?_eq_some_iff.1 begins
    injection h with head
    exact absurd (head ▸ List.mem_cons_self) avoids
  · obtain ⟨m, rfl⟩ : ∃ m, mask = '=' :: '*' :: m := ⟨mask.drop 2, by
      rw [← List.take_append_drop 2 mask, begins]
      rfl⟩
    injection h with head tail
    refine ⟨head, ?_⟩
    cases u with
    | nil => rfl
    | cons d u =>
      injection tail with second
      exact absurd (second ▸ List.mem_cons_of_mem c List.mem_cons_self) avoids

end IsStarred

/-- A place of the result comes from a place of the text, unless the mask could stand there. -/
theorem Covers.exists_of_append (starred : IsStarred rule.mask) (avoids : '*' ∉ u)
    (foreign : ¬u <:+: rule.mask) (h : Covers rule done cs (x ++ (u ++ v))) :
    ∃ y cs', cs = y ++ cs' ∧ Covers rule done y x ∧ Covers rule (done ++ x) cs' (u ++ v) := by
  generalize hout : x ++ (u ++ v) = out at h
  induction h generalizing x with
  | nil done =>
    obtain ⟨-, hu, -⟩ : x = [] ∧ u = [] ∧ v = [] := by simpa using hout
    exact absurd (hu ▸ List.nil_infix) foreign
  | @keep done c cs out rest ih =>
    cases x with
    | nil => exact ⟨[], c :: cs, rfl, .nil done, by simpa [← hout] using Covers.keep rest⟩
    | cons d x =>
      injection hout with head tail
      subst head
      obtain ⟨y, cs', rfl, front, back⟩ := ih tail
      exact ⟨d :: y, cs', rfl, .keep front, by simpa using back⟩
  | @hide done label secret cs out isLabel follows isSecret rest ih =>
    rcases append_cases hout with ⟨x', rfl, behind⟩ | ⟨m, nonempty, within, behind⟩
    · obtain ⟨y, cs', rfl, front, back⟩ := ih behind.symm
      exact ⟨secret ++ y, cs', (List.append_assoc ..).symm, .hide isLabel follows isSecret front,
        by simpa [List.append_assoc] using back⟩
    · exact absurd (starred.infix_of_not_mem avoids within nonempty behind) foreign

/-- A word without asterisks at the beginning of the result stands at the beginning of the text,
unless it ends with the first sign of a mask. -/
theorem Covers.cases_of_not_mem (starred : IsStarred rule.mask) (avoids : '*' ∉ u)
    (h : Covers rule done cs (u ++ v)) :
    (∃ cs', cs = u ++ cs' ∧ Covers rule (done ++ u) cs' v) ∨
      ∃ w label out, u = w ++ ['='] ∧ u ++ v = w ++ (rule.mask ++ out) ∧ rule.label.Accepts label ∧
        label <:+ done ++ w := by
  induction u generalizing done cs with
  | nil => exact .inl ⟨cs, rfl, by simpa using h⟩
  | cons c u ih =>
    generalize hout : c :: u ++ v = out at h
    cases h with
    | nil => cases hout
    | keep rest =>
      injection hout with head tail
      subst head tail
      rcases ih (fun mem => avoids (List.mem_cons_of_mem c mem)) rest with
        ⟨cs', rfl, behind⟩ | ⟨w, label, out, rfl, whole, isLabel, follows⟩
      · exact .inl ⟨cs', rfl, by simpa using behind⟩
      · refine .inr ⟨c :: w, label, out, rfl, ?_, isLabel, by simpa using follows⟩
        exact congrArg (c :: ·) whole
    | @hide _ label _ _ out isLabel follows isSecret rest =>
      obtain ⟨rfl, rfl⟩ := starred.eq_of_not_mem avoids hout
      exact .inr ⟨[], label, out, rfl, rfl, isLabel, by simpa using follows⟩

/-- What follows in the result is either kept or the mask. -/
theorem Covers.cons_cases (h : Covers rule done cs (c :: out)) :
    (∃ cs', cs = c :: cs' ∧ Covers rule (done ++ [c]) cs' out) ∨
      ∃ label secret cs' out', cs = secret ++ cs' ∧ c :: out = rule.mask ++ out' ∧
      rule.label.Accepts label ∧ label <:+ done ∧ rule.secret.Accepts secret := by
  generalize hout : c :: out = whole at h
  cases h with
  | nil => cases hout
  | keep rest =>
    injection hout with head tail
    subst head tail
    exact .inl ⟨_, rfl, rest⟩
  | hide isLabel follows isSecret rest => exact .inr ⟨_, _, _, _, rfl, rfl, isLabel, follows, isSecret⟩

/-- Where a word of the result comes from that is no part of the mask: no secret begins at its place
in the text, or a part of a label stands there and the mask behind it. -/
theorem Masked.exists_of_append (starred : IsStarred rule.mask) (avoids : '*' ∉ u)
    (foreign : ¬u <:+: rule.mask) (h : Masked rule before cs (x ++ (u ++ v))) :
    (∃ before cs', rule.matchAt? ⟨before, cs'⟩ = none ∧ Masked rule before cs' (u ++ v)) ∨
      ∃ x y out, rule.label.Accepts (x ++ y) ∧ y ≠ [] ∧ u ++ v = y ++ (rule.mask ++ out) := by
  generalize hout : x ++ (u ++ v) = out at h
  induction h generalizing x with
  | nil =>
    obtain ⟨-, hu, -⟩ : x = [] ∧ u = [] ∧ v = [] := by simpa using hout
    exact absurd (hu ▸ List.nil_infix) foreign
  | @keep before c cs out clear rest ih =>
    cases x with
    | nil =>
      rw [List.nil_append] at hout
      exact .inl ⟨before, c :: cs, clear, hout ▸ .keep clear rest⟩
    | cons d x =>
      injection hout with head tail
      exact ih tail
  | @hide before label secret cs out isLabel isSecret found rest ih =>
    rcases append_cases hout with ⟨x', -, behind⟩ | ⟨y, nonempty, hlabel, behind⟩
    · rcases append_cases behind.symm with ⟨x'', -, behind⟩ | ⟨m, nonempty, within, behind⟩
      · exact ih behind.symm
      · exact absurd (starred.infix_of_not_mem avoids within nonempty behind) foreign
    · exact .inr ⟨x, y, out, hlabel ▸ isLabel, nonempty, behind⟩

end Teller.Log
