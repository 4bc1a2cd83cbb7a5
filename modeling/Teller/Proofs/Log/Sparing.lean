import Teller.Proofs.Log.Masking

/-!
# Rules that need no second pass

Blocks of keys, seed phrases, tokens and credentials show themselves by plain words: words without
asterisks that do not end with an equals sign and that are longer than what stands between the
asterisks of any mask. A plain word of a result stands in the text as well, whatever rule has been
applied. So such a rule leaves nothing to find, and no rule makes a text show anything that it did
not show before.

    Covers.exists_of_plain           a plain word of a result stands in the text
    IsShownBy.spares_apply_self      after such a rule it finds nothing
    IsShownBy.spares_apply           and neither does it after any other rule, if it found nothing before
    IsShownBy.spares_redactAll       so that it finds nothing after all of them
    isShownBy_keyBlock, isShownBy_seedPhrase, isShownBy_accessToken, isShownBy_credential
                                     the four rules
-/

namespace Teller.Log

open Text Text.Pattern

variable {rule other : SecretRule} {c : Char} {label done cs u v w x : List Char}

/-! ## Plain words -/

theorem isStarred_mask (known : rule ∈ secretRules) : IsStarred rule.mask := by
  have table : ∀ rule ∈ secretRules,
      (rule.mask.head? = some '*' ∨ rule.mask.take 2 = ['=', '*']) ∧ rule.mask.getLast? = some '*' := by
    decide
  exact ⟨(table rule known).1, (table rule known).2⟩

theorem shortest_secret_pos (known : rule ∈ secretRules) : 0 < rule.secret.shortest := by
  have table : ∀ rule ∈ secretRules, 0 < rule.secret.shortest := by decide
  exact table rule known

/-- A word that no mask contains and that does not reach into one. -/
structure IsPlain (w : List Char) : Prop where
  avoids : '*' ∉ w
  ends : w.getLast? ≠ some '='
  long : 20 < w.length

theorem IsPlain.foreign (plain : IsPlain w) (known : rule ∈ secretRules) : ¬w <:+: rule.mask := by
  have table : ∀ rule ∈ secretRules, ∀ suffix ∈ rule.mask.tails, ∀ w ∈ suffix.inits, 20 < w.length →
      '*' ∈ w := by
    decide +kernel
  rintro ⟨x, y, whole⟩
  refine plain.avoids (table rule known (w ++ y) ?_ w ?_ plain.long)
  · exact (List.mem_tails _ _).2 ⟨x, by rw [← whole, List.append_assoc]⟩
  · exact (List.mem_inits _ _).2 (List.prefix_append w y)

/-- What a pattern reads is plain if the pattern neither reads asterisks nor ends with an equals
sign and reads more than twenty characters. -/
theorem isPlain_of_accepts {pattern : Pattern} (avoids : pattern.avoids '*' = true)
    (ends : pattern.endsWithout '=' = true) (long : 20 < pattern.shortest) (h : pattern.Accepts w) :
    IsPlain w :=
  ⟨not_mem_of_avoids avoids h, getLast?_ne_of_endsWithout ends h,
    Nat.lt_of_lt_of_le long (shortest_le_length h)⟩

/-- A plain word at the beginning of a result stands at the beginning of the text. -/
theorem Covers.of_plain (known : rule ∈ secretRules) (plain : IsPlain w)
    (h : Covers rule done cs (w ++ v)) :
    ∃ cs', cs = w ++ cs' ∧ Covers rule (done ++ w) cs' v := by
  rcases h.cases_of_not_mem (isStarred_mask known) plain.avoids with kept | ⟨w', _, _, rfl, -⟩
  · exact kept
  · exact absurd (by simp) plain.ends

/-- A plain word of a result stands in the text. -/
theorem Covers.exists_of_plain (known : rule ∈ secretRules) (plain : IsPlain w)
    (h : Covers rule done cs (x ++ (w ++ v))) :
    ∃ y cs', cs = y ++ (w ++ cs') ∧ Covers rule done y x ∧ Covers rule (done ++ x ++ w) cs' v := by
  obtain ⟨y, rest, rfl, front, back⟩ :=
    h.exists_of_append (isStarred_mask known) plain.avoids (plain.foreign known)
  obtain ⟨cs', rfl, behind⟩ := back.of_plain known plain
  exact ⟨y, cs', rfl, front, behind⟩

/-- Within a label, a plain word does not reach the mask. -/
theorem IsPlain.infix_of_append (plain : IsPlain u) (known : rule ∈ secretRules) {y out : List Char}
    (h : u ++ v = y ++ (rule.mask ++ out)) : u <:+: y := by
  rcases List.append_eq_append_iff.1 h with ⟨z, rfl, -⟩ | ⟨z, rfl, reaches⟩
  · exact List.infix_append' [] u z
  · cases z with
    | nil => simp
    | cons c z =>
      have avoids : '*' ∉ c :: z := fun mem => plain.avoids (List.mem_append_right y mem)
      obtain ⟨rfl, rfl⟩ := (isStarred_mask known).eq_of_not_mem avoids reaches.symm
      exact absurd (by simp) plain.ends

/-! ## Rules that show themselves by plain words -/

/-- What the rule finds begins with a plain word, which is no part of a label, and ends with another
one, be it empty, and whatever stands between such words is found. -/
structure IsShownBy (rule : SecretRule) (opening closing : Pattern) : Prop where
  found_iff : ∀ start, rule.matchAt? start ≠ none ↔
    ∃ u m v rest, opening.Accepts u ∧ closing.Accepts v ∧ start.rest = u ++ (m ++ (v ++ rest))
  opening_plain : ∀ u, opening.Accepts u → IsPlain u
  closing_plain : ∀ v, closing.Accepts v → v = [] ∨ IsPlain v
  opening_outside : ∀ label u, rule.label.Accepts label → opening.Accepts u → ¬u <:+: label

namespace IsShownBy

variable {opening closing : Pattern}

theorem spares_iff (shown : IsShownBy rule opening closing) : rule.Spares cs ↔
    ∀ x u m v rest, opening.Accepts u → closing.Accepts v → cs ≠ x ++ (u ++ (m ++ (v ++ rest))) := by
  constructor
  · rintro spares x u m v rest hu hv rfl
    exact (shown.found_iff _).2 ⟨u, m, v, rest, hu, hv, rfl⟩ (spares x _ rfl)
  · rintro none_there x y rfl
    by_contra found
    obtain ⟨u, m, v, rest, hu, hv, rfl⟩ := (shown.found_iff _).1 found
    exact none_there x u m v rest hu hv rfl

/-- The closing word of a result stands in the text. -/
theorem exists_closing (shown : IsShownBy rule opening closing) (known : other ∈ secretRules)
    {m rest : List Char} (hv : closing.Accepts v) (h : Covers other done cs (m ++ (v ++ rest))) :
    ∃ m' rest', cs = m' ++ (v ++ rest') := by
  rcases shown.closing_plain v hv with rfl | plain
  · exact ⟨[], cs, rfl⟩
  · obtain ⟨m', rest', rfl, -, -⟩ := h.exists_of_plain known plain
    exact ⟨m', rest', rfl⟩

/-- No rule makes a text show what it did not show before. -/
theorem spares_apply (shown : IsShownBy rule opening closing) (known : other ∈ secretRules)
    (spares : rule.Spares cs) : rule.Spares (other.apply cs) := by
  rw [shown.spares_iff] at spares ⊢
  intro x u m v rest hu hv whole
  have covers := (masked_apply (shortest_secret_pos known) cs).covers []
  rw [whole] at covers
  obtain ⟨y, cs', rfl, -, behind⟩ := covers.exists_of_plain known (shown.opening_plain u hu)
  obtain ⟨m', rest', rfl⟩ := shown.exists_closing known hv behind
  exact spares y u m' v rest' hu hv rfl

/-- The rule leaves nothing to find. -/
theorem spares_apply_self (shown : IsShownBy rule opening closing) (known : rule ∈ secretRules) :
    rule.Spares (rule.apply cs) := by
  rw [shown.spares_iff]
  intro x u m v rest hu hv whole
  have masked := masked_apply (shortest_secret_pos known) cs
  have plain := shown.opening_plain u hu
  rw [whole] at masked
  rcases masked.exists_of_append (isStarred_mask known) plain.avoids (plain.foreign known) with
    ⟨before, cs', clear, masked⟩ | ⟨x, y, out, isLabel, -, within⟩
  · -- what is found in the result was there to be found
    obtain ⟨cs', rfl, behind⟩ := (masked.covers []).of_plain known plain
    obtain ⟨m', rest', rfl⟩ := shown.exists_closing known hv behind
    exact (shown.found_iff _).2 ⟨u, m', v, rest', hu, hv, rfl⟩ clear
  · exact shown.opening_outside _ u isLabel hu
      ((plain.infix_of_append known within).trans (List.suffix_append x y).isInfix)

theorem spares_foldl (shown : IsShownBy rule opening closing) {rules : List SecretRule}
    (known : ∀ other ∈ rules, other ∈ secretRules) (spares : rule.Spares cs) :
    rule.Spares (rules.foldl (fun cs rule => rule.apply cs) cs) := by
  induction rules generalizing cs with
  | nil => exact spares
  | cons other rules ih =>
    exact ih (fun other mem => known other (List.mem_cons_of_mem _ mem))
      (shown.spares_apply (known other List.mem_cons_self) spares)

/-- What has been masked by all rules shows nothing to such a rule. -/
theorem spares_redactAll (shown : IsShownBy rule opening closing) (known : rule ∈ secretRules)
    (cs : List Char) :
    rule.Spares (redactAll cs) := by
  obtain ⟨earlier, later, rules⟩ := List.append_of_mem known
  have known' : ∀ other ∈ later, other ∈ secretRules := fun other mem => by
    rw [rules]
    exact List.mem_append_right _ (List.mem_cons_of_mem _ mem)
  rw [redactAll, rules, List.foldl_append, List.foldl_cons]
  exact shown.spares_foldl known' (shown.spares_apply_self known)

end IsShownBy

/-! ## The four rules -/

/-- What rules that do not look around find is one word. -/
theorem isShownBy_of_isLocal (around : (rule.label.both rule.secret).isLocal = true)
    (plain : ∀ u, (rule.label.both rule.secret).Accepts u → IsPlain u)
    (outside : ∀ label u, rule.label.Accepts label → (rule.label.both rule.secret).Accepts u →
      ¬u <:+: label) :
    IsShownBy rule (rule.label.both rule.secret) .empty where
  found_iff start := by
    rw [SecretRule.matchAt?_ne_none_iff_of_isLocal around]
    constructor
    · rintro ⟨w, accepts, rest, whole⟩
      exact ⟨w, [], [], rest, accepts, rfl, whole.symm⟩
    · rintro ⟨w, m, _, rest, accepts, rfl, whole⟩
      exact ⟨w, accepts, m ++ rest, whole.symm⟩
  opening_plain := plain
  closing_plain _ h := .inl h
  opening_outside := outside

/-- A character that may stand in an assignment. -/
def IsJoint (c : Char) : Prop := isBlank c = true ∨ c ∈ ['"', '\'', ':', '=']

theorem readsOnly_assignment : assignment.ReadsOnly IsJoint := by
  have marks {accepts : Char → Bool}
      (list : accepts = ['"', '\''].contains ∨ accepts = [':', '='].contains) :
      ∀ c, accepts c = true → IsJoint c := by
    intro c h
    have mem : c ∈ ['"', '\'', ':', '='] := by rcases list with rfl | rfl <;> simp at h ⊢ <;> tauto
    exact .inr mem
  exact ⟨marks (.inl rfl), fun _ => .inl, marks (.inr rfl), fun _ => .inl, marks (.inl rfl)⟩

/-- A value is assigned by a colon or an equals sign. -/
theorem mem_of_accepts_assignment (h : assignment.Accepts w) : ':' ∈ w ∨ '=' ∈ w := by
  obtain ⟨_, _, -, ⟨_, _, -, ⟨_, _, ⟨c, sign, rfl⟩, -, rfl⟩, rfl⟩, rfl⟩ := h
  have : c = ':' ∨ c = '=' := by simpa using sign
  rcases this with rfl | rfl <;> simp

/-- The characters whose codes are between given bounds. -/
def charactersBetween (bounds : List (Nat × Nat)) : List Char :=
  bounds.flatMap fun (first, last) => (List.range (last + 1 - first)).map fun k => Char.ofNat (first + k)

theorem mem_charactersBetween {bounds : List (Nat × Nat)}
    (h : (bounds.any fun (first, last) => first ≤ c.toNat && c.toNat ≤ last) = true) :
    c ∈ charactersBetween bounds := by
  obtain ⟨bounds, mem, within⟩ := List.any_eq_true.1 h
  rw [Bool.and_eq_true, decide_eq_true_eq, decide_eq_true_eq] at within
  refine List.mem_flatMap.2 ⟨bounds, mem,
    List.mem_map.2 ⟨c.toNat - bounds.1, List.mem_range.2 (by omega), ?_⟩⟩
  rw [Nat.add_sub_cancel' within.1, Char.ofNat_toNat]

def blankCharacters : List Char :=
  charactersBetween [(9, 13), (28, 32), (133, 133), (160, 160), (5760, 5760), (8192, 8202),
    (8232, 8233), (8239, 8239), (8287, 8287), (12288, 12288)]

theorem eq_false_of_isBlank {f : Char → Bool} (table : blankCharacters.any f = false)
    (h : isBlank c = true) :
    f c = false := by
  simpa using List.any_eq_false.1 table c (mem_charactersBetween h)

theorem isTokenCharacter_eq_false_of_isJoint (h : IsJoint c) : isTokenCharacter c = false := by
  rcases h with blank | mark
  · exact eq_false_of_isBlank rfl blank
  · have : c = '"' ∨ c = '\'' ∨ c = ':' ∨ c = '=' := by simpa using mark
    rcases this with rfl | rfl | rfl | rfl <;> decide

/-- Labels without assignments do not contain one. -/
theorem not_infix_of_assignment {lab : Pattern} {rest : Pattern} (colon : lab.avoids ':' = true)
    (equals : lab.avoids '=' = true) {v : List Char} (h : lab.Accepts label)
    (hv : (assignment.both rest).Accepts v) :
    ¬u ++ v <:+: label := by
  obtain ⟨w, rest, assigns, -, rfl⟩ := hv
  intro within
  have sublist : w.Sublist label :=
    (List.infix_append' u w rest).sublist.trans (by simpa using within.sublist)
  rcases mem_of_accepts_assignment assigns with mem | mem
  · exact not_mem_of_avoids colon h (sublist.subset mem)
  · exact not_mem_of_avoids equals h (sublist.subset mem)

def firstLine : Pattern := all [text "-----BEGIN", capitals, text "PRIVATE KEY-----"]

def lastLine : Pattern := all [text "-----END", capitals, text "PRIVATE KEY-----"]

/-- A block of keys is anything from a first line to a last line. -/
theorem accepts_keyBlock_iff : keyBlock.secret.Accepts w ↔
    ∃ u m v, firstLine.Accepts u ∧ lastLine.Accepts v ∧ w = u ++ (m ++ v) := by
  constructor
  · rintro ⟨a, _, ha, ⟨b, _, hb, ⟨c, _, hc, ⟨m, v, -, last, rfl⟩, rfl⟩, rfl⟩, rfl⟩
    exact ⟨a ++ (b ++ c), m, v, ⟨a, _, ha, ⟨b, c, hb, hc, rfl⟩, rfl⟩, last, by simp⟩
  · rintro ⟨_, m, v, ⟨a, _, ha, ⟨b, c, hb, hc, rfl⟩, rfl⟩, last, rfl⟩
    have between : (repeated true 0 none (one fun _ => true)).Accepts m :=
      ⟨m.map ([·]), by simp [Accepts], Nat.zero_le _, nofun, by simp [← List.flatMap_def]⟩
    exact ⟨a, _, ha, ⟨b, _, hb, ⟨c, _, hc, ⟨m, v, between, last, rfl⟩, rfl⟩, rfl⟩, by simp⟩

theorem isShownBy_keyBlock : IsShownBy keyBlock firstLine lastLine where
  found_iff start := by
    rw [SecretRule.matchAt?_ne_none_iff_of_isLocal rfl]
    constructor
    · rintro ⟨_, ⟨_, w, rfl, block, rfl⟩, rest, whole⟩
      obtain ⟨u, m, v, first, last, rfl⟩ := accepts_keyBlock_iff.1 block
      exact ⟨u, m, v, rest, first, last, by rw [← whole]; simp⟩
    · rintro ⟨u, m, v, rest, first, last, whole⟩
      exact ⟨u ++ (m ++ v), ⟨[], _, rfl, accepts_keyBlock_iff.2 ⟨u, m, v, first, last, rfl⟩, rfl⟩, rest,
        by rw [whole]; simp⟩
  opening_plain _ := isPlain_of_accepts rfl rfl (by decide)
  closing_plain _ h := .inr (isPlain_of_accepts rfl rfl (by decide) h)
  opening_outside label u isLabel hu within := by
    obtain rfl := isLabel
    have plain : IsPlain u := isPlain_of_accepts rfl rfl (by decide) hu
    have := plain.long
    rw [List.infix_nil.1 within] at this
    cases this

theorem isShownBy_seedPhrase : IsShownBy seedPhrase (seedPhrase.label.both seedPhrase.secret) .empty :=
  isShownBy_of_isLocal rfl
    (fun _ => isPlain_of_accepts rfl rfl (by decide))
    fun label _ isLabel ⟨_, _, _, isSecret, h⟩ =>
      h ▸ not_infix_of_assignment rfl rfl isLabel isSecret

/-- In the label of a token at most six characters could belong to one. -/
theorem countP_isTokenCharacter_le (h : accessToken.label.Accepts label) :
    label.countP isTokenCharacter ≤ 6 := by
  have bound {u v : List Char} (short : u.length ≤ 6) (joints : ∀ c ∈ v, IsJoint c) :
      (u ++ v).countP isTokenCharacter ≤ 6 := by
    have none_there : v.countP isTokenCharacter = 0 :=
      List.countP_eq_zero.2 fun c mem => by simp [isTokenCharacter_eq_false_of_isJoint (joints c mem)]
    rw [List.countP_append, none_there]
    exact Nat.le_trans List.countP_le_length short
  rcases h with ⟨u, v, word, blank, rfl⟩ | ⟨u, v, word, assigns, rfl⟩
  · exact bound (Nat.le_of_eq (length_of_accepts_caseless word))
      fun c mem => .inl ((accepts_repeated_one_iff.1 blank).1 c mem)
  · exact bound (Nat.le_trans (Nat.le_of_eq (length_of_accepts_caseless word)) (by decide))
      (forall_mem_of_readsOnly readsOnly_assignment assigns)

theorem isShownBy_accessToken :
    IsShownBy accessToken (accessToken.label.both accessToken.secret) .empty :=
  isShownBy_of_isLocal rfl
    (fun _ => isPlain_of_accepts rfl rfl (by decide))
    fun label _ isLabel => by
      rintro ⟨l, _, -, ⟨token, q, characters, -, rfl⟩, rfl⟩ within
      obtain ⟨all, long, -⟩ := accepts_repeated_one_iff.1 characters
      have sublist : token.Sublist label :=
        (List.infix_append' l token q).sublist.trans (by simpa using within.sublist)
      have counted := sublist.countP_le (p := isTokenCharacter)
      rw [List.countP_eq_length.2 all] at counted
      have := countP_isTokenCharacter_le isLabel
      omega

theorem isShownBy_credential : IsShownBy credential (credential.label.both credential.secret) .empty :=
  isShownBy_of_isLocal rfl
    (fun _ => isPlain_of_accepts rfl rfl (by decide))
    fun label _ isLabel ⟨_, _, _, isSecret, h⟩ =>
      h ▸ not_infix_of_assignment rfl rfl isLabel isSecret

end Teller.Log
