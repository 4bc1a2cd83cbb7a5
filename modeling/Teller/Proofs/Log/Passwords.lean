import Mathlib.Data.List.TakeWhile
import Teller.Proofs.Log.WalletKeys

/-!
# Passwords and their masks

A password may contain almost anything, so that the mask of one passes for a password as well: it is
masked again, with whatever follows it up to the next blank. But behind a label nothing else than
the mask passes for a password after passwords have been masked, and masking keys and credentials
does not change that (`Stamped`). In such a text no password makes it longer, and the text is left
alone exactly if a blank or the end follows every mask (`Sealed`).

    stamped_password_apply          behind labels only masks are left
    KeepsStamps.stamped_apply       and the rules that may still come into play leave it so
    rest?_password                  how far a mask passes for a password
    Masked.length_le_of_stamped     no text becomes longer, and one that stays as long is sealed
    Masked.eq_of_sealed             sealed texts are left alone
-/

namespace Teller.Log

open Text Text.Pattern

variable {rule : SecretRule} {before : Option Char} {c : Char}
  {cs done label m out secret u v w x y z : List Char}

/-! ## Labels and assignments -/

/-- A character that a password may consist of. -/
def isValue (c : Char) : Bool := !isBlank c && c != '"' && c != '\''

def isQuote (c : Char) : Bool := ['"', '\''].contains c

theorem isValue_eq_true_iff : isValue c = true ↔ isBlank c = false ∧ isQuote c = false := by
  simp [isValue, isQuote, and_assoc]

theorem isQuote_eq_true_iff : isQuote c = true ↔ c = '"' ∨ c = '\'' := by
  simp [isQuote]

theorem isQuote_eq_false_of_isBlank (h : isBlank c = true) : isQuote c = false := by
  by_contra quote
  rcases isQuote_eq_true_iff.1 (by simpa using quote) with rfl | rfl <;> exact absurd h (by decide)

theorem isValue_of_isHex (h : isHex c = true) : isValue c = true := of_isHex rfl h

/-- A label of a password with an assignment. -/
def assigned : Pattern := both password.label assignment

theorem toLower_of_getLast?_password (h : password.label.Accepts label) :
    ∃ c, label.getLast? = some c ∧ c.toLower = 'd' := by
  have word {s : String} (last : s.toList.getLast? = some 'd') (h : (caseless s).Accepts label) :
      ∃ c, label.getLast? = some c ∧ c.toLower = 'd' := by
    obtain ⟨c, hc, letter⟩ := exists_getLast?_of_accepts_caseless h last (by decide)
    exact ⟨c, hc, by simpa [isLetter] using letter⟩
  rcases h with h | h | h
  · exact word (by decide) h
  · exact word (by decide) h
  · exact word (by decide) h

theorem toLower_of_getLast?_credential (h : credential.label.Accepts label) :
    ∃ c, label.getLast? = some c ∧ (c.toLower = 't' ∨ c.toLower = 'y') := by
  have word {first second : String} {letter : Char} (last : second.toList.getLast? = some letter)
      (isEnd : letter = 't' ∨ letter = 'y') (h : (joinedWords first second).Accepts label) :
      ∃ c, label.getLast? = some c ∧ (c.toLower = 't' ∨ c.toLower = 'y') := by
    obtain ⟨u, _, -, ⟨j, v, -, word, rfl⟩, rfl⟩ := h
    have alpha : letter.isAlpha = true := by rcases isEnd with rfl | rfl <;> decide
    obtain ⟨c, hc, isLetter⟩ := exists_getLast?_of_accepts_caseless word last alpha
    refine ⟨c, by rw [List.getLast?_append, List.getLast?_append, hc]; rfl, ?_⟩
    rcases isEnd with rfl | rfl
    · exact .inl (by simpa [Pattern.isLetter] using isLetter)
    · exact .inr (by simpa [Pattern.isLetter] using isLetter)
  rcases h with h | h | h | h
  · exact word (by decide) (.inr rfl) h
  · exact word (by decide) (.inl rfl) h
  · exact word (by decide) (.inr rfl) h
  · exact word (by decide) (.inr rfl) h

/-- The letters that labels before an equals sign in a mask end with. -/
def endsLabels (c : Char) : Bool := ['d', 't', 'y'].contains c.toLower

theorem endsLabels_eq_false_of_isJoint (h : IsJoint c) : endsLabels c = false := by
  rcases h with blank | mark
  · exact eq_false_of_isBlank rfl blank
  · have : c = '"' ∨ c = '\'' ∨ c = ':' ∨ c = '=' := by simpa using mark
    rcases this with rfl | rfl | rfl | rfl <;> decide

/-- An assignment does not end like a label. -/
theorem exists_getLast?_of_assignment (h : assignment.Accepts w) (u : List Char) :
    ∃ c, (u ++ w).getLast? = some c ∧ endsLabels c = false := by
  have nonempty : w ≠ [] := by
    rintro rfl
    simpa using mem_of_accepts_assignment h
  refine ⟨w.getLast nonempty, ?_, endsLabels_eq_false_of_isJoint
    (forall_mem_of_readsOnly readsOnly_assignment h _ (List.getLast_mem nonempty))⟩
  rw [List.getLast?_append_of_ne_nil u nonempty, List.getLast?_eq_some_getLast nonempty]

/-- The sign directly behind the end of a label is the whole assignment. -/
theorem eq_sign_of_endsLabels (h : assignment.Accepts w) (split : label ++ w = v ++ ['='])
    (ends : (x ++ v).getLast? = some c) (isEnd : endsLabels c = true) : w = ['='] ∧ v = label := by
  obtain rfl | ⟨front, last, rfl⟩ := List.eq_nil_or_concat' w
  · simpa using mem_of_accepts_assignment h
  rw [← List.append_assoc] at split
  obtain ⟨rfl, hlast⟩ := List.append_inj' split rfl
  cases empty : front.getLast? with
  | none =>
    obtain rfl := List.getLast?_eq_none_iff.1 empty
    exact ⟨hlast, List.append_nil label⟩
  | some d =>
    have joint := forall_mem_of_readsOnly readsOnly_assignment h d
      (List.mem_append_left [last] (List.mem_of_getLast? empty))
    rw [List.getLast?_append, List.getLast?_append, empty] at ends
    obtain rfl : d = c := by simpa using ends
    rw [endsLabels_eq_false_of_isJoint joint] at isEnd
    cases isEnd

theorem not_mem_of_accepts_assigned (h : assigned.Accepts u) : '*' ∉ u :=
  not_mem_of_avoids rfl h

/-- No label with an assignment is a part of a mask. -/
theorem not_infix_mask_of_assigned (known : rule ∈ secretRules) (h : assigned.Accepts u) :
    ¬u <:+: rule.mask := by
  have table : ∀ rule ∈ secretRules, ∀ suffix ∈ rule.mask.tails, ∀ w ∈ suffix.inits,
      ':' ∉ w.tail ∧ '=' ∉ w.tail := by
    decide +kernel
  rintro ⟨x, y, whole⟩
  have clear := table rule known (u ++ y) ((List.mem_tails _ _).2 ⟨x, by rw [← whole, List.append_assoc]⟩)
    u ((List.mem_inits _ _).2 (List.prefix_append u y))
  obtain ⟨label, w, isLabel, assigns, rfl⟩ := h
  obtain ⟨d, rest, rfl⟩ : ∃ d rest, label = d :: rest := by
    refine List.exists_cons_of_ne_nil ?_
    rintro rfl
    obtain ⟨c, nothing, -⟩ := toLower_of_getLast?_password isLabel
    cases nothing
  rcases mem_of_accepts_assignment assigns with mem | mem
  · exact clear.1 (List.mem_append_right rest mem)
  · exact clear.2 (List.mem_append_right rest mem)

theorem getLast?_of_suffix (h : label <:+ u) (last : label.getLast? = some c) : u.getLast? = some c := by
  obtain ⟨front, rfl⟩ := h
  rw [List.getLast?_append, last]
  rfl

/-! ## Only masks behind labels -/

/-- Wherever a password could be found, its mask stands. -/
def Stamped (cs : List Char) : Prop :=
  ∀ x label w c y, password.label.Accepts label → assignment.Accepts w → isValue c = true →
    cs = x ++ (label ++ w ++ c :: y) → password.mask <+: w ++ c :: y

theorem Stamped.of_append (h : Stamped (u ++ cs)) : Stamped cs := by
  rintro x label w c y isLabel assigns isValue rfl
  exact h (u ++ x) label w c y isLabel assigns isValue (List.append_assoc ..).symm

/-- Where a label, an assignment and a value stand, a password is found. -/
theorem password_found (isLabel : password.label.Accepts label) (assigns : assignment.Accepts w)
    (value : isValue c = true) : password.matchAt? ⟨before, label ++ w ++ c :: y⟩ ≠ none := by
  rw [SecretRule.matchAt?_ne_none_iff_of_isLocal rfl]
  have values : (atLeast 1 (one isValue)).Accepts [c] :=
    accepts_repeated_one_iff.2 ⟨by simpa using value, Nat.le_refl 1, nofun⟩
  have noQuote : quoteMark.Accepts [] := accepts_optional_iff.2 (.inl rfl)
  exact ⟨label ++ (w ++ ([c] ++ [])),
    ⟨label, _, isLabel, ⟨w, _, assigns, ⟨[c], [], values, noQuote, rfl⟩, rfl⟩, rfl⟩, y, by simp⟩

theorem known_password : password ∈ secretRules := by simp [secretRules]

/-- Behind labels only masks are left when passwords have been masked. -/
theorem stamped_password_apply (cs : List Char) : Stamped (password.apply cs) := by
  intro x label w c y isLabel assigns value whole
  have masked := masked_apply (shortest_secret_pos known_password) cs
  have isAssigned : assigned.Accepts (label ++ w) := ⟨label, w, isLabel, assigns, rfl⟩
  have avoids := not_mem_of_accepts_assigned isAssigned
  -- a sign directly behind a label that a mask follows is the first sign of the mask
  have of_sign {v out : List Char} {d : Char} (split : label ++ w = v ++ ['='])
      (ends : v.getLast? = some d) (lower : d.toLower = 'd')
      (same : label ++ w ++ c :: y = v ++ (password.mask ++ out)) :
      password.mask <+: w ++ c :: y := by
    obtain ⟨rfl, rfl⟩ := eq_sign_of_endsLabels (x := []) assigns split ends (by simp [endsLabels, lower])
    rw [List.append_assoc] at same
    exact ⟨out, (List.append_cancel_left same).symm⟩
  rw [whole] at masked
  rcases masked.exists_of_append (isStarred_mask known_password) avoids
    (not_infix_mask_of_assigned known_password isAssigned) with
      ⟨b, cs', clear, masked⟩ | ⟨x, l, out, isLabel', nonempty, same⟩
  · rcases (masked.covers []).cases_of_not_mem (isStarred_mask known_password) avoids with
      ⟨cs', rfl, covers⟩ | ⟨v, label', out, split, same, isLabel', follows⟩
    · rcases covers.cons_cases with ⟨cs', rfl, -⟩ | ⟨label', _, _, _, -, -, isLabel', follows, -⟩
      · exact absurd clear (password_found isLabel assigns value)
      · -- a mask would have to follow the label directly
        obtain ⟨d, hd, lower⟩ := toLower_of_getLast?_password isLabel'
        obtain ⟨e, he, other⟩ := exists_getLast?_of_assignment assigns label
        rw [getLast?_of_suffix (show label' <:+ label ++ w from follows) hd] at he
        obtain rfl : d = e := by simpa using he
        simp [endsLabels, lower] at other
    · obtain ⟨d, hd, lower⟩ := toLower_of_getLast?_password isLabel'
      exact of_sign split (getLast?_of_suffix follows hd) lower same
  · obtain ⟨d, hd, lower⟩ := toLower_of_getLast?_password isLabel'
    rw [List.getLast?_append_of_ne_nil x nonempty] at hd
    -- a label contains no assignment
    have no_sign : ¬label ++ w <:+: l := fun within =>
      not_infix_of_assignment rfl rfl isLabel'
        (⟨w, [], assigns, rfl, (List.append_nil w).symm⟩ : (assignment.both .empty).Accepts w)
        (within.trans (List.suffix_append x l).isInfix)
    rcases append_cases same with ⟨z, split, reaches⟩ | ⟨z, -, rfl, -⟩
    · cases z with
      | nil => exact absurd ⟨[], [], by simpa using split⟩ no_sign
      | cons e z =>
        have avoids' : '*' ∉ e :: z := fun mem => avoids (split ▸ List.mem_append_right l mem)
        obtain ⟨rfl, rfl⟩ := (isStarred_mask known_password).eq_of_not_mem avoids' reaches.symm
        exact of_sign split hd lower same
    · exact absurd (List.prefix_append _ z).isInfix no_sign

/-! ## Rules that leave masks of passwords -/

/-- Its secrets do not fit into the mask of a password, and its own mask is not taken for a value:
it stands for a value, or behind a label that is none of a password. -/
structure KeepsStamps (rule : SecretRule) : Prop where
  known : rule ∈ secretRules
  avoids : ∀ secret, rule.secret.Accepts secret → '*' ∉ secret
  foreign : ∀ secret, rule.secret.Accepts secret → ¬secret <:+: password.mask
  aside : (rule.mask.head? = some '*' ∧ ∀ secret, rule.secret.Accepts secret →
    ∃ c ∈ secret.head?, isValue c = true) ∨
    ∀ label, rule.label.Accepts label → ∃ c, label.getLast? = some c ∧ (c.toLower = 't' ∨ c.toLower = 'y')

theorem keepsStamps_walletKey : KeepsStamps walletKey where
  known := known_walletKey
  avoids _ h := (isKey_of_accepts h).isPlain.avoids
  foreign _ h := (isKey_of_accepts h).isPlain.foreign known_password
  aside := by
    refine .inl ⟨by decide, fun secret h => ?_⟩
    obtain ⟨sign, digits, isSign, ⟨length, hex⟩, rfl⟩ := isKey_of_accepts h
    rcases isSign with rfl | rfl
    · obtain ⟨first, rest, rfl⟩ := List.exists_cons_of_ne_nil (l := digits) (by rintro rfl; cases length)
      exact ⟨first, rfl, isValue_of_isHex (hex first List.mem_cons_self)⟩
    · exact ⟨'0', rfl, by decide⟩

theorem keepsStamps_credential : KeepsStamps credential where
  known := by simp [secretRules]
  avoids _ := not_mem_of_avoids rfl
  foreign secret h := by
    have table : ∀ suffix ∈ password.mask.tails, ∀ w ∈ suffix.inits,
        17 ≤ w.length → '*' ∈ w ∨ ':' ∉ w ∧ '=' ∉ w := by
      decide +kernel
    rintro ⟨x, y, whole⟩
    have long : 17 ≤ secret.length := shortest_le_length h
    have avoids : '*' ∉ secret := not_mem_of_avoids rfl h
    obtain ⟨w, rest, assigns, -, rfl⟩ := h
    rcases table (w ++ rest ++ y) ((List.mem_tails _ _).2 ⟨x, by rw [← whole, List.append_assoc x]⟩)
      (w ++ rest)
      ((List.mem_inits _ _).2 (List.prefix_append _ y)) long with asterisk | ⟨colon, equals⟩
    · exact avoids asterisk
    · rcases mem_of_accepts_assignment assigns with mem | mem
      · exact colon (List.mem_append_left rest mem)
      · exact equals (List.mem_append_left rest mem)
  aside := .inr fun _ => toLower_of_getLast?_credential

/-- A stretch in which no secret can begin is kept. -/
theorem KeepsStamps.eq_append (keeps : KeepsStamps rule) (part : m <:+ password.mask)
    (h : Covers rule done (m ++ z) out) : ∃ out', out = m ++ out' := by
  induction m generalizing done out with
  | nil => exact ⟨out, rfl⟩
  | cons c m ih =>
    generalize hcs : c :: m ++ z = cs at h
    cases h with
    | nil => cases hcs
    | keep rest =>
      injection hcs with head tail
      subst head tail
      obtain ⟨out', rfl⟩ := ih ((List.suffix_cons c m).trans part) rest
      exact ⟨out', rfl⟩
    | @hide _ _ secret cs _ isLabel follows isSecret rest =>
      have ends : (c :: m).getLast? = some '*' := by
        obtain ⟨front, whole⟩ := part
        rw [← List.getLast?_append_of_ne_nil front (List.cons_ne_nil c m), whole]
        decide
      have within := prefix_of_not_mem (keeps.avoids secret isSecret) ends ⟨cs, hcs.symm⟩
      exact absurd (within.isInfix.trans part.isInfix) (keeps.foreign secret isSecret)

/-- Behind an assignment a mask begins with the equals sign. -/
theorem eq_of_mask_prefix (assigns : assignment.Accepts w) (h : password.mask <+: w ++ z) :
    w = ['='] ∧ password.mask.tail <+: z := by
  have avoids : '*' ∉ w := not_mem_of_avoids rfl assigns
  obtain ⟨rest, whole⟩ := h
  rcases w with _ | ⟨c, w⟩
  · simpa using mem_of_accepts_assignment assigns
  · obtain ⟨rfl, rfl⟩ := (isStarred_mask known_password).eq_of_not_mem avoids whole.symm
    refine ⟨rfl, rest, ?_⟩
    rw [show password.mask = '=' :: password.mask.tail by decide] at whole
    injection whole

/-- Such rules leave only masks behind labels. -/
theorem KeepsStamps.stamped_apply (keeps : KeepsStamps rule) (stamped : Stamped cs) :
    Stamped (rule.apply cs) := by
  intro x label w c y isLabel assigns value whole
  have isAssigned : assigned.Accepts (label ++ w) := ⟨label, w, isLabel, assigns, rfl⟩
  have avoids := not_mem_of_accepts_assigned isAssigned
  have covers := (masked_apply (shortest_secret_pos keeps.known) cs).covers []
  obtain ⟨d, hd, lower⟩ := toLower_of_getLast?_password isLabel
  obtain ⟨e, he, other⟩ := exists_getLast?_of_assignment assigns label
  rw [whole] at covers
  obtain ⟨x', cs', rfl, -, at_⟩ := covers.exists_of_append (isStarred_mask keeps.known) avoids
    (not_infix_mask_of_assigned keeps.known isAssigned)
  rcases at_.cases_of_not_mem (isStarred_mask keeps.known) avoids with
    ⟨rest, rfl, behind⟩ | ⟨v, label', out, split, same, isLabel', follows⟩
  · rcases behind.cons_cases with
      ⟨rest, rfl, kept⟩ | ⟨label', secret, rest, out, rfl, hmask, isLabel', follows, isSecret⟩
    · -- the value has been there before
      obtain ⟨rfl, z, hz⟩ :=
        eq_of_mask_prefix assigns (stamped x' label w c rest isLabel assigns value rfl)
      obtain ⟨out', hout⟩ := keeps.eq_append (List.tail_suffix _) (hz ▸ kept.keep)
      exact ⟨out', by rw [hout]; rfl⟩
    · rcases keeps.aside with ⟨-, values⟩ | ends
      · -- the mask stands for a value
        obtain ⟨c', hc', value'⟩ := values secret isSecret
        obtain ⟨s, rfl⟩ := List.head?_eq_some_iff.1 hc'
        have prior := stamped x' label w c' (s ++ rest) isLabel assigns value' rfl
        obtain ⟨-, z, hz⟩ := eq_of_mask_prefix assigns prior
        rw [show password.mask.tail = '*' :: password.mask.tail.tail by decide] at hz
        injection hz with head
        exact absurd (head ▸ List.mem_cons_self) (keeps.avoids _ isSecret)
      · -- the mask stands behind another label
        obtain ⟨d', hd', lower'⟩ := ends label' isLabel'
        have last := getLast?_of_suffix follows hd'
        rw [List.getLast?_append, he] at last
        obtain rfl : e = d' := by simpa using last
        rcases lower' with lower' | lower' <;> simp [endsLabels, lower'] at other
  · rcases keeps.aside with ⟨asterisk, -⟩ | ends
    · -- no sign begins the mask
      rw [split, List.append_assoc] at same
      obtain ⟨m, hm⟩ := List.head?_eq_some_iff.1 asterisk
      rw [hm] at same
      injection List.append_cancel_left same with head
      cases head
    · -- the mask stands behind the same label, which is that of another rule
      obtain ⟨d', hd', lower'⟩ := ends label' isLabel'
      have last : (x ++ v).getLast? = some d' := getLast?_of_suffix follows hd'
      obtain ⟨-, rfl⟩ := eq_sign_of_endsLabels assigns split last (by
        rcases lower' with lower' | lower' <;> simp [endsLabels, lower'])
      rw [List.getLast?_append, hd] at last
      obtain rfl : d = d' := by simpa using last
      simp [lower] at lower'

/-! ## How far a mask passes for a password -/

/-- The text is at its end, or a blank follows. -/
def IsEnded (cs : List Char) : Prop := ∀ c ∈ cs.head?, isBlank c = true

/-- The mask of a password is read as an assignment and the beginning of a value. -/
theorem rest?_assignment (before : Option Char) (z : List Char) :
    assignment.rest? ⟨before, password.mask ++ z⟩ = some ⟨some '=', password.mask.tail ++ z⟩ := by
  have whole : password.mask ++ z = '=' :: '*' :: (password.mask.tail.tail ++ z) := by
    rw [← List.cons_append, ← List.cons_append]
    rfl
  have quote (before : Option Char) {c : Char} (rest : List Char) (h : ['"', '\''].contains c = false) :
      quoteMark.rest? ⟨before, c :: rest⟩ = some ⟨before, c :: rest⟩ :=
    (rest?_optional_one before (c :: rest)).trans (by simp only [h, Bool.false_eq_true, if_false])
  have blank (before : Option Char) {c : Char} (rest : List Char) (h : isBlank c = false) :
      blanks.rest? ⟨before, c :: rest⟩ = some ⟨before, c :: rest⟩ :=
    rest?_repeated_one (w := []) (v := c :: rest) nofun (by simpa using h) (Nat.le_refl 0)
  rw [whole]
  refine rest?_both (quote before _ (by decide)) (rest?_both (blank before _ (by decide)) ?_)
  exact rest?_both (rest?_one (by decide)) (rest?_both (blank _ _ (by decide)) (quote _ _ (by decide)))

/-- What is behind a quotation mark, if there is one. -/
def afterQuote : List Char → List Char
  | [] => []
  | c :: rest => if isQuote c then rest else c :: rest

theorem rest?_quoteMark (before : Option Char) (cs : List Char) :
    ∃ b, quoteMark.rest? ⟨before, cs⟩ = some ⟨b, afterQuote cs⟩ := by
  have read : quoteMark.rest? ⟨before, cs⟩ = _ := rest?_optional_one (f := isQuote) before cs
  cases cs with
  | nil => exact ⟨_, read⟩
  | cons c rest =>
    cases quote : isQuote c with
    | true => exact ⟨some c, by simpa [afterQuote, quote] using read⟩
    | false => exact ⟨before, by simpa [afterQuote, quote] using read⟩

theorem afterQuote_suffix (cs : List Char) : afterQuote cs <:+ cs := by
  cases cs with
  | nil => exact List.suffix_refl _
  | cons c rest =>
    rw [afterQuote]
    split
    · exact List.suffix_cons c rest
    · exact List.suffix_refl _

/-- Nothing is left out exactly if no value and no quotation mark follows. -/
theorem afterQuote_dropWhile_eq_iff : afterQuote (z.dropWhile isValue) = z ↔ IsEnded z := by
  cases z with
  | nil => simp [afterQuote, IsEnded]
  | cons c z =>
    have ended_iff : IsEnded (c :: z) ↔ isBlank c = true := by simp [IsEnded]
    rw [ended_iff]
    constructor
    · intro same
      by_contra blank
      rw [Bool.not_eq_true] at blank
      -- something is left out
      have shorter : afterQuote ((c :: z).dropWhile isValue) <:+ z := by
        cases quote : isQuote c with
        | true =>
          have noValue : ¬isValue c = true := by simp [isValue_eq_true_iff, quote]
          rw [List.dropWhile_cons_of_neg noValue, afterQuote, if_pos quote]
        | false =>
          rw [List.dropWhile_cons_of_pos (isValue_eq_true_iff.2 ⟨blank, quote⟩)]
          exact (afterQuote_suffix _).trans (List.dropWhile_suffix isValue)
      have := shorter.length_le
      rw [same, List.length_cons] at this
      omega
    · intro blank
      have noValue : ¬isValue c = true := by simp [isValue_eq_true_iff, blank]
      simp [List.dropWhile_cons_of_neg noValue, afterQuote, isQuote_eq_false_of_isBlank blank]

/-- The mask of a password is read as a password with all that follows up to a blank or a quotation
mark. -/
theorem rest?_password (before : Option Char) (z : List Char) :
    ∃ b, password.secret.rest? ⟨before, password.mask ++ z⟩ =
      some ⟨b, afterQuote (z.dropWhile isValue)⟩ := by
  have values : ∀ c ∈ password.mask.tail ++ z.takeWhile isValue, isValue c = true := by
    intro c mem
    rcases List.mem_append.1 mem with mem | mem
    · have table : password.mask.tail.all isValue = true := by decide
      exact List.all_eq_true.1 table c mem
    · exact List.mem_takeWhile_imp mem
  have stop : ∀ c ∈ (z.dropWhile isValue).head?, isValue c = false := by
    intro c hc
    simpa [Option.mem_def.1 hc] using List.head?_dropWhile_not isValue z
  have long : 1 ≤ (password.mask.tail ++ z.takeWhile isValue).length := by
    rw [List.length_append]
    exact Nat.le_trans (by decide) (Nat.le_add_right _ _)
  have value := rest?_repeated_one (b := some '=') values stop long
  rw [List.append_assoc, List.takeWhile_append_dropWhile] at value
  obtain ⟨b, quote⟩ := rest?_quoteMark _ (z.dropWhile isValue)
  exact ⟨b, rest?_both (rest?_assignment before z) (rest?_both value quote)⟩

/-! ## Texts that are left alone -/

/-- A blank or the end follows every mask of a password. -/
def Sealed (cs : List Char) : Prop :=
  ∀ x label y, password.label.Accepts label → cs = x ++ (label ++ (password.mask ++ y)) → IsEnded y

theorem Sealed.of_append (h : Sealed (u ++ cs)) : Sealed cs := by
  rintro x label y isLabel rfl
  exact h (u ++ x) label y isLabel (List.append_assoc ..).symm

/-- What is found in a stamped text is a mask with what follows it up to a blank. -/
theorem Stamped.of_found (stamped : Stamped (label ++ (secret ++ cs)))
    (isLabel : password.label.Accepts label)
    (isSecret : password.secret.Accepts secret) {b b' : Option Char}
    (found : password.secret.rest? ⟨b, secret ++ cs⟩ = some ⟨b', cs⟩) :
    ∃ z, secret ++ cs = password.mask ++ z ∧ cs <:+ z ∧ (cs = z ↔ IsEnded z) := by
  obtain ⟨w, _, assigns, ⟨value, q, values, -, rfl⟩, rfl⟩ := isSecret
  obtain ⟨all, long, -⟩ := accepts_repeated_one_iff.1 values
  obtain ⟨c, value, rfl⟩ := List.exists_cons_of_length_pos long
  obtain ⟨z, hz⟩ :=
    stamped [] label w c (value ++ q ++ cs) isLabel assigns (all c List.mem_cons_self) (by simp)
  have whole : w ++ (c :: value ++ q) ++ cs = password.mask ++ z := by simpa using hz.symm
  obtain ⟨_, ends⟩ := rest?_password b z
  rw [whole, ends] at found
  obtain rfl : afterQuote (z.dropWhile isValue) = cs := congrArg Place.rest (Option.some.inj found)
  exact ⟨z, whole, (afterQuote_suffix _).trans (List.dropWhile_suffix isValue),
    afterQuote_dropWhile_eq_iff⟩

theorem mask_password : password.mask = '=' :: password.mask.tail := by decide

theorem accepts_sign : assignment.Accepts ['='] := by
  obtain ⟨w, accepts, reads⟩ := exists_reads_of_mem_rests (List.mem_of_head? (rest?_assignment none []))
  have rest : ['='] ++ password.mask.tail = w ++ password.mask.tail := by
    simpa using mask_password.symm.trans ((List.append_nil _).symm.trans reads.rest)
  rwa [← List.append_cancel_right rest] at accepts

/-- What stands before and behind the first equals sign. -/
theorem eq_of_append_sign (hu : '=' ∉ u) (hv : '=' ∉ v) (h : u ++ '=' :: y = v ++ '=' :: z) : y = z := by
  rcases append_cases h with ⟨_ | ⟨d, w⟩, rfl, behind⟩ | ⟨_ | ⟨d, w⟩, nonempty, rfl, behind⟩
  · exact (List.cons.inj behind).2.symm
  · exact absurd ((List.cons.inj behind).1 ▸ by simp) hu
  · exact absurd rfl nonempty
  · exact absurd ((List.cons.inj behind).1 ▸ by simp) hv

/-- A text that begins with a label and a mask is sealed if a blank follows and what follows is
sealed. -/
theorem Sealed.append (isLabel : password.label.Accepts label) (ended : IsEnded cs) (rest : Sealed cs) :
    Sealed (label ++ (password.mask ++ cs)) := by
  intro x label' y isLabel' whole
  have noSign {label : List Char} (h : password.label.Accepts label) : '=' ∉ label :=
    not_mem_of_avoids rfl h
  have isAssigned : assigned.Accepts (label' ++ ['=']) := ⟨label', ['='], isLabel', accepts_sign, rfl⟩
  rcases append_cases whole.symm with ⟨z, rfl, behind⟩ | ⟨l, -, rfl, behind⟩
  · rcases append_cases behind.symm with ⟨z, -, rfl⟩ | ⟨m, nonempty, within, starts⟩
    · exact rest z label' y isLabel' rfl
    · -- no label begins within a mask
      have starts : label' ++ ['='] ++ (password.mask.tail ++ y) = m ++ cs := by
        rw [← starts, mask_password]
        simp
      exact absurd ((isStarred_mask known_password).infix_of_not_mem
        (not_mem_of_accepts_assigned isAssigned) within nonempty starts)
        (not_infix_mask_of_assigned known_password isAssigned)
  · -- a label that ends where the first one does
    have noSign' : '=' ∉ l := fun mem => noSign isLabel (List.mem_append_right x mem)
    rw [mask_password] at behind
    have same := eq_of_append_sign (noSign isLabel') noSign' behind
    rwa [List.append_cancel_left same]

/-- No password makes a stamped text longer, and one that stays as long is sealed. -/
theorem Masked.length_le_of_stamped (h : Masked password before cs out) (stamped : Stamped cs) :
    out.length ≤ cs.length ∧ (out.length = cs.length → out = cs ∧ Sealed cs) := by
  induction h with
  | nil =>
    refine ⟨Nat.le_refl 0, fun _ => ⟨rfl, fun x label y _ whole => ?_⟩⟩
    rw [mask_password] at whole
    simp at whole
  | @keep before c cs out clear rest ih =>
    obtain ⟨shorter, same⟩ := ih (stamped.of_append (u := [c]))
    refine ⟨Nat.succ_le_succ shorter, fun length => ?_⟩
    obtain ⟨rfl, isSealed⟩ := same (Nat.succ.inj length)
    refine ⟨rfl, fun x label y isLabel whole => ?_⟩
    cases x with
    | cons d x =>
      injection whole with _ tail
      exact isSealed x label y isLabel tail
    | nil =>
      -- the mask would have been found
      have found : password.matchAt?
          ⟨before, label ++ ['='] ++ '*' :: (password.mask.tail.tail ++ y)⟩ ≠ none :=
        password_found isLabel accepts_sign (by decide)
      rw [whole, show password.mask = ['=', '*'] ++ password.mask.tail.tail by decide] at clear
      exact absurd clear (by simpa using found)
  | @hide before label secret cs out isLabel isSecret found rest ih =>
    obtain ⟨z, whole, suffix, same_iff⟩ :=
      stamped.of_found isLabel isSecret (SecretRule.matchAt?_eq_some found).2
    rw [← List.append_assoc] at stamped
    obtain ⟨shorter, same⟩ := ih stamped.of_append
    have lengths := congrArg List.length whole
    have := suffix.length_le
    simp only [List.length_append] at lengths ⊢
    refine ⟨by omega, fun length => ?_⟩
    obtain rfl : cs = z := suffix.eq_of_length (by omega)
    obtain ⟨rfl, isSealed⟩ := same (by omega)
    obtain rfl := List.append_cancel_right whole
    exact ⟨rfl, isSealed.append isLabel (same_iff.1 rfl)⟩

/-- Masking passwords leaves a stamped and sealed text alone. -/
theorem Masked.eq_of_sealed (h : Masked password before cs out) (stamped : Stamped cs)
    (isSealed : Sealed cs) :
    out = cs := by
  induction h with
  | nil => rfl
  | @keep before c cs out clear rest ih =>
    rw [ih (stamped.of_append (u := [c])) (isSealed.of_append (u := [c]))]
  | @hide before label secret cs out isLabel isSecret found rest ih =>
    obtain ⟨z, whole, -, same_iff⟩ :=
      stamped.of_found isLabel isSecret (SecretRule.matchAt?_eq_some found).2
    obtain rfl := same_iff.2 (isSealed [] label z isLabel (by rw [whole]; rfl))
    obtain rfl := List.append_cancel_right whole
    rw [← List.append_assoc] at stamped isSealed
    rw [ih stamped.of_append isSealed.of_append]

end Teller.Log
