import Teller.Proofs.Log.Sparing

/-!
# Keys of wallets

A key of a wallet is found where it stands alone: behind the beginning of the text or a character
that is in no word, and before the end or such a character. Masking blocks of keys and other keys
does not take that away, as what is masked neither ends within `0x` nor lets the mask reach into a
word. And a key of a result stands in the text. So a key that stands alone is gone afterwards.

    walletKey_found_iff           where a key is found
    spares_walletKey_apply        masking keys leaves none
    StandAlone.of_covers          masking leaves a key that it keeps alone
    not_infix_toList_redact       a key that stands alone does not survive
-/

namespace Teller.Log

open Text Text.Pattern

variable {rule : SecretRule} {before : Option Char} {c : Char}
  {cs digits done key out post pre u v w x y : List Char}

/-! ## Keys -/

/-- The digits of a key: 64 hexadecimal ones. -/
structure AreKeyDigits (digits : List Char) : Prop where
  length : digits.length = 64
  hex : ∀ c ∈ digits, isHex c = true

/-- A key, with `0x` or without. -/
def IsKey (key : List Char) : Prop :=
  ∃ sign digits, (sign = [] ∨ sign = ['0', 'x']) ∧ AreKeyDigits digits ∧ key = sign ++ digits

/-- There is no character, or it is in no word. -/
def IsApart (c : Option Char) : Prop := ∀ d ∈ c, isWord d = false

instance : DecidablePred AreKeyDigits := fun digits =>
  decidable_of_iff (digits.length = 64 ∧ digits.all isHex = true)
    ⟨fun ⟨length, hex⟩ => ⟨length, List.all_eq_true.1 hex⟩,
      fun ⟨length, hex⟩ => ⟨length, List.all_eq_true.2 hex⟩⟩

instance : DecidablePred IsApart
  | none => .isTrue nofun
  | some d => decidable_of_iff (isWord d = false) (by simp [IsApart])

def hexDigits : List Char := charactersBetween [(48, 57), (97, 102), (65, 70)]

theorem of_isHex {f : Char → Bool} (table : hexDigits.all f = true) (h : isHex c = true) :
    f c = true := by
  refine List.all_eq_true.1 table c (mem_charactersBetween ?_)
  have code {a b : Char} (h : a ≤ b) : a.toNat ≤ b.toNat := UInt32.le_iff_toNat_le.1 h
  simp only [isHex, Bool.or_eq_true, Bool.and_eq_true, decide_eq_true_eq] at h
  simp only [List.any_cons, Bool.or_eq_true, Bool.and_eq_true, decide_eq_true_eq]
  rcases h with (digit | ⟨lower, upper⟩) | ⟨lower, upper⟩
  · obtain ⟨lower, upper⟩ := Bool.and_eq_true_iff.1 digit
    exact .inl ⟨code (of_decide_eq_true lower), code (of_decide_eq_true upper)⟩
  · exact .inr (.inl ⟨code lower, code upper⟩)
  · exact .inr (.inr (.inl ⟨code lower, code upper⟩))

theorem isWord_of_isHex (h : isHex c = true) : isWord c = true := of_isHex rfl h

namespace AreKeyDigits

theorem isPlain (h : AreKeyDigits digits) : IsPlain digits where
  avoids mem := absurd (h.hex _ mem) (by decide)
  ends last := absurd (h.hex _ (List.mem_of_getLast? last)) (by decide)
  long := by rw [h.length]; decide

end AreKeyDigits

namespace IsKey

theorem isPlain (h : IsKey key) : IsPlain key := by
  obtain ⟨sign, digits, hsign, hdigits, rfl⟩ := h
  have plain := hdigits.isPlain
  have nonempty : digits ≠ [] := List.ne_nil_of_length_pos (Nat.zero_lt_of_lt plain.long)
  refine ⟨?_, ?_, ?_⟩
  · rw [List.mem_append]
    rintro (mem | mem)
    · rcases hsign with rfl | rfl <;> simp at mem
    · exact plain.avoids mem
  · rw [List.getLast?_append_of_ne_nil sign nonempty]
    exact plain.ends
  · rw [List.length_append]
    exact Nat.lt_of_lt_of_le plain.long (Nat.le_add_left ..)

/-- A key begins and ends with characters of words. -/
theorem exists_ends (h : IsKey key) : ∃ first rest last, key = first :: rest ∧ key.getLast? = some last ∧
    isWord first = true ∧ isWord last = true := by
  obtain ⟨sign, digits, hsign, hdigits, rfl⟩ := h
  have nonempty : digits ≠ [] := List.ne_nil_of_length_pos (by rw [hdigits.length]; decide)
  have last := List.getLast?_eq_some_getLast nonempty
  have isLast := isWord_of_isHex (hdigits.hex _ (List.getLast_mem nonempty))
  rw [List.getLast?_append_of_ne_nil sign nonempty]
  rcases hsign with rfl | rfl
  · obtain ⟨first, rest, rfl⟩ := List.exists_cons_of_ne_nil nonempty
    exact ⟨first, rest, _, rfl, last, isWord_of_isHex (hdigits.hex first List.mem_cons_self), isLast⟩
  · exact ⟨'0', 'x' :: digits, _, rfl, last, by decide, isLast⟩

end IsKey

/-! ## Where keys are found -/

theorem isBoundary_before_iff (isFirst : isWord c = true) : Place.isBoundary ⟨before, c :: cs⟩ = true ↔
    IsApart before := by
  cases before <;> simp [Place.isBoundary, IsApart, isFirst]

theorem isBoundary_behind_iff (isLast : isWord c = true) : Place.isBoundary ⟨some c, cs⟩ = true ↔
    IsApart cs.head? := by
  cases cs <;> simp [Place.isBoundary, IsApart, isLast]

/-- A key without what must stand around it. -/
def keyText : Pattern := both (optional (text "0x")) (exactly 64 (one isHex))

theorem accepts_keyText_iff : keyText.Accepts w ↔ IsKey w := by
  have digits_iff (u : List Char) : (exactly 64 (one isHex)).Accepts u ↔ AreKeyDigits u := by
    rw [exactly, accepts_repeated_one_iff]
    constructor
    · rintro ⟨hex, least, most⟩
      exact ⟨Nat.le_antisymm (most 0 rfl) least, hex⟩
    · rintro ⟨length, hex⟩
      exact ⟨hex, Nat.le_of_eq length.symm, fun m h => by cases h; exact Nat.le_of_eq length⟩
  simp only [keyText, Accepts, accepts_optional_iff, accepts_text_iff, digits_iff, IsKey]
  rfl

/-- A match reads a key between two boundaries. -/
theorem mem_rests_walletKey_iff {p q : Place} : q ∈ walletKey.secret.rests p ↔
    p.isBoundary = true ∧ q.isBoundary = true ∧ ∃ key, IsKey key ∧ p.Reads key q := by
  have body : q ∈ walletKey.secret.rests p ↔ p.isBoundary = true ∧ q.isBoundary = true ∧
      q ∈ keyText.rests p := by
    show q ∈ (both boundary
      (both (optional (text "0x")) (both (exactly 64 (one isHex)) boundary))).rests p ↔ _
    simp only [keyText, mem_rests_both_iff, mem_rests_boundary_iff]
    constructor
    · rintro ⟨_, ⟨rfl, front⟩, m, sign, q, digits, rfl, behind⟩
      exact ⟨front, behind, m, sign, digits⟩
    · rintro ⟨front, behind, m, sign, digits⟩
      exact ⟨p, ⟨rfl, front⟩, m, sign, q, digits, rfl, behind⟩
  rw [body, mem_rests_iff (by decide)]
  simp only [accepts_keyText_iff]

theorem walletKey_found_iff : walletKey.matchAt? ⟨before, cs⟩ ≠ none ↔
    IsApart before ∧ ∃ key rest, IsKey key ∧ cs = key ++ rest ∧ IsApart rest.head? := by
  rw [SecretRule.matchAt?_ne_none_iff]
  have secret_iff (q : Place) : q ∈ (walletKey.label.both walletKey.secret).rests ⟨before, cs⟩ ↔
      q ∈ walletKey.secret.rests ⟨before, cs⟩ := by
    exact mem_rests_both_iff.trans (by simp [walletKey, rests])
  simp only [secret_iff, mem_rests_walletKey_iff]
  constructor
  · rintro ⟨q, front, behind, key, isKey, reads⟩
    obtain ⟨first, _, last, rfl, hlast, isFirst, isLast⟩ := isKey.exists_ends
    obtain rfl : cs = _ := reads.rest
    obtain ⟨b, rest⟩ := q
    have before_rest : b = some last := by simpa [hlast] using reads.before
    subst before_rest
    exact ⟨(isBoundary_before_iff isFirst).1 front, _, rest, isKey, rfl,
      (isBoundary_behind_iff isLast).1 behind⟩
  · rintro ⟨front, key, rest, isKey, rfl, behind⟩
    obtain ⟨first, _, last, rfl, hlast, isFirst, isLast⟩ := isKey.exists_ends
    exact ⟨⟨some last, rest⟩, (isBoundary_before_iff isFirst).2 front,
      (isBoundary_behind_iff isLast).2 behind, _, isKey, rfl, by rw [hlast]; rfl⟩

/-! ## Masking keys -/

/-- A word without asterisks at the beginning of a result stands at the beginning of the text, and
what follows is masked in turn, if there are no labels and the mask begins with an asterisk. -/
theorem Masked.of_not_mem (unlabelled : rule.label = .empty) (asterisk : rule.mask.head? = some '*')
    (avoids : '*' ∉ w) (h : Masked rule before cs (w ++ v)) :
    ∃ rest, cs = w ++ rest ∧ Masked rule (w.getLast?.or before) rest v := by
  induction w generalizing before cs with
  | nil => exact ⟨cs, rfl, h⟩
  | cons c w ih =>
    generalize hout : c :: w ++ v = out at h
    cases h with
    | nil => cases hout
    | keep clear rest =>
      injection hout with head tail
      subst head tail
      obtain ⟨cs', rfl, masked⟩ := ih (fun mem => avoids (List.mem_cons_of_mem c mem)) rest
      refine ⟨cs', rfl, ?_⟩
      rw [List.getLast?_cons]
      cases last : w.getLast? <;> rwa [last] at masked
    | hide isLabel isSecret found rest =>
      rw [unlabelled] at isLabel
      obtain rfl := isLabel
      obtain ⟨m, hm⟩ := List.head?_eq_some_iff.1 asterisk
      rw [hm] at hout
      injection hout with head
      exact absurd (head ▸ List.mem_cons_self) avoids

theorem known_walletKey : walletKey ∈ secretRules := by simp [secretRules]

/-- What follows a masked key is in no word. -/
theorem isApart_of_matchAt? {middle finish : Place}
    (found : walletKey.matchAt? ⟨before, cs⟩ = some (middle, finish)) : IsApart finish.rest.head? := by
  obtain ⟨mem, found⟩ := SecretRule.matchAt?_eq_some found
  obtain ⟨-, behind, key, isKey, reads⟩ := mem_rests_walletKey_iff.1 (List.mem_of_head? found)
  obtain ⟨_, _, last, -, hlast, -, isLast⟩ := isKey.exists_ends
  obtain ⟨b, rest⟩ := finish
  obtain rfl : b = some last := by simpa [hlast] using reads.before
  exact (isBoundary_behind_iff isLast).1 behind

/-- A key of the result would have been found in the text: a mask on either side stands for another
key, which is no part of a longer word. -/
theorem Masked.spares_walletKey (h : Masked walletKey before cs out) {behind : Option Char}
    (same : behind = before ∨ behind = some '*' ∧ IsApart cs.head?) (whole : out = x ++ y) :
    walletKey.matchAt? ⟨x.getLast?.or behind, y⟩ = none := by
  induction h generalizing x behind with
  | nil =>
    obtain ⟨rfl, rfl⟩ : x = [] ∧ y = [] := by simpa using whole
    by_contra found
    obtain ⟨-, key, rest, isKey, nothing, -⟩ := walletKey_found_iff.1 found
    have := isKey.isPlain.long
    rw [(List.append_eq_nil_iff.1 nothing.symm).1] at this
    cases this
  | @keep before c cs out clear rest ih =>
    cases x with
    | cons d x =>
      injection whole with head tail
      subst head
      have next := ih (.inl rfl) tail
      rw [List.getLast?_cons, Option.some_or]
      cases last : x.getLast? <;> simpa [last] using next
    | nil =>
      by_contra found
      obtain ⟨front, key, rest', isKey, rfl, back⟩ := walletKey_found_iff.1 found
      obtain ⟨first, _, last, hkey, hlast, isFirst, isLast⟩ := isKey.exists_ends
      obtain ⟨rest'', hcs, masked⟩ :=
        Masked.of_not_mem rfl (by decide) isKey.isPlain.avoids (whole ▸ Masked.keep clear rest)
      refine walletKey_found_iff.2 ⟨?_, key, rest'', isKey, hcs, ?_⟩ clear
      · rcases same with rfl | ⟨-, apart⟩
        · exact front
        · rw [hkey] at hcs
          injection hcs with head
          exact absurd (apart c rfl) (by rw [head, isFirst]; decide)
      · -- another key cannot follow directly
        rw [hlast, Option.some_or] at masked
        cases masked with
        | nil => exact nofun
        | keep => exact back
        | hide isLabel isSecret found' _ =>
          obtain rfl := isLabel
          have := (walletKey_found_iff.1 (found' ▸ Option.some_ne_none _)).1 last rfl
          rw [isLast] at this
          cases this
  | @hide before label secret cs out isLabel isSecret found rest ih =>
    obtain rfl := isLabel
    rw [List.nil_append] at whole
    rcases append_cases whole.symm with ⟨z, rfl, behindMask⟩ | ⟨m, nonempty, within, behindPlace⟩
    · have next := ih (.inr ⟨rfl, isApart_of_matchAt? found⟩) behindMask
      rw [List.getLast?_append, show walletKey.mask.getLast? = some '*' by decide]
      cases last : z.getLast? <;> simpa [last] using next
    · by_contra keyFound
      obtain ⟨-, key, rest', isKey, rfl, -⟩ := walletKey_found_iff.1 keyFound
      exact isKey.isPlain.foreign known_walletKey ((isStarred_mask known_walletKey).infix_of_not_mem
        isKey.isPlain.avoids within nonempty behindPlace)

/-- Masking keys leaves none that could be found. -/
theorem spares_walletKey_apply (cs : List Char) : walletKey.Spares (walletKey.apply cs) := by
  intro x y whole
  have masked := masked_apply (shortest_secret_pos known_walletKey) cs
  simpa using masked.spares_walletKey (.inl rfl) whole

/-! ## Keys that stand alone -/

/-- The text before and behind some digits leaves them a key that is no part of a longer word. -/
def StandAlone (before behind : List Char) : Prop :=
  (∃ pre sign, (sign = [] ∨ sign = ['0', 'x']) ∧ before = pre ++ sign ∧ IsApart pre.getLast?) ∧
    IsApart behind.head?

/-- Secrets do not end within the sign in front of a key that stands alone. -/
def LeavesSigns (rule : SecretRule) : Prop :=
  ∀ w secret, rule.secret.Accepts secret → (secret = w ++ ['0'] ∨ secret = w ++ ['0', 'x']) →
    ¬IsApart w.getLast?

theorem leavesSigns_keyBlock : LeavesSigns keyBlock := by
  have ends (d : Char) (avoid : keyBlock.secret.endsWithout d = true) {w secret : List Char}
      (h : keyBlock.secret.Accepts secret) : secret ≠ w ++ [d] := by
    rintro rfl
    exact getLast?_ne_of_endsWithout avoid h (by simp)
  rintro w secret h (rfl | rfl)
  · exact absurd rfl (ends '0' rfl h)
  · exact absurd (by simp) (ends 'x' rfl (w := w ++ ['0']) h)

theorem isKey_of_accepts (h : walletKey.secret.Accepts w) : IsKey w := by
  obtain ⟨_, _, rfl, ⟨sign, _, hsign, ⟨digits, _, hdigits, rfl, rfl⟩, rfl⟩, rfl⟩ := h
  exact accepts_keyText_iff.1 ⟨sign, digits, hsign, hdigits, by simp⟩

theorem leavesSigns_walletKey : LeavesSigns walletKey := by
  intro w secret h ends apart
  obtain ⟨sign, digits, -, ⟨length, hex⟩, rfl⟩ := isKey_of_accepts h
  obtain rfl | ⟨front, last, rfl⟩ := List.eq_nil_or_concat' digits
  · cases length
  rcases ends with ends | ends
  · -- the last digit is not the only one
    have ends : sign ++ front ++ [last] = w ++ ['0'] := by simpa using ends
    have nonempty : front ≠ [] := by
      rintro rfl
      cases length
    obtain rfl := (List.append_inj' ends rfl).1
    have isLast : isHex (front.getLast nonempty) = true :=
      hex _ (List.mem_append_left [last] (List.getLast_mem nonempty))
    have := apart (front.getLast nonempty) (by
      rw [List.getLast?_append_of_ne_nil sign nonempty, List.getLast?_eq_some_getLast nonempty]
      rfl)
    rw [isWord_of_isHex isLast] at this
    cases this
  · have ends : sign ++ front ++ [last] = w ++ ['0'] ++ ['x'] := by simpa using ends
    obtain rfl : last = 'x' := by simpa using (List.append_inj' ends rfl).2
    exact absurd (hex 'x' (by simp)) (by decide)

theorem IsApart.getLast?_of_append (h : IsApart (u ++ v).getLast?) : IsApart v.getLast? := by
  cases last : v.getLast? with
  | none => exact nofun
  | some c => rwa [List.getLast?_append, last, Option.some_or] at h

/-- Nothing becomes of nothing. -/
theorem Covers.eq_nil (nonempty : 0 < rule.secret.shortest) (h : Covers rule done [] out) : out = [] := by
  generalize hcs : ([] : List Char) = cs at h
  cases h with
  | nil => rfl
  | keep rest => cases hcs
  | hide isLabel follows isSecret rest =>
    have := shortest_le_length isSecret
    rw [(List.append_eq_nil_iff.1 hcs.symm).1, List.length_nil] at this
    omega

/-- Masking keeps a sign in front of a key as it is. -/
theorem Covers.exists_of_sign (leaves : LeavesSigns rule) (nonempty : 1 < rule.secret.shortest)
    (apart : IsApart pre.getLast?) (h : Covers rule done (pre ++ ['0', 'x']) x) :
    ∃ y, x = y ++ ['0', 'x'] ∧ Covers rule done pre y := by
  generalize hcs : pre ++ ['0', 'x'] = cs at h
  induction h generalizing pre with
  | nil => simp at hcs
  | @keep done c cs out rest ih =>
    cases pre with
    | cons d pre =>
      injection hcs with head tail
      subst head
      obtain ⟨y, rfl, covers⟩ := ih (apart.getLast?_of_append (u := [d])) tail
      exact ⟨d :: y, rfl, .keep covers⟩
    | nil =>
      obtain ⟨rfl, rfl⟩ : c = '0' ∧ cs = ['x'] := by simpa [eq_comm] using hcs
      generalize hx : ['x'] = cs at rest
      cases rest with
      | nil => cases hx
      | keep rest =>
        injection hx with head tail
        subst head tail
        exact ⟨[], by rw [rest.eq_nil (by omega)]; rfl, .nil done⟩
      | hide isLabel follows isSecret rest =>
        have long := shortest_le_length isSecret
        have := congrArg List.length hx
        rw [List.length_append, List.length_singleton] at this
        omega
  | @hide done label secret cs out isLabel follows isSecret rest ih =>
    rcases append_cases hcs with ⟨z, rfl, behind⟩ | ⟨m, some_sign, within, behind⟩
    · obtain ⟨y, rfl, covers⟩ := ih apart.getLast?_of_append behind.symm
      exact ⟨rule.mask ++ y, (List.append_assoc ..).symm, .hide isLabel follows isSecret covers⟩
    · -- the secret would end with a part of the sign
      refine absurd apart (leaves pre secret isSecret ?_)
      rcases m with _ | ⟨d, _ | ⟨e, m⟩⟩
      · exact absurd rfl some_sign
      · injection behind with head
        exact .inl (head ▸ within)
      · injection behind with head tail
        injection tail with second last
        obtain ⟨rfl, -⟩ := List.append_eq_nil_iff.1 last.symm
        exact .inr (by rw [within, head, second])

/-- A mask is no part of the word behind it. -/
theorem Covers.isApart_head? (known : rule ∈ secretRules) (apart : IsApart cs.head?)
    (h : Covers rule done cs out) : IsApart out.head? := by
  have table : ∀ rule ∈ secretRules, rule.mask ≠ [] ∧ IsApart rule.mask.head? := by decide
  cases h with
  | nil => exact nofun
  | keep rest => exact apart
  | hide isLabel follows isSecret rest =>
    intro c hc
    rw [List.head?_append_of_ne_nil _ (table rule known).1] at hc
    exact (table rule known).2 c hc

theorem Covers.getLast?_cases (ends : rule.mask.getLast? = some '*') (h : Covers rule done cs out) :
    out.getLast? = cs.getLast? ∨ out.getLast? = some '*' := by
  induction h with
  | nil => exact .inl rfl
  | keep rest ih =>
    rw [List.getLast?_cons, List.getLast?_cons]
    rcases ih with same | asterisk
    · exact .inl (by rw [same])
    · exact .inr (by rw [asterisk]; rfl)
  | @hide _ _ _ cs out isLabel follows isSecret rest ih =>
    rw [List.getLast?_append, List.getLast?_append, ends]
    rcases ih with same | asterisk
    · rw [same]
      cases cs.getLast? with
      | none => exact .inr rfl
      | some c => exact .inl rfl
    · exact .inr (by rw [asterisk]; rfl)

/-- A mask is no part of the word before it. -/
theorem Covers.isApart_getLast? (known : rule ∈ secretRules) (apart : IsApart cs.getLast?)
    (h : Covers rule done cs out) : IsApart out.getLast? := by
  rcases h.getLast?_cases (isStarred_mask known).ends with same | asterisk
  · rwa [same]
  · rw [asterisk]
    rintro _ ⟨⟩
    decide

theorem StandAlone.of_covers (known : rule ∈ secretRules) (leaves : LeavesSigns rule)
    (front : Covers rule done x u) {done' : List Char} (back : Covers rule done' y v)
    (h : StandAlone x y) :
    StandAlone u v := by
  obtain ⟨⟨pre, sign, rfl | rfl, rfl, apart⟩, behind⟩ := h
  · rw [List.append_nil] at front
    exact ⟨⟨u, [], .inl rfl, (List.append_nil u).symm, front.isApart_getLast? known apart⟩,
      back.isApart_head? known behind⟩
  · have long : ∀ rule ∈ secretRules, 1 < rule.secret.shortest := by decide
    obtain ⟨y, rfl, covers⟩ := front.exists_of_sign leaves (long rule known) apart
    exact ⟨⟨y, _, .inr rfl, rfl, covers.isApart_getLast? known apart⟩, back.isApart_head? known behind⟩

/-- A plain word of what a rule makes of a text stands in the text. -/
theorem exists_of_apply (known : rule ∈ secretRules) (plain : IsPlain w)
    (whole : rule.apply cs = x ++ (w ++ y)) :
    ∃ u v, cs = u ++ (w ++ v) ∧ Covers rule [] u x ∧ Covers rule (x ++ w) v y := by
  have covers := (masked_apply (shortest_secret_pos known) cs).covers []
  rw [whole] at covers
  exact covers.exists_of_plain known plain

theorem exists_of_foldl {rules : List SecretRule} (known : ∀ rule ∈ rules, rule ∈ secretRules)
    (plain : IsPlain w)
    (whole : rules.foldl (fun cs rule => rule.apply cs) cs = x ++ (w ++ y)) :
    ∃ u v, cs = u ++ (w ++ v) := by
  induction rules generalizing cs with
  | nil => exact ⟨x, y, whole⟩
  | cons rule rules ih =>
    obtain ⟨u, v, h⟩ := ih (fun rule mem => known rule (List.mem_cons_of_mem _ mem)) whole
    obtain ⟨u, v, rfl, -⟩ := exists_of_apply (known rule List.mem_cons_self) plain h
    exact ⟨u, v, rfl⟩

/-- The rules after those for blocks of keys and for keys. -/
def laterRules : List SecretRule := [seedPhrase, accessToken, password, credential]

theorem redactAll_eq_foldl (cs : List Char) :
    redactAll cs =
      laterRules.foldl (fun cs rule => rule.apply cs) (walletKey.apply (keyBlock.apply cs)) := by
  simp only [redactAll, secretRules, laterRules, List.foldl_cons]

/-- A key that stands alone is found. -/
theorem StandAlone.found (h : StandAlone x y) (isKey : AreKeyDigits digits) :
    ¬walletKey.Spares (x ++ (digits ++ y)) := by
  obtain ⟨⟨pre, sign, isSign, rfl, front⟩, behind⟩ := h
  intro spares
  refine walletKey_found_iff.2 ⟨front, sign ++ digits, y, ⟨sign, digits, isSign, isKey, rfl⟩, rfl, behind⟩
    (spares pre (sign ++ digits ++ y) (by simp))

/-- The word stands in the text before the given rest and nowhere else. -/
def StandsOnlyBefore (text word rest : List Char) : Prop := ∀ x y, text = x ++ (word ++ y) → y = rest

/-- The digits of a key do not survive, if they stand nowhere else in the text and the key is
between the ends of the text and characters that are in no word. -/
theorem not_infix_toList_redact (pre sign digits post : String) (isSign : sign = "" ∨ sign = "0x")
    (isKey : AreKeyDigits digits.toList) (front : IsApart pre.toList.getLast?)
    (behind : IsApart post.toList.head?)
    (once : StandsOnlyBefore (pre ++ (sign ++ digits) ++ post).toList digits.toList post.toList) :
    ¬digits.toList <:+: (redact (pre ++ (sign ++ digits) ++ post)).toList := by
  have whole : (pre ++ (sign ++ digits) ++ post).toList =
      (pre.toList ++ sign.toList) ++ (digits.toList ++ post.toList) := by
    simp only [String.toList_append, List.append_assoc]
  have isSign' : sign.toList = [] ∨ sign.toList = ['0', 'x'] :=
    isSign.imp (congrArg String.toList) (congrArg String.toList)
  rw [redact, String.toList_ofList]
  rw [whole] at once ⊢
  generalize digits.toList = digits at isKey once ⊢
  rintro ⟨x₃, y₃, survives⟩
  have known : keyBlock ∈ secretRules := by simp [secretRules]
  have later : ∀ rule ∈ laterRules, rule ∈ secretRules := by simp [laterRules, secretRules]
  -- the digits in the result come from digits in the text
  rw [redactAll_eq_foldl, List.append_assoc] at survives
  obtain ⟨x₂, y₂, h₂⟩ := exists_of_foldl later isKey.isPlain survives.symm
  obtain ⟨x₁, y₁, h₁, front₂, behind₂⟩ := exists_of_apply known_walletKey isKey.isPlain h₂
  obtain ⟨x, y, h, front₁, behind₁⟩ := exists_of_apply known isKey.isPlain h₁
  -- and those stand alone, also after blocks of keys and keys have been masked
  obtain rfl : y = post.toList := once x y h
  obtain rfl : pre.toList ++ sign.toList = x := List.append_cancel_right h
  have alone : StandAlone (pre.toList ++ sign.toList) post.toList := ⟨⟨_, _, isSign', rfl, front⟩, behind⟩
  have alone₁ := alone.of_covers known leavesSigns_keyBlock front₁ behind₁
  have alone₂ := alone₁.of_covers known_walletKey leavesSigns_walletKey front₂ behind₂
  exact alone₂.found isKey (h₂ ▸ spares_walletKey_apply _)

theorem standsOnlyBefore_iff {text word rest : List Char} : StandsOnlyBefore text word rest ↔
    ∀ tail ∈ text.tails, word <+: tail → tail.drop word.length = rest := by
  constructor
  · rintro once tail mem ⟨y, rfl⟩
    obtain ⟨x, whole⟩ := (List.mem_tails _ _).1 mem
    rw [List.drop_left]
    exact once x y whole.symm
  · rintro once x y rfl
    have := once (word ++ y) ((List.mem_tails _ _).2 (List.suffix_append x _)) (List.prefix_append word y)
    rwa [List.drop_left] at this

instance (text word rest : List Char) : Decidable (StandsOnlyBefore text word rest) :=
  decidable_of_iff _ standsOnlyBefore_iff.symm

/-- The digits of some key. -/
def someDigits : String := "4f3edf983ac636a65a842ce7c78d9aa706d3b113bce9c46f30d7d21715b23b1d"

/-- A key in a message that also assigns a password. -/
theorem not_infix_toList_redact_of_message :
    AreKeyDigits someDigits.toList ∧
      StandsOnlyBefore ("pwd: \"x\", key=" ++ ("0x" ++ someDigits) ++ "\n").toList
        someDigits.toList "\n".toList ∧
      ¬someDigits.toList <:+: (redact ("pwd: \"x\", key=" ++ ("0x" ++ someDigits) ++ "\n")).toList :=
  have isKey : AreKeyDigits someDigits.toList := by decide +kernel
  have once : StandsOnlyBefore ("pwd: \"x\", key=" ++ ("0x" ++ someDigits) ++ "\n").toList
      someDigits.toList "\n".toList := by decide +kernel
  ⟨isKey, once, not_infix_toList_redact "pwd: \"x\", key=" "0x" someDigits "\n" (.inr rfl) isKey
    (by decide +kernel) (by decide +kernel) once⟩

end Teller.Log
