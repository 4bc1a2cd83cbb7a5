import Mathlib.Data.List.TakeWhile
import Teller.Number.Conversion
import Teller.Text.Characters

/-!
# Numerals are numbers

A numeral is what a search for numbers finds in a text: digits of any script, with a fraction or
without one, and perhaps with a minus sign. However it is composed, it reads as a number. A number
that is written plainly is first made a whole number only if it is one, so that it can always be
written.

    not_isMargin_of_isDigit       a digit is no blank
    isDigit_latinDigit            a digit of any script stands for an ASCII digit
    IsNumeral.read?_eq            a numeral reads as the double for its decimal
    IsNumeral.exists_read?        a numeral reads as a number
    plainOf_eq_ok                 every number can be written plainly
-/

namespace Teller

/-! ## Digits -/

namespace Text

theorem toNat_of_isDigit {c : Char} (h : c.isDigit = true) : 48 ≤ c.toNat ∧ c.toNat ≤ 57 :=
  Char.isDigit_iff_toNat.1 h

theorem digit?_lt {c : Char} {d : Nat} (h : digit? c = some d) : d < 10 := by
  unfold digit? at h
  split at h
  · next ascii =>
    cases h
    have := toNat_of_isDigit ascii
    omega
  · split at h
    · cases h
    · obtain ⟨first, found, rfl⟩ := Option.map_eq_some_iff.1 h
      have within := List.find?_some found
      simp only [Bool.and_eq_true, decide_eq_true_eq] at within
      omega

/-- No digit system overlaps with the blanks. -/
theorem not_isBlank_of_isDigit {c : Char} (h : isDigit c = true) : isBlank c = false := by
  have clear : ∀ z ∈ digitZeros, 160 < z ∧ (z + 10 ≤ 5760 ∨ 5760 < z) ∧
      (z + 10 ≤ 8192 ∨ 8287 < z) ∧ (z + 10 ≤ 12288 ∨ 12288 < z) := by
    decide
  have apart : 48 ≤ c.toNat ∧ c.toNat ≤ 57 ∨ 160 < c.toNat ∧ c.toNat ≠ 5760 ∧
      (c.toNat < 8192 ∨ 8287 < c.toNat) ∧ c.toNat ≠ 12288 := by
    obtain ⟨d, hd⟩ := Option.isSome_iff_exists.1 h
    unfold digit? at hd
    split at hd
    · next ascii => exact .inl (toNat_of_isDigit ascii)
    · split at hd
      · cases hd
      · obtain ⟨first, found, _⟩ := Option.map_eq_some_iff.1 hd
        have within := List.find?_some found
        have := clear first (List.mem_of_find?_eq_some found)
        simp only [Bool.and_eq_true, decide_eq_true_eq] at within
        omega
  simp only [isBlank, List.any_cons, List.any_nil, Bool.or_eq_false_iff, Bool.and_eq_false_iff,
    decide_eq_false_iff_not, and_true]
  omega

theorem strip_eq_self {drop : Char → Bool} {cs : List Char} (h : ∀ c ∈ cs, drop c = false) :
    strip drop cs = cs := by
  have keeps (l : List Char) (hl : ∀ c ∈ l, drop c = false) : l.dropWhile drop = l := by
    cases l with
    | nil => rfl
    | cons c rest => rw [List.dropWhile_cons_of_neg (by simp [hl c List.mem_cons_self])]
  unfold strip
  rw [keeps cs h, keeps _ fun c hc => h c (List.mem_reverse.1 hc), List.reverse_reverse]

/-- Digits go as far as the next character that is none. -/
theorem span_isDigit {digits rest : List Char} (h : ∀ c ∈ digits, isDigit c = true)
    (ends : ∀ c ∈ rest.head?, isDigit c = false) :
    (digits ++ rest).takeWhile isDigit = digits ∧ (digits ++ rest).dropWhile isDigit = rest := by
  rw [List.takeWhile_append_of_pos h, List.dropWhile_append_of_pos h]
  cases rest with
  | nil => exact ⟨List.append_nil _, rfl⟩
  | cons c rest => simp [ends c rfl]

end Text

namespace Number

open Text

theorem not_isMargin_of_isDigit {c : Char} (h : isDigit c = true) : isMargin c = false := by
  rw [isMargin, not_isBlank_of_isDigit h]
  rfl

theorem isDigit_latinDigit {c : Char} (h : isDigit c = true) : (latinDigit c).isDigit = true := by
  obtain ⟨d, hd⟩ := Option.isSome_iff_exists.1 h
  have ascii : ∀ d < 10, (Char.ofNat (48 + d)).isDigit = true := by decide
  rw [latinDigit, hd]
  exact ascii d (digit?_lt hd)

theorem isDigit_map_latinDigit {cs : List Char} (digits : ∀ c ∈ cs, isDigit c = true) :
    ∀ c ∈ cs.map latinDigit, c.isDigit = true := by
  intro c hc
  obtain ⟨b, hb, rfl⟩ := List.mem_map.1 hc
  exact isDigit_latinDigit (digits b hb)

/-! ## Numerals -/

/-- A minus sign or none, digits, and a point with further digits or nothing. -/
structure IsNumeral (minus whole tail : List Char) : Prop where
  minus_eq : minus = [] ∨ minus = ['-']
  whole_ne_nil : whole ≠ []
  whole_isDigit : ∀ c ∈ whole, isDigit c = true
  tail_eq : tail = [] ∨ ∃ fraction, tail = '.' :: fraction ∧ ∀ c ∈ fraction, isDigit c = true

/-- A text without underscores stays as it is. -/
theorem withoutUnderscores?_eq_some {afterDigit : Bool} {cs : List Char} (h : '_' ∉ cs) :
    withoutUnderscores? afterDigit cs = some cs := by
  induction cs generalizing afterDigit with
  | nil => rfl
  | cons c rest ih =>
    have other : c ≠ '_' := fun same => h (same ▸ List.mem_cons_self)
    unfold withoutUnderscores?
    split
    · next heq => cases heq
    · next heq => exact absurd (List.cons.inj heq).1 other
    · next heq =>
      cases heq
      rw [ih fun mem => h (List.mem_cons_of_mem _ mem)]
      rfl

theorem decimal?_whole {whole : List Char} (nonempty : whole ≠ [])
    (digits : ∀ c ∈ whole, c.isDigit = true) : decimal? whole = some ⟨ofDigits whole, 0⟩ := by
  have all_taken : whole.dropWhile Char.isDigit = [] := List.dropWhile_eq_nil_iff.2 digits
  unfold decimal? splitNumeral
  rw [all_taken, List.takeWhile_eq_self_iff.2 digits]
  simp [nonempty, exponent?]

theorem decimal?_fraction {whole fraction : List Char} (nonempty : whole ≠ [])
    (digits : ∀ c ∈ whole, c.isDigit = true) (digits' : ∀ c ∈ fraction, c.isDigit = true) :
    decimal? (whole ++ '.' :: fraction) =
      some ⟨ofDigits (whole ++ fraction), -(fraction.length : Int)⟩ := by
  have point : ('.' : Char).isDigit = false := by decide
  have all_taken : fraction.dropWhile Char.isDigit = [] := List.dropWhile_eq_nil_iff.2 digits'
  unfold decimal? splitNumeral
  rw [List.takeWhile_append_of_pos digits, List.dropWhile_append_of_pos digits]
  simp [point, nonempty, all_taken, List.takeWhile_eq_self_iff.2 digits', exponent?]

/-- Digits, alone or with a fraction, are a decimal. -/
theorem exists_decimal? {whole tail : List Char} (nonempty : whole ≠ [])
    (digits : ∀ c ∈ whole, c.isDigit = true)
    (ends : tail = [] ∨ ∃ fraction, tail = '.' :: fraction ∧ ∀ c ∈ fraction, c.isDigit = true) :
    ∃ d, decimal? (whole ++ tail) = some d := by
  rcases ends with rfl | ⟨fraction, rfl, digits'⟩
  · rw [List.append_nil]
    exact ⟨_, decimal?_whole nonempty digits⟩
  · exact ⟨_, decimal?_fraction nonempty digits digits'⟩

theorem toLower_of_isDigit {c : Char} (h : c.isDigit = true) : c.toLower = c := by
  unfold Char.toLower
  rw [dif_neg]
  rintro ⟨upper, -⟩
  have := (toNat_of_isDigit h).2
  have : 65 ≤ c.toNat := UInt32.le_iff_toNat_le.1 upper
  omega

/-- What begins with a digit is none of the words for numbers. -/
theorem size?_of_isDigit {c : Char} (rest : List Char) (h : c.isDigit = true) :
    size? (c :: rest) = (decimal? (c :: rest)).map Decimal.toFloat := by
  have no_word (word : String) (letter : word.toList.head?.any Char.isDigit = false) :
      (String.ofList ((c :: rest).map Char.toLower) == word) = false := by
    apply eq_false_of_ne_true
    intro same
    rw [← beq_iff_eq.1 same, String.toList_ofList, List.map_cons, toLower_of_isDigit h] at letter
    exact Bool.false_ne_true (letter.symm.trans h)
  unfold size?
  dsimp only
  rw [no_word "inf" (by decide), no_word "infinity" (by decide), no_word "nan" (by decide)]
  rfl

theorem splitSign_of_isDigit {c : Char} {rest : List Char} (h : c.isDigit = true) :
    splitSign (c :: rest) = (false, c :: rest) := by
  unfold splitSign
  split
  · next heq =>
    cases heq
    exact absurd h (by decide)
  · next heq =>
    cases heq
    exact absurd h (by decide)
  · rfl

namespace IsNumeral

variable {minus whole tail : List Char}

theorem cases_of_mem (h : IsNumeral minus whole tail) {c : Char} (hc : c ∈ minus ++ (whole ++ tail)) :
    c = '-' ∨ c = '.' ∨ isDigit c = true := by
  rcases List.mem_append.1 hc with hc | hc
  · rcases h.minus_eq with rfl | rfl
    · cases hc
    · exact .inl (List.mem_singleton.1 hc)
  · rcases List.mem_append.1 hc with hc | hc
    · exact .inr (.inr (h.whole_isDigit c hc))
    · rcases h.tail_eq with rfl | ⟨fraction, rfl, digits⟩
      · cases hc
      · rcases List.mem_cons.1 hc with rfl | hc
        · exact .inr (.inl rfl)
        · exact .inr (.inr (digits c hc))

/-- In ASCII digits a numeral is a numeral. -/
theorem exists_decimal?_map (h : IsNumeral minus whole tail) :
    ∃ d, decimal? (whole.map latinDigit ++ tail.map latinDigit) = some d := by
  refine exists_decimal? (by simpa using h.whole_ne_nil) (isDigit_map_latinDigit h.whole_isDigit) ?_
  rcases h.tail_eq with rfl | ⟨fraction, rfl, digits⟩
  · exact .inl rfl
  · exact .inr ⟨_, rfl, isDigit_map_latinDigit digits⟩

theorem no_underscore (h : IsNumeral minus whole tail) :
    '_' ∉ (minus ++ (whole ++ tail)).map latinDigit := by
  intro mem
  obtain ⟨c, hc, same⟩ := List.mem_map.1 mem
  rcases h.cases_of_mem hc with rfl | rfl | digit
  · exact absurd same (by decide)
  · exact absurd same (by decide)
  · have ascii := isDigit_latinDigit digit
    rw [same] at ascii
    exact absurd ascii (by decide)

/-- A numeral reads as the double for its decimal, with its sign. -/
theorem read?_eq (h : IsNumeral minus whole tail) :
    read? (String.ofList (minus ++ (whole ++ tail))) =
      (decimal? (whole.map latinDigit ++ tail.map latinDigit)).map fun d =>
        if minus.isEmpty then d.toFloat else -d.toFloat := by
  have no_margin : ∀ c ∈ minus ++ (whole ++ tail), isMargin c = false := by
    intro c hc
    rcases h.cases_of_mem hc with rfl | rfl | digit
    · decide
    · decide
    · exact not_isMargin_of_isDigit digit
  unfold read?
  dsimp only
  rw [String.toList_ofList, strip_eq_self no_margin, withoutUnderscores?_eq_some h.no_underscore,
    Option.bind_some]
  obtain ⟨first, rest, rfl⟩ := List.exists_cons_of_ne_nil h.whole_ne_nil
  have starts := isDigit_latinDigit (h.whole_isDigit first List.mem_cons_self)
  have size := size?_of_isDigit (rest.map latinDigit ++ tail.map latinDigit) starts
  rcases h.minus_eq with rfl | rfl
  · -- without a sign the text begins with a digit
    rw [List.nil_append, List.cons_append, List.map_cons, List.map_append, splitSign_of_isDigit starts,
      size, Option.map_map]
    rfl
  · have minus_latin : latinDigit '-' = '-' := by decide
    simp only [List.cons_append, List.nil_append, List.map_cons, List.map_append, minus_latin, splitSign]
    rw [size, Option.map_map]
    rfl

/-- A numeral reads as a number. -/
theorem exists_read? (h : IsNumeral minus whole tail) :
    ∃ x, read? (String.ofList (minus ++ (whole ++ tail))) = some x := by
  obtain ⟨d, hd⟩ := h.exists_decimal?_map
  rw [h.read?_eq, hd]
  exact ⟨_, rfl⟩

end IsNumeral

/-! ## Writing plainly -/

/-- The plain form of a number, made from its whole part if it is a whole number. -/
def plainOf (x : Float) : Except Fault String :=
  if isWhole x then (wholeOf x).map ofInt
  else .ok (String.ofList (dropTrailingZeros (fixed 12 x).toList))

/-- Every number can be written plainly: only a finite one is made a whole number. -/
theorem plainOf_eq_ok (x : Float) : plainOf x = .ok (plain x) := by
  unfold plainOf plain isWhole truncate? wholeOf
  cases Binary.ofFloat x with
  | finite negative m e =>
    dsimp only
    split
    · next whole =>
      rw [whole]
      rfl
    · next broken =>
      rw [eq_false_of_ne_true broken]
  | infinite negative => rfl
  | nan => rfl

end Number

end Teller
