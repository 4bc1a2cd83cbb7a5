import Teller.Validation.Address

/-!
# What passes for an address

An address is written in hexadecimal, as `0x` and forty digits, or natively, in letters and digits
that do not begin with `0x`. No address is turned down. Two kinds of texts pass that are none: one
that begins with `0x` and has too few or too many digits, if it is as long as a native address; and
any text that passes with a line feed behind it.

    isValid_eq_true_iff          what passes
    not_isPadded                 nothing that is written in one of the two forms is padded
    passes_iff_isAddress         when only addresses pass
    cutShort_passes              an address that misses its last digit passes
-/

namespace Teller.Address

/-- `0x` and exactly forty hexadecimal digits. -/
def InHexadecimal (cs : List Char) : Prop :=
  ∃ digits, cs = '0' :: 'x' :: digits ∧ digits.length = 40 ∧ ∀ c ∈ digits, Text.isHex c = true

/-- Between 39 and 59 letters and digits of ASCII. -/
def InLetters (cs : List Char) : Prop :=
  39 ≤ cs.length ∧ cs.length ≤ 59 ∧ ∀ c ∈ cs, c.isAlphanum = true

/-- An address: in hexadecimal, or in letters and digits that do not begin with `0x`. -/
def IsAddress (cs : List Char) : Prop := InHexadecimal cs ∨ ¬['0', 'x'] <+: cs ∧ InLetters cs

/-- It begins like an address in hexadecimal and does not have forty digits, but is as long as a
native address. -/
def IsMisshapen (cs : List Char) : Prop := ['0', 'x'] <+: cs ∧ InLetters cs ∧ ¬InHexadecimal cs

/-- One of the two forms with a line feed behind it. -/
def IsPadded (cs : List Char) : Prop :=
  ∃ body, cs = body ++ ['\n'] ∧ (InHexadecimal body ∨ InLetters body)

variable {cs : List Char}

theorem isHexadecimal_eq_true_iff : isHexadecimal cs = true ↔ InHexadecimal cs := by
  unfold isHexadecimal
  split
  · next digits =>
    rw [Bool.and_eq_true, beq_iff_eq, List.all_eq_true]
    constructor
    · rintro ⟨length, hex⟩
      exact ⟨digits, rfl, length, hex⟩
    · rintro ⟨_, ⟨⟩, length, hex⟩
      exact ⟨length, hex⟩
  · next other =>
    constructor
    · exact nofun
    · rintro ⟨digits, h, -⟩
      exact absurd h (other digits)

theorem isNative_eq_true_iff : isNative cs = true ↔ InLetters cs := by
  simp only [isNative, InLetters, Bool.and_eq_true, decide_eq_true_eq, List.all_eq_true, and_assoc]

/-- There is no line feed in either form. -/
theorem not_mem_of_written (h : InHexadecimal cs ∨ InLetters cs) : '\n' ∉ cs := by
  intro mem
  rcases h with ⟨digits, rfl, -, hex⟩ | ⟨-, -, letters⟩
  · have : '\n' ∈ digits := by simpa using mem
    exact absurd (hex _ this) (by decide)
  · exact absurd (letters _ mem) (by decide)

theorem not_isPadded (h : InHexadecimal cs ∨ InLetters cs) : ¬IsPadded cs := by
  rintro ⟨body, rfl, -⟩
  exact not_mem_of_written h (List.mem_append_right body List.mem_cons_self)

/-- What passes: one of the two forms, be it with a line feed behind it. -/
theorem isValid_eq_true_iff {s : String} :
    isValid s = true ↔ (InHexadecimal s.toList ∨ InLetters s.toList) ∨ IsPadded s.toList := by
  unfold isValid withoutLineFeed
  generalize s.toList = cs
  dsimp only
  split
  · next ends =>
    -- the line feed rules out both forms for the text itself
    obtain ⟨body, rfl⟩ := List.getLast?_eq_some_iff.1 ends
    have not_written : ¬(InHexadecimal (body ++ ['\n']) ∨ InLetters (body ++ ['\n'])) := fun written =>
      not_mem_of_written written (List.mem_append_right body List.mem_cons_self)
    rw [List.dropLast_concat, Bool.or_eq_true, isHexadecimal_eq_true_iff, isNative_eq_true_iff,
      or_iff_right not_written]
    constructor
    · exact fun written => ⟨body, rfl, written⟩
    · rintro ⟨other, same, written⟩
      rwa [(List.append_inj' same rfl).1]
  · next ends =>
    have not_padded : ¬IsPadded cs := by
      rintro ⟨body, rfl, -⟩
      exact ends List.getLast?_concat
    rw [Bool.or_eq_true, isHexadecimal_eq_true_iff, isNative_eq_true_iff, or_iff_left not_padded]

theorem isAddress_or_isMisshapen_iff :
    IsAddress cs ∨ IsMisshapen cs ↔ InHexadecimal cs ∨ InLetters cs := by
  unfold IsAddress IsMisshapen
  by_cases start : ['0', 'x'] <+: cs
  · by_cases hex : InHexadecimal cs <;> simp [start, hex]
  · have not_hex : ¬InHexadecimal cs := by
      rintro ⟨digits, rfl, -⟩
      exact start (List.prefix_append ['0', 'x'] digits)
    simp [start, not_hex]

theorem not_isAddress_of_isMisshapen (h : IsMisshapen cs) : ¬IsAddress cs := by
  rintro (hex | ⟨start, -⟩)
  · exact h.2.2 hex
  · exact start h.1

instance : DecidablePred InHexadecimal := fun _ => decidable_of_iff _ isHexadecimal_eq_true_iff

instance : DecidablePred InLetters := fun _ => decidable_of_iff _ isNative_eq_true_iff

instance : DecidablePred IsAddress := fun _ => inferInstanceAs (Decidable (_ ∨ _ ∧ _))

/-- No address is turned down, and a text passes exactly if it is an address, unless it begins with
`0x` and is as long as a native address without having forty digits, or has a line feed at its end.
-/
theorem passes_iff_isAddress (s : String) :
    (IsAddress s.toList → isValid s = true) ∧
    ((isValid s = true ↔ IsAddress s.toList) ↔ ¬IsMisshapen s.toList ∧ ¬IsPadded s.toList) := by
  rw [isValid_eq_true_iff, ← isAddress_or_isMisshapen_iff]
  refine ⟨fun address => .inl (.inl address), ?_⟩
  constructor
  · intro only
    constructor
    · intro misshapen
      exact not_isAddress_of_isMisshapen misshapen (only.1 (.inl (.inr misshapen)))
    · intro padded
      have address : IsAddress s.toList := only.1 (.inr padded)
      exact not_isPadded (isAddress_or_isMisshapen_iff.1 (.inl address)) padded
  · rintro ⟨not_misshapen, not_padded⟩
    rw [or_iff_left not_misshapen, or_iff_left not_padded]

/-- Forty digits, the last one missing. -/
def cutShort : String := "0xa1a1a1a1a1a1a1a1a1a1a1a1a1a1a1a1a1a1a1a"

/-- The address without its last digit passes, and so does the whole one with a line feed behind it.
-/
theorem cutShort_passes :
    (isValid cutShort = true ∧ ¬IsAddress cutShort.toList) ∧
    isValid (cutShort ++ "1\n") = true ∧ ¬IsAddress (cutShort ++ "1\n").toList := by
  decide +kernel

end Teller.Address
