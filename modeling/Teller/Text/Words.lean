import Teller.Text.Characters

/-!
# Searching and cutting text

Trimming and squeezing of blanks, parts of a text, and phrases that stand in a text as whole words.
The work is done on lists of characters; the functions on texts only wrap it.

    occursIn_eq_true_iff       a part of a text is what stands between two others
    standsIn_eq_true_iff       a phrase stands in a text where its neighbours are no word characters
-/

namespace Teller.Text

/-- The text without the leading and trailing characters of a class. -/
def strip (drop : Char → Bool) (cs : List Char) : List Char :=
  ((cs.dropWhile drop).reverse.dropWhile drop).reverse

/-- The text without leading and trailing blanks. -/
def trim (s : String) : String := String.ofList (strip isBlank s.toList)

/-- Every run of blanks becomes one space. -/
def squeeze : List Char → List Char
  | [] => []
  | c :: rest =>
    if isBlank c then
      match rest with
      | [] => [' ']
      | d :: _ => if isBlank d then squeeze rest else ' ' :: squeeze rest
    else c :: squeeze rest

/-- `needle` is a part of the text. -/
def occursIn (needle : List Char) : List Char → Bool
  | [] => needle.isEmpty
  | c :: rest => needle.isPrefixOf (c :: rest) || occursIn needle rest

def contains (s needle : String) : Bool := occursIn needle.toList s.toList

def startsWith (s start : String) : Bool := start.toList.isPrefixOf s.toList

/-- The text begins outside a word. -/
def startsOutsideWord : List Char → Bool
  | [] => true
  | c :: _ => !isWord c

/-- The phrase is at the start of the text and the text goes on outside a word. -/
def standsAt : (phrase text : List Char) → Bool
  | [], text => startsOutsideWord text
  | _ :: _, [] => false
  | p :: phrase, c :: text => p == c && standsAt phrase text

/-- The phrase stands in the text as whole words; `open` tells whether a word may begin here. -/
def standsFrom (phrase : List Char) : (fresh : Bool) → (text : List Char) → Bool
  | fresh, [] => fresh && standsAt phrase []
  | fresh, c :: text =>
    fresh && standsAt phrase (c :: text) || standsFrom phrase (!isWord c) text

/-- `phrase`, which begins and ends with a word character, stands in `s` as whole words: neither the
character before it nor the one after it belongs to a word. -/
def standsIn (phrase s : String) : Bool := standsFrom phrase.toList true s.toList

/-- The fields between the separators; there is one more field than there are separators. -/
def fields (separator : Char) : List Char → List (List Char)
  | [] => [[]]
  | c :: rest =>
    if c == separator then [] :: fields separator rest
    else match fields separator rest with
      | [] => [[c]]
      | field :: others => (c :: field) :: others

/-- The pieces between runs of separating characters. A separator at an end leaves an empty piece.
-/
def pieces (separates : Char → Bool) : List Char → List (List Char)
  | [] => [[]]
  | c :: rest =>
    if separates c then
      match rest with
      | [] => [[], []]
      | d :: _ => if separates d then pieces separates rest else [] :: pieces separates rest
    else match pieces separates rest with
      | [] => [[c]]
      | piece :: others => (c :: piece) :: others

/-- The texts with a separator between neighbours. -/
def joined (separator : String) (parts : List String) : String := String.intercalate separator parts

/-! ## Lemmas -/

theorem occursIn_eq_true_iff {needle text : List Char} :
    occursIn needle text = true ↔ ∃ before after, text = before ++ (needle ++ after) := by
  induction text with
  | nil => simp [occursIn]
  | cons c rest ih =>
    simp only [occursIn, Bool.or_eq_true, List.isPrefixOf_iff_prefix, ih]
    constructor
    · rintro (⟨after, h⟩ | ⟨before, after, h⟩)
      · exact ⟨[], after, h.symm⟩
      · exact ⟨c :: before, after, congrArg (c :: ·) h⟩
    · rintro ⟨before, after, h⟩
      cases before with
      | nil => exact .inl ⟨after, h.symm⟩
      | cons d before => exact .inr ⟨before, after, (List.cons.inj h).2⟩

theorem standsAt_eq_true_iff {phrase text : List Char} :
    standsAt phrase text = true ↔
      ∃ after, text = phrase ++ after ∧ startsOutsideWord after = true := by
  induction phrase generalizing text with
  | nil => simp [standsAt]
  | cons p phrase ih =>
    cases text with
    | nil => simp [standsAt]
    | cons c text =>
      simp only [standsAt, Bool.and_eq_true, beq_iff_eq, ih, List.cons_append, List.cons.injEq]
      grind

theorem standsFrom_eq_true_iff {phrase text : List Char} {fresh : Bool} :
    standsFrom phrase fresh text = true ↔
      ∃ before after, text = before ++ (phrase ++ after) ∧
        (before.getLast?.map (!isWord ·)).getD fresh = true ∧ startsOutsideWord after = true := by
  induction text generalizing fresh with
  | nil =>
    simp only [standsFrom, Bool.and_eq_true, standsAt_eq_true_iff]
    constructor
    · rintro ⟨hf, after, h, ha⟩
      exact ⟨[], after, h, hf, ha⟩
    · rintro ⟨before, after, h, hb, ha⟩
      obtain ⟨rfl, h⟩ := List.append_eq_nil_iff.1 h.symm
      exact ⟨hb, after, by simpa using h.symm, ha⟩
  | cons c text ih =>
    simp only [standsFrom, Bool.or_eq_true, Bool.and_eq_true, standsAt_eq_true_iff, ih]
    constructor
    · rintro (⟨hf, after, h, ha⟩ | ⟨before, after, h, hb, ha⟩)
      · exact ⟨[], after, h, hf, ha⟩
      · refine ⟨c :: before, after, congrArg (c :: ·) h, ?_, ha⟩
        cases before with
        | nil => simpa using hb
        | cons d before =>
          rw [List.getLast?_cons_cons]
          cases h : (d :: before).getLast? with
          | none => simp at h
          | some e => simpa [h] using hb
    · rintro ⟨before, after, h, hb, ha⟩
      cases before with
      | nil => exact .inl ⟨hb, after, h, ha⟩
      | cons d before =>
        obtain ⟨rfl, rest⟩ : c = d ∧ text = before ++ (phrase ++ after) := by simp_all
        refine .inr ⟨before, after, rest, ?_, ha⟩
        cases before with
        | nil => simpa using hb
        | cons d before =>
          rw [List.getLast?_cons_cons] at hb
          cases h : (d :: before).getLast? with
          | none => simp at h
          | some e => simpa [h] using hb

theorem standsIn_eq_true_iff {phrase s : String} :
    standsIn phrase s = true ↔
      ∃ before after, s.toList = before ++ (phrase.toList ++ after) ∧
        (before.getLast?.map (!isWord ·)).getD true = true ∧ startsOutsideWord after = true :=
  standsFrom_eq_true_iff

end Teller.Text
