import Mathlib.Data.List.Basic
import Teller.Amount.Reading
import Teller.Proofs.Number.Numerals

/-!
# The texts that amounts are read from

What a numeral at the start of a text looks like, what normalization makes of a text, and which
words a text must contain for the strategies that look for words.

    numeral?_eq_some               a numeral is digits, alone or with a fraction
    normalize_behind               a word before a text stays in front of what the text becomes
    normalize_eq_map               without blanks, commas and capital sigmas only the case is changed
    spelledValue_eq_zero           without a number word no number is spelled
    hedged?_eq_none                without a word for that no number is hedged
-/

namespace Teller

namespace Text

/-- What a table says of the first 128 characters. -/
theorem of_ascii_table {p : Char → Prop} {c : Char} (small : c.toNat < 128)
    (table : ∀ n < 128, p (Char.ofNat n)) : p c := by
  have := table c.toNat small
  rwa [Char.ofNat_toNat] at this

/-! ## Blanks -/

section Strip

variable {drop : Char → Bool} {cs core trail : List Char}

/-- Only what is dropped stands around what is left. -/
theorem exists_strip (drop : Char → Bool) (cs : List Char) :
    ∃ lead trail, cs = lead ++ (strip drop cs ++ trail) ∧ (∀ c ∈ lead, drop c = true) ∧
      ∀ c ∈ trail, drop c = true := by
  have body := List.takeWhile_append_dropWhile (p := drop) (l := (cs.dropWhile drop).reverse)
  refine ⟨cs.takeWhile drop, ((cs.dropWhile drop).reverse.takeWhile drop).reverse, ?_, ?_, ?_⟩
  · rw [strip, ← List.reverse_append, body, List.reverse_reverse, List.takeWhile_append_dropWhile]
  · exact fun c hc => List.mem_takeWhile_imp hc
  · exact fun c hc => List.mem_takeWhile_imp (List.mem_reverse.1 hc)

/-- What is left does not end in what is dropped. -/
theorem drop_getLast_strip {last : Char} (h : (strip drop cs).getLast? = some last) :
    drop last = false := by
  rw [strip, List.getLast?_reverse] at h
  have := List.head?_dropWhile_not drop (cs.dropWhile drop).reverse
  rw [h] at this
  exact this

/-- What begins and ends with a character that stays is left as it is. -/
theorem strip_append {first last : Char} (begins : core.head? = some first)
    (ends : core.getLast? = some last) (first_stays : drop first = false)
    (last_stays : drop last = false) (dropped : ∀ c ∈ trail, drop c = true) :
    strip drop (core ++ trail) = core := by
  obtain ⟨rest, rfl⟩ := List.head?_eq_some_iff.1 begins
  obtain ⟨init, hinit⟩ := List.getLast?_eq_some_iff.1 ends
  rw [strip, List.cons_append, List.dropWhile_cons_of_neg (by simp [first_stays]), ← List.cons_append,
    List.reverse_append, List.dropWhile_append_of_pos fun c hc => dropped c (List.mem_reverse.1 hc),
    hinit, List.reverse_append, List.reverse_singleton, List.singleton_append,
    List.dropWhile_cons_of_neg (by simp [last_stays]), List.reverse_cons, List.reverse_reverse]

/-- What stands behind a word keeps the characters that would be dropped at its start. -/
theorem exists_strip_behind {word gap : List Char} {first : Char} (begins : word.head? = some first)
    (first_stays : drop first = false) (nonempty : strip drop cs ≠ []) :
    ∃ lead, (∀ c ∈ lead, drop c = true) ∧
      strip drop (word ++ (gap ++ cs)) = word ++ (gap ++ (lead ++ strip drop cs)) := by
  obtain ⟨lead, trail, parts, lead_dropped, trail_dropped⟩ := exists_strip drop cs
  have ends := List.getLast?_eq_some_getLast nonempty
  have begins' : (word ++ (gap ++ (lead ++ strip drop cs))).head? = some first := by
    rw [List.head?_append, begins]
    rfl
  have ends' : (word ++ (gap ++ (lead ++ strip drop cs))).getLast? = (strip drop cs).getLast? := by
    rw [← List.append_assoc, ← List.append_assoc, List.getLast?_append_of_ne_nil _ nonempty]
  have whole : word ++ (gap ++ cs) = word ++ (gap ++ (lead ++ strip drop cs)) ++ trail := by
    nth_rewrite 1 [parts]
    simp
  rw [whole]
  exact ⟨lead, lead_dropped, strip_append begins' (ends'.trans ends) first_stays
    (drop_getLast_strip ends) trail_dropped⟩

end Strip

section Squeeze

variable {cs gap rest word : List Char}

/-- A word stays as it is. -/
theorem squeeze_append (h : ∀ c ∈ word, isBlank c = false) :
    squeeze (word ++ rest) = word ++ squeeze rest := by
  induction word with
  | nil => rfl
  | cons c word ih =>
    rw [List.cons_append, squeeze.eq_def]
    dsimp only
    rw [if_neg (by simp [h c List.mem_cons_self]), ih fun d hd => h d (List.mem_cons_of_mem _ hd)]
    rfl

theorem squeeze_eq_self (h : ∀ c ∈ cs, isBlank c = false) : squeeze cs = cs := by
  have : squeeze (cs ++ []) = cs ++ squeeze [] := squeeze_append h
  rwa [List.append_nil, squeeze, List.append_nil] at this

/-- Blanks before a word become one space. -/
theorem squeeze_blanks {first : Char} (nonempty : gap ≠ []) (blank : ∀ c ∈ gap, isBlank c = true)
    (visible : isBlank first = false) :
    squeeze (gap ++ first :: rest) = ' ' :: squeeze (first :: rest) := by
  induction gap with
  | nil => exact absurd rfl nonempty
  | cons c gap ih =>
    rw [List.cons_append, squeeze.eq_def]
    dsimp only
    rw [if_pos (blank c List.mem_cons_self)]
    cases gap with
    | nil =>
      dsimp only [List.nil_append]
      rw [if_neg (by simp [visible])]
    | cons d gap =>
      dsimp only [List.cons_append]
      rw [if_pos (blank d (List.mem_cons_of_mem _ List.mem_cons_self))]
      exact ih (List.cons_ne_nil _ _) fun b hb => blank b (List.mem_cons_of_mem _ hb)

/-- Characters of words are not lost. -/
theorem mem_squeeze {c : Char} (visible : isBlank c = false) (h : c ∈ cs) : c ∈ squeeze cs := by
  induction cs with
  | nil => exact h
  | cons d cs ih =>
    unfold squeeze
    split
    · next blank =>
      have later : c ∈ cs := by
        rcases List.mem_cons.1 h with rfl | later
        · rw [visible] at blank
          cases blank
        · exact later
      cases cs with
      | nil => cases later
      | cons e cs =>
        dsimp only
        split
        · exact ih later
        · exact List.mem_cons_of_mem _ (ih later)
    · rcases List.mem_cons.1 h with rfl | later
      · exact List.mem_cons_self
      · exact List.mem_cons_of_mem _ (ih later)

/-- A word at the start stays there. -/
theorem exists_of_squeeze_eq_cons {first : Char} (visible : isBlank first = false)
    (h : squeeze cs = first :: rest) : ∃ others, cs = first :: others := by
  have space : isBlank ' ' = true := by decide
  induction cs with
  | nil => cases h
  | cons c cs ih =>
    unfold squeeze at h
    split at h
    · next blank =>
      cases cs with
      | nil =>
        cases h
        rw [visible] at space
        cases space
      | cons d cs =>
        dsimp only at h
        split at h
        · next blank' =>
          -- a later blank is not what the result begins with
          obtain ⟨others, same⟩ := ih h
          cases same
          rw [visible] at blank'
          cases blank'
        · cases h
          rw [visible] at space
          cases space
    · cases h
      exact ⟨_, rfl⟩

end Squeeze

/-! ## Lower case -/

section Lower

variable {c : Char} {cs before : List Char}

/-- Without a capital sigma every character is mapped on its own. -/
theorem lowerFrom_eq_flatMap (h : 'Σ' ∉ cs) : lowerFrom before cs = cs.flatMap lowerOf := by
  induction cs generalizing before with
  | nil => rfl
  | cons c cs ih =>
    have other : (c == 'Σ') = false := beq_false_of_ne fun same => h (same ▸ List.mem_cons_self)
    rw [lowerFrom, other, ih fun mem => h (List.mem_cons_of_mem _ mem), List.flatMap_cons]
    rfl

/-- In ASCII the letters are mapped, and nothing else is done. -/
theorem lowerFrom_eq_map (h : ∀ c ∈ cs, c.toNat < 128) : lowerFrom before cs = cs.map Char.toLower := by
  have no_sigma : 'Σ' ∉ cs := fun mem => absurd (h _ mem) (by decide)
  rw [lowerFrom_eq_flatMap no_sigma, List.map_eq_flatMap]
  exact List.flatMap_congr fun c hc => by rw [lowerOf, if_pos (h c hc)]

/-- A capital sigma becomes one of the small ones. -/
theorem exists_mem_lowerFrom (h : 'Σ' ∈ cs) : ∃ c ∈ lowerFrom before cs, c = 'ς' ∨ c = 'σ' := by
  have small : lowerOf 'Σ' = ['σ'] := by decide +kernel
  induction cs generalizing before with
  | nil => cases h
  | cons c cs ih =>
    unfold lowerFrom
    dsimp only
    rcases List.mem_cons.1 h with rfl | later
    · split
      · exact ⟨_, List.mem_append_left _ List.mem_cons_self, .inl rfl⟩
      · rw [small]
        exact ⟨_, List.mem_append_left _ List.mem_cons_self, .inr rfl⟩
    · obtain ⟨d, mem, sigma⟩ := ih later
      exact ⟨d, List.mem_append_right _ mem, sigma⟩

/-- Blanks have no case. -/
theorem lowerOf_of_isBlank (h : isBlank c = true) : lowerOf c = [c] := by
  have table : ∀ bounds ∈ [(9, 13), (28, 32), (133, 133), (160, 160), (5760, 5760), (8192, 8202),
      (8232, 8233), (8239, 8239), (8287, 8287), (12288, 12288)], ∀ k < bounds.2 + 1 - bounds.1,
        lowerOf (Char.ofNat (bounds.1 + k)) = [Char.ofNat (bounds.1 + k)] := by
    decide +kernel
  obtain ⟨bounds, mem, within⟩ := List.any_eq_true.1 h
  rw [Bool.and_eq_true, decide_eq_true_eq, decide_eq_true_eq] at within
  have := table bounds mem (c.toNat - bounds.1) (by omega)
  rwa [Nat.add_sub_cancel' within.1, Char.ofNat_toNat] at this

theorem flatMap_lowerOf_of_isBlank (h : ∀ c ∈ cs, isBlank c = true) : cs.flatMap lowerOf = cs := by
  induction cs with
  | nil => rfl
  | cons c cs ih =>
    rw [List.flatMap_cons, lowerOf_of_isBlank (h c List.mem_cons_self),
      ih fun d hd => h d (List.mem_cons_of_mem _ hd)]
    rfl

end Lower

/-! ## Parts of a text -/

section Parts

variable {needle text : List Char}

theorem mem_of_occursIn (h : occursIn needle text = true) {c : Char} (hc : c ∈ needle) : c ∈ text := by
  obtain ⟨before, after, rfl⟩ := occursIn_eq_true_iff.1 h
  exact List.mem_append_right _ (List.mem_append_left _ hc)

theorem occursIn_of_standsFrom {fresh : Bool} (h : standsFrom needle fresh text = true) :
    occursIn needle text = true := by
  obtain ⟨before, after, same, -⟩ := standsFrom_eq_true_iff.1 h
  exact occursIn_eq_true_iff.2 ⟨before, after, same⟩

theorem occursIn_cons {c : Char} (h : occursIn needle text = true) :
    occursIn needle (c :: text) = true := by
  rw [occursIn, h, Bool.or_true]

theorem occursIn_takeWhile (p : Char → Bool) (text : List Char) :
    occursIn (text.takeWhile p) text = true :=
  occursIn_eq_true_iff.2 ⟨[], text.dropWhile p, List.takeWhile_append_dropWhile.symm⟩

/-- The first piece goes as far as the first separator, and the others are parts of the text too. -/
theorem exists_pieces (separates : Char → Bool) (text : List Char) :
    ∃ others, pieces separates text = text.takeWhile (fun c => !separates c) :: others ∧
      ∀ piece ∈ others, occursIn piece text = true := by
  induction text with
  | nil => exact ⟨[], rfl, nofun⟩
  | cons c rest ih =>
    obtain ⟨others, pieces_eq, parts⟩ := ih
    unfold pieces
    rw [List.takeWhile_cons]
    split
    · next separator =>
      rw [separator]
      cases rest with
      | nil => exact ⟨[[]], rfl, fun piece hp => by rw [List.mem_singleton.1 hp]; rfl⟩
      | cons d rest =>
        dsimp only
        split
        · next separator' =>
          rw [pieces_eq, List.takeWhile_cons, separator']
          exact ⟨others, rfl, fun piece hp => occursIn_cons (parts piece hp)⟩
        · refine ⟨_, rfl, fun piece hp => occursIn_cons ?_⟩
          rw [pieces_eq] at hp
          rcases List.mem_cons.1 hp with rfl | later
          · exact occursIn_takeWhile _ _
          · exact parts piece later
    · next letter =>
      rw [pieces_eq, eq_false_of_ne_true letter]
      exact ⟨others, rfl, fun piece hp => occursIn_cons (parts piece hp)⟩

theorem occursIn_of_mem_pieces {separates : Char → Bool} {piece : List Char}
    (h : piece ∈ pieces separates text) : occursIn piece text = true := by
  obtain ⟨others, pieces_eq, parts⟩ := exists_pieces separates text
  rw [pieces_eq] at h
  rcases List.mem_cons.1 h with rfl | later
  · exact occursIn_takeWhile _ _
  · exact parts piece later

/-- A word that begins with another character than those before a text is a part of the text. -/
theorem occursIn_of_append {before : List Char} {first : Char} {word : List Char}
    (h : occursIn (first :: word) (before ++ text) = true) (apart : first ∉ before) :
    occursIn (first :: word) text = true := by
  induction before with
  | nil => exact h
  | cons c before ih =>
    have other : (first == c) = false := beq_false_of_ne fun same => apart (same ▸ List.mem_cons_self)
    refine ih ?_ fun mem => apart (List.mem_cons_of_mem _ mem)
    rw [List.cons_append, occursIn, List.isPrefixOf_cons_cons, other, Bool.false_and, Bool.false_or] at h
    exact h

end Parts

end Text

namespace Amount

open Text Number

/-! ## Numerals -/

section Numerals

variable {cs whole tail rest : List Char} {x : Float}

/-- A numeral is digits, alone or with a fraction, and what follows it. Its value is the double for
a decimal. -/
theorem numeral?_eq_some (h : numeral? cs = some (x, rest)) :
    ∃ whole tail d, cs = whole ++ (tail ++ rest) ∧ IsNumeral [] whole tail ∧ x = Decimal.toFloat d := by
  have digits (l : List Char) : ∀ c ∈ l.takeWhile isDigit, isDigit c = true :=
    fun c hc => List.mem_takeWhile_imp hc
  have parts := List.takeWhile_append_dropWhile (p := isDigit) (l := cs)
  unfold numeral? at h
  dsimp only at h
  split at h
  · cases h
  · next nonempty =>
    rw [List.isEmpty_iff] at nonempty
    split at h
    · next fraction point =>
      split at h
      · cases h
        rw [point] at parts
        exact ⟨_, [], _, parts.symm, ⟨.inl rfl, nonempty, digits cs, .inl rfl⟩, rfl⟩
      · cases h
        rw [point, ← List.takeWhile_append_dropWhile (p := isDigit) (l := fraction)] at parts
        exact ⟨_, _, _, parts.symm, ⟨.inl rfl, nonempty, digits cs, .inr ⟨_, rfl, digits fraction⟩⟩, rfl⟩
    · cases h
      exact ⟨_, [], _, parts.symm, ⟨.inl rfl, nonempty, digits cs, .inl rfl⟩, rfl⟩

/-- The characters of a numeral without a sign. -/
theorem cases_of_mem_numeral (h : IsNumeral [] whole tail) {c : Char} (hc : c ∈ whole ++ tail) :
    c = '.' ∨ isDigit c = true := by
  rcases List.mem_append.1 hc with digit | hc
  · exact .inr (h.whole_isDigit c digit)
  · rcases h.tail_eq with rfl | ⟨fraction, rfl, digits⟩
    · cases hc
    · exact (List.mem_cons.1 hc).imp_right (digits c)

theorem numeral?_of_not_isDigit {c : Char} (h : isDigit c = false) : numeral? (c :: rest) = none := by
  unfold numeral?
  rw [List.takeWhile_cons, h]
  rfl

end Numerals

/-! ## Normalization -/

section Normalize

variable {raw word : String}

theorem normalize_eq (raw : String) :
    normalize raw = squeeze ((lowerFrom [] (strip isBlank raw.toList)).filter (· ≠ ',')) := by
  rw [normalize, lower, trim, String.toList_ofList, String.toList_ofList]

/-- Without blanks, commas and capital sigmas only the case is changed. -/
theorem normalize_eq_map
    (plain : ∀ c ∈ raw.toList, c.toNat < 128 ∧ isBlank c = false ∧ c ≠ ',') :
    normalize raw = raw.toList.map Char.toLower := by
  have stays (b : Char) (ascii : b.toNat < 128) : isBlank b = false → b ≠ ',' →
      isBlank b.toLower = false ∧ b.toLower ≠ ',' := by
    apply of_ascii_table ascii
    decide +kernel
  have small : ∀ c ∈ raw.toList.map Char.toLower, isBlank c = false ∧ c ≠ ',' := by
    intro c hc
    obtain ⟨b, hb, rfl⟩ := List.mem_map.1 hc
    obtain ⟨ascii, visible, other⟩ := plain b hb
    exact stays b ascii visible other
  rw [normalize_eq, strip_eq_self fun c hc => (plain c hc).2.1,
    lowerFrom_eq_map fun c hc => (plain c hc).1,
    List.filter_eq_self.2 fun c hc => decide_eq_true (small c hc).2,
    squeeze_eq_self fun c hc => (small c hc).1]

/-- Letters that normalization leaves alone. -/
structure IsSettled (c : Char) : Prop where
  lower : lowerOf c = [c]
  visible : isBlank c = false
  no_comma : c ≠ ','
  no_sigma : c ≠ 'Σ'

/-- A capital sigma would leave a small one. -/
theorem no_sigma_of_squeeze {core : List Char}
    (h : ∀ c ∈ squeeze ((lowerFrom [] core).filter (· ≠ ',')), c ≠ 'ς' ∧ c ≠ 'σ') : 'Σ' ∉ core := by
  intro mem
  obtain ⟨c, hc, sigma⟩ := exists_mem_lowerFrom mem
  have kept : c ∈ squeeze ((lowerFrom [] core).filter (· ≠ ',')) := by
    refine mem_squeeze ?_ (List.mem_filter.2 ⟨hc, ?_⟩) <;> rcases sigma with rfl | rfl <;> decide
  exact sigma.elim (h c kept).1 (h c kept).2

/-- Lower case of a word, blanks and a text. -/
theorem lowerFrom_behind {word gap core : List Char} (settled : ∀ c ∈ word, IsSettled c)
    (blank : ∀ c ∈ gap, isBlank c = true) (no_sigma : 'Σ' ∉ core) :
    lowerFrom [] (word ++ (gap ++ core)) = word ++ (gap ++ lowerFrom [] core) := by
  have no_capital : 'Σ' ∉ word ++ (gap ++ core) := by
    intro mem
    rcases List.mem_append.1 mem with mem | mem
    · exact (settled _ mem).no_sigma rfl
    · rcases List.mem_append.1 mem with mem | mem
      · exact absurd (blank _ mem) (by decide)
      · exact no_sigma mem
  have word_same : word.flatMap lowerOf = word := by
    rw [List.flatMap_congr fun c hc => (settled c hc).lower, List.flatMap_singleton']
  rw [lowerFrom_eq_flatMap no_capital, lowerFrom_eq_flatMap no_sigma, List.flatMap_append,
    List.flatMap_append, word_same, flatMap_lowerOf_of_isBlank blank]

/-- A word before a text stays in front of what the text becomes. -/
theorem normalize_behind {start first : Char} {rest : List Char}
    (settled : ∀ c ∈ word.toList, IsSettled c) (begins : word.toList.head? = some start)
    (text : normalize raw = first :: rest) (visible : isBlank first = false)
    (no_sigma : ∀ c ∈ normalize raw, c ≠ 'ς' ∧ c ≠ 'σ') :
    normalize (word ++ " " ++ raw) = word.toList ++ ' ' :: normalize raw := by
  rw [normalize_eq] at text no_sigma
  have nonempty : strip isBlank raw.toList ≠ [] := by
    intro nothing
    rw [nothing] at text
    cases text
  obtain ⟨lead, lead_blank, stripped⟩ := exists_strip_behind begins
    (settled start (List.mem_of_head? begins)).visible nonempty
  have gap_blank : ∀ c ∈ [' '] ++ lead, isBlank c = true := by
    intro c hc
    rcases List.mem_cons.1 hc with rfl | mem
    · decide
    · exact lead_blank c mem
  have gap_kept : ([' '] ++ lead).filter (· ≠ ',') = [' '] ++ lead := by
    refine List.filter_eq_self.2 fun c hc => decide_eq_true ?_
    rintro rfl
    exact absurd (gap_blank _ hc) (by decide)
  have word_kept : word.toList.filter (· ≠ ',') = word.toList :=
    List.filter_eq_self.2 fun c hc => decide_eq_true (settled c hc).no_comma
  have whole : (word ++ " " ++ raw).toList = word.toList ++ ([' '] ++ raw.toList) := by
    rw [String.toList_append, String.toList_append, List.append_assoc]
    rfl
  obtain ⟨others, text_eq⟩ := exists_of_squeeze_eq_cons visible text
  rw [normalize_eq, normalize_eq, whole, stripped, ← List.append_assoc [' '],
    lowerFrom_behind settled gap_blank (no_sigma_of_squeeze no_sigma), List.filter_append,
    List.filter_append, gap_kept, word_kept, squeeze_append fun c hc => (settled c hc).visible, text_eq,
    squeeze_blanks (by simp) gap_blank visible]

end Normalize

/-! ## Words -/

section Words

variable {text : List Char}

def hedges : List String := ["around", "about", "roughly"]

theorem hedgedHere?_eq (text : List Char) : hedgedHere? text =
    (hedges.find? fun word => word.toList.isPrefixOf text).bind fun word =>
      match text.drop word.length with
      | c :: rest => if isBlank c then (numeral? (rest.dropWhile isBlank)).map (·.1) else none
      | [] => none :=
  rfl

theorem mem_of_lookup_eq_some {word : String} {value : Nat} {entries : List (String × Nat)}
    (h : entries.lookup word = some value) : (word, value) ∈ entries := by
  obtain ⟨before, after, rfl, -⟩ := List.lookup_eq_some_iff.1 h
  exact List.mem_append_right _ List.mem_cons_self

/-- Without a number word no number is spelled. -/
theorem spelledValue_eq_zero (silent : ∀ entry ∈ numberWords, occursIn entry.1.toList text = false) :
    spelledValue text = 0 := by
  have no_words : ((pieces (fun c => isBlank c || c == '-') text).filterMap fun word =>
      numberWords.lookup (String.ofList word)) = [] := by
    refine List.filterMap_eq_nil_iff.2 fun piece hp => ?_
    cases found : numberWords.lookup (String.ofList piece) with
    | none => rfl
    | some value =>
      have absent := silent _ (mem_of_lookup_eq_some found)
      rw [String.toList_ofList, occursIn_of_mem_pieces hp] at absent
      cases absent
  unfold spelledValue
  dsimp only
  rw [no_words]
  rfl

/-- Without a word for that no number is hedged. -/
theorem hedged?_eq_none (silent : ∀ word ∈ hedges, occursIn word.toList text = false) :
    hedged? text = none := by
  induction text with
  | nil => rfl
  | cons c rest ih =>
    have absent (word : String) (hw : word ∈ hedges) :
        word.toList.isPrefixOf (c :: rest) = false ∧ occursIn word.toList rest = false := by
      have absent := silent word hw
      rwa [occursIn, Bool.or_eq_false_iff] at absent
    have here : hedgedHere? (c :: rest) = none := by
      rw [hedgedHere?_eq, List.find?_eq_none.2 fun word hw => by simp [(absent word hw).1]]
      rfl
    rw [hedged?, here, Option.none_or, ih fun word hw => (absent word hw).2]

/-- Without the long s and the phrases for round numbers only a hedged number is an expression. -/
theorem expressionValue?_eq (no_long_s : 'ſ' ∉ text)
    (silent : ∀ entry ∈ roundPhrases, ∀ phrase ∈ entry.1, occursIn phrase.toList text = false) :
    expressionValue? text = (hedged? text).filter (0 < ·) := by
  have plain : (text.map fun c => if c == 'ſ' then 's' else c) = text := by
    rw [List.map_congr_left fun c hc => if_neg (by simpa using ne_of_mem_of_not_mem hc no_long_s),
      List.map_id']
  unfold expressionValue?
  dsimp only
  rw [plain, List.find?_eq_none.2 fun entry mem found => ?_]
  obtain ⟨phrase, hp, occurs⟩ := List.any_eq_true.1 found
  rw [silent entry mem phrase hp] at occurs
  cases occurs

end Words

end Amount

end Teller
