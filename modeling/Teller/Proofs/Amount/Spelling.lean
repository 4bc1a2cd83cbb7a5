import Teller.Proofs.Amount.Breaking
import Teller.Proofs.Amount.Range
import Teller.Proofs.Amount.Words

/-!
# Numbers in words

The English words for a number below a trillion, group by group from the billions down, are read as
this number. Every group starts from a tally with nothing at hand: the words below a hundred add to
what is at hand, "hundred" multiplies it, and the word behind the group moves it to what is
finished. No other strategy finds anything in such a text.

    spelling                     the words for a number
    IsSpelling                   these words as a text
    addWords_spelling            what the words add up to
    spelledValue_textOf          the value of the text
    passedOver_textOf            the strategies that find nothing in it
    spelling_is_read             the amount that is read
-/

namespace Teller

namespace Amount

open Text Number

/-! ## The words for a number -/

def ones : List String :=
  ["", "one", "two", "three", "four", "five", "six", "seven", "eight", "nine", "ten", "eleven", "twelve",
    "thirteen", "fourteen", "fifteen", "sixteen", "seventeen", "eighteen", "nineteen"]

def tens : List String :=
  ["", "", "twenty", "thirty", "forty", "fifty", "sixty", "seventy", "eighty", "ninety"]

/-- The word for a number below a hundred; zero has none. -/
def belowHundred (n : Nat) : List String :=
  if n = 0 then []
  else if n < 20 then [ones.getD n ""]
  else if n % 10 = 0 then [tens.getD (n / 10) ""]
  else [tens.getD (n / 10) "" ++ "-" ++ ones.getD (n % 10) ""]

/-- The words for a number below a thousand. -/
def belowThousand (n : Nat) : List String :=
  (if n / 100 = 0 then [] else [ones.getD (n / 100) "", "hundred"]) ++ belowHundred (n % 100)

/-- A group of three digits and the word behind it; without any digit there is no group. -/
def group (n : Nat) (scale : String) : List String :=
  if n = 0 then [] else belowThousand n ++ [scale]

/-- The words for a number below a trillion. -/
def spelling (n : Nat) : List String :=
  group (n / 10 ^ 9) "billion" ++ (group (n / 10 ^ 6 % 1000) "million" ++
    (group (n / 1000 % 1000) "thousand" ++ belowThousand (n % 1000)))

/-- The words for a number, with single spaces and with "and" wherever one likes, in any case. -/
def IsSpelling (n : Nat) (raw : String) : Prop :=
  ∃ words, words.filter (· ≠ "and") = spelling n ∧
    raw.toList.map Char.toLower = (" ".intercalate words).toList

/-! ## The words -/

/-- The words without a hyphen. -/
def simpleWords : List String :=
  ["and", "hundred", "thousand", "million", "billion"] ++ ones.drop 1 ++ tens.drop 2

/-- A word of small letters and hyphens, which stand inside, without a word for a share in it. -/
structure IsPlainWord (w : List Char) : Prop where
  nonempty : w ≠ []
  letters : ∀ c ∈ w, c.isLower = true ∨ c = '-'
  begins : ∀ c ∈ w.head?, c.isLower = true
  ends : ∀ c ∈ w.getLast?, c.isLower = true
  no_share : ∀ entry ∈ relativeWords, occursIn entry.1.toList w = false

theorem simpleWords_table : ∀ word ∈ simpleWords, (!word.toList.isEmpty &&
    word.toList.all Char.isLower && relativeWords.all fun entry => !occursIn entry.1.toList word.toList) =
      true := by
  decide

theorem isPlainWord_of_mem {word : String} (h : word ∈ simpleWords) : IsPlainWord word.toList := by
  have checked := simpleWords_table word h
  simp only [Bool.and_eq_true, Bool.not_eq_true', List.isEmpty_eq_false_iff, List.all_eq_true] at checked
  obtain ⟨⟨nonempty, letters⟩, no_share⟩ := checked
  exact ⟨nonempty, fun c hc => .inl (letters c hc), fun c hc => letters c (List.mem_of_head? hc),
    fun c hc => letters c (List.mem_of_getLast? hc), no_share⟩

/-- Two words with a hyphen between them. -/
theorem IsPlainWord.hyphen {w v : List Char} (h : IsPlainWord w) (h' : IsPlainWord v) :
    IsPlainWord (w ++ '-' :: v) where
  nonempty := by simp
  letters c hc := by
    rcases List.mem_append.1 hc with left | hc
    · exact h.letters c left
    · exact (List.mem_cons.1 hc).elim .inr (h'.letters c)
  begins c hc := by
    obtain ⟨first, rest, rfl⟩ := List.exists_cons_of_ne_nil h.nonempty
    exact h.begins c hc
  ends c hc := by
    rw [List.append_cons, List.getLast?_append_of_ne_nil _ h'.nonempty] at hc
    exact h'.ends c hc
  no_share entry mem := by
    have table : ∀ entry ∈ relativeWords, '-' ∉ entry.1.toList := by decide
    apply eq_false_of_ne_true
    intro occurs
    rcases occursIn_append_cons (table entry mem) occurs with left | right
    · rw [h.no_share entry mem] at left
      cases left
    · rw [h'.no_share entry mem] at right
      cases right

theorem ones_mem : ∀ n < 20, n ≠ 0 → ones.getD n "" ∈ simpleWords := by decide

theorem tens_mem : ∀ n < 10, 2 ≤ n → tens.getD n "" ∈ simpleWords := by decide

theorem toList_hyphen (word other : String) :
    (word ++ "-" ++ other).toList = word.toList ++ '-' :: other.toList := by
  rw [String.toList_append, String.toList_append, List.append_assoc]
  rfl

variable {n : Nat} {word : String}

theorem isPlainWord_of_belowHundred (small : n < 100) (h : word ∈ belowHundred n) :
    IsPlainWord word.toList := by
  unfold belowHundred at h
  split at h
  · cases h
  · next some =>
    split at h
    · next teen =>
      rw [List.mem_singleton.1 h]
      exact isPlainWord_of_mem (ones_mem n teen some)
    · split at h
      · rw [List.mem_singleton.1 h]
        exact isPlainWord_of_mem (tens_mem _ (by omega) (by omega))
      · next unit =>
        rw [List.mem_singleton.1 h, toList_hyphen]
        exact (isPlainWord_of_mem (tens_mem _ (by omega) (by omega))).hyphen
          (isPlainWord_of_mem (ones_mem _ (by omega) unit))

theorem isPlainWord_of_belowThousand (small : n < 1000) (h : word ∈ belowThousand n) :
    IsPlainWord word.toList := by
  rcases List.mem_append.1 h with hundreds | rest
  · split at hundreds
    · cases hundreds
    · next some =>
      rcases List.mem_cons.1 hundreds with rfl | hundred
      · exact isPlainWord_of_mem (ones_mem _ (by omega) some)
      · rw [List.mem_singleton.1 hundred]
        exact isPlainWord_of_mem (by decide)
  · exact isPlainWord_of_belowHundred (Nat.mod_lt _ (by decide)) rest

theorem isPlainWord_of_group {scale : String} (small : n < 1000) (known : scale ∈ simpleWords)
    (h : word ∈ group n scale) : IsPlainWord word.toList := by
  unfold group at h
  split at h
  · cases h
  · rcases List.mem_append.1 h with mem | mem
    · exact isPlainWord_of_belowThousand small mem
    · rw [List.mem_singleton.1 mem]
      exact isPlainWord_of_mem known

theorem isPlainWord_of_spelling (below : n < 10 ^ 12) (h : word ∈ spelling n) :
    IsPlainWord word.toList := by
  unfold spelling at h
  rcases List.mem_append.1 h with billions | h
  · exact isPlainWord_of_group (by omega) (by decide) billions
  · rcases List.mem_append.1 h with millions | h
    · exact isPlainWord_of_group (by omega) (by decide) millions
    · rcases List.mem_append.1 h with thousands | rest
      · exact isPlainWord_of_group (by omega) (by decide) thousands
      · exact isPlainWord_of_belowThousand (by omega) rest

/-- The characters of words are no digits, blanks or commas. -/
theorem plain_of_isLower {c : Char} (h : c.isLower = true ∨ c = '-') :
    (c.toNat < 128 ∧ c ≠ ',') ∧ isBlank c = false ∧ isDigit c = false := by
  have small : c.toNat < 128 := by
    rcases h with lower | rfl
    · have bounds := of_decide_eq_true (Bool.and_eq_true_iff.1 lower).2
      have := UInt32.le_iff_toNat_le.1 bounds
      show c.val.toNat < 128
      exact Nat.lt_of_le_of_lt this (by decide)
    · decide
  have known : c.isLower = true ∨ c = '-' → c ≠ ',' ∧ isBlank c = false ∧ isDigit c = false := by
    apply of_ascii_table small
    decide
  obtain ⟨no_comma, visible, no_digit⟩ := known h
  exact ⟨⟨small, no_comma⟩, visible, no_digit⟩

/-! ## What the words add up to -/

/-- What separates number words. -/
def isWordBreak (c : Char) : Bool := isBlank c || c == '-'

theorem isWordBreak_of_isLower {c : Char} (h : c.isLower = true) : isWordBreak c = false := by
  have other : c ≠ '-' := by
    rintro rfl
    cases h
  rw [isWordBreak, (plain_of_isLower (.inl h)).2.1, beq_false_of_ne other]
  rfl

def wordValues (text : List Char) : List Nat :=
  (pieces isWordBreak text).filterMap fun word => numberWords.lookup (String.ofList word)

/-- The tally after some more words. -/
def Tally.addWords (t : Tally) (words : List String) : Tally :=
  (words.flatMap fun word => wordValues word.toList).foldl Tally.add t

theorem Tally.addWords_append (t : Tally) (words others : List String) :
    t.addWords (words ++ others) = (t.addWords words).addWords others := by
  rw [addWords, List.flatMap_append, List.foldl_append]
  rfl

theorem wordValues_table : (wordValues "and".toList = [] ∧ wordValues "hundred".toList = [100]) ∧
    wordValues "thousand".toList = [10 ^ 3] ∧ wordValues "million".toList = [10 ^ 6] ∧
      wordValues "billion".toList = [10 ^ 9] := by
  decide

theorem ones_values : ∀ n < 20, n ≠ 0 → wordValues (ones.getD n "").toList = [n] := by decide

theorem tens_values : ∀ n < 10, 2 ≤ n → wordValues (tens.getD n "").toList = [10 * n] := by
  decide

/-- Two words with a hyphen between them have both values. -/
theorem wordValues_hyphen {w v : List Char} (h : IsPlainWord w) (h' : IsPlainWord v) :
    wordValues (w ++ '-' :: v) = wordValues w ++ wordValues v := by
  obtain ⟨first, rest, rfl⟩ := List.exists_cons_of_ne_nil h'.nonempty
  unfold wordValues
  rw [pieces_append (by decide) (isWordBreak_of_isLower (h'.begins first rfl))
    (fun last mem => isWordBreak_of_isLower (h.ends last mem)), List.filterMap_append]

/-- The values of the words for a number below a hundred. -/
theorem belowHundred_values (small : n < 100) :
    (∀ value ∈ (belowHundred n).flatMap fun word => wordValues word.toList, value < 100) ∧
      ((belowHundred n).flatMap fun word => wordValues word.toList).sum = n := by
  unfold belowHundred
  split
  · next none => exact ⟨nofun, none.symm⟩
  · next some =>
    split
    · next teen =>
      rw [List.flatMap_singleton, ones_values n teen some]
      simp [small]
    · split
      · rw [List.flatMap_singleton, tens_values _ (by omega) (by omega)]
        simp only [List.mem_singleton, forall_eq, List.sum_singleton]
        omega
      · next unit =>
        have ten := tens_mem (n / 10) (by omega) (by omega)
        have one := ones_mem (n % 10) (by omega) unit
        rw [List.flatMap_singleton, toList_hyphen,
          wordValues_hyphen (isPlainWord_of_mem ten) (isPlainWord_of_mem one),
          tens_values _ (by omega) (by omega), ones_values _ (by omega) unit]
        simp only [List.singleton_append, List.mem_cons, List.not_mem_nil, or_false, forall_eq_or_imp,
          forall_eq, List.sum_cons, List.sum_nil]
        omega

/-- Values below a hundred are added to what is at hand. -/
theorem foldl_add_of_small {values : List Nat} (small : ∀ value ∈ values, value < 100) (t : Tally) :
    values.foldl Tally.add t = { t with current := t.current + values.sum } := by
  induction values generalizing t with
  | nil => rfl
  | cons value values ih =>
    have less := small value List.mem_cons_self
    rw [List.foldl_cons, ih (fun v hv => small v (List.mem_cons_of_mem _ hv)), Tally.add,
      if_neg less.ne, if_neg (by omega), List.sum_cons, Nat.add_assoc]

theorem addWords_belowHundred (small : n < 100) (t : Tally) :
    t.addWords (belowHundred n) = { t with current := t.current + n } := by
  obtain ⟨less, sum⟩ := belowHundred_values small
  rw [Tally.addWords, foldl_add_of_small less, sum]

theorem addWords_hundred (t : Tally) :
    t.addWords ["hundred"] = { t with current := t.current * 100 } := by
  rw [Tally.addWords, List.flatMap_singleton, wordValues_table.1.2]
  rfl

theorem addWords_belowThousand (small : n < 1000) (total : Nat) :
    (Tally.mk total 0).addWords (belowThousand n) = ⟨total, n⟩ := by
  rw [belowThousand, Tally.addWords_append]
  split
  · next none =>
    show (Tally.mk total 0).addWords _ = _
    rw [addWords_belowHundred (Nat.mod_lt _ (by decide))]
    congr 1
    dsimp only
    omega
  · next some =>
    have digit : [ones.getD (n / 100) ""] = belowHundred (n / 100) := by
      rw [belowHundred, if_neg some, if_pos (by omega)]
    rw [← List.singleton_append, Tally.addWords_append, digit,
      addWords_belowHundred (n := n / 100) (by omega),
      addWords_hundred, addWords_belowHundred (Nat.mod_lt _ (by decide))]
    congr 1
    dsimp only
    omega

/-- The word behind a group moves it to what is finished. -/
theorem addWords_group (small : n < 1000) {scale : String} {value : Nat}
    (known : wordValues scale.toList = [value]) (large : 1000 ≤ value) (total : Nat) :
    (Tally.mk total 0).addWords (group n scale) = ⟨total + n * value, 0⟩ := by
  unfold group
  split
  · next none =>
    rw [none, Nat.zero_mul]
    rfl
  · rw [Tally.addWords_append, addWords_belowThousand small, Tally.addWords, List.flatMap_singleton,
      known, List.foldl_cons, List.foldl_nil, Tally.add, if_neg (by omega), if_pos large]

/-- What the words for a number add up to. -/
theorem addWords_spelling (below : n < 10 ^ 12) :
    ∃ t, (Tally.mk 0 0).addWords (spelling n) = t ∧ t.total + t.current = n := by
  obtain ⟨thousand, million, billion⟩ := wordValues_table.2
  refine ⟨_, rfl, ?_⟩
  rw [spelling, Tally.addWords_append, addWords_group (by omega) billion (by decide),
    Tally.addWords_append, addWords_group (by omega) million (by decide), Tally.addWords_append,
    addWords_group (by omega) thousand (by decide), addWords_belowThousand (by omega)]
  dsimp only
  omega

/-! ## The text -/

section Text

variable {words : List String}

/-- "And" has no value. -/
theorem flatMap_wordValues (words : List String) :
    (words.flatMap fun word => wordValues word.toList) =
      (words.filter (· ≠ "and")).flatMap fun word => wordValues word.toList := by
  induction words with
  | nil => rfl
  | cons word words ih =>
    by_cases silent : word = "and"
    · rw [List.flatMap_cons, List.filter_cons_of_neg (by simpa using silent), silent,
        wordValues_table.1.1, ih, List.nil_append]
    · rw [List.filter_cons_of_pos (by simpa using silent), List.flatMap_cons, List.flatMap_cons, ih]

/-- The text of words that spell numbers. -/
def textOf (words : List String) : List Char := [' '].intercalate (words.map String.toList)

/-- The words of a spelling and "and" are the known ones. -/
theorem isPlainWord_of_filter (below : n < 10 ^ 12) (spelled : words.filter (· ≠ "and") = spelling n) :
    ∀ w ∈ words.map String.toList, IsPlainWord w := by
  intro w hw
  obtain ⟨word, mem, rfl⟩ := List.mem_map.1 hw
  by_cases silent : word = "and"
  · rw [silent]
    exact isPlainWord_of_mem (by decide)
  · refine isPlainWord_of_spelling below ?_
    rw [← spelled]
    exact List.mem_filter.2 ⟨mem, decide_eq_true silent⟩

/-- A positive number has words. -/
theorem ne_nil_of_filter (pos : 0 < n) (below : n < 10 ^ 12)
    (spelled : words.filter (· ≠ "and") = spelling n) : words ≠ [] := by
  rintro rfl
  obtain ⟨t, adds, total⟩ := addWords_spelling below
  rw [← spelled] at adds
  cases adds
  exact pos.ne total

/-- The value of the text. -/
theorem spelledValue_textOf (pos : 0 < n) (below : n < 10 ^ 12)
    (spelled : words.filter (· ≠ "and") = spelling n) : spelledValue (textOf words) = n := by
  have plain := isPlainWord_of_filter below spelled
  have nonempty : words.map String.toList ≠ [] := by simpa using ne_nil_of_filter pos below spelled
  have values : wordValues (textOf words) = (spelling n).flatMap fun word => wordValues word.toList := by
    rw [← spelled, ← flatMap_wordValues, wordValues, textOf,
      pieces_intercalate nonempty (by decide) (fun w hw => (plain w hw).nonempty)
        (fun w hw c hc => isWordBreak_of_isLower ((plain w hw).begins c hc))
        (fun w hw c hc => isWordBreak_of_isLower ((plain w hw).ends c hc)),
      List.filterMap_flatMap, List.flatMap_map]
    rfl
  obtain ⟨t, adds, total⟩ := addWords_spelling below
  show ((wordValues (textOf words)).foldl Tally.add {}).total +
    ((wordValues (textOf words)).foldl Tally.add {}).current = n
  rw [values]
  rw [← adds] at total
  exact total

/-- The text begins with a letter. -/
theorem exists_cons_textOf (some_word : words ≠ [])
    (plain : ∀ w ∈ words.map String.toList, IsPlainWord w) :
    ∃ first rest, textOf words = first :: rest ∧ first.isLower = true := by
  obtain ⟨word, words, rfl⟩ := List.exists_cons_of_ne_nil some_word
  have here := plain word.toList (by simp)
  obtain ⟨first, letters, same⟩ := List.exists_cons_of_ne_nil here.nonempty
  have begins : (textOf (word :: words)).head? = some first := by
    rw [textOf, List.map_cons, head?_intercalate _ here.nonempty, same]
    rfl
  obtain ⟨rest, text⟩ := List.head?_eq_some_iff.1 begins
  exact ⟨first, rest, text, here.begins first (by rw [same]; rfl)⟩

/-- A text in any case becomes the text of the words. -/
theorem normalize_textOf {raw : String} (some_word : words ≠ [])
    (plain : ∀ w ∈ words.map String.toList, IsPlainWord w)
    (lower : raw.toList.map Char.toLower = textOf words) : normalize raw = textOf words := by
  obtain ⟨first, rest, text, letter⟩ := exists_cons_textOf some_word plain
  obtain ⟨w, mem, ends⟩ : ∃ w ∈ words.map String.toList, (textOf words).getLast? = w.getLast? := by
    obtain ⟨word, others, rfl⟩ := List.exists_cons_of_ne_nil some_word
    exact exists_getLast?_intercalate fun v hv => (plain v hv).nonempty
  have last := List.getLast?_eq_some_getLast (plain w mem).nonempty
  have kept : squeeze (textOf words) = textOf words :=
    squeeze_intercalate (fun w hw => (plain w hw).nonempty)
      fun w hw c hc => (plain_of_isLower ((plain w hw).letters c hc)).2.1
  rw [normalize_of_lower lower ?_ (by rw [text]; rfl) (plain_of_isLower (.inl letter)).2.1
    (ends.trans last) (plain_of_isLower (.inl ((plain w mem).ends _ last))).2.1, kept]
  intro c hc
  rcases mem_intercalate hc with rfl | ⟨w, hw, inside⟩
  · decide
  · exact (plain_of_isLower ((plain w hw).letters c inside)).1

end Text

/-! ## The search -/

/-- No strategy before that for spelled-out numbers has a candidate. -/
theorem passedOver_textOf {words : List String} (some_word : words ≠ [])
    (plain : ∀ w ∈ words.map String.toList, IsPlainWord w) (config : Config) (bases : Option Bases) :
    PassedOver config (candidate? config bases (textOf words)) Strategy.beforeSpelled [] := by
  obtain ⟨first, rest, text, letter⟩ := exists_cons_textOf some_word plain
  have no_numeral : numeral? (textOf words) = none := by
    rw [text]
    exact numeral?_of_not_isDigit (plain_of_isLower (.inl letter)).2.2
  have no_share : ∀ entry ∈ relativeWords, ¬standsFrom entry.1.toList true (textOf words) = true := by
    have table : ∀ entry ∈ relativeWords, ' ' ∉ entry.1.toList ∧ entry.1.toList ≠ [] := by decide
    intro entry mem stands
    obtain ⟨apart, nonempty⟩ := table entry mem
    obtain ⟨w, hw, inside⟩ := occursIn_intercalate apart nonempty (occursIn_of_standsFrom stands)
    rw [(plain w hw).no_share entry mem] at inside
    cases inside
  have exact : numeralOnly? (textOf words) = none := by rw [numeralOnly?, no_numeral]
  have unit : withUnit? (textOf words) = none := by
    rw [withUnit?, no_numeral]
    rfl
  have percentage : percentage? config bases (textOf words) = none := by
    unfold percentage? percent?
    rw [no_numeral]
    cases bases <;> rfl
  have relative : relative? config bases (textOf words) = none := by
    unfold relative?
    rw [List.find?_eq_none.2 no_share]
    cases bases <;> rfl
  exact passedOver_beforeSpelled exact unit percentage relative

/-- A whole number below a trillion is a double. -/
theorem denotes_ofInt (pos : 0 < n) (below : n < 10 ^ 12) : Denotes (Float.ofInt n) n := by
  have nearest : IsNearest (Float.ofInt n) n := by
    have exact : IsNearest (Float.ofScientific n false 0) (n * 10 ^ signed false 0) :=
      isNearest_ofScientific pos (by decide)
    have scale : (n : Rat) * 10 ^ signed false 0 = n := by
      rw [signed, if_neg Bool.false_ne_true, Nat.cast_zero, zpow_zero, mul_one]
    rwa [scale] at exact
  have same := denotes_toUInt64 pos (below.trans (by decide))
  obtain ⟨w, rounds, denotes⟩ := nearest.exists_denotes same.moderate
  rwa [rounds.unique same.rounds_self] at denotes

/-- The words for a number below a trillion are read as this number, whatever shares could be shares
of. -/
theorem spelling_is_read {raw : String} (pos : 1 ≤ n) (below : n < 10 ^ 12) (spelled : IsSpelling n raw)
    (bases : Option Bases) :
    ∃ r, parse {} bases (some raw) = .ok r ∧ r.strategy = .spelled ∧ Denotes r.value n := by
  obtain ⟨words, same, lower⟩ := spelled
  rw [String.toList_intercalate] at lower
  have some_word := ne_nil_of_filter pos below same
  have plain := isPlainWord_of_filter below same
  have text : normalize raw = textOf words := normalize_textOf some_word plain lower
  have small : (n : Int).natAbs < wholeBound := by
    have : 10 ^ 12 < wholeBound := by decide +kernel
    omega
  have denotes := denotes_ofInt pos below
  have candidate : candidate? {} bases (normalize raw) .spelled =
      .ok (some { value := Float.ofInt n }) := by
    rw [text]
    show spelled? (textOf words) = _
    unfold spelled?
    dsimp only
    rw [spelledValue_textOf pos below same, if_neg (by omega), realOf_eq_ok n small]
    rfl
  have permits : Config.Permits {} (Float.ofInt n) := by
    refine (permits_iff denotes).2 ⟨?_, by exact_mod_cast below.le⟩
    have least : leastAmount ≤ 1 := by norm_num [leastAmount, weight]
    exact least.trans (by exact_mod_cast pos)
  obtain ⟨first, rest, begins, -⟩ := exists_cons_textOf some_word plain
  refine ⟨⟨raw, .spelled, _⟩, parse_eq_ok_iff.2 ⟨?_, rfl,
    search_eq_found_iff.2 ⟨Strategy.beforeSpelled, [.expression], [], rfl, ?_, candidate, permits⟩⟩, rfl,
    denotes⟩
  · rw [text, begins]
    exact List.cons_ne_nil _ _
  · rw [text]
    exact passedOver_textOf some_word plain {} bases

/-- A number with two groups, read next to a balance. -/
theorem hundredTwentyThousand_is_read :
    (1 ≤ 120045 ∧ 120045 < 10 ^ 12 ∧ IsSpelling 120045 "One Hundred AND Twenty Thousand and Forty-Five") ∧
      ∃ r, parse {} (some { balance := some 1000 })
        (some "One Hundred AND Twenty Thousand and Forty-Five") = .ok r ∧ r.strategy = .spelled ∧
          Denotes r.value (120045 : Nat) := by
  have spelled : IsSpelling 120045 "One Hundred AND Twenty Thousand and Forty-Five" :=
    ⟨["one", "hundred", "and", "twenty", "thousand", "and", "forty-five"], by decide,
      by decide⟩
  exact ⟨⟨by decide, by decide, spelled⟩, spelling_is_read (by decide) (by decide) spelled _⟩

end Amount

end Teller
