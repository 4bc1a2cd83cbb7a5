import Teller.Amount.Writing
import Teller.Proofs.Amount.Range
import Teller.Proofs.Amount.Texts
import Teller.Proofs.Number.Places

/-!
# Reading what was written

Every amount in the default range is written as a text that is read again. From a thousandth on the
amount that is read is within a billionth of the one that was written: two places with a unit or six
places without one are used only if they name the amount as closely, and nine or twelve places
always do. Below a thousandth the text is cut at the twelfth place, and then the amount is as close
only if this place or the sixth one suffices.

    IsNear                       two amounts within a billionth of the greater one
    isClose_iff                  when the writer takes two numbers for close
    exists_read_exact, exists_read_unit    digits, alone or with a unit, are read
    write_eq_small, write_eq_large         what is written
    read_back                    when an amount that is read back is near
    cut_at_twelve_places         an amount that is read back as another one
-/

namespace Teller

namespace Amount

open Text Number

variable {x a : Float} {v w : Rat}

/-! ## Close numbers -/

/-- The two numbers differ by a billionth of the greater one at most. -/
def IsNear (x a : Float) : Prop := (x - a).abs ≤ 1e-9 * max x.abs a.abs

def billionth : Rat := weight 4835703278458517 (-82)

theorem denotes_billionth : Denotes 1e-9 billionth :=
  denotes_of_fields (by decide +kernel) (by decide)

theorem le_billionth : 1 / 10 ^ 9 ≤ billionth := by
  norm_num [billionth, weight]

theorem billionth_le_one : billionth ≤ 1 := by
  norm_num [billionth, weight]

theorem billionth_nonneg : 0 ≤ billionth := weight_nonneg _ _

/-- A billionth of a double. -/
theorem exists_billionth (h : Denotes x v) :
    ∃ m, Rounds (billionth * v) m ∧ Denotes (1e-9 * x) m :=
  (denotes_billionth.mul h).exists_denotes
    (h.moderate.of_le (mul_le_of_le_one_left h.nonneg billionth_le_one))

/-- The rounded difference is no greater than the rounded billionth of the greater number. -/
def Close (v w : Rat) : Prop :=
  ∃ d m, Rounds |v - w| d ∧ Rounds (billionth * max v w) m ∧ d ≤ m

theorem denotes_max (h : Denotes x v) (h' : Denotes a w) : Denotes (max x a) (max v w) := by
  show Denotes (if x ≤ a then a else x) _
  by_cases le : v ≤ w
  · rw [if_pos ((h.le_iff h').2 le), max_eq_right le]
    exact h'
  · rw [if_neg (le ∘ (h.le_iff h').1), max_eq_left (not_le.1 le).le]
    exact h

theorem isNear_iff (h : Denotes x v) (h' : Denotes a w) : IsNear x a ↔ Close v w := by
  obtain ⟨d, rounds, difference⟩ := h.exists_abs_sub h'
  obtain ⟨m, rounds', tolerance⟩ := exists_billionth (denotes_max h.abs h'.abs)
  rw [IsNear, difference.le_iff tolerance]
  constructor
  · exact fun le => ⟨d, m, rounds, rounds', le⟩
  · rintro ⟨d', m', hd, hm, le⟩
    rw [rounds.unique hd, rounds'.unique hm]
    exact le

/-- Numbers that are closer than a billionth of one of them. -/
theorem isNear_of_le (h : Denotes x v) (h' : Denotes a w) (le : |v - w| ≤ w / 10 ^ 9) :
    IsNear x a := by
  obtain ⟨d, rounds, difference⟩ := h.exists_abs_sub h'
  obtain ⟨m, rounds', tolerance⟩ := exists_billionth (denotes_max h.abs h'.abs)
  refine (isNear_iff h h').2 ⟨d, m, rounds, rounds', rounds.mono rounds' ?_⟩
  calc |v - w| ≤ 1 / 10 ^ 9 * w := by
        rw [one_div_mul_eq_div]
        exact le
    _ ≤ billionth * w := mul_le_mul_of_nonneg_right le_billionth h'.nonneg
    _ ≤ billionth * max v w := mul_le_mul_of_nonneg_left (le_max_right v w) billionth_nonneg

/-- When the writer takes two numbers for close. -/
theorem isClose_iff (h : Denotes x v) (h' : Denotes a w) : isClose x a = true ↔ Close v w := by
  obtain ⟨d, rounds, difference⟩ := h'.exists_abs_sub h
  obtain ⟨m, rounds', tolerance⟩ := exists_billionth h
  obtain ⟨n, rounds'', tolerance'⟩ := exists_billionth h'
  obtain ⟨k, greater, _⟩ := exists_billionth (denotes_max h h')
  rw [abs_sub_comm] at rounds
  have close : Close v w ↔ d ≤ k := by
    refine ⟨?_, fun le => ⟨d, k, rounds, greater, le⟩⟩
    rintro ⟨d', k', hd, hk, le⟩
    rw [rounds.unique hd, greater.unique hk]
    exact le
  have below : m ≤ k := rounds'.mono greater
    (mul_le_mul_of_nonneg_left (le_max_left v w) billionth_nonneg)
  have below' : n ≤ k := rounds''.mono greater
    (mul_le_mul_of_nonneg_left (le_max_right v w) billionth_nonneg)
  have among : k = m ∨ k = n := by
    rcases max_choice v w with left | right
    · rw [left] at greater
      exact .inl (greater.unique rounds')
    · rw [right] at greater
      exact .inr (greater.unique rounds'')
  have zero : d ≤ 0 → d ≤ k := fun le => le.trans (greater.nonneg)
  rw [close]
  unfold isClose
  by_cases same : (x == a) = true
  · rw [if_pos same]
    have equal := h.eq_of_beq h' same
    subst equal
    rw [sub_self, abs_zero] at rounds
    exact iff_of_true rfl (zero (rounds.unique rounds_zero).le)
  · rw [if_neg same, h.not_isInf, h'.not_isInf, if_neg (by decide)]
    dsimp only
    simp only [Bool.or_eq_true, decide_eq_true_eq, difference.le_iff tolerance'.abs,
      difference.le_iff tolerance.abs, difference.le_iff denotes_zero]
    constructor
    · rintro ((le | le) | le)
      · exact le.trans below'
      · exact le.trans below
      · exact zero le
    · intro le
      rcases among with rfl | rfl
      · exact .inl (.inr le)
      · exact .inl (.inl le)

theorem isClose_iff_isNear (h : Denotes x v) (h' : Denotes a w) : isClose x a = true ↔ IsNear x a :=
  (isClose_iff h h').trans (isNear_iff h h').symm

/-- A whole number is close with all places. -/
theorem isClose_of_isWhole (h : Denotes a w) (whole : isWhole a = true) (places : Nat) :
    isClose (roundTo places a) a = true := by
  rw [roundTo_of_isWhole h whole, isClose_iff_isNear h h]
  refine isNear_of_le h h ?_
  rw [sub_self, abs_zero]
  exact div_nonneg h.nonneg (by norm_num)

/-! ## Reading digits -/

section Reading

variable {whole tail rest : List Char} {d : Decimal}

theorem span_digits {digits : List Char} (h : ∀ c ∈ digits, c.isDigit = true)
    (ends : ∀ c ∈ rest.head?, isDigit c = false) :
    (digits ++ rest).takeWhile isDigit = digits ∧ (digits ++ rest).dropWhile isDigit = rest :=
  span_isDigit (fun c hc => isDigit_of_ascii (h c hc)) ends

theorem numeralValue_eq {fraction : List Char} (digits : ∀ c ∈ whole, c.isDigit = true)
    (digits' : ∀ c ∈ fraction, c.isDigit = true) : numeralValue whole fraction =
      Decimal.toFloat ⟨ofDigits (whole ++ fraction), -(fraction.length : Int)⟩ := by
  rw [numeralValue, map_latinDigit]
  exact fun c hc => (List.mem_append.1 hc).elim (digits c) (digits' c)

/-- Digits are the numeral at the start of a text, if the text does not go on with another digit. -/
theorem numeral?_of_spells (h : Spells whole tail d)
    (ends : ∀ c ∈ rest.head?, isDigit c = false ∧ c ≠ '.') :
    numeral? (whole ++ (tail ++ rest)) = some (d.toFloat, rest) := by
  have point : isDigit '.' = false := by decide
  have decimal := h.decimal
  have nonempty : ¬whole.isEmpty = true := by simpa using h.nonempty
  unfold numeral?
  dsimp only
  rcases h.ends with rfl | ⟨kept, rfl, kept_ne_nil, digits⟩
  · obtain ⟨taken, dropped⟩ := span_digits h.digits fun c hc => (ends c hc).1
    have value := @numeralValue_eq whole [] h.digits nofun
    rw [List.append_nil, decimal?_whole h.nonempty h.digits] at decimal
    rw [List.append_nil] at value
    cases decimal
    rw [List.nil_append, taken, dropped, if_neg nonempty, value]
    split
    · exact absurd rfl (ends '.' rfl).2
    · rfl
  · have stops : ∀ c ∈ ('.' :: kept ++ rest).head?, isDigit c = false := by
      rintro c ⟨⟩
      exact point
    obtain ⟨taken, dropped⟩ := span_digits h.digits stops
    obtain ⟨taken', dropped'⟩ := span_digits digits fun c hc => (ends c hc).1
    rw [decimal?_fraction h.nonempty h.digits digits] at decimal
    cases decimal
    rw [taken, dropped, if_neg nonempty]
    show (if ((kept ++ rest).takeWhile isDigit).isEmpty = true then _
      else some (numeralValue whole ((kept ++ rest).takeWhile isDigit),
        (kept ++ rest).dropWhile isDigit)) = _
    rw [taken', dropped', if_neg (by simpa using kept_ne_nil), numeralValue_eq h.digits digits]

/-- Digits and a mark are the text that is searched, with the mark in lower case. -/
theorem normalize_spelled (h : Spells whole tail d) {mark : String}
    (plain : ∀ c ∈ mark.toList, c.toNat < 128 ∧ isBlank c = false ∧ c ≠ ',') :
    normalize (String.ofList (whole ++ tail) ++ mark) =
      whole ++ (tail ++ mark.toList.map Char.toLower) := by
  have digit {c : Char} (hc : c ∈ whole ++ tail) :
      (c.toNat < 128 ∧ isBlank c = false ∧ c ≠ ',') ∧ c.toLower = c := by
    rcases h.cases_of_mem hc with rfl | digit
    · decide
    · refine ⟨⟨?_, not_isBlank_of_isDigit (isDigit_of_ascii digit), ?_⟩, toLower_of_isDigit digit⟩
      · have := toNat_of_isDigit digit
        omega
      · rintro rfl
        exact absurd digit (by decide)
  have same : (whole ++ tail).map Char.toLower = whole ++ tail := by
    rw [List.map_congr_left fun c hc => (digit hc).2, List.map_id']
  have text : (String.ofList (whole ++ tail) ++ mark).toList = whole ++ tail ++ mark.toList := by
    rw [String.toList_append, String.toList_ofList]
  rw [normalize_eq_map, text, List.map_append, same, List.append_assoc]
  intro c hc
  rw [text] at hc
  exact (List.mem_append.1 hc).elim (fun mem => (digit mem).1) (plain c)

/-- Digits alone are read. -/
theorem exists_read_exact (h : Spells whole tail d) (permits : Config.Permits {} d.toFloat) :
    ∃ r, parse {} none (some (String.ofList (whole ++ tail))) = .ok r ∧ r.strategy = .exact ∧
      r.value = d.toFloat := by
  have text : normalize (String.ofList (whole ++ tail) ++ "") = whole ++ (tail ++ []) :=
    normalize_spelled h nofun
  have numeral : numeral? (whole ++ (tail ++ [])) = some (d.toFloat, []) :=
    numeral?_of_spells h nofun
  have alone : String.ofList (whole ++ tail) ++ "" = String.ofList (whole ++ tail) := by simp
  rw [alone] at text
  have exact : candidate? {} none (normalize (String.ofList (whole ++ tail))) .exact =
      .ok (some { value := d.toFloat }) := by
    rw [text]
    show Except.ok (numeralOnly? (whole ++ (tail ++ []))) = _
    rw [numeralOnly?, numeral]
  refine ⟨⟨_, .exact, _⟩, parse_eq_ok_iff.2 ⟨?_, rfl,
    search_eq_found_iff.2 ⟨[], _, [], rfl, .nil, exact, permits⟩⟩, rfl, rfl⟩
  rw [text]
  simp [h.nonempty]

/-- A unit that is written is one that is read. -/
structure IsUnit (unit : Float) (mark : String) (k : Nat) : Prop where
  letter : ∃ c, mark.toList.map Char.toLower = [c] ∧ isDigit c = false ∧ isBlank c = false ∧ c ≠ '.' ∧
    unitFactor? c = some unit
  plain : ∀ c ∈ mark.toList, c.toNat < 128 ∧ isBlank c = false ∧ c ≠ ','
  power : Denotes unit (10 ^ k)
  rest : ∃ j, k + j = 12 ∧ ∃ y, Denotes y ((10 : Rat) ^ j)

theorem exists_isUnit {unit : Float} {mark : String} (h : (unit, mark) ∈ writtenUnits) :
    ∃ k, IsUnit unit mark k := by
  obtain ⟨thousand, million, billion, -⟩ := denotes_units
  have plain (mark : String)
      (all : (mark.toList.all fun c => c.toNat < 128 ∧ isBlank c = false ∧ c ≠ ',') = true) :
      ∀ c ∈ mark.toList, c.toNat < 128 ∧ isBlank c = false ∧ c ≠ ',' :=
    fun c hc => of_decide_eq_true (List.all_eq_true.1 all c hc)
  simp only [writtenUnits, List.mem_cons, Prod.mk.injEq, List.not_mem_nil, or_false] at h
  rcases h with ⟨rfl, rfl⟩ | ⟨rfl, rfl⟩ | ⟨rfl, rfl⟩
  · exact ⟨9, ⟨'b', by decide, by decide, by decide, by decide, rfl⟩, plain _ (by decide), billion, 3,
      rfl, _, thousand⟩
  · exact ⟨6, ⟨'m', by decide, by decide, by decide, by decide, rfl⟩, plain _ (by decide), million, 6,
      rfl, _, million⟩
  · exact ⟨3, ⟨'k', by decide, by decide, by decide, by decide, rfl⟩, plain _ (by decide), thousand, 9,
      rfl, _, billion⟩

/-- Digits with a unit are read. -/
theorem exists_read_unit (h : Spells whole tail d) {unit : Float} {mark : String} {k : Nat}
    (known : IsUnit unit mark k) (permits : Config.Permits {} (d.toFloat * unit)) :
    ∃ r, parse {} none (some (String.ofList (whole ++ tail) ++ mark)) = .ok r ∧
      r.value = d.toFloat * unit := by
  obtain ⟨c, mark_eq, no_digit, visible, no_point, factor⟩ := known.letter
  have text := normalize_spelled h known.plain
  have numeral : numeral? (whole ++ (tail ++ [c])) = some (d.toFloat, [c]) := by
    refine numeral?_of_spells h ?_
    rintro _ ⟨⟩
    exact ⟨no_digit, no_point⟩
  rw [mark_eq] at text
  have none : candidate? {} none (normalize (String.ofList (whole ++ tail) ++ mark)) .exact =
      .ok none := by
    rw [text]
    show Except.ok (numeralOnly? (whole ++ (tail ++ [c]))) = _
    rw [numeralOnly?, numeral]
  have some : candidate? {} Option.none (normalize (String.ofList (whole ++ tail) ++ mark)) .unit =
      .ok (some { value := d.toFloat * unit, unit := some (String.singleton c) }) := by
    rw [text]
    show Except.ok (withUnit? (whole ++ (tail ++ [c]))) = _
    rw [withUnit?, numeral, Option.bind_some]
    dsimp only
    rw [List.dropWhile_cons_of_neg (by simp [visible])]
    dsimp only
    rw [factor]
    rfl
  refine ⟨⟨_, .unit, _⟩, parse_eq_ok_iff.2 ⟨?_, rfl,
    search_eq_found_iff.2 ⟨[.exact], _, [], rfl, .without none .nil, some, permits⟩⟩, rfl⟩
  rw [text]
  simp [h.nonempty]

end Reading

/-! ## Writing -/

/-- What an amount below a thousand is written as. -/
theorem write_eq_small (small : writtenUnits.find? (fun (unit, _) => unit ≤ a) = none) :
    write {} a none = .ok (if isClose (roundTo 6 a) a = true then fixed 6 a else plain a) := by
  unfold write writeNumber
  rw [small]
  dsimp only
  show (fixed? 6 a >>= fun short => _) >>= _ = _
  rw [fixed?, if_neg (by decide), ok_bind]
  show (if isClose (roundTo 6 a) a = true then _ else _) >>= _ = _
  split <;> rfl

/-- What an amount from a thousand on is written as. -/
theorem write_eq_large {unit : Float} {mark : String}
    (found : writtenUnits.find? (fun (unit, _) => unit ≤ a) = some (unit, mark)) :
    write {} a none = .ok (if isClose (roundTo 2 (a / unit) * unit) a = true
      then fixed 2 (a / unit) ++ mark
      else String.ofList (dropTrailingZeros (fixed 9 (a / unit)).toList) ++ mark) := by
  unfold write writeNumber
  rw [found]
  dsimp only
  split
  · rfl
  · show (fixed? 9 (a / unit) >>= _) >>= _ = _
    rw [fixed?, if_neg (by decide), ok_bind]
    rfl

/-! ## Below a thousand -/

theorem moderate_of_le (le : v ≤ 10 ^ 12) : Moderate v := denotes_most.moderate.of_le le

/-- What is rounded between the bounds stays between them. -/
theorem permits_of_rounds (rounds : Rounds v w) (h : Denotes x w) (above : leastAmount ≤ v)
    (below : v ≤ 10 ^ 12) : Config.Permits {} x :=
  (permits_iff h).2 ⟨denotes_least.rounds_self.mono rounds above,
    rounds.mono denotes_most.rounds_self below⟩

/-- Six or twelve places of an amount are permitted. -/
theorem exists_places (above : leastAmount ≤ v) (below : v ≤ 10 ^ 12) {places q : Nat}
    (six_or_twelve : places = 6 ∨ places = 12) (multiple : IsMultiple v places q) {d : Decimal}
    (value : d.value = q / 10 ^ places) : Moderate (q / 10 ^ places) ∧
      ∃ u, Rounds (q / 10 ^ places) u ∧ Denotes d.toFloat u ∧ Config.Permits {} d.toFloat := by
  have least : leastAmount ≤ 1 / 10 ^ 6 := by norm_num [leastAmount, weight]
  have nearly : (1 : Rat) / 10 ^ 6 - 1 / 10 ^ 13 < leastAmount := by norm_num [leastAmount, weight]
  have lower : 1 / 10 ^ 6 ≤ (q : Rat) / 10 ^ places := by
    rcases six_or_twelve with rfl | rfl
    · have one : 1 ≤ q := multiple.le_of_lt (by norm_num at *; linarith)
      exact div_le_div_of_nonneg_right (by exact_mod_cast one) (by positivity)
    · have million : 10 ^ 6 ≤ q := multiple.le_of_lt (by norm_num at *; linarith)
      calc (1 : Rat) / 10 ^ 6 = 10 ^ 6 / 10 ^ 12 := by norm_num
        _ ≤ (q : Rat) / 10 ^ 12 :=
          div_le_div_of_nonneg_right (by exact_mod_cast million) (by positivity)
  have upper : (q : Rat) / 10 ^ places ≤ 10 ^ 12 :=
    by exact_mod_cast multiple.value_le (n := 10 ^ 12) (by exact_mod_cast below)
  obtain ⟨u, rounds, denotes⟩ := d.isNearest.exists_denotes (moderate_of_le (value.trans_le upper))
  rw [value] at rounds
  exact ⟨moderate_of_le upper, u, rounds, denotes,
    permits_of_rounds rounds denotes (least.trans lower) upper⟩

/-- From a thousandth on twelve places are close enough. -/
theorem near_of_twelve_places (h : Denotes a w) (h' : Denotes x v) {q : Nat}
    (multiple : IsMultiple w 12 q) (rounds : Rounds (q / 10 ^ 12) v) (large : 1 / 1001 ≤ w) :
    IsNear x a := by
  have off := abs_le.1 multiple.abs_sub_le
  have near := abs_le.1 (rounds.near (by norm_num at *; linarith))
  refine isNear_of_le h' h (abs_le.2 ⟨?_, ?_⟩) <;> norm_num at * <;> linarith

/-! ## From a thousand on -/

/-- The steps of writing and reading with nine places of a unit. -/
theorem abs_sub_le_of_nine_places {t s q u z : Rat} (large : 1 ≤ t) (scaled : |s - t| ≤ t / 2 ^ 53)
    (places : |q - s| ≤ 1 / (2 * 10 ^ 9)) (read : |u - q| ≤ q / 2 ^ 53) (product : |z - u| ≤ u / 2 ^ 53) :
    |z - t| ≤ t / 10 ^ 9 := by
  rw [abs_le] at *
  norm_num at *
  constructor <;> linarith

/-- The number of units, two or nine places of it, and what is read from these. -/
theorem exists_places_large {unit : Float} {mark : String} {k : Nat} (known : IsUnit unit mark k)
    (above : 10 ^ k ≤ v) (below : v ≤ 10 ^ 12) {t : Rat} (rounds : Rounds (v / 10 ^ k) t)
    {places q : Nat} (multiple : IsMultiple t places q) {d : Decimal}
    (value : d.value = q / 10 ^ places) :
    ∃ u y, 1 ≤ t ∧ 1 ≤ (q : Rat) / 10 ^ places ∧ Rounds (q / 10 ^ places) u ∧ Rounds (u * 10 ^ k) y ∧
      Denotes (d.toFloat * unit) y ∧ Config.Permits {} (d.toFloat * unit) := by
  obtain ⟨j, total, b, bound⟩ := known.rest
  have positive : (0 : Rat) < 10 ^ k := by positivity
  have product : (10 : Rat) ^ j * 10 ^ k = 10 ^ 12 := by rw [← pow_add, Nat.add_comm, total]
  have one_le : 1 ≤ t := denotes_one.rounds_self.mono rounds ((one_le_div positive).2 above)
  have le_bound : t ≤ 10 ^ j :=
    rounds.mono bound.rounds_self ((div_le_iff₀ positive).2 (below.trans_eq product.symm))
  have one_le_value : 1 ≤ (q : Rat) / 10 ^ places := by
    exact_mod_cast multiple.le_value (n := 1) (by exact_mod_cast one_le)
  have value_le : (q : Rat) / 10 ^ places ≤ 10 ^ j := by
    exact_mod_cast multiple.value_le (n := 10 ^ j) (by exact_mod_cast le_bound)
  have moderate : Moderate d.value := bound.moderate.of_le (value.trans_le value_le)
  obtain ⟨u, read, denotes⟩ := d.isNearest.exists_denotes moderate
  rw [value] at read
  have one_le_read : 1 ≤ u := denotes_one.rounds_self.mono read one_le_value
  have read_le : u ≤ 10 ^ j := read.mono bound.rounds_self value_le
  have product_le : u * 10 ^ k ≤ 10 ^ 12 :=
    (mul_le_mul_of_nonneg_right read_le positive.le).trans_eq product
  have le_product : leastAmount ≤ u * 10 ^ k := by
    have least : leastAmount ≤ 1 := by norm_num [leastAmount, weight]
    have power : (1 : Rat) ≤ 10 ^ k := one_le_pow₀ (by norm_num)
    exact least.trans (one_le_mul_of_one_le_of_one_le one_le_read power)
  obtain ⟨y, rounds', result⟩ := (denotes.mul known.power).exists_denotes (moderate_of_le product_le)
  exact ⟨u, y, one_le, one_le_value, read, rounds', result,
    permits_of_rounds rounds' result le_product product_le⟩

/-- Nine places of a unit are close enough. -/
theorem near_of_nine_places {k : Nat} (h : Denotes a w) (h' : Denotes x v) (above : 10 ^ k ≤ w)
    {s u : Rat} {q : Nat} (scaled : Rounds (w / 10 ^ k) s) (multiple : IsMultiple s 9 q)
    (one_le : 1 ≤ (q : Rat) / 10 ^ 9) (read : Rounds (q / 10 ^ 9) u)
    (product : Rounds (u * 10 ^ k) v) : IsNear x a := by
  have positive : (0 : Rat) < 10 ^ k := by positivity
  have large : 1 ≤ w / 10 ^ k := (one_le_div positive).2 above
  have one_le_read : 1 ≤ u := denotes_one.rounds_self.mono read one_le
  have tiny : (1 : Rat) / 2 ^ 200 ≤ 1 := by norm_num
  have one_le_product : 1 ≤ u * 10 ^ k :=
    one_le_mul_of_one_le_of_one_le one_le_read (one_le_pow₀ (by norm_num))
  have rounded : |v / 10 ^ k - u| ≤ u / 2 ^ 53 := by
    have near := product.near (tiny.trans one_le_product)
    have same : v / 10 ^ k - u = (v - u * 10 ^ k) / 10 ^ k := by
      rw [sub_div, mul_div_cancel_right₀ _ positive.ne']
    rw [same, abs_div, abs_of_pos positive, div_le_iff₀ positive, div_mul_eq_mul_div]
    exact near
  have steps := abs_sub_le_of_nine_places large (scaled.near (tiny.trans large)) multiple.abs_sub_le
    (read.near (tiny.trans one_le)) rounded
  refine isNear_of_le h' h ?_
  have same : v / 10 ^ k - w / 10 ^ k = (v - w) / 10 ^ k := (sub_div _ _ _).symm
  rw [same, abs_div, abs_of_pos positive, div_right_comm, div_le_div_iff_of_pos_right positive] at steps
  exact steps

/-! ## Reading back -/

/-- An amount with a unit is read back near. -/
theorem read_back_large (h : Denotes a w) (below : w ≤ 10 ^ 12) {unit : Float} {mark : String}
    (found : writtenUnits.find? (fun (unit, _) => unit ≤ a) = some (unit, mark)) :
    1 ≤ w ∧ ∃ text r, write {} a none = .ok text ∧ parse {} none (some text) = .ok r ∧
      IsNear r.value a := by
  obtain ⟨k, known⟩ := exists_isUnit (List.mem_of_find?_eq_some found)
  have reached := List.find?_some found
  have above : 10 ^ k ≤ w := (known.power.le_iff h).1 (of_decide_eq_true reached)
  have power : (1 : Rat) ≤ 10 ^ k := one_le_pow₀ (by norm_num)
  have quotient_le : w / 10 ^ k ≤ 10 ^ 12 := (div_le_self h.nonneg power).trans below
  obtain ⟨t, scaled, quotient⟩ :=
    (h.div known.power (by positivity)).exists_denotes (moderate_of_le quotient_le)
  refine ⟨power.trans above, ?_⟩
  rw [write_eq_large found]
  by_cases close : isClose (roundTo 2 (a / unit) * unit) a = true
  · obtain ⟨q, multiple, rounded, ⟨whole, tail, text, spells⟩, -⟩ :=
      exists_spells quotient (show 0 < 2 by decide)
    obtain ⟨u, y, _, _, _, _, product, permits⟩ :=
      exists_places_large known above below scaled multiple (value_places q 2)
    obtain ⟨r, reads, result⟩ := exists_read_unit spells known permits
    rw [if_pos close, text]
    rw [rounded, isClose_iff_isNear product h] at close
    exact ⟨_, r, rfl, reads, result ▸ close⟩
  · obtain ⟨q, multiple, -, -, whole, tail, d, text, spells, value⟩ :=
      exists_spells quotient (show 0 < 9 by decide)
    obtain ⟨u, y, _, one_le, read, rounds, product, permits⟩ :=
      exists_places_large known above below scaled multiple value
    obtain ⟨r, reads, result⟩ := exists_read_unit spells known permits
    rw [if_neg close, text]
    exact ⟨_, r, rfl, reads,
      result ▸ near_of_nine_places h product above scaled multiple one_le read rounds⟩

/-- What an amount without a unit is read back as: the amount to six places, if that is close, or to
twelve. From a thousandth on it is near. -/
theorem read_back_small (h : Denotes a w) (above : leastAmount ≤ w) (below : w ≤ 10 ^ 12)
    (small : writtenUnits.find? (fun (unit, _) => unit ≤ a) = none) :
    ∃ text r, write {} a none = .ok text ∧ parse {} none (some text) = .ok r ∧
      r.value = (if isClose (roundTo 6 a) a then roundTo 6 a else roundTo 12 a) ∧
      (isClose (roundTo 6 a) a = true ↔ IsNear (roundTo 6 a) a) ∧
      (1 / 1001 ≤ w → IsNear r.value a) := by
  obtain ⟨q, multiple, rounded, ⟨whole, tail, text, spells⟩, -⟩ := exists_spells h (show 0 < 6 by decide)
  obtain ⟨-, u, _, denotes, permits⟩ :=
    exists_places above below (.inl rfl) multiple (value_places q 6)
  have near : isClose (roundTo 6 a) a = true ↔ IsNear (roundTo 6 a) a := by
    rw [rounded, isClose_iff_isNear denotes h]
  rw [write_eq_small small]
  by_cases close : isClose (roundTo 6 a) a = true
  · obtain ⟨r, reads, -, result⟩ := exists_read_exact spells permits
    rw [← rounded] at result
    rw [if_pos close, if_pos close, text]
    exact ⟨_, r, rfl, reads, result, near, fun _ => result ▸ near.1 close⟩
  · have broken : isWhole a = false :=
      eq_false_of_ne_true fun whole => close (isClose_of_isWhole h whole 6)
    obtain ⟨p, multiple', rounded', -, whole, tail, d, text, spells, value⟩ :=
      exists_spells h (show 0 < 12 by decide)
    obtain ⟨moderate, y, rounds, denotes', permits'⟩ :=
      exists_places above below (.inr rfl) multiple' value
    obtain ⟨r, reads, -, result⟩ := exists_read_exact spells permits'
    have same : d.toFloat = roundTo 12 a := by
      rw [rounded']
      refine Decimal.toFloat_eq (value.trans (value_places p 12).symm) ?_
      rw [value_places]
      exact moderate
    rw [if_neg close, if_neg close, plain_of_not_isWhole broken, text]
    exact ⟨_, r, rfl, reads, result.trans same, near,
      fun large => result ▸ near_of_twelve_places h denotes' multiple' rounds large⟩

def thousandth : Rat := weight 4611686018427388 (-62)

theorem denotes_thousandth : Denotes 0.001 thousandth :=
  denotes_of_fields (by decide +kernel) (by decide)

/-- An amount in the default range is written as a text that is read again. What is read is near the
amount exactly if this is at least a thousandth, or if six or twelve places of it are near. -/
theorem read_back (above : ({} : Config).least ≤ a) (below : a ≤ ({} : Config).most) :
    ∃ text r, write {} a none = .ok text ∧ parse {} none (some text) = .ok r ∧
      (IsNear r.value a ↔ 0.001 ≤ a ∨ IsNear (roundTo 6 a) a ∨ IsNear (roundTo 12 a) a) := by
  have finite := isFinite_of_le_of_le denotes_least.isFinite denotes_most.isFinite above below
  have positive := lt_of_lt_of_le ((denotes_zero.lt_iff denotes_least).2 leastAmount_pos) above
  obtain ⟨w, pos, h⟩ := exists_denotes positive finite
  have least_le : leastAmount ≤ w := (denotes_least.le_iff h).1 above
  have le_most : w ≤ 10 ^ 12 := (h.le_iff denotes_most).1 below
  cases found : writtenUnits.find? (fun (unit, _) => unit ≤ a) with
  | some entry =>
    obtain ⟨large, text, r, written, reads, near⟩ := read_back_large h le_most found
    have le : thousandth ≤ 1 := by norm_num [thousandth, weight]
    exact ⟨text, r, written, reads,
      iff_of_true near (.inl ((denotes_thousandth.le_iff h).2 (le.trans large)))⟩
  | none =>
    obtain ⟨text, r, written, reads, value, close_iff, large⟩ := read_back_small h least_le le_most found
    refine ⟨text, r, written, reads, ?_, ?_⟩
    · intro near
      rw [value] at near
      split at near
      · exact .inr (.inl near)
      · exact .inr (.inr near)
    · rintro (thousandth_le | six | twelve)
      · have le : 1 / 1001 ≤ thousandth := by norm_num [thousandth, weight]
        exact large (le.trans ((denotes_thousandth.le_iff h).1 thousandth_le))
      · rw [value, if_pos (close_iff.2 six)]
        exact six
      · rw [value]
        split
        · next close => exact close_iff.1 close
        · exact twelve

/-- An amount that needs nine places of a unit, one that needs seven places, and one below a
thousandth. -/
theorem three_amounts_read_back :
    (∃ text r, write {} 1234.5678 none = .ok text ∧ parse {} none (some text) = .ok r ∧
      IsNear r.value 1234.5678) ∧
    (∃ text r, write {} 1.2345678 none = .ok text ∧ parse {} none (some text) = .ok r ∧
      IsNear r.value 1.2345678) ∧
    ∃ text r, write {} 0.00000125 none = .ok text ∧ parse {} none (some text) = .ok r ∧
      IsNear r.value 0.00000125 := by
  refine ⟨?_, ?_, ?_⟩
  · obtain ⟨text, r, written, reads, near⟩ := @read_back 1234.5678 (by decide +kernel) (by decide +kernel)
    exact ⟨text, r, written, reads, near.2 (.inl (by decide +kernel))⟩
  · obtain ⟨text, r, written, reads, near⟩ := @read_back 1.2345678 (by decide +kernel) (by decide +kernel)
    exact ⟨text, r, written, reads, near.2 (.inl (by decide +kernel))⟩
  · obtain ⟨text, r, written, reads, near⟩ :=
      @read_back 0.00000125 (by decide +kernel) (by decide +kernel)
    refine ⟨text, r, written, reads, near.2 (.inr (.inr ?_))⟩
    unfold IsNear
    decide +kernel

/-- Of an amount below a thousandth the eighth digit is lost. -/
theorem cut_at_twelve_places : ({} : Config).least ≤ 0.0000012345678 ∧
    (0.0000012345678 : Float) ≤ ({} : Config).most ∧
    ∃ text r, write {} 0.0000012345678 none = .ok text ∧ parse {} none (some text) = .ok r ∧
      r.value = 0.000001234568 ∧ ¬IsNear r.value 0.0000012345678 := by
  refine ⟨by decide +kernel, by decide +kernel, ?_⟩
  have written : (write {} 0.0000012345678 none).toOption.any (· == "0.000001234568") := by
    decide +kernel
  have read : (parse {} none (some "0.000001234568")).toOption.any fun r => r.value = 0.000001234568 := by
    decide +kernel
  obtain ⟨text, write_eq, text_eq⟩ := exists_eq_ok_of_any written
  obtain ⟨r, reads, value⟩ := exists_eq_ok_of_any read
  cases eq_of_beq text_eq
  replace value : r.value = 0.000001234568 := of_decide_eq_true value
  refine ⟨_, r, write_eq, reads, value, ?_⟩
  rw [value]
  unfold IsNear
  decide +kernel

end Amount

end Teller
