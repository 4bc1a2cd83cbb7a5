import Mathlib.Data.List.Infix
import Teller.Text.Pattern

/-!
# What patterns read

A match leads from one place to another by reading a text. Which texts a pattern can read is said
without places; only whole-word boundaries and anchors look around. A pattern that never looks
around matches at every place that a text which it can read stands at. What a pattern can read is
bounded by what its parts can read: how short, and without which characters.

    exists_reads_of_mem_rests     a match reads a text that the pattern can read
    mem_rests_iff                 and a pattern that does not look around matches every such text
    shortest_le_length            how short a text a pattern can read
    forall_mem_of_readsOnly       which characters it can read
    getLast?_ne_of_endsWithout    and which of them not as the last one
    accepts_repeated_one_iff      single characters again and again
    rest?_repeated_one            greedy repetition goes as far as it can
    length_of_accepts_caseless    a word in any case
-/

namespace Teller.Text

/-- Reading the text leads from the one place to the other. -/
structure Place.Reads (p : Place) (w : List Char) (q : Place) : Prop where
  rest : p.rest = w ++ q.rest
  before : q.before = w.getLast?.or p.before

namespace Place.Reads

variable {p q m : Place} {u v w : List Char}

theorem nil (p : Place) : p.Reads [] p := ⟨rfl, rfl⟩

theorem append (first : p.Reads u m) (second : m.Reads v q) : p.Reads (u ++ v) q := by
  constructor
  · rw [first.rest, second.rest, List.append_assoc]
  · rw [second.before, first.before, List.getLast?_append, Option.or_assoc]

theorem exists_of_append (h : p.Reads (u ++ v) q) : ∃ m, p.Reads u m ∧ m.Reads v q := by
  refine ⟨⟨u.getLast?.or p.before, v ++ q.rest⟩, ⟨?_, rfl⟩, rfl, ?_⟩
  · rw [h.rest, List.append_assoc]
  · rw [h.before, List.getLast?_append, Option.or_assoc]

theorem eq (h : p.Reads w q) : q = ⟨w.getLast?.or p.before, q.rest⟩ := by
  rw [← h.before]

theorem unique_end {q' : Place} (h : p.Reads w q) (h' : p.Reads w q') : q = q' := by
  rw [h.eq, h'.eq, List.append_cancel_left (h.rest.symm.trans h'.rest)]

end Place.Reads

namespace Pattern

/-- The texts that a pattern can read. What looks around reads nothing. -/
def Accepts : Pattern → List Char → Prop
  | empty, w | boundary, w | textStart, w | textEnd, w => w = []
  | one accepts, w => ∃ c, accepts c = true ∧ w = [c]
  | both first second, w => ∃ u v, first.Accepts u ∧ second.Accepts v ∧ w = u ++ v
  | either first second, w => first.Accepts w ∨ second.Accepts w
  | repeated _ least further part, w => ∃ ws : List (List Char), (∀ u ∈ ws, part.Accepts u) ∧
      least ≤ ws.length ∧ (∀ m, further = some m → ws.length ≤ least + m) ∧ w = ws.flatten

/-- The length of the shortest text that a pattern can read. -/
def shortest : Pattern → Nat
  | empty | boundary | textStart | textEnd => 0
  | one _ => 1
  | both first second => first.shortest + second.shortest
  | either first second => min first.shortest second.shortest
  | repeated _ least _ part => least * part.shortest

/-- The pattern does not look around, and what it repeats without bound is never empty. -/
def isLocal : Pattern → Bool
  | empty | one _ => true
  | boundary | textStart | textEnd => false
  | both first second | either first second => first.isLocal && second.isLocal
  | repeated _ _ further part => part.isLocal && (further.isSome || 0 < part.shortest)

/-- Every character that the pattern reads has the property. -/
def ReadsOnly (f : Char → Prop) : Pattern → Prop
  | empty | boundary | textStart | textEnd => True
  | one accepts => ∀ c, accepts c = true → f c
  | both first second | either first second => first.ReadsOnly f ∧ second.ReadsOnly f
  | repeated _ _ _ part => part.ReadsOnly f

/-- The pattern does not read the character. -/
def avoids (d : Char) : Pattern → Bool
  | empty | boundary | textStart | textEnd => true
  | one accepts => !accepts d
  | both first second | either first second => first.avoids d && second.avoids d
  | repeated _ _ _ part => part.avoids d

/-- The pattern does not read the character as the last one. -/
def endsWithout (d : Char) : Pattern → Bool
  | empty | boundary | textStart | textEnd => true
  | one accepts => !accepts d
  | both first second => second.endsWithout d && (0 < second.shortest || first.endsWithout d)
  | either first second => first.endsWithout d && second.endsWithout d
  | repeated _ _ _ part => part.endsWithout d

/-! ## Repetitions -/

/-- So many steps lead from the one place to the other. -/
def Steps (step : Place → List Place) : (count : Nat) → Place → Place → Prop
  | 0, p, q => q = p
  | count + 1, p, q => ∃ m ∈ step p, Steps step count m q

theorem mem_repeatedRests {step : Place → List Place} {isLazy : Bool} {least further : Nat}
    {p q : Place} : q ∈ repeatedRests step isLazy least further p ↔
      ∃ count, least ≤ count ∧ count ≤ least + further ∧ Steps step count p q := by
  induction least generalizing p with
  | zero =>
    induction further generalizing p with
    | zero =>
      rw [repeatedRests, furtherRests, List.mem_singleton]
      constructor
      · exact fun same => ⟨0, Nat.le_refl 0, Nat.le_refl 0, same⟩
      · rintro ⟨count, -, few, steps⟩
        obtain rfl : count = 0 := by omega
        exact steps
    | succ further ih =>
      have more_iff : q ∈ repeatedRests step isLazy 0 (further + 1) p ↔
          q = p ∨ ∃ m ∈ step p, q ∈ repeatedRests step isLazy 0 further m := by
        simp only [repeatedRests, furtherRests]
        cases isLazy <;> simp [List.mem_flatMap, or_comm]
      rw [more_iff]
      constructor
      · rintro (same | ⟨m, hm, mem⟩)
        · exact ⟨0, Nat.le_refl 0, Nat.zero_le _, same⟩
        · obtain ⟨count, -, few, steps⟩ := ih.1 mem
          exact ⟨count + 1, Nat.zero_le _, by omega, m, hm, steps⟩
      · rintro ⟨count, -, few, steps⟩
        cases count with
        | zero => exact .inl steps
        | succ count =>
          obtain ⟨m, hm, steps⟩ := steps
          exact .inr ⟨m, hm, ih.2 ⟨count, Nat.zero_le _, by omega, steps⟩⟩
  | succ least ih =>
    rw [repeatedRests, List.mem_flatMap]
    constructor
    · rintro ⟨m, hm, mem⟩
      obtain ⟨count, enough, few, steps⟩ := ih.1 mem
      exact ⟨count + 1, by omega, by omega, m, hm, steps⟩
    · rintro ⟨count, enough, few, steps⟩
      cases count with
      | zero => omega
      | succ count =>
        obtain ⟨m, hm, steps⟩ := steps
        exact ⟨m, hm, ih.2 ⟨count, by omega, by omega, steps⟩⟩

variable {pattern : Pattern} {p q : Place} {w : List Char}

/-- Steps that each read a text lead as far as all the texts together. -/
theorem exists_reads_of_steps
    (one_reads : ∀ p q, q ∈ pattern.rests p → ∃ w, pattern.Accepts w ∧ p.Reads w q) {count : Nat}
    (steps : Steps pattern.rests count p q) :
    ∃ ws : List (List Char), ws.length = count ∧ (∀ u ∈ ws, pattern.Accepts u) ∧
    p.Reads ws.flatten q := by
  induction count generalizing p with
  | zero =>
    obtain rfl := steps
    exact ⟨[], rfl, nofun, .nil q⟩
  | succ count ih =>
    obtain ⟨m, hm, steps⟩ := steps
    obtain ⟨u, accepts, reads⟩ := one_reads p m hm
    obtain ⟨ws, length, all, after⟩ := ih steps
    refine ⟨u :: ws, congrArg Nat.succ length, ?_, reads.append after⟩
    rintro v (_ | ⟨_, mem⟩)
    · exact accepts
    · exact all v mem

theorem steps_of_reads
    (one_rests : ∀ p q w, pattern.Accepts w → p.Reads w q → q ∈ pattern.rests p)
    {ws : List (List Char)} (all : ∀ u ∈ ws, pattern.Accepts u) (reads : p.Reads ws.flatten q) :
    Steps pattern.rests ws.length p q := by
  induction ws generalizing p with
  | nil => exact reads.eq.trans (by rw [← show p.rest = q.rest from reads.rest]; rfl)
  | cons u ws ih =>
    obtain ⟨m, first, second⟩ := reads.exists_of_append
    exact ⟨m, one_rests p m u (all u List.mem_cons_self) first,
      ih (fun v mem => all v (List.mem_cons_of_mem _ mem)) second⟩

/-! ## Texts and matches -/

/-- A match reads a text that the pattern can read. -/
theorem exists_reads_of_mem_rests (h : q ∈ pattern.rests p) : ∃ w, pattern.Accepts w ∧ p.Reads w q := by
  induction pattern generalizing p q with
  | empty =>
    obtain rfl := List.mem_singleton.1 h
    exact ⟨[], rfl, .nil q⟩
  | one accepts =>
    unfold rests at h
    split at h
    · next c rest split =>
      split at h
      · next accepted =>
        obtain rfl := List.mem_singleton.1 h
        exact ⟨[c], ⟨c, accepted, rfl⟩, split, rfl⟩
      · cases h
    · cases h
  | boundary | textStart | textEnd =>
    unfold rests at h
    split at h
    · obtain rfl := List.mem_singleton.1 h
      exact ⟨[], rfl, .nil q⟩
    · cases h
  | both first second ih ih' =>
    obtain ⟨m, hm, hq⟩ := List.mem_flatMap.1 h
    obtain ⟨u, accepts, reads⟩ := ih hm
    obtain ⟨v, accepts', reads'⟩ := ih' hq
    exact ⟨u ++ v, ⟨u, v, accepts, accepts', rfl⟩, reads.append reads'⟩
  | either first second ih ih' =>
    rcases List.mem_append.1 h with h | h
    · obtain ⟨w, accepts, reads⟩ := ih h
      exact ⟨w, .inl accepts, reads⟩
    · obtain ⟨w, accepts, reads⟩ := ih' h
      exact ⟨w, .inr accepts, reads⟩
  | repeated isLazy least further part ih =>
    obtain ⟨count, enough, few, steps⟩ := mem_repeatedRests.1 h
    obtain ⟨ws, rfl, all, reads⟩ := exists_reads_of_steps (fun _ _ => ih) steps
    refine ⟨ws.flatten, ⟨ws, all, enough, ?_, rfl⟩, reads⟩
    rintro m rfl
    exact few

/-- The texts that are read again and again are together as long as their number times the shortest.
-/
theorem length_mul_shortest_le {ws : List (List Char)}
    (least : ∀ u, pattern.Accepts u → pattern.shortest ≤ u.length) (all : ∀ u ∈ ws, pattern.Accepts u) :
    ws.length * pattern.shortest ≤ ws.flatten.length := by
  induction ws with
  | nil => exact Nat.le_of_eq (Nat.zero_mul _)
  | cons u ws ih =>
    have first := least u (all u List.mem_cons_self)
    have others := ih fun v mem => all v (List.mem_cons_of_mem _ mem)
    rw [List.flatten_cons, List.length_append, List.length_cons, Nat.succ_mul]
    omega

theorem shortest_le_length (h : pattern.Accepts w) : pattern.shortest ≤ w.length := by
  induction pattern generalizing w with
  | empty | boundary | textStart | textEnd => exact Nat.zero_le _
  | one accepts =>
    obtain ⟨c, -, rfl⟩ := h
    exact Nat.le_refl 1
  | both first second ih ih' =>
    obtain ⟨u, v, accepts, accepts', rfl⟩ := h
    rw [List.length_append]
    exact Nat.add_le_add (ih accepts) (ih' accepts')
  | either first second ih ih' =>
    rcases h with h | h
    · exact Nat.le_trans (Nat.min_le_left ..) (ih h)
    · exact Nat.le_trans (Nat.min_le_right ..) (ih' h)
  | repeated isLazy least further part ih =>
    obtain ⟨ws, all, enough, -, rfl⟩ := h
    calc least * part.shortest
        ≤ ws.length * part.shortest := Nat.mul_le_mul_right _ enough
      _ ≤ ws.flatten.length := length_mul_shortest_le (fun _ => ih) all

/-- A pattern that does not look around matches wherever a text that it can read stands. -/
theorem mem_rests_of_reads (around : pattern.isLocal = true) (h : pattern.Accepts w)
    (reads : p.Reads w q) : q ∈ pattern.rests p := by
  induction pattern generalizing p q w with
  | empty =>
    obtain rfl := h
    exact List.mem_singleton.2 (reads.unique_end (.nil p))
  | one accepts =>
    obtain ⟨c, accepted, rfl⟩ := h
    have rest : p.rest = c :: q.rest := reads.rest
    simp only [rests, rest, accepted, if_true, List.mem_singleton]
    exact reads.eq
  | boundary | textStart | textEnd => cases around
  | both first second ih ih' =>
    obtain ⟨around, around'⟩ := Bool.and_eq_true_iff.1 around
    obtain ⟨u, v, accepts, accepts', rfl⟩ := h
    obtain ⟨m, reads, reads'⟩ := reads.exists_of_append
    exact List.mem_flatMap.2 ⟨m, ih around accepts reads, ih' around' accepts' reads'⟩
  | either first second ih ih' =>
    obtain ⟨around, around'⟩ := Bool.and_eq_true_iff.1 around
    rcases h with h | h
    · exact List.mem_append_left _ (ih around h reads)
    · exact List.mem_append_right _ (ih' around' h reads)
  | repeated isLazy least further part ih =>
    obtain ⟨around, bounded⟩ := Bool.and_eq_true_iff.1 around
    obtain ⟨ws, all, enough, few, rfl⟩ := h
    refine mem_repeatedRests.2 ⟨ws.length, enough, ?_, steps_of_reads (fun _ _ _ => ih around) all reads⟩
    cases further with
    | some m => exact few m rfl
    | none =>
      -- every step takes at least one character
      have positive : 0 < part.shortest := by simpa using bounded
      have long := length_mul_shortest_le (fun _ => shortest_le_length) all
      have short : ws.flatten.length ≤ p.rest.length := by
        rw [reads.rest, List.length_append]
        omega
      have := Nat.le_mul_of_pos_right ws.length positive
      rw [Option.getD_none]
      omega

theorem mem_rests_iff (around : pattern.isLocal = true) :
    q ∈ pattern.rests p ↔ ∃ w, pattern.Accepts w ∧ p.Reads w q :=
  ⟨exists_reads_of_mem_rests, fun ⟨_, accepts, reads⟩ => mem_rests_of_reads around accepts reads⟩

theorem mem_rests_both_iff {first second : Pattern} :
    q ∈ (both first second).rests p ↔ ∃ m ∈ first.rests p, q ∈ second.rests m :=
  List.mem_flatMap

theorem mem_rests_boundary_iff : q ∈ boundary.rests p ↔ q = p ∧ p.isBoundary = true := by
  rw [rests]
  split <;> simp_all

/-! ## Characters -/

theorem forall_mem_of_readsOnly {f : Char → Prop} (only : pattern.ReadsOnly f) (h : pattern.Accepts w) :
    ∀ c ∈ w, f c := by
  induction pattern generalizing w with
  | empty | boundary | textStart | textEnd =>
    obtain rfl := h
    exact nofun
  | one accepts =>
    obtain ⟨c, accepted, rfl⟩ := h
    rintro _ (_ | ⟨_, ⟨⟩⟩)
    exact only c accepted
  | both first second ih ih' =>
    obtain ⟨u, v, accepts, accepts', rfl⟩ := h
    intro c mem
    exact (List.mem_append.1 mem).elim (ih only.1 accepts c) (ih' only.2 accepts' c)
  | either first second ih ih' => exact h.elim (ih only.1) (ih' only.2)
  | repeated isLazy least further part ih =>
    obtain ⟨ws, all, -, -, rfl⟩ := h
    intro c mem
    obtain ⟨u, hu, mem⟩ := List.mem_flatten.1 mem
    exact ih only (all u hu) c mem

theorem readsOnly_ne_iff {d : Char} : pattern.ReadsOnly (· ≠ d) ↔ pattern.avoids d = true := by
  induction pattern with
  | empty | boundary | textStart | textEnd => simp [ReadsOnly, avoids]
  | one accepts =>
    rw [avoids, Bool.not_eq_true', ← Bool.not_eq_true]
    exact ⟨fun h accepted => h d accepted rfl, fun h c accepted same => h (same ▸ accepted)⟩
  | both first second ih ih' | either first second ih ih' =>
    rw [avoids, Bool.and_eq_true, ← ih, ← ih', ReadsOnly]
  | repeated isLazy least further part ih => rw [avoids, ← ih, ReadsOnly]

theorem not_mem_of_avoids {d : Char} (avoid : pattern.avoids d = true) (h : pattern.Accepts w) : d ∉ w :=
  fun mem => forall_mem_of_readsOnly (readsOnly_ne_iff.2 avoid) h d mem rfl

/-- A pattern whose last part is not empty ends with what that part ends with. -/
theorem getLast?_ne_of_endsWithout {d : Char} (ends : pattern.endsWithout d = true)
    (h : pattern.Accepts w) :
    w.getLast? ≠ some d := by
  induction pattern generalizing w with
  | empty | boundary | textStart | textEnd =>
    obtain rfl := h
    exact nofun
  | one accepts =>
    obtain ⟨c, accepted, rfl⟩ := h
    rintro ⟨⟩
    simp [endsWithout, accepted] at ends
  | both first second ih ih' =>
    obtain ⟨endsSecond, endsFirst⟩ := Bool.and_eq_true_iff.1 ends
    obtain ⟨u, v, accepts, accepts', rfl⟩ := h
    rw [List.getLast?_append]
    cases last : v.getLast? with
    | some c =>
      rw [Option.some_or, ← last]
      exact ih' endsSecond accepts'
    | none =>
      -- the second part has read nothing, so that the first one counts
      obtain rfl := List.getLast?_eq_none_iff.1 last
      have none_read : second.shortest ≤ 0 := shortest_le_length accepts'
      have endsFirst := (Bool.or_eq_true_iff.1 endsFirst).resolve_left (by simpa using none_read)
      rw [Option.none_or]
      exact ih endsFirst accepts
  | either first second ih ih' =>
    obtain ⟨ends, ends'⟩ := Bool.and_eq_true_iff.1 ends
    exact h.elim (ih ends) (ih' ends')
  | repeated isLazy least further part ih =>
    obtain ⟨ws, all, -, -, rfl⟩ := h
    induction ws using List.reverseRecOn with
    | nil => exact nofun
    | append_singleton ws u ihws =>
      rw [List.flatten_concat, List.getLast?_append]
      cases last : u.getLast? with
      | some c =>
        rw [Option.some_or, ← last]
        exact ih ends (all u (List.mem_append_right ws List.mem_cons_self))
      | none => exact ihws fun v mem => all v (List.mem_append_left [u] mem)

/-! ## Sequences -/

theorem accepts_all_cons {ps : List Pattern} :
    (all (pattern :: ps)).Accepts w ↔ ∃ u v, pattern.Accepts u ∧ (all ps).Accepts v ∧ w = u ++ v := by
  cases ps with
  | nil => simp [all, Accepts]
  | cons p ps => rfl

theorem accepts_text_iff {s : String} : (text s).Accepts w ↔ w = s.toList := by
  unfold text
  generalize s.toList = cs
  induction cs generalizing w with
  | nil => rfl
  | cons c cs ih =>
    rw [List.map_cons, accepts_all_cons]
    constructor
    · rintro ⟨_, v, ⟨d, same, rfl⟩, others, rfl⟩
      obtain rfl : d = c := beq_iff_eq.1 same
      rw [ih.1 others, List.singleton_append]
    · rintro rfl
      exact ⟨[c], cs, ⟨c, beq_self_eq_true c, rfl⟩, ih.2 rfl, rfl⟩

theorem accepts_optional_iff : (optional pattern).Accepts w ↔ w = [] ∨ pattern.Accepts w := by
  constructor
  · rintro ⟨ws, all, -, few, rfl⟩
    match ws, few 1 rfl with
    | [], _ => exact .inl rfl
    | [u], _ => exact .inr (by simpa using all u List.mem_cons_self)
  · rintro (rfl | accepts)
    · exact ⟨[], nofun, Nat.le_refl 0, fun _ _ => Nat.zero_le _, rfl⟩
    · refine ⟨[w], by simpa using accepts, Nat.zero_le _, ?_, by simp⟩
      rintro _ ⟨⟩
      exact Nat.le_refl 1

/-- Single characters again and again. -/
theorem accepts_repeated_one_iff {isLazy : Bool} {least : Nat} {further : Option Nat} {f : Char → Bool} :
    (repeated isLazy least further (one f)).Accepts w ↔
      (∀ c ∈ w, f c = true) ∧ least ≤ w.length ∧ ∀ m, further = some m → w.length ≤ least + m := by
  constructor
  · rintro ⟨ws, all, enough, few, rfl⟩
    have length : ws.flatten.length = ws.length := by
      rw [List.length_flatten, List.map_congr_left (g := fun _ => 1) fun u mem => ?_, List.map_const',
        List.sum_replicate_nat, Nat.mul_one]
      obtain ⟨c, -, rfl⟩ := all u mem
      rfl
    rw [length]
    refine ⟨fun c mem => ?_, enough, few⟩
    obtain ⟨u, hu, mem⟩ := List.mem_flatten.1 mem
    obtain ⟨d, accepted, rfl⟩ := all u hu
    rwa [List.mem_singleton.1 mem]
  · rintro ⟨accepted, enough, few⟩
    refine ⟨w.map ([·]), ?_, by rwa [List.length_map], by rwa [List.length_map],
      by simp [← List.flatMap_def]⟩
    intro u mem
    obtain ⟨c, hc, rfl⟩ := List.mem_map.1 mem
    exact ⟨c, accepted c hc, rfl⟩

/-! ## Preference -/

/-- The preferred end of a sequence, when both parts have one. -/
theorem rest?_both {first second : Pattern} {m : Place} (h : first.rest? p = some m)
    (h' : second.rest? m = some q) :
    (both first second).rest? p = some q := by
  obtain ⟨others, hm⟩ := List.head?_eq_some_iff.1 h
  obtain ⟨others', hq⟩ := List.head?_eq_some_iff.1 h'
  rw [rest?, rests, hm, List.flatMap_cons, hq]
  rfl

theorem rest?_one {f : Char → Bool} {c : Char} {b : Option Char} {v : List Char} (accepted : f c = true) :
    (one f).rest? ⟨b, c :: v⟩ = some ⟨some c, v⟩ := by
  simp [rest?, rests, accepted]

/-- A greedy repetition of characters prefers to end behind as many as it can read. -/
theorem head?_repeatedRests {f : Char → Bool} {least further : Nat} {b : Option Char} {v : List Char}
    (accepted : ∀ c ∈ w, f c = true) (stop : w.length < least + further → ∀ c ∈ v.head?, f c = false)
    (enough : least ≤ w.length) (few : w.length ≤ least + further) :
    (repeatedRests (rests (one f)) false least further ⟨b, w ++ v⟩).head? =
      some ⟨w.getLast?.or b, v⟩ := by
  induction w generalizing b least further with
  | nil =>
    obtain rfl : least = 0 := Nat.le_zero.1 enough
    cases further with
    | zero =>
      rw [repeatedRests, furtherRests]
      rfl
    | succ further =>
      have none_read : rests (one f) ⟨b, [] ++ v⟩ = [] := by
        cases v with
        | nil => rfl
        | cons c v => simp [rests, stop (by simp) c rfl]
      rw [repeatedRests, furtherRests, none_read]
      rfl
  | cons c w ih =>
    have one_read : rests (one f) ⟨b, c :: w ++ v⟩ = [⟨some c, w ++ v⟩] := by
      simp [rests, accepted c List.mem_cons_self]
    have accepted' : ∀ d ∈ w, f d = true := fun d mem => accepted d (List.mem_cons_of_mem c mem)
    have last : (c :: w).getLast?.or b = w.getLast?.or (some c) := by
      rw [List.getLast?_cons]
      cases w.getLast? <;> rfl
    rw [List.length_cons] at enough few stop
    cases least with
    | zero =>
      cases further with
      | zero => omega
      | succ further =>
        have others : (furtherRests (rests (one f)) false further ⟨some c, w ++ v⟩).head? =
            some ⟨w.getLast?.or (some c), v⟩ :=
          ih accepted' (fun h => stop (by omega)) (Nat.zero_le _) (by omega)
        rw [repeatedRests, furtherRests, one_read, List.flatMap_singleton, last]
        simp [others]
    | succ least =>
      rw [repeatedRests, one_read, List.flatMap_singleton, last]
      exact ih accepted' (fun h => stop (by omega)) (by omega) (by omega)

/-- Without a bound it reads all that are accepted. -/
theorem rest?_repeated_one {f : Char → Bool} {least : Nat} {b : Option Char} {v : List Char}
    (accepted : ∀ c ∈ w, f c = true) (stop : ∀ c ∈ v.head?, f c = false) (enough : least ≤ w.length) :
    (repeated false least none (one f)).rest? ⟨b, w ++ v⟩ = some ⟨w.getLast?.or b, v⟩ := by
  refine head?_repeatedRests accepted (fun _ => stop) enough ?_
  rw [Option.getD_none, List.length_append]
  omega

/-- One character that may be missing is read if it is there. -/
theorem rest?_optional_one {f : Char → Bool} (b : Option Char) (cs : List Char) :
    (optional (one f)).rest? ⟨b, cs⟩ = some (match cs with
      | [] => ⟨b, []⟩
      | c :: v => if f c then ⟨some c, v⟩ else ⟨b, c :: v⟩) := by
  cases cs with
  | nil => exact head?_repeatedRests (w := []) nofun (fun _ => nofun) (Nat.le_refl 0) (Nat.zero_le _)
  | cons c v =>
    by_cases accepted : f c = true
    · simp only [accepted, if_true]
      exact head?_repeatedRests (w := [c]) (by simpa using accepted) (fun h => absurd h (by simp))
        (Nat.zero_le _) (Nat.le_refl 1)
    · simp only [accepted, Bool.false_eq_true, if_false]
      exact head?_repeatedRests (w := []) (v := c :: v) nofun (fun _ => by simpa using accepted)
        (Nat.le_refl 0) (Nat.zero_le _)

/-! ## Words -/

theorem exists_of_accepts_caseless_cons {c : Char} {cs : List Char}
    (h : (all ((c :: cs).map fun c => if c.isAlpha then one (isLetter c) else char c)).Accepts w) :
    ∃ d v, w = d :: v ∧ (c.isAlpha = true → isLetter c d = true) ∧
      (all (cs.map fun c => if c.isAlpha then one (isLetter c) else char c)).Accepts v := by
  rw [List.map_cons, accepts_all_cons] at h
  obtain ⟨u, v, first, others, rfl⟩ := h
  split at first
  · obtain ⟨d, letter, rfl⟩ := first
    exact ⟨d, v, rfl, fun _ => letter, others⟩
  · next other =>
    obtain ⟨d, -, rfl⟩ := first
    exact ⟨d, v, rfl, fun alpha => absurd alpha other, others⟩

/-- A word in any case is as long as it is written. -/
theorem length_of_accepts_caseless {s : String} (h : (caseless s).Accepts w) :
    w.length = s.toList.length := by
  unfold caseless at h
  generalize s.toList = cs at h ⊢
  induction cs generalizing w with
  | nil =>
    obtain rfl := h
    rfl
  | cons c cs ih =>
    obtain ⟨d, v, rfl, -, others⟩ := exists_of_accepts_caseless_cons h
    rw [List.length_cons, ih others, List.length_cons]

/-- A word in any case ends with its last letter in any case. -/
theorem exists_getLast?_of_accepts_caseless {s : String} {letter : Char} (h : (caseless s).Accepts w)
    (last : s.toList.getLast? = some letter) (alpha : letter.isAlpha = true) :
    ∃ d, w.getLast? = some d ∧ isLetter letter d = true := by
  unfold caseless at h
  generalize s.toList = cs at h last
  induction cs generalizing w with
  | nil => cases last
  | cons c cs ih =>
    obtain ⟨d, v, rfl, isLetter, others⟩ := exists_of_accepts_caseless_cons h
    rw [List.getLast?_cons] at last ⊢
    cases behind : cs.getLast? with
    | none =>
      obtain rfl := List.getLast?_eq_none_iff.1 behind
      obtain rfl : v = [] := others
      obtain rfl : c = letter := by simpa using last
      exact ⟨d, rfl, isLetter alpha⟩
    | some other =>
      obtain rfl : other = letter := by simpa [behind] using last
      obtain ⟨e, he, isLetter⟩ := ih others behind
      exact ⟨e, by rw [he]; rfl, isLetter⟩

end Pattern

end Teller.Text
