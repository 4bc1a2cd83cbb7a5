import Mathlib.Algebra.Ring.Int.Defs
import Mathlib.Data.List.Forall2
import Teller.Command.Building
import Teller.Proofs.Success

/-!
# Batches

The members of a batch are built one by one. If one of them cannot be built there is no batch, but
the failures of all that cannot, in the order of their orders. Otherwise the members are the
commands that the orders make on their own, up to their numbers, and what is handed out sums them
up. So what is handed out for more orders follows from what is handed out for two batches.

    AllOrNothing                 what is asked of a batch
    Executable.SumsUp, Executable.Joins
                                 what is handed out for some commands, and for two batches together
    build_renumbered             the number of a command matters for nothing else
    failures_answers             the failures do not depend on numbers
    forall₂_of_build             the members are what the orders make
    exists_build                 and there is a batch if none of them fails
    exists_build_eq_error        otherwise there are the failures
    sumsUp                       a batch that is handed out sums up its members
    joins                        and two batches together
    batches                      all or nothing, and more orders
-/

namespace Teller

open Command Listing

/-! ## What a batch ought to be -/

/-- The command is what the builder makes of an order under the number of the command. -/
def Command.IsBuilt (config : Config) (time : Int) (order : Order) (c : Command) : Prop :=
  build config time c.number order = .ok c

def Command.named (cs : List Command) : List String :=
  (cs.filterMap (·.parameters.primary.protocol)).filter (· ≠ "")

namespace Executable

/-- What is handed out, but for its identifier. -/
def anonymous (x : Executable) : Executable := { x with id := "" }

/-- What is handed out bundles these commands, up to their identifiers: with the sum of their gas,
the highest of their risks, to be confirmed if one of them is, and with the protocols they name in
the order in which they are named first. -/
structure SumsUp (x : Executable) (cs : List Command) : Prop where
  members_eq : x.members.map anonymous = cs.map (·.executable.anonymous)
  gas_eq : x.gas = some (cs.map (·.gas)).sum
  risk_mem : ∃ c ∈ cs, c.risk = x.risk
  risk_le : ∀ c ∈ cs, c.risk.rank ≤ x.risk.rank
  confirm_iff : x.confirm = true ↔ ∃ c ∈ cs, c.confirm = true
  protocols_mem : ∀ name, name ∈ x.metadata.protocols ↔ name ∈ named cs
  protocols_ordered : x.metadata.protocols.Pairwise fun p q => (named cs).idxOf p < (named cs).idxOf q

/-- What two batches together amount to. -/
structure Joins (joined x y : Executable) : Prop where
  members_eq : joined.members.map anonymous = (x.members ++ y.members).map anonymous
  gas_eq : ∃ m n, x.gas = some m ∧ y.gas = some n ∧ joined.gas = some (m + n)
  risk_eq : joined.risk = x.risk.max y.risk
  confirm_eq : joined.confirm = (x.confirm || y.confirm)
  protocols_eq : joined.metadata.protocols =
    x.metadata.protocols ++ y.metadata.protocols.filter (· ∉ x.metadata.protocols)

end Executable

namespace Batch

/-- If an order fails on its own there is no batch, but the failures of all such orders in their
order. If none fails there is a batch. What is handed out bundles what the builder makes of the
orders, and sums up whatever they make on their own. -/
structure AllOrNothing (config : Config) (time : Int) (orders : List Order)
    (answer : Except Failure Batch) : Prop where
  nothing : ∀ order ∈ orders, ∀ number f, Command.build config time number order = .error f →
    ∃ failure, answer = .error failure ∧ failure.code = .commandBuildError ∧ failure.details =
      [("errors", .listOf Failure.document (orders.filterMap fun o =>
        error? (Command.build config time number o)))]
  all : ∀ number, (∀ order ∈ orders, ∀ f, Command.build config time number order ≠ .error f) →
    ∃ b, answer = .ok b ∧
      (∃ cs, orders.Forall₂ (IsBuilt config time) cs ∧ b.executable.members = cs.map (·.executable)) ∧
      ∀ cs, orders.Forall₂ (IsBuilt config time) cs → b.executable.SumsUp cs

variable {config : Config} {time : Int} {number m n : Nat} {order : Order} {orders : List Order}
    {c : Command} {cs : List Command} {b b' : Batch}

/-! ## Orders on their own -/

/-- The number of a command matters for nothing else. -/
theorem build_renumbered (h : Command.build config time m order = .ok c) :
    Command.build config time n order = .ok { c with number := n } := by
  obtain ⟨gas, found, rfl⟩ := build_eq_ok_iff.1 h
  exact build_eq_ok_iff.2 ⟨gas, found, rfl⟩

theorem isBuilt_of_build (h : Command.build config time n order = .ok c) :
    IsBuilt config time order c := by
  obtain ⟨gas, -, rfl⟩ := build_eq_ok_iff.1 h
  exact h

/-- The failure of an order does not depend on a number. -/
theorem error?_build (config : Config) (time : Int) (m n : Nat) (order : Order) :
    error? (Command.build config time m order) = error? (Command.build config time n order) := by
  cases h : Command.build config time n order with
  | ok c =>
    rw [build_renumbered h]
    rfl
  | error f => rw [build_eq_error_iff.2 (build_eq_error_iff.1 h)]

/-! ## The answers to the orders of a batch -/

theorem answers_cons (config : Config) (time : Int) (first : Nat) (order : Order) (orders : List Order) :
    answers config time first (order :: orders) =
      Command.build config time first order :: answers config time (first + 1) orders := by
  unfold answers
  rw [List.mapIdx_cons]
  congr 2
  funext n o
  rw [Nat.add_right_comm, Nat.add_assoc]

theorem failures_cons (answer : Except Failure Command) (rest : List (Except Failure Command)) :
    failures (answer :: rest) = (error? answer).toList ++ failures rest := by
  cases answer <;> rfl

theorem commands_cons (answer : Except Failure Command) (rest : List (Except Failure Command)) :
    commands (answer :: rest) = answer.toOption.toList ++ commands rest := by
  cases answer <;> rfl

/-- The failures are those of the orders on their own, whatever their numbers. -/
theorem failures_answers (config : Config) (time : Int) (first m : Nat) (orders : List Order) :
    failures (answers config time first orders) =
      orders.filterMap fun o => error? (Command.build config time m o) := by
  induction orders generalizing first with
  | nil => rfl
  | cons order orders ih =>
    rw [answers_cons, failures_cons, ih, error?_build config time first m, List.filterMap_cons]
    cases error? (Command.build config time m order) <;> rfl

/-- Without a failure every order has its command. -/
theorem forall₂_commands {first : Nat} (none_failed : failures (answers config time first orders) = []) :
    orders.Forall₂ (IsBuilt config time) (commands (answers config time first orders)) := by
  induction orders generalizing first with
  | nil => exact .nil
  | cons order orders ih =>
    rw [answers_cons, failures_cons] at none_failed
    rw [answers_cons, commands_cons]
    obtain ⟨first_ok, rest_ok⟩ := List.append_eq_nil_iff.1 none_failed
    cases h : Command.build config time first order with
    | error f =>
      rw [h] at first_ok
      cases first_ok
    | ok c => exact .cons (isBuilt_of_build h) (ih rest_ok)

/-- The commands of orders are the same but for their numbers. -/
theorem map_unnumbered_eq (h : orders.Forall₂ (IsBuilt config time) cs) {ds : List Command}
    (h' : orders.Forall₂ (IsBuilt config time) ds) : cs.map (·.unnumbered) = ds.map (·.unnumbered) := by
  induction h generalizing ds with
  | nil =>
    cases h'
    rfl
  | @cons order c orders cs built _ ih =>
    cases h' with
    | @cons _ d _ ds built' rest =>
      rw [List.map_cons, List.map_cons, ih rest]
      have same := (build_renumbered (n := d.number) built).symm.trans built'
      rw [← Except.ok.inj same]
      rfl

/-- Orders that have commands do not fail. -/
theorem ne_error_of_forall₂ (h : orders.Forall₂ (IsBuilt config time) cs) (number : Nat) :
    ∀ order ∈ orders, ∀ f, Command.build config time number order ≠ .error f := by
  induction h with
  | nil => exact fun _ listed => nomatch listed
  | cons built _ ih =>
    intro order listed f failed
    rcases List.mem_cons.1 listed with rfl | listed
    · rw [build_renumbered built] at failed
      cases failed
    · exact ih order listed f failed

theorem commands_ne_nil (some_orders : orders ≠ []) (h : orders.Forall₂ (IsBuilt config time) cs) :
    cs ≠ [] := by
  rintro rfl
  cases h
  exact some_orders rfl

/-- What stands in one of two lists whose entries go together goes together with something in the
other. -/
theorem exists_of_forall₂ {α β : Type} {r : α → β → Prop} {xs : List α} {ys : List β} {x : α}
    (h : xs.Forall₂ r ys) (hx : x ∈ xs) : ∃ y ∈ ys, r x y := by
  induction h with
  | nil => cases hx
  | @cons x' y xs ys together _ ih =>
    rcases List.mem_cons.1 hx with rfl | hx
    · exact ⟨y, List.mem_cons_self, together⟩
    · obtain ⟨z, hz, together⟩ := ih hx
      exact ⟨z, List.mem_cons_of_mem y hz, together⟩

theorem exists_command_of_mem (h : orders.Forall₂ (IsBuilt config time) cs) (listed : order ∈ orders) :
    ∃ c ∈ cs, IsBuilt config time order c := exists_of_forall₂ h listed

theorem exists_order_of_mem (h : orders.Forall₂ (IsBuilt config time) cs) (hc : c ∈ cs) :
    ∃ order ∈ orders, IsBuilt config time order c := exists_of_forall₂ h.flip hc

/-! ## The batch of orders -/

theorem forall₂_of_build (h : build config time number orders = .ok b) :
    orders ≠ [] ∧ orders.Forall₂ (IsBuilt config time) b.members := by
  unfold build at h
  dsimp only at h
  split at h
  · cases h
  · next some_orders =>
    split at h
    · next none_failed =>
      cases h
      exact ⟨fun no_orders => some_orders (List.isEmpty_iff.2 no_orders),
        forall₂_commands (List.isEmpty_iff.1 none_failed)⟩
    · cases h

theorem exists_build (some_orders : orders ≠ [])
    (none_failed : ∀ order ∈ orders, ∀ f, Command.build config time m order ≠ .error f) (number : Nat) :
    ∃ b, build config time number orders = .ok b := by
  have no_failures : failures (answers config time (number + 1) orders) = [] := by
    rw [failures_answers config time _ m, List.filterMap_eq_nil_iff]
    intro order listed
    cases h : Command.build config time m order with
    | ok c => rfl
    | error f => exact absurd h (none_failed order listed f)
  refine ⟨⟨number, time, commands (answers config time (number + 1) orders)⟩, ?_⟩
  unfold build
  dsimp only
  rw [if_neg (mt List.isEmpty_iff.1 some_orders), if_pos (List.isEmpty_iff.2 no_failures)]

/-- Failures of orders are all that is left of a batch. -/
theorem exists_build_eq_error {f : Failure} (listed : order ∈ orders)
    (failed : Command.build config time m order = .error f) (number : Nat) :
    ∃ failure, build config time number orders = .error failure ∧ failure.code = .commandBuildError ∧
      failure.details =
        [("errors", .listOf Failure.document (orders.filterMap fun o =>
          error? (Command.build config time m o)))] := by
  have mem : f ∈ failures (answers config time (number + 1) orders) := by
    rw [failures_answers config time _ m, List.mem_filterMap]
    exact ⟨order, listed, by rw [failed]; rfl⟩
  have some_orders : orders.isEmpty = false := List.isEmpty_eq_false_iff.2 (List.ne_nil_of_mem listed)
  have some_failed : (failures (answers config time (number + 1) orders)).isEmpty = false :=
    List.isEmpty_eq_false_iff.2 (List.ne_nil_of_mem mem)
  unfold build
  dsimp only
  rw [some_orders, some_failed, if_neg Bool.false_ne_true, if_neg Bool.false_ne_true]
  refine ⟨_, rfl, rfl, ?_⟩
  rw [failures_answers config time _ m]
  rfl

/-! ## What a batch amounts to -/

/-- Two batches amount to the same. -/
structure Alike (b b' : Batch) : Prop where
  gas_eq : b.gas = b'.gas
  risk_eq : b.risk = b'.risk
  confirm_eq : b.confirm = b'.confirm
  protocols_eq : b.protocols = b'.protocols

theorem alike_unnumbered (b : Batch) (n : Nat) (t : Int) :
    b.Alike ⟨n, t, b.members.map (·.unnumbered)⟩ where
  gas_eq := by
    unfold gas
    rw [List.foldr_map]
    rfl
  risk_eq := by
    unfold risk
    rw [List.map_map]
    rfl
  confirm_eq := by
    unfold confirm
    rw [List.any_map]
    rfl
  protocols_eq := by
    unfold protocols
    rw [List.filterMap_map]
    rfl

/-- Numbers do not matter for what a batch amounts to. -/
theorem alike_of_members (same : b.members.map (·.unnumbered) = b'.members.map (·.unnumbered)) :
    b.Alike b' := by
  have left := alike_unnumbered b 0 0
  have right := alike_unnumbered b' 0 0
  rw [same] at left
  exact ⟨left.gas_eq.trans right.gas_eq.symm, left.risk_eq.trans right.risk_eq.symm,
    left.confirm_eq.trans right.confirm_eq.symm, left.protocols_eq.trans right.protocols_eq.symm⟩

theorem gas_eq_sum (b : Batch) : b.gas = (b.members.map (·.gas)).sum := by
  unfold gas
  rw [List.sum, List.foldr_map]

/-- Commands that are the same but for their numbers are handed out the same but for their
identifiers. -/
theorem map_anonymous_eq {ds : List Command} (same : cs.map (·.unnumbered) = ds.map (·.unnumbered)) :
    (cs.map (·.executable)).map (·.anonymous) = ds.map (·.executable.anonymous) := by
  have through (cs : List Command) : cs.map (·.executable.anonymous) =
      (cs.map (·.unnumbered)).map (·.executable.anonymous) := by
    rw [List.map_map]
    rfl
  rw [List.map_map]
  exact (through cs).trans ((congrArg _ same).trans (through ds).symm)

/-- A batch that is handed out sums up commands that are its members up to their numbers. -/
theorem sumsUp (some_commands : cs ≠ []) (same : b.members.map (·.unnumbered) = cs.map (·.unnumbered)) :
    b.executable.SumsUp cs := by
  have alike : b.Alike ⟨0, 0, cs⟩ := alike_of_members same
  obtain ⟨gas_eq, risk_eq, confirm_eq, protocols_eq⟩ := alike
  constructor
  · exact map_anonymous_eq same
  · show some b.gas = _
    rw [gas_eq, gas_eq_sum]
  · show ∃ c ∈ cs, c.risk = b.risk
    rw [risk_eq]
    exact List.mem_map.1 (Risk.highest_mem (mt List.map_eq_nil_iff.1 some_commands))
  · intro c hc
    show _ ≤ b.risk.rank
    rw [risk_eq]
    exact Risk.rank_le_highest (List.mem_map_of_mem hc)
  · show b.confirm = true ↔ _
    rw [confirm_eq]
    exact List.any_eq_true
  · intro name
    show name ∈ b.protocols ↔ _
    rw [protocols_eq]
    exact mem_distinct
  · show b.protocols.Pairwise _
    rw [protocols_eq]
    exact distinct_ordered _

/-- What is handed out for the members of two batches amounts to both. -/
theorem joins {joined : Batch}
    (same : joined.members.map (·.unnumbered) = (b.members ++ b'.members).map (·.unnumbered)) :
    joined.executable.Joins b.executable b'.executable := by
  have alike : joined.Alike ⟨0, 0, b.members ++ b'.members⟩ := alike_of_members same
  obtain ⟨gas_eq, risk_eq, confirm_eq, protocols_eq⟩ := alike
  constructor
  · show (joined.members.map (·.executable)).map _ =
      (b.members.map (·.executable) ++ b'.members.map (·.executable)).map _
    rw [map_anonymous_eq same, ← List.map_append, List.map_map]
    rfl
  · exact ⟨b.gas, b'.gas, rfl, rfl, congrArg some (gas_eq.trans (gas_append ..))⟩
  · exact risk_eq.trans (risk_append ..)
  · exact confirm_eq.trans (confirm_append ..)
  · exact protocols_eq.trans (protocols_append ..)

/-- A batch is all or nothing, and what is handed out for more orders follows from what is handed
out for two batches. -/
theorem batches (config : Config) (time : Int) (number : Nat) (some_orders : orders ≠ []) :
    AllOrNothing config time orders (build config time number orders) ∧
    ∀ (more : List Order) (n n' n'' : Nat) (b b' : Batch), build config time n orders = .ok b →
      build config time n' more = .ok b' →
      ∃ joined, build config time n'' (orders ++ more) = .ok joined ∧
        joined.executable.Joins b.executable b'.executable := by
  constructor
  · refine ⟨fun order listed m f failed => exists_build_eq_error listed failed number,
      fun m none_failed => ?_⟩
    obtain ⟨b, built⟩ := exists_build some_orders none_failed number
    have members := (forall₂_of_build built).2
    exact ⟨b, built, ⟨b.members, members, rfl⟩,
      fun cs h => sumsUp (commands_ne_nil some_orders h) (map_unnumbered_eq members h)⟩
  · intro more n n' n'' b b' built built'
    have all := List.rel_append (forall₂_of_build built).2 (forall₂_of_build built').2
    have some_more : orders ++ more ≠ [] := List.append_ne_nil_of_left_ne_nil some_orders more
    obtain ⟨joined, together⟩ := exists_build some_more (ne_error_of_forall₂ all 0) n''
    exact ⟨joined, together, joins (map_unnumbered_eq (forall₂_of_build together).2 all)⟩

/-- A loan at one venue and a leveraged debt at another. -/
def sampleOrders : List Order := [
  { intent := .lend
    parameters := { primary := {
      amount := some "1000", token := some "USDC", protocol := some "silo" } } },
  { intent := .borrow
    parameters := { primary := {
      amount := some "100", token := some "USDC", protocol := some "takara", leverage := some 3 } } }]

/-- A question whose gas is beyond all doubles. -/
def costlyQuestion : Order where
  intent := .help
  template := some { intent := .help, action := "getHelp", required := [], gas := Nat.pow 10 400 }

/-- With the question between them there is no batch; without it there is one, also of twice the
orders. -/
theorem sampleOrders_batches : costlyQuestion :: sampleOrders ≠ [] ∧
    (∃ failure, build {} 0 1 (costlyQuestion :: sampleOrders) = .error failure ∧
      failure.code = .commandBuildError) ∧
    AllOrNothing {} 0 (costlyQuestion :: sampleOrders) (build {} 0 1 (costlyQuestion :: sampleOrders)) ∧
    ∃ b, build {} 0 1 sampleOrders = .ok b ∧ b.executable.members.length = 2 ∧
      b.executable.gas = some 395000 ∧ b.executable.risk = .medium ∧ b.executable.confirm = true ∧
      b.executable.metadata.protocols = ["silo", "takara"] ∧
      ∃ joined, build {} 0 1 (sampleOrders ++ sampleOrders) = .ok joined ∧
        joined.executable.Joins b.executable b.executable := by
  have some_orders : costlyQuestion :: sampleOrders ≠ [] := List.cons_ne_nil _ _
  have all_or_nothing := (batches {} 0 1 some_orders).1
  have fails : (error? (Command.build {} 0 1 costlyQuestion)).any (·.code = .commandBuildError) := by
    decide +kernel
  obtain ⟨f, failed, -⟩ := exists_eq_error_of_any fails
  obtain ⟨failure, answer, code, -⟩ := all_or_nothing.nothing _ List.mem_cons_self 1 f failed
  have builds : (build {} 0 1 sampleOrders).toOption.any fun b =>
      b.executable.members.length = 2 ∧ b.executable.gas = some 395000 ∧ b.executable.risk = .medium ∧
        b.executable.confirm = true ∧ b.executable.metadata.protocols = ["silo", "takara"] := by
    decide +kernel
  obtain ⟨b, built, amounts⟩ := exists_eq_ok_of_any builds
  obtain ⟨two, gas, risk, confirm, protocols⟩ := of_decide_eq_true amounts
  have joined := (batches {} 0 1 (List.cons_ne_nil _ _)).2 sampleOrders 1 1 1 b b built built
  exact ⟨some_orders, ⟨failure, answer, code⟩, all_or_nothing, b, built, two, gas, risk, confirm,
    protocols, joined⟩

end Batch

end Teller
