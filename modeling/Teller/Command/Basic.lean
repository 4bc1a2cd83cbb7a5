import Teller.Identifier
import Teller.Intent
import Teller.Listing
import Teller.Parameters

/-!
# Commands

A command is what the desk hands out for execution: an action with parameters, what it is expected
to take, and whether the user must confirm it. Several commands make a batch, whose gas, risk and
confirmation follow from its members.

    highest_append                    the highest of more levels
    rank_le_highest, highest_mem      no level is higher, and it is one of them
    confirm_append, gas_append, risk_append, protocols_append
                                      what a longer batch needs
-/

namespace Teller

/-- How risky a command is. -/
inductive Command.Risk where
  | low | medium | high
  deriving DecidableEq, Repr

namespace Command.Risk

def all : List Risk := [low, medium, high]

def name : Risk → String
  | low => "low"
  | medium => "medium"
  | high => "high"

def ofName? (name : String) : Option Risk := all.find? (·.name == name)

def rank : Risk → Nat
  | low => 0
  | medium => 1
  | high => 2

def max (a b : Risk) : Risk := if a.rank < b.rank then b else a

/-- The highest of several levels; of none it is low. -/
def highest (levels : List Risk) : Risk := levels.foldl max low

end Command.Risk

/-- A permission to spend a token that a command needs first. -/
structure Approval where
  token : String
  spender : String
  amount : String
  gas : Int := 50000
  deriving DecidableEq, Repr

/-- What goes with a command. The time is in milliseconds, the duration in seconds. Requests come
from natural language, and the clock stands still while one is worked on. -/
structure Command.Metadata where
  timestamp : Int
  source : String := "nlp"
  confidence : Float := 1
  processingTime : Int := 0
  approvals : List Approval := []
  protocols : List String := []
  duration : Int := 60

/-- What validation says of a command. -/
inductive Command.Status where
  | valid | warning | error
  deriving DecidableEq, Repr

def Command.Status.name : Command.Status → String
  | valid => "valid"
  | warning => "warning"
  | error => "error"

/-- A command. The commands of a desk are numbered. -/
structure Command where
  number : Nat
  intent : Intent
  action : String
  parameters : Parameters
  metadata : Command.Metadata
  status : Command.Status := .valid
  confirm : Bool
  gas : Int
  risk : Command.Risk

/-- Several commands under a number of their own. -/
structure Batch where
  number : Nat
  timestamp : Int
  members : List Command

/-- A command as it is handed out: under an identifier, and with the commands that it bundles in the
order of execution. Its gas need not be known. -/
structure Executable where
  id : String
  intent : Intent
  action : String
  parameters : Parameters
  metadata : Command.Metadata
  status : Command.Status := .valid
  confirm : Bool := false
  gas : Option Int := none
  risk : Command.Risk := .low
  members : List Executable := []

/-- The token in which gas is paid. -/
def Command.gasToken : String := "SEI"

def Command.idOf (number : Nat) : String := Identifier.short "cmd_" number

/-- A single command as it is handed out. -/
def Command.executable (c : Command) : Executable where
  id := Command.idOf c.number
  intent := c.intent
  action := c.action
  parameters := c.parameters
  metadata := c.metadata
  status := c.status
  confirm := c.confirm
  gas := some c.gas
  risk := c.risk

def Command.unnumbered (c : Command) : Command := { c with number := 0 }

namespace Batch

/-- The user must confirm a batch if any member is to be confirmed. -/
def confirm (b : Batch) : Bool := b.members.any (·.confirm)

def gas (b : Batch) : Int := b.members.foldr (fun c total => c.gas + total) 0

def risk (b : Batch) : Command.Risk := .highest (b.members.map (·.risk))

/-- The protocols that members name, each where it is first named. -/
def protocols (b : Batch) : List String :=
  Listing.distinct ((b.members.filterMap (·.parameters.primary.protocol)).filter (· ≠ ""))

/-- A batch as it is handed out. It has no intent and no parameters of its own. -/
def executable (b : Batch) : Executable where
  id := Command.idOf b.number
  intent := .unknown
  action := "batch"
  parameters := {}
  metadata := { timestamp := b.timestamp, protocols := b.protocols }
  confirm := b.confirm
  gas := some b.gas
  risk := b.risk
  members := b.members.map Command.executable

end Batch

/-! ## Reports -/

def Approval.document (a : Approval) : Document :=
  .record [("token", .text a.token), ("spender", .text a.spender), ("amount", .text a.amount),
    ("required", .flag true), ("gas_estimate", .whole a.gas)]

def Command.Metadata.document (m : Command.Metadata) : Document :=
  .record [("timestamp", .whole m.timestamp), ("source", .text m.source),
    ("confidence", .real m.confidence), ("processing_time", .whole m.processingTime),
    ("required_approvals", .listOf Approval.document m.approvals),
    ("protocols_involved", .texts m.protocols), ("estimated_duration", .whole m.duration)]

mutual

def Executable.document : Executable → Document
  | { id, intent, action, parameters, metadata, status, confirm, gas, risk, members } =>
    .record [("id", .text id), ("intent", .text intent.name), ("action", .text action),
      ("parameters", parameters.document), ("metadata", metadata.document),
      ("validation_status", .text status.name), ("confirmation_required", .flag confirm),
      ("estimated_gas", .whole? gas), ("risk_level", .text risk.name),
      ("batch", .list (Executable.documents members))]

def Executable.documents : List Executable → List Document
  | [] => []
  | x :: xs => x.document :: Executable.documents xs

end

def Command.document (c : Command) : Document := c.executable.document

def Batch.document (b : Batch) : Document := b.executable.document

/-! ## Lemmas -/

namespace Command.Risk

theorem le_rank_max_left (a b : Risk) : a.rank ≤ (max a b).rank := by
  unfold max
  split <;> omega

theorem le_rank_max_right (a b : Risk) : b.rank ≤ (max a b).rank := by
  unfold max
  split <;> omega

theorem max_assoc (a b c : Risk) : max (max a b) c = max a (max b c) := by
  cases a <;> cases b <;> cases c <;> rfl

theorem max_low (a : Risk) : max a low = a := by
  cases a <;> rfl

theorem max_eq_or (a b : Risk) : max a b = a ∨ max a b = b := by
  unfold max
  split
  · exact .inr rfl
  · exact .inl rfl

instance : Std.Associative max := ⟨max_assoc⟩

theorem highest_append (xs ys : List Risk) : highest (xs ++ ys) = max (highest xs) (highest ys) := by
  calc (xs ++ ys).foldl max low = ys.foldl max (max (highest xs) low) := by
        rw [List.foldl_append, max_low, highest]
    _ = max (highest xs) (highest ys) := List.foldl_assoc

theorem highest_cons (a : Risk) (levels : List Risk) :
    highest (a :: levels) = max a (highest levels) := by
  have single : highest [a] = a := by cases a <;> rfl
  rw [← List.singleton_append, highest_append, single]

/-- No level is above the highest one. -/
theorem rank_le_highest {a : Risk} {levels : List Risk} (h : a ∈ levels) :
    a.rank ≤ (highest levels).rank := by
  induction levels with
  | nil => cases h
  | cons b levels ih =>
    rw [highest_cons]
    rcases List.mem_cons.1 h with rfl | h
    · exact le_rank_max_left ..
    · exact Nat.le_trans (ih h) (le_rank_max_right ..)

/-- The highest level is one of them. -/
theorem highest_mem {levels : List Risk} (some_level : levels ≠ []) : highest levels ∈ levels := by
  induction levels with
  | nil => exact absurd rfl some_level
  | cons a levels ih =>
    rw [highest_cons]
    by_cases last : levels = []
    · rw [last, show highest [] = low from rfl, max_low]
      exact List.mem_cons_self
    · rcases max_eq_or a (highest levels) with h | h
      · rw [h]
        exact List.mem_cons_self
      · rw [h]
        exact List.mem_cons_of_mem _ (ih last)

end Command.Risk

namespace Batch

theorem confirm_append (n : Nat) (t : Int) (xs ys : List Command) :
    confirm ⟨n, t, xs ++ ys⟩ = (confirm ⟨n, t, xs⟩ || confirm ⟨n, t, ys⟩) := by
  simp [confirm]

theorem gas_append (n : Nat) (t : Int) (xs ys : List Command) :
    gas ⟨n, t, xs ++ ys⟩ = gas ⟨n, t, xs⟩ + gas ⟨n, t, ys⟩ := by
  simp only [gas, List.foldr_append]
  induction xs with
  | nil => simp
  | cons c xs ih => simp only [List.foldr_cons, ih]; omega

theorem risk_append (n : Nat) (t : Int) (xs ys : List Command) :
    risk ⟨n, t, xs ++ ys⟩ = (risk ⟨n, t, xs⟩).max (risk ⟨n, t, ys⟩) := by
  simp only [risk, List.map_append, Command.Risk.highest_append]

theorem protocols_append (n : Nat) (t : Int) (xs ys : List Command) :
    protocols ⟨n, t, xs ++ ys⟩ =
      protocols ⟨n, t, xs⟩ ++ (protocols ⟨n, t, ys⟩).filter (· ∉ protocols ⟨n, t, xs⟩) := by
  unfold protocols
  rw [List.filterMap_append, List.filter_append]
  exact Listing.distinct_append _ _

end Batch

end Teller
