import Teller.Clock
import Teller.Log.Message
import Teller.Log.Secret
import Teller.Text.Case

/-!
# Log lines

A record becomes one line. Secrets are masked in the message, before and after its arguments are
written into it, in texts among the arguments, in texts among the fields and in the text of an
exception.

    length_emit_le        each record gives at most one line
-/

namespace Teller.Log

/-- How severe a record is. -/
inductive Level where
  | notSet | debug | info | warning | error | critical
  deriving DecidableEq, Repr

namespace Level

/-- The names of levels; two levels have a second name. -/
def names : List (String × Level) :=
  [("NOTSET", notSet), ("DEBUG", debug), ("INFO", info), ("WARNING", warning), ("WARN", warning),
    ("ERROR", error), ("CRITICAL", critical), ("FATAL", critical)]

/-- The level of a name in any case. -/
def ofName? (name : String) : Option Level := names.lookup (Text.upper name)

def name : Level → String
  | notSet => "NOTSET"
  | debug => "DEBUG"
  | info => "INFO"
  | warning => "WARNING"
  | error => "ERROR"
  | critical => "CRITICAL"

def rank : Level → Nat
  | notSet => 0
  | debug => 10
  | info => 20
  | warning => 30
  | error => 40
  | critical => 50

end Level

structure Exception where
  kind : String
  text : String

structure Entry where
  message : Document
  args : Arguments := .inOrder []
  level : Level := .info
  logger : String
  path : String
  function : String
  fields : List (String × Document) := []
  exception : Option Exception := none

/-- The fields that are reported with a record, in this order. -/
def reportedFields : List String :=
  ["command_id", "intent", "stage", "event", "elapsed_ms", "error_class"]

/-- Masks secrets in a text; other values are left as they are. -/
def redactValue : Document → Document
  | .text s => .text (redact s)
  | other => other

def Arguments.redacted : Arguments → Arguments
  | .inOrder values => .inOrder (values.map redactValue)
  | .byName values => .byName (values.map fun (name, value) => (name, redactValue value))

def Arguments.isEmpty : Arguments → Bool
  | .inOrder values => values.isEmpty
  | .byName values => values.isEmpty

/-- The name of a file without its directories and its last extension. -/
def moduleOf (path : String) : String :=
  let file := (Text.fields '/' path.toList).getLast?.getD []
  let dotted := (Text.fields '.' file).dropLast
  let stem := (List.intersperse ['.'] dotted).flatten
  String.ofList (if stem.all (· == '.') then file else stem)

/-- The text of an exception. An exception about a missing key quotes the key. -/
def Exception.describe (e : Exception) : String :=
  let text := if e.kind == "KeyError" then Text.quoted e.text else e.text
  if text.isEmpty then e.kind else e.kind ++ ": " ++ text

/-- The message of a record with its arguments, if they fit. -/
def Entry.text? (e : Entry) : Option String :=
  let message := redact e.message.plain
  let args := e.args.redacted
  (if args.isEmpty then some message else write? message args).map redact

/-- The reported fields of a record. An exception names its kind unless the record does. -/
def Entry.reported (e : Entry) : List (String × Document) :=
  let own := reportedFields.filterMap fun name =>
    ((Document.record e.fields).get? name).map fun value => (name, redactValue value)
  match e.exception with
  | none => own
  | some x =>
    let kind := if own.any (·.1 == "error_class") then [] else [("error_class", .text x.kind)]
    own ++ kind ++ [("exception", .text (redact x.describe))]

/-- The line of a record, if its message can be written. -/
def Entry.line? (stamp : String) (e : Entry) : Option String :=
  e.text?.map fun text =>
    (Document.record ([("timestamp", .text stamp), ("level", .text e.level.name),
      ("logger", .text e.logger), ("message", .text text), ("module", .text (moduleOf e.path)),
      ("function", .text e.function)] ++ e.reported)).line

/-- The lines of the records at or above a level. -/
def emit (level : Level) (stamp : String) (entries : List Entry) : List String :=
  (entries.filter (level.rank ≤ ·.level.rank)).filterMap (·.line? stamp)

/-- The record that logging was configured. -/
def configured : Entry where
  message := .text "Logging configured"
  logger := "defidesk.processing.pipeline"
  path := "pipeline.py"
  function := "configure_logging"
  fields := [("stage", .text "init"), ("event", .text "logging_configured")]

/-! ## Lemmas -/

theorem length_emit_le (level : Level) (stamp : String) (entries : List Entry) :
    (emit level stamp entries).length ≤ entries.length :=
  Nat.le_trans (List.length_filterMap_le ..) (List.length_filter_le ..)

end Teller.Log
