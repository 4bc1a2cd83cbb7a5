import Teller.Intake.Request
import Teller.Table

/-!
# Merging parameters

Parameters are merged as documents: those of an override, with only the fields that are given, are
put over those of what it overrides, section by section, and the outcome is read again. Whether a
field is given matters inside of fees and exchanges as well, where one that is not given is left out
and read as its default.
-/

namespace Teller

/-! ## Records of given fields -/

namespace Document

/-- A field, if it is given. -/
def entry? : String × Option Document → Option (String × Document)
  | (name, value) => value.map (name, ·)

/-- The record of the fields that are given. -/
def ofGiven (fields : List (String × Option Document)) : Document := .record (fields.filterMap entry?)

/-- A record with the fields of another put over it. -/
def update : Document → Document → Document
  | record fields, record others =>
    .record (others.foldl (fun t (name, value) => Table.put name value t) fields)
  | d, _ => d

end Document

/-! ## Parameters with which of their fields are given -/

/-- A fee as it is given. -/
structure Fee.Draft where
  kind : Fee.Kind
  amount : String
  token : String
  percentage : Option Float := none

structure Hop.Draft where
  protocol : String
  tokenIn : String
  tokenOut : String
  pool : Revised String := none
  amountIn : Revised String := none
  amountOut : Revised String := none

structure Estimates.Draft where
  outputAmount : Revised String := none
  priceImpact : Revised Float := none
  fees : Revised (List Fee.Draft) := none
  route : Revised (List Hop.Draft) := none
  healthFactorAfter : Revised Float := none
  liquidationPrice : Revised String := none
  totalCost : Revised String := none

/-- Parameters as they are given. -/
structure Parameters.Draft where
  primary : Primary.Revision := {}
  tuning : Tuning.Revision := {}
  estimates : Estimates.Draft := {}

/-- The fee, without a percentage if none is given. -/
def Fee.Draft.fee (d : Fee.Draft) : Fee := { d with percentage := d.percentage.getD 0 }

/-- The exchange, without what is not given. -/
def Hop.Draft.hop (d : Hop.Draft) : Hop where
  protocol := d.protocol
  tokenIn := d.tokenIn
  tokenOut := d.tokenOut
  pool := d.pool.apply none
  amountIn := d.amountIn.apply none
  amountOut := d.amountOut.apply none

/-- What is given of estimates, with all of each fee and each exchange. -/
def Estimates.Draft.revision (d : Estimates.Draft) : Estimates.Revision where
  outputAmount := d.outputAmount
  priceImpact := d.priceImpact
  fees := d.fees.map (Option.map (List.map Fee.Draft.fee))
  route := d.route.map (Option.map (List.map Hop.Draft.hop))
  healthFactorAfter := d.healthFactorAfter
  liquidationPrice := d.liquidationPrice
  totalCost := d.totalCost

def Parameters.Draft.revision (d : Parameters.Draft) : Parameters.Revision where
  primary := d.primary
  tuning := d.tuning
  estimates := d.estimates.revision

/-! ## Documents of what is given -/

section Given

open Document

def Fee.Draft.document (d : Fee.Draft) : Document :=
  ofGiven [("type", some (.text d.kind.name)), ("amount", some (.text d.amount)),
    ("token", some (.text d.token)), ("percentage", d.percentage.map real)]

def Hop.Draft.document (d : Hop.Draft) : Document :=
  ofGiven [("protocol", some (.text d.protocol)), ("token_in", some (.text d.tokenIn)),
    ("token_out", some (.text d.tokenOut)), ("pool", d.pool.map text?),
    ("amount_in", d.amountIn.map text?), ("amount_out", d.amountOut.map text?)]

/-- The fields of the first section, as far as they are given. -/
def Primary.Revision.entries (r : Primary.Revision) : Table (Option Document) :=
  [("amount", r.amount.map text?), ("token", r.token.map text?), ("from_token", r.fromToken.map text?),
    ("to_token", r.toToken.map text?), ("protocol", r.protocol.map text?),
    ("leverage", r.leverage.map real?),
    ("slippage", r.slippage.map real?), ("deadline", r.deadline.map whole?)]

def Tuning.Revision.entries (r : Tuning.Revision) : Table (Option Document) :=
  [("max_slippage", r.maxSlippage.map real?), ("min_output", r.minOutput.map text?),
    ("gas_limit", r.gasLimit.map whole?), ("gas_price", r.gasPrice.map text?),
    ("recipient", r.recipient.map text?),
    ("referrer", r.referrer.map text?), ("route", r.route.map (orNull texts)),
    ("risk_acknowledged", r.riskAcknowledged.map flag?)]

def Estimates.Draft.entries (d : Estimates.Draft) : Table (Option Document) :=
  [("output_amount", d.outputAmount.map text?), ("price_impact", d.priceImpact.map real?),
    ("fees", d.fees.map (orNull (listOf Fee.Draft.document))),
    ("route", d.route.map (orNull (listOf Hop.Draft.document))),
    ("health_factor_after", d.healthFactorAfter.map real?),
    ("liquidation_price", d.liquidationPrice.map text?), ("total_cost", d.totalCost.map text?)]

end Given

/-- Parameters merged with an override: in each section the fields that are given are put over the
others, and the outcome is read again. -/
def Parameters.merged (p : Parameters) (d : Draft) : Intake.Checked Revision :=
  Intake.parameters (.record [("primary", p.primary.document.update (.ofGiven d.primary.entries)),
    ("optional", p.tuning.document.update (.ofGiven d.tuning.entries)),
    ("derived", p.estimates.document.update (.ofGiven d.estimates.entries))])

end Teller
