import Teller.Document
import Teller.Fault

/-!
# Failures of operations

A failed operation answers with a code, a message, advice on what to do and details. Each code has a
standard message and, for most, standard advice.
-/

namespace Teller

/-- What went wrong, as a code that programs can act on. -/
inductive Failure.Code where
  | invalidAmountInput | invalidAmount | amountTooSmall | amountTooLarge | amountParsingFailed
  | parsingError
  | invalidAssetInput | assetNotFound | assetResolutionError | protocolNotFound
  | riskAssessmentFailed | riskToleranceUnclear | riskProfileError
  | strategyMatchingFailed | strategyNotFound
  | noStrategies | disambiguationError | invalidOption | resolutionError
  | templateNotFound | parameterExtractionError | commandBuildError | emptyBatch
  | operationCancelled
  | validationError | unknownError
  deriving DecidableEq, Repr

namespace Failure.Code

def all : List Code :=
  [.invalidAmountInput, .invalidAmount, .amountTooSmall, .amountTooLarge, .amountParsingFailed,
    .parsingError, .invalidAssetInput, .assetNotFound, .assetResolutionError, .protocolNotFound,
    .riskAssessmentFailed, .riskToleranceUnclear, .riskProfileError, .strategyMatchingFailed,
    .strategyNotFound, .noStrategies, .disambiguationError, .invalidOption, .resolutionError,
    .templateNotFound, .parameterExtractionError, .commandBuildError, .emptyBatch,
    .operationCancelled, .validationError, .unknownError]

def name : Code → String
  | invalidAmountInput => "INVALID_AMOUNT_INPUT"
  | invalidAmount => "INVALID_AMOUNT"
  | amountTooSmall => "AMOUNT_TOO_SMALL"
  | amountTooLarge => "AMOUNT_TOO_LARGE"
  | amountParsingFailed => "AMOUNT_PARSING_FAILED"
  | parsingError => "PARSING_ERROR"
  | invalidAssetInput => "INVALID_ASSET_INPUT"
  | assetNotFound => "ASSET_NOT_FOUND"
  | assetResolutionError => "ASSET_RESOLUTION_ERROR"
  | protocolNotFound => "PROTOCOL_NOT_FOUND"
  | riskAssessmentFailed => "RISK_ASSESSMENT_FAILED"
  | riskToleranceUnclear => "RISK_TOLERANCE_UNCLEAR"
  | riskProfileError => "RISK_PROFILE_ERROR"
  | strategyMatchingFailed => "STRATEGY_MATCHING_FAILED"
  | strategyNotFound => "STRATEGY_NOT_FOUND"
  | noStrategies => "NO_STRATEGIES"
  | disambiguationError => "DISAMBIGUATION_ERROR"
  | invalidOption => "INVALID_OPTION"
  | resolutionError => "RESOLUTION_ERROR"
  | templateNotFound => "TEMPLATE_NOT_FOUND"
  | parameterExtractionError => "PARAMETER_EXTRACTION_ERROR"
  | commandBuildError => "COMMAND_BUILD_ERROR"
  | emptyBatch => "EMPTY_BATCH"
  | operationCancelled => "OPERATION_CANCELLED"
  | validationError => "VALIDATION_ERROR"
  | unknownError => "UNKNOWN_ERROR"

def ofName? (name : String) : Option Code := all.find? (·.name == name)

/-- What users are told about a code. -/
def standardMessage : Code → String
  | invalidAmountInput => "No amount was provided"
  | invalidAmount => "Amount must be a positive number"
  | amountTooSmall => "Amount is below the minimum"
  | amountTooLarge => "Amount is above the maximum"
  | amountParsingFailed => "Could not understand the amount"
  | parsingError => "Unexpected error while parsing"
  | invalidAssetInput => "No asset was provided"
  | assetNotFound => "Asset not recognized"
  | assetResolutionError => "Unexpected error while resolving the asset"
  | protocolNotFound => "Protocol not supported"
  | riskAssessmentFailed => "Risk assessment failed"
  | riskToleranceUnclear => "Could not determine risk tolerance"
  | riskProfileError => "Risk profile could not be created"
  | strategyMatchingFailed => "Strategy matching failed"
  | strategyNotFound => "Strategy not found"
  | noStrategies => "No disambiguation strategy applies"
  | disambiguationError => "Failed to generate clarification options"
  | invalidOption => "Invalid disambiguation option selected"
  | resolutionError => "Failed to resolve disambiguation"
  | templateNotFound => "This operation is not supported yet"
  | parameterExtractionError => "Failed to extract parameters"
  | commandBuildError => "Failed to build command"
  | emptyBatch => "Batch contains no commands"
  | operationCancelled => "Operation cancelled"
  | validationError => "Unexpected validation error"
  | unknownError => "An unexpected error occurred"

/-- What users are advised to do, for the codes with which something can be done. -/
def advice? : Code → Option String
  | invalidAmountInput => some "Enter an amount such as 100, 1.5k or 50%"
  | invalidAmount => some "Enter an amount greater than zero"
  | amountTooSmall => some "Increase the amount"
  | amountTooLarge => some "Reduce the amount"
  | amountParsingFailed => some "Use an exact number like 100 or a unit like 1.5k"
  | parsingError => some "Rephrase the request and try again"
  | invalidAssetInput => some "Name a token such as USDC, SEI or ETH"
  | assetNotFound => some "Check the spelling of the asset symbol"
  | assetResolutionError => some "Try the token symbol instead of its name"
  | protocolNotFound => some "Use DragonSwap, Symphony, Citrex, Silo or Takara"
  | riskAssessmentFailed => some "Retry with a smaller amount or a known protocol"
  | riskToleranceUnclear => some "Describe your tolerance as low, medium or high"
  | riskProfileError => some "Answer the risk questionnaire again"
  | strategyMatchingFailed => some "Relax the strategy criteria"
  | strategyNotFound => some "Pick a strategy from the catalog"
  | disambiguationError => some "Rephrase the request with more detail"
  | invalidOption | resolutionError => some "Choose one of the offered options"
  | templateNotFound => some "Try lend, borrow, swap or add liquidity"
  | parameterExtractionError => some "Rephrase the request with an amount and a token"
  | validationError => some "Check the request parameters and try again"
  | noStrategies | commandBuildError | emptyBatch | operationCancelled | unknownError => none

end Failure.Code

/-- The part of the desk that failed. -/
inductive Failure.Kind where
  | amountParsing | assetResolution | protocolResolution | riskAnalysis | strategyMatching
  | commandProcessing | parameterValidation | commandBuilding
  | pipeline
  deriving DecidableEq, Repr

namespace Failure.Kind

/-- All kinds, the general one last. -/
def all : List Kind :=
  [.amountParsing, .assetResolution, .protocolResolution, .riskAnalysis, .strategyMatching,
    .commandProcessing, .parameterValidation, .commandBuilding, .pipeline]

def name : Kind → String
  | amountParsing => "AmountParsingError"
  | assetResolution => "AssetResolutionError"
  | protocolResolution => "ProtocolResolutionError"
  | riskAnalysis => "RiskAnalysisError"
  | strategyMatching => "StrategyMatchingError"
  | commandProcessing => "CommandProcessingError"
  | parameterValidation => "ParameterValidationError"
  | commandBuilding => "CommandBuildingError"
  | pipeline => "DefiPipelineError"

def ofName? (name : String) : Option Kind := all.find? (·.name == name)

/-- `a.isA b`: failures of kind `a` count as failures of kind `b`. Validation and building are parts
of processing, and everything is part of the pipeline. -/
def isA (a b : Kind) : Bool :=
  a == b || b == pipeline || b == commandProcessing && (a == parameterValidation || a == commandBuilding)

end Failure.Kind

structure Failure where
  kind : Failure.Kind
  code : Failure.Code
  message : String
  advice : Option String
  details : List (String × Document)

namespace Failure

/-- A failure with the standard advice of its code. -/
def of (kind : Kind) (code : Code) (message : String) (details : List (String × Document) := []) :
    Failure :=
  ⟨kind, code, message, code.advice?, details⟩

/-- A failure with advice of its own; empty advice counts as none. -/
def withAdvice (kind : Kind) (code : Code) (message : String) (advice : Option String)
    (details : List (String × Document)) : Failure :=
  ⟨kind, code, message, (advice.filter (· ≠ "")).or code.advice?, details⟩

/-- A failure as part of a result or of other details. -/
def document (f : Failure) : Document :=
  .record [("code", .text f.code.name), ("message", .text f.message),
    ("remediation", .text? f.advice), ("details", .record f.details)]

end Failure

end Teller
