import TradeSpeech.Numeral.Basic

/-! What can go wrong, and how it is told. -/

namespace TradeSpeech

inductive Error
  | malformedNumeral (numeral : String) (fault : Numeral.Fault)
  | unknownAlias (word : String)
  | unknownItem (item : String)
  | notASingleSymbol (token : String)
  | unrecognizedCommand (line : String)
  | internalFault (message : String)
  | inputOutput (message : String)
  | serialization (message : String)
  | separatedValues (message : String)
  | invalidSettings (field message : String)
  | invalidValue (field value reason : String)
  deriving DecidableEq, Repr

inductive Category
  | input
  | lookup
  | grammar
  | internal
  | configuration
  | inputOutput
  deriving DecidableEq, Repr

def notUnderstood : String := "I have no idea what you are talking about"

namespace Error

/-! The faults that a line of the four sentence forms can meet. -/

def amountOutOfRange : Error :=
  .internalFault "credit amount out of range: number too large to fit in target type"

def quantityOfZero (numeral : Numeral) : Error :=
  .internalFault (numeral.name ++ " converted to zero")

def sessionPoisoned : Error :=
  .internalFault "session lock poisoned"

def category : Error → Category
  | malformedNumeral .. | notASingleSymbol .. => .input
  | unknownAlias .. | unknownItem .. => .lookup
  | unrecognizedCommand .. => .grammar
  | internalFault .. => .internal
  | invalidSettings .. | invalidValue .. => .configuration
  | inputOutput .. | serialization .. | separatedValues .. => .inputOutput

/-- Whether the speaker caused the failure, so that a recognized sentence is
answered with it rather than reported as not understood. -/
def isUserFacing (error : Error) : Bool :=
  match error.category with
  | .input | .lookup => true
  | .grammar | .internal | .configuration | .inputOutput => false

def message : Error → String
  | malformedNumeral numeral fault =>
    "Malformed numeral '" ++ numeral ++ "': " ++ fault.message
  | unknownAlias word => "Unknown alias: " ++ word
  | unknownItem item => "Unknown item: " ++ item
  | notASingleSymbol token => "'" ++ token ++ "' is not a single numeral symbol"
  | unrecognizedCommand line => "Unrecognized command: " ++ line
  | internalFault message => "Internal fault: " ++ message
  | inputOutput message => "IO error: " ++ message
  | serialization message => "Serialization error: " ++ message
  | separatedValues message => "CSV processing error: " ++ message
  | invalidSettings field message =>
    "Configuration validation error in '" ++ field ++ "': " ++ message
  | invalidValue field value reason =>
    "Invalid value '" ++ value ++ "' for '" ++ field ++ "': " ++ reason

def friendlyMessage : Error → String
  | malformedNumeral .. | unknownAlias .. =>
    "The quantity is not in the correct format, please adjust the instruction"
  | notASingleSymbol .. => "Please specify a single Roman numeral"
  | unknownItem item => "I don't know the price of " ++ item
  | unrecognizedCommand .. | internalFault .. => notUnderstood
  | invalidSettings field message => "配置錯誤 (" ++ field ++ "): " ++ message
  | invalidValue field value reason =>
    "配置值無效 " ++ field ++ " = '" ++ value ++ "': " ++ reason
  | inputOutput message => "無法讀寫檔案: " ++ message
  | serialization message => "無法輸出 JSON: " ++ message
  | separatedValues message => "無法輸出 CSV: " ++ message

def suggestion (error : Error) : String :=
  match error.category with
  | .input => "Check that every alias stands for a well-formed numeral"
  | .lookup => "Define the alias or item price on an earlier line"
  | .grammar => "Use one of the four supported sentence forms"
  | .internal => "Re-run with --verbose and inspect the log"
  | .configuration => "Fix the configuration file and try again"
  | .inputOutput => "Check the input path and file permissions"

end Error

end TradeSpeech
