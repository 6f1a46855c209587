/-! # Errors

Every way in which an operation of the library fails, and its message.
-/

namespace Logline

inductive LogError where
  | ioOperation (operation message source : String)
  | io (message : String)
  | json
  | duplicateValue (value : Int) (existing : String)
  | duplicateTitle (title : String)
  | invalidLevel (text : String)
  | configuration (component message : String)
  | invalidPattern
  | sinkClosed (name : String)
  | writer (message : String)
  | other (message : String)
  deriving DecidableEq, Repr, Inhabited

namespace LogError

def message : LogError → String
  | .ioOperation operation message _ => "IO error while " ++ operation ++ ": " ++ message
  | .io message => "IO error: " ++ message
  | .json => "JSON error"
  | .duplicateValue value existing =>
    "duplicate level value " ++ toString value ++ " (already registered as '" ++ existing ++ "')"
  | .duplicateTitle title => "duplicate level title '" ++ title ++ "'"
  | .invalidLevel text => "invalid log level: '" ++ text ++ "'"
  | .configuration component message =>
    "Invalid configuration for " ++ component ++ ": " ++ message
  | .invalidPattern => "invalid redaction pattern"
  | .sinkClosed name => "sink '" ++ name ++ "' is closed"
  | .writer message => "Writer error: " ++ message
  | .other message => message

def kind : LogError → String
  | .ioOperation .. => "IoOperation"
  | .io _ => "IoError"
  | .json => "JsonError"
  | .duplicateValue .. => "DuplicateLevelValue"
  | .duplicateTitle _ => "DuplicateLevelTitle"
  | .invalidLevel _ => "InvalidLevel"
  | .configuration .. => "InvalidConfiguration"
  | .invalidPattern => "InvalidPattern"
  | .sinkClosed _ => "SinkClosed"
  | .writer _ => "WriterError"
  | .other _ => "Other"

def source? : LogError → Option String
  | .ioOperation _ _ source => some source
  | .io message => some message
  | _ => none

end LogError

end Logline
