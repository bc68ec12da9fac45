import Playbook.Error

/-!
# Reports of errors

An error is reported as the kind it has, with the kinds of the errors it wraps, and its message.
What exactly is wrong with a text that is no YAML, or no template, is left out of a report.
-/

namespace Playbook

namespace Report

/-- What stands before the first `pattern`, which the text must hold. -/
def before? (pattern : List Char) : List Char → Option (List Char)
  | [] => if pattern.isEmpty then some [] else none
  | c :: rest =>
    if pattern.isPrefixOf (c :: rest) then some []
    else (before? pattern rest).map (c :: ·)

def cutAfter? (kept dropped : String) (line : List Char) : Option (List Char) :=
  (before? (kept ++ dropped).toList line).map (· ++ kept.toList)

def briefLine (line : List Char) : List Char :=
  match cutAfter? "YAML error" ": " line with
  | some short => short
  | none => (cutAfter? "': syntax error" ": " line).getD line

def linesFrom (line : List Char) : List Char → List (List Char)
  | [] => [line.reverse]
  | c :: rest => if c == '\n' then line.reverse :: linesFrom [] rest else linesFrom (c :: line) rest

/-- A message without the details of faults in YAML and template texts. -/
def brief (message : String) : String :=
  String.ofList (['\n'].intercalate ((linesFrom [] message.toList).map briefLine))

def ofError (kind message : String) : Json :=
  Json.object [("error", .str kind), ("message", .str (brief message))]

end Report

/-- A cause in a report; of a fault in a YAML text only the language is told. -/
def Cause.brief : Cause → String
  | .message text => Report.brief text
  | .yaml _ => "YAML"

def ParseError.kind : ParseError → String
  | .io .. => "Io"
  | .yaml _ => "Yaml"
  | .unexpectedNode .. => "UnexpectedNode"
  | .unknownField .. => "UnknownField"
  | .duplicateTask .. => "DuplicateTask"
  | .invalidField .. => "InvalidField"
  | .invalidElement .. => "InvalidElement"

def RegistrationError.kind : RegistrationError → String
  | .duplicate _ => "Duplicate"
  | .reservedName _ => "ReservedName"

mutual

def TaskError.kind : TaskError → String
  | .notRegistered _ => "NotRegistered"
  | .missing => "Missing"
  | .init _ cause => "Init." ++ cause.kind
  | .configuration _ => "Configuration"
  | .executionFailed _ => "ExecutionFailed"
  | .process _ => "Process"
  | .template _ => "Template"
  | .io _ => "Io"
  | .json _ => "Json"
  | .cancelled => "Cancelled"
  | .include _ cause => "Include." ++ cause.kind

def ExecutionError.kind : ExecutionError → String
  | .parse cause => "Parse." ++ cause.kind
  | .resolve _ => "Resolve"
  | .task _ cause => "Task." ++ cause.kind
  | .loopNotArray .. => "LoopNotArray"
  | .includeDepth _ => "IncludeDepth"
  | .blockDepth => "BlockDepth"
  | .unknownSlot _ => "UnknownSlot"

end

def ParseError.report (error : ParseError) : Json :=
  Report.ofError ("Parse." ++ error.kind) error.message

def RegistrationError.report (error : RegistrationError) : Json :=
  Report.ofError ("Registration." ++ error.kind) error.message

def TaskError.report (error : TaskError) : Json :=
  Report.ofError ("Task." ++ error.kind) error.message

def ExecutionError.report (error : ExecutionError) : Json :=
  Report.ofError error.kind error.message

/-- The report of a template error, which also names the template. -/
def ResolveError.report (error : ResolveError) : Json :=
  Json.object [("error", .str "Resolve"), ("message", .str (Report.brief error.text)),
    ("template", .str error.template)]

end Playbook
