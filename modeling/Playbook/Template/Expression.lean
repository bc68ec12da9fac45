import Playbook.Template.Value

/-!
# Templates

A template is a sequence of pieces: text as it stands, expressions that are printed, and
statements. An expression carries the line it stands on where evaluating it may fail.
-/

namespace Playbook.Template

inductive Operator where
  | add
  | subtract
  | multiply
  | divide
  | floorDivide
  | remainder
  | power
  | concat
  | equal
  | unequal
  | less
  | lessOrEqual
  | greater
  | greaterOrEqual
  | contains
  deriving DecidableEq, Repr

mutual

inductive Expr where
  | literal (value : Value)
  | var (name : String)
  | list (items : List Expr)
  | map (entries : List (Expr × Expr))
  | not (operand : Expr)
  | negate (line : Nat) (operand : Expr)
  | binary (operator : Operator) (left right : Expr)
  | and (left right : Expr)
  | or (left right : Expr)
  | choice (condition yes : Expr) (no : Option Expr)
  | attribute (line : Nat) (subject : Expr) (name : String)
  | item (line : Nat) (subject index : Expr)
  | slice (line : Nat) (subject : Expr) (start stop step : Option Expr)
  | filter (subject : Expr) (call : Call)
  | test (subject : Expr) (call : Call)
  /-- The call of a function. -/
  | apply (function : Expr) (call : Call)

/-- A name with arguments. -/
inductive Call where
  | mk (line : Nat) (name : String) (arguments : List Argument)

inductive Argument where
  | positional (value : Expr)
  | keyword (name : String) (value : Expr)
  | spread (value : Expr)
  | spreadKeywords (value : Expr)

end

instance : Inhabited Expr := ⟨.literal .undefined⟩

/-- What an assignment gives values to. -/
inductive Assignee where
  | name (name : String)
  | field (subject : String) (name : String)
  | tuple (parts : List Assignee)
  deriving Inhabited

structure Parameter where
  name : String
  fallback : Option Expr

/-- A piece of a template. -/
inductive Piece where
  | text (content : String)
  | print (value : Expr)
  | branch (condition : Expr) (yes no : List Piece)
  | each (assignee : Assignee) (source : Expr) (condition : Option Expr)
      (body otherwise : List Piece)
  | set (assignee : Assignee) (value : Expr)
  | setText (assignee : Assignee) (filters : List Call) (body : List Piece)
  | within (assignments : List (Assignee × Expr)) (body : List Piece)
  | filtered (filters : List Call) (body : List Piece)
  /-- A definition of something that can be called in expressions. -/
  | define (name : String) (parameters : List Parameter) (body : List Piece)
  /-- A call that is handed a body as `caller`. -/
  | callWith (function : Expr) (call : Call) (parameters : List Parameter) (body : List Piece)
  | group (body : List Piece)
  | evaluate (value : Expr)
  /-- A reference to another template; there are none. -/
  | reference (line : Nat) (inclusive optional : Bool) (name : Expr)

instance : Inhabited Piece := ⟨.text ""⟩

/-- What can go wrong with a template. -/
inductive FaultKind where
  | badText
  | undefinedValue
  | tooManyArguments
  | missingArgument
  | invalidOperation
  | unknownFilter
  | unknownTest
  | unknownFunction
  | unknownMethod
  | templateNotFound
  | cannotUnpack
  deriving DecidableEq, Repr

def FaultKind.text : FaultKind → String
  | .badText => "syntax error"
  | .undefinedValue => "undefined value"
  | .tooManyArguments => "too many arguments"
  | .missingArgument => "missing argument"
  | .invalidOperation => "invalid operation"
  | .unknownFilter => "unknown filter"
  | .unknownTest => "unknown test"
  | .unknownFunction => "unknown function"
  | .unknownMethod => "unknown method"
  | .templateNotFound => "template not found"
  | .cannotUnpack => "cannot unpack"

structure Fault where
  kind : FaultKind
  detail : Option String
  line : Nat
  deriving DecidableEq, Repr

/-- A fault is shown with its detail, or with the line where it has none. -/
def Fault.message (fault : Fault) : String :=
  match fault.detail with
  | some detail => fault.kind.text ++ ": " ++ detail
  | none => fault.kind.text ++ " (in <string>:" ++ toString fault.line ++ ")"

def Fault.badText (line : Nat) (detail : String) : Fault :=
  ⟨.badText, some detail, line⟩

def Fault.invalid (detail : String) : Fault :=
  ⟨.invalidOperation, some detail, 0⟩

def Fault.bare (kind : FaultKind) : Fault :=
  ⟨kind, none, 0⟩

/-- Puts a line to a fault that has none yet. -/
def Fault.onLine (line : Nat) (fault : Fault) : Fault :=
  if fault.line == 0 then { fault with line } else fault

end Playbook.Template
