import Playbook.Shell.Arithmetic
import Playbook.Shell.Reading
import Playbook.Shell.Utility

/-!
# Running commands

`Shell.start` runs a command line in a shell of its own and gives what it wrote, how it ended and
the files it left. Loops and substitutions are followed to a fixed depth.
-/

namespace Playbook.Shell

/-- The fields of a word so far, the last first, and the field that is being built. -/
structure Fields where
  done : List String
  current : Option String

namespace Fields

def none : Fields := ⟨[], .none⟩

def add (fields : Fields) (text : String) : Fields :=
  { fields with current := some (fields.current.getD "" ++ text) }

def cut (fields : Fields) : Fields :=
  match fields.current with
  | some text => ⟨text :: fields.done, .none⟩
  | .none => fields

/-- Adds text whose blanks divide fields. -/
def addSplit (fields : Fields) (text : String) : Fields :=
  text.toList.foldl (fun fields c ↦
    if c == ' ' || c == '\t' || c == '\n' then fields.cut else fields.add c.toString) fields

def finish (fields : Fields) : List String :=
  fields.cut.done.reverse

end Fields

def put (fields : Fields) (text : String) (quoted : Bool) : Fields :=
  if quoted then fields.add text else fields.addSplit text

/-- Adds texts as fields of their own. -/
def Fields.addEach (fields : Fields) : List String → Fields
  | [] => fields
  | [text] => fields.add text
  | text :: rest => ((fields.add text).cut).addEach rest

/-- Puts the home directory in place of a tilde at the start of a word. -/
def withHome : Word → Word
  | .literal text false :: rest =>
    match text.toList with
    | ['~'] => .parameter "HOME" "" "" true :: rest
    | '~' :: '/' :: path =>
      .parameter "HOME" "" "" true :: .literal (String.ofList ('/' :: path)) false :: rest
    | _ => .literal text false :: rest
  | word => word

/-- Whether a word may name several files. -/
def isOpenWord (word : Word) : Bool :=
  word.any fun part ↦ match part with
    | .literal text false => Pattern.isOpen text.toList
    | _ => false

/-- The files whose names fit a pattern, which may stand behind a directory; where there are none,
the pattern itself. -/
def fileNames (m : Machine) (pattern : String) : List String :=
  let chars := pattern.toList
  let name := (chars.reverse.takeWhile (· != '/')).reverse
  let directory := String.ofList (chars.take (chars.length - name.length))
  match m.files.locate (if directory.isEmpty then "." else directory) with
  | .error _ => [pattern]
  | .ok names =>
    let hidden := name.head? == some '.'
    let found := (FileUtility.namesIn m names).filter fun file ↦
      Pattern.fits (Pattern.read name) file.toList && (hidden || !file.startsWith ".")
    if found.isEmpty then [pattern] else found.map (directory ++ ·)

/-- What an operator on its value makes of the text of a variable. -/
def changed (text operator argument : String) : String :=
  let chars := text.toList
  let pattern := Pattern.read argument.toList
  let result (chars : List Char) : String := String.ofList chars
  let place (chars : List Char) (n : Int) : Nat := (if n < 0 then chars.length + n else n).toNat
  let replaced (all : Bool) : String :=
    let name := argument.toList.takeWhile (· != '/')
    let replacement := argument.toList.drop (name.length + 1)
    result (Pattern.replace (Pattern.read name) all replacement 0 chars)
  match operator with
  | "#" => result (chars.drop ((pattern.starts chars).head?.getD 0))
  | "##" => result (chars.drop ((pattern.starts chars).getLast?.getD 0))
  | "%" => result (chars.take (chars.length - (pattern.ends chars).head?.getD 0))
  | "%%" => result (chars.take (chars.length - (pattern.ends chars).getLast?.getD 0))
  | "/" => replaced false
  | "//" => replaced true
  | "^^" => result (chars.map Char.toUpper)
  | ",," => result (chars.map Char.toLower)
  | "^" => result ((chars.take 1).map Char.toUpper ++ chars.drop 1)
  | "," => result ((chars.take 1).map Char.toLower ++ chars.drop 1)
  | ":" =>
    match (argument.splitOn ":").map fun text ↦ Printing.integer (Text.trim text) with
    | [start] => result (chars.drop (place chars start))
    | [start, length] => result ((chars.drop (place chars start)).take length.toNat)
    | _ => text
  | _ => text

/-- Drops the line breaks at the end of a command's output. -/
def trimBreaks (text : String) : String :=
  String.ofList (text.toList.reverse.dropWhile (· == '\n')).reverse

/-- Opens the files of redirections in order. -/
def redirect (m : Machine) (kind : Redirect) (stream : Nat) (path : String) :
    Except FileError Machine :=
  let aim (m : Machine) (target : Target) : Machine :=
    if stream == 2 then { m with errors := target } else { m with output := target }
  match kind with
  | .read => (m.files.read path).map fun input ↦ { m with input }
  | .text => .ok { m with input := Text.Utf8.encode path }
  | .duplicate =>
    .ok (aim m (if path == "2" then m.errors else if path == "1" then m.output else .discard))
  | .append =>
    if path == "/dev/null" then .ok (aim m .discard)
    else match m.files.read path with
      | .ok _ => .ok (aim m (.file path))
      | .error .notFound =>
        (m.files.write path []).map fun files ↦ aim { m with files } (.file path)
      | .error fault => .error fault
  | .both =>
    if path == "/dev/null" then .ok { m with output := .discard, errors := .discard }
    else (m.files.write path []).map fun files ↦
      { m with files, output := .file path, errors := .file path }
  | .write =>
    if path == "/dev/null" then .ok (aim m .discard)
    else (m.files.write path []).map fun files ↦ aim { m with files } (.file path)

/-- Gives the streams of `m` back the targets they had in `earlier`. -/
def restoreStreams (earlier m : Machine) : Machine :=
  { m with output := earlier.output, errors := earlier.errors }

/-- What a separate shell leaves in the one that started it. -/
def rejoin (outer inner : Machine) : Machine :=
  { outer with
    files := { inner.files with here := outer.files.here }
    buffers := inner.buffers
    input := inner.input
    status := inner.status
    flow := if inner.flow == .killed then .killed else outer.flow }

/-- The variables with the arguments of the shell among them, as arithmetic sees them. -/
def withArguments (m : Machine) : SortedMap String :=
  m.values.insertMany (m.arguments.zipIdx.map fun (text, i) ↦ (toString (i + 1), text))

def withoutArguments (m : Machine) (values : SortedMap String) : SortedMap String :=
  (List.range m.arguments.length).foldl (fun values i ↦ values.erase (toString (i + 1)))
    values

/-- Reports a fault in a command line that could not be read. -/
def Machine.refuse (m : Machine) (source : String) (fault : Fault) : Machine :=
  ((fault.messages source).foldl (fun m text ↦ m.report (m.program ++ ": -c: " ++ text)) m).finish 2

def isDoubleBracket : Word → Bool
  | [.literal "[[" false] => true
  | _ => false

/-- A word in which quoted characters stand for themselves when it is read as a pattern. -/
def escapeQuoted (word : Word) : Word :=
  (withHome word).map fun part ↦ match part with
    | .literal text true =>
      .literal (String.ofList (text.toList.flatMap fun c ↦ ['\\', c])) true
    | .literal text false => .literal text true
    | .parameter name operator argument _ => .parameter name operator argument true
    | .substitution source _ => .substitution source true
    | part => part

mutual

/-- Adds the parts of a word to its fields. -/
def expand : Nat → Machine → Fields → Word → Machine × Fields
  | 0, m, fields, _ => (m, fields)
  | _, m, fields, [] => (m, fields)
  | fuel + 1, m, fields, part :: rest =>
    match part with
    | .literal text _ => expand fuel m (fields.add text) rest
    | .arithmetic expression =>
      match Arithmetic.evaluate (withArguments m) expression with
      | some (value, values) =>
        let m := { m with values := withoutArguments m values }
        expand fuel m (fields.add (toString value)) rest
      | none =>
        let failed := m.complain 1 (expression ++ ": syntax error in expression") 1
        ({ failed with flow := .exit }, fields)
    | .substitution source quoted =>
      let (m, text) := capture fuel m source
      expand fuel m (put fields text quoted) rest
    | .parameter "@" "" _ true => expand fuel m (fields.addEach m.arguments) rest
    | .parameter name operator argument quoted =>
      let (m, text) := parameter fuel m name operator argument
      expand fuel m (put fields text quoted) rest

/-- The value of a variable under an operator. -/
def parameter : Nat → Machine → (name operator argument : String) → Machine × String
  | 0, m, _, _, _ => (m, "")
  | fuel + 1, m, name, operator, argument =>
    let value := m.value name
    let missing := if operator.startsWith ":" then (value.getD "").isEmpty else value.isNone
    let given (m : Machine) : Machine × String :=
      match readWord (argument.length + 1) 1 [] (('\"' :: argument.toList) ++ ['\"']) with
      | .ok (parts, _, _) =>
        let (m, fields) := expand fuel m .none parts.reverse
        (m, " ".intercalate fields.finish)
      | .error _ => (m, argument)
    match operator with
    | "" =>
      if m.options.bound && value.isNone && name != "@" && name != "*" then
        ({ m.complain 1 (name ++ ": unbound variable") 127 with flow := .exit }, "")
      else (m, value.getD "")
    | "length" => (m, toString (value.getD "").length)
    | "-" => if missing then given m else (m, value.getD "")
    | ":-" => if missing then given m else (m, value.getD "")
    | "+" => if missing then (m, "") else given m
    | ":+" => if missing then (m, "") else given m
    | "=" | ":=" =>
      if missing then let (m, text) := given m; (m.assign name text, text)
      else (m, value.getD "")
    | "?" =>
      if missing then
        let (m, text) := given m
        let reason := if text.isEmpty then "parameter not set" else text
        ({ m.complain 1 (name ++ ": " ++ reason) 127 with flow := .exit }, "")
      else (m, value.getD "")
    | ":?" =>
      if missing then
        let (m, text) := given m
        let reason := if text.isEmpty then "parameter null or not set" else text
        ({ m.complain 1 (name ++ ": " ++ reason) 127 with flow := .exit }, "")
      else (m, value.getD "")
    | operator =>
      let (m, argument) := given m
      (m, changed (value.getD "") operator argument)

/-- The output of a command line that is run in a shell of its own. -/
def capture : Nat → Machine → (source : String) → Machine × String
  | 0, m, _ => (m, "")
  | fuel + 1, m, source =>
    match Command.parse source with
    | .error fault => (m.refuse source fault, "")
    | .ok command =>
      let index := m.buffers.size
      let inner := run fuel { m with buffers := m.buffers.push [], output := .buffer index } command
      let text := trimBreaks (Text.Utf8.lossy (inner.buffers[index]?.getD []))
      (rejoin m inner, text)

def expandAll : Nat → Machine → List Word → Machine × List String
  | 0, m, _ => (m, [])
  | _, m, [] => (m, [])
  | fuel + 1, m, word :: rest =>
    let (m, fields) := expand fuel m .none (withHome word)
    let found := if isOpenWord word then fields.finish.flatMap (fileNames m) else fields.finish
    let (m, more) := expandAll fuel m rest
    (m, found ++ more)

def assignAll : Nat → Machine → List (String × Word) → Machine
  | 0, m, _ => m
  | _, m, [] => m
  | fuel + 1, m, (name, word) :: rest =>
    let (m, fields) := expand fuel m .none (quoteAll (withHome word))
    assignAll fuel (m.assign name (" ".intercalate fields.finish)) rest

/-- Opens redirections in order; the flag tells whether all of them could be opened. -/
def redirectAll : Nat → Machine → (line : Nat) → List Redirection → Machine × Bool
  | 0, m, _, _ => (m, false)
  | _, m, _, [] => (m, true)
  | fuel + 1, m, line, redirection :: rest =>
    let target := redirection.target
    let target := if redirection.kind == .text then quoteAll target else withHome target
    let (m, fields) := expand fuel m .none target
    let path := " ".intercalate fields.finish
    match redirect m redirection.kind redirection.stream path with
    | .ok m => redirectAll fuel m line rest
    | .error fault => (m.complain line (path ++ ": " ++ Machine.reason fault) 1, false)

/-- Runs a command with some streams redirected. -/
def runWith : Nat → Machine → List Redirection → Command → Machine
  | 0, m, _, _ => m
  | fuel + 1, m, redirections, command =>
    let (opened, fine) := redirectAll fuel m 1 redirections
    restoreStreams m (if fine then run fuel opened command else opened)

/-- Runs a command whose failure does not end the shell. -/
def runGuarded : Nat → Machine → Command → Machine
  | 0, m, _ => { m with flow := .exit, status := 1 }
  | fuel + 1, m, command =>
    { run fuel { m with guarded := true } command with guarded := m.guarded }

def run : Nat → Machine → Command → Machine
  | 0, m, _ => { m with flow := .exit, status := 1 }
  | fuel + 1, m, command =>
    if m.flow != .onward then m
    else match command with
      | .simple line assignments words redirections =>
        let words := if words.head?.any isDoubleBracket then words.map quoteAll else words
        let status := if words.isEmpty then 0 else m.status
        let (expanded, fields) := expandAll fuel { m with status } words
        if expanded.flow != .onward then expanded
        else match fields with
          | [] =>
            let assigned := assignAll fuel expanded assignments
            let (opened, _) := redirectAll fuel assigned line redirections
            (restoreStreams m opened).checked
          | name :: arguments =>
            let (opened, fine) := redirectAll fuel expanded line redirections
            if !fine then (restoreStreams m opened).checked
            else
              let ready := assignAll fuel opened assignments
              let done := invoke fuel ready line name arguments
              let done := if assignments.isEmpty then done
                else { done with values := expanded.values }
              (restoreStreams m done).checked
      | .negated command =>
        let m := runGuarded fuel m command
        if m.flow == .onward then m.finish (if m.status == 0 then 1 else 0) else m
      | .pipe first second =>
        let index := m.buffers.size
        let inner := run fuel { m with buffers := m.buffers.push [], output := .buffer index } first
        let carried := inner.buffers[index]?.getD []
        let outer := rejoin m inner
        if outer.flow != .onward then outer
        else
          let last := rejoin outer (run fuel { outer with input := carried } second)
          let failed := m.options.wholePipe && last.status == 0
          ({ last with status := if failed then inner.status else last.status }).checked
      | .both first second =>
        let m := runGuarded fuel m first
        if m.flow == .onward && m.status == 0 then run fuel m second else m
      | .either first second =>
        let m := runGuarded fuel m first
        if m.flow == .onward && m.status != 0 then run fuel m second else m
      | .seq first second => run fuel (run fuel m first) second
      | .group body separate redirections =>
        let inner := runWith fuel m redirections body
        if separate then (rejoin m inner).checked else inner
      | .cycle condition body inverted redirections =>
        let (opened, fine) := redirectAll fuel m 1 redirections
        restoreStreams m (if fine then cycle fuel opened condition body inverted 0 else opened)
      | .branch condition yes no redirections =>
        let (opened, fine) := redirectAll fuel m 1 redirections
        if !fine then restoreStreams m opened
        else
          let asked := runGuarded fuel opened condition
          restoreStreams m
            (if asked.flow != .onward then asked
            else if asked.status == 0 then run fuel asked yes
            else match no with
              | some no => run fuel asked no
              | none => asked.finish 0)
      | .each name words body redirections =>
        let (expanded, fields) := expandAll fuel m words
        let (opened, fine) := redirectAll fuel expanded 1 redirections
        restoreStreams m (if fine then each fuel (opened.finish 0) name body fields else opened)
      | .choose subject clauses =>
        let (m, fields) := expand fuel m .none (quoteAll (withHome subject))
        choose fuel (m.finish 0) (" ".intercalate fields.finish) clauses
      | .define name body => { m with functions := (name, body) :: m.functions }.finish 0

/-- Runs the first clause with a pattern that the subject fits. -/
def choose : Nat → Machine → (subject : String) → List (List Word × Command) → Machine
  | 0, m, _, _ => { m with flow := .exit, status := 1 }
  | _, m, _, [] => m
  | fuel + 1, m, subject, (patterns, body) :: rest =>
    let (m, fitting) := fits fuel m subject patterns
    if fitting then run fuel m body else choose fuel m subject rest

/-- Whether a text fits one of some patterns. -/
def fits : Nat → Machine → (subject : String) → List Word → Machine × Bool
  | 0, m, _, _ => (m, false)
  | _, m, _, [] => (m, false)
  | fuel + 1, m, subject, word :: rest =>
    let (m, fields) := expand fuel m .none (escapeQuoted word)
    let pattern := Pattern.read (" ".intercalate fields.finish).toList
    if Pattern.fits pattern subject.toList then (m, true) else fits fuel m subject rest

/-- Repeats a body while its condition holds; `status` is that of the last round. -/
def cycle : Nat → Machine → Command → Command → (inverted : Bool) → (status : Nat) → Machine
  | 0, m, _, _, _, _ => { m with flow := .exit, status := 1 }
  | fuel + 1, m, condition, body, inverted, status =>
    let asked := runGuarded fuel m condition
    if asked.flow != .onward then asked
    else if (asked.status == 0) == inverted then asked.finish status
    else
      let after := run fuel asked body
      match after.flow with
      | .onward => cycle fuel after condition body inverted after.status
      | .nextRound => cycle fuel { after with flow := .onward } condition body inverted after.status
      | .leaveLoop => { after with flow := .onward }
      | _ => after

def each : Nat → Machine → (name : String) → Command → List String → Machine
  | 0, m, _, _, _ => { m with flow := .exit, status := 1 }
  | _, m, _, _, [] => m
  | fuel + 1, m, name, body, value :: rest =>
    let after := run fuel (m.assign name value) body
    match after.flow with
    | .onward => each fuel after name body rest
    | .nextRound => each fuel { after with flow := .onward } name body rest
    | .leaveLoop => { after with flow := .onward }
    | _ => after

/-- Runs a function, a utility or another shell. -/
def invoke : Nat → Machine → (line : Nat) → (name : String) → List String → Machine
  | 0, m, _, _, _ => m
  | fuel + 1, m, line, name, arguments =>
    match m.functions.lookup name with
    | some body =>
      let after := (run fuel { m with arguments, locals := [] } body).dropLocals
      { after with
        arguments := m.arguments
        locals := m.locals
        flow := if after.flow == .leaveFunction then .onward else after.flow }
    | none =>
      match Utility.run? m line name arguments with
      | some m => m
      | none => invokeOther fuel m line name arguments

/-- Runs a command that runs other commands, or reports that there is none of that name. -/
def invokeOther : Nat → Machine → (line : Nat) → (name : String) → List String → Machine
  | 0, m, _, _, _ => m
  | fuel + 1, m, line, name, arguments =>
    match name, arguments with
    | "eval", sources =>
      let source := " ".intercalate sources
      match Command.parse source with
      | .ok command => run fuel m command
      | .error fault => m.refuse source fault
    | "exec", [] => m.finish 0
    | "exec", name :: arguments => { invoke fuel m line name arguments with flow := .exit }
    | "command", name :: arguments =>
      invoke fuel { m with functions := [] } line name arguments
    | ".", path :: arguments => runFile fuel m line path arguments
    | "source", path :: arguments => runFile fuel m line path arguments
    | name, arguments =>
      if Utility.programName name ∈ ["sh", "bash"] then
        match arguments with
        | "-c" :: source :: rest => runSource fuel m (rest.headD name) (rest.drop 1) source
        | path :: rest =>
          match m.files.readText path with
          | .ok source => runSource fuel m path rest source
          | .error fault =>
            (m.report (name ++ ": " ++ path ++ ": " ++ Machine.reason fault)).finish 127
        | [] => runSource fuel m name [] (Text.Utf8.lossy m.input)
      else if '/' ∈ name.toList then
        match m.files.lookup name with
        | .ok (_, .directory _) => m.complain line (name ++ ": Is a directory") 126
        | .ok (_, .file content mode) =>
          if FileSystem.maySearch mode then
            runSource fuel m name arguments (Text.Utf8.lossy content)
          else m.complain line (name ++ ": Permission denied") 126
        | .error fault => m.complain line (name ++ ": " ++ Machine.reason fault) 127
      else m.complain line (name ++ ": command not found") 127

/-- Runs a command line in a shell of its own. -/
def runSource : Nat → Machine → (program : String) → List String → (source : String) → Machine
  | 0, m, _, _, _ => m
  | fuel + 1, m, program, arguments, source =>
    let inner := { m with program, arguments, options := {}, guarded := false }
    match Command.parse source with
    | .ok command => rejoin m (run fuel inner command)
    | .error fault => rejoin m (inner.refuse source fault)

/-- Runs the commands in a file in this shell. -/
def runFile : Nat → Machine → (line : Nat) → (path : String) → List String → Machine
  | 0, m, _, _, _ => m
  | fuel + 1, m, line, path, arguments =>
    match m.files.readText path with
    | .error fault => m.complain line (path ++ ": " ++ Machine.reason fault) 1
    | .ok source =>
      match Command.parse source with
      | .ok command =>
        let arguments := if arguments.isEmpty then m.arguments else arguments
        let after := run fuel { m with arguments } command
        { after with
          arguments := m.arguments
          flow := if after.flow == .leaveFunction then .onward else after.flow }
      | .error fault => m.refuse source fault

end

/-- How deep a run follows loops and substitutions. -/
def runFuel : Nat := 100000

/-- Runs what is left to be run when a shell ends; that keeps the status. -/
def finishShell (m : Machine) : Machine :=
  match m.atExit, m.flow with
  | some _, .killed => m
  | some source, _ =>
    match Command.parse source with
    | .ok command =>
      let after := run runFuel { m with flow := .onward, atExit := none } command
      if after.flow == .exit then after else { after with status := m.status }
    | .error fault => m.refuse source fault
  | none, _ => m

inductive Status where
  | exited (code : Nat)
  | killed
  deriving DecidableEq, Repr

structure Outcome where
  status : Status
  output : List UInt8
  errors : List UInt8
  files : FileSystem

/-- Why a shell could not be started. -/
inductive StartFault where
  | nulByte
  | file (fault : FileError)
  deriving DecidableEq, Repr

def StartFault.message : StartFault → String
  | .nulByte => "nul byte found in provided data"
  | .file fault => fault.message

def holdsNul (text : String) : Bool :=
  '\x00' ∈ text.toList

/-- The shell program at a path; a bare name is looked for where programs stand. -/
def findProgram (fs : FileSystem) (program : String) : Except FileError Unit :=
  let check (path : String) : Except FileError Unit :=
    match fs.lookup path with
    | .error fault => .error fault
    | .ok (_, .directory _) => .error .denied
    | .ok (_, .file _ mode) => if FileSystem.maySearch mode then .ok () else .error .denied
  if '/' ∈ program.toList || program.isEmpty then check program
  else
    match check ("/usr/bin/" ++ program) with
    | .ok () => .ok ()
    | .error _ => check ("/bin/" ++ program)

/-- Runs a command line in the shell `program`, in a directory and with some variables. -/
def start (fs : FileSystem) (program command : String) (directory : Option FilePath)
    (values : SortedMap String) : Except StartFault Outcome :=
  if holdsNul program || holdsNul command || directory.any holdsNul ||
      values.entries.any (fun entry ↦ holdsNul entry.1 || holdsNul entry.2) then .error .nulByte
  else
    let m : Machine :=
      { program, files := fs, values, status := 0, flow := .onward, input := []
        buffers := #[[], []], output := .buffer 0, errors := .buffer 1 }
    let moved := match directory with
      | some path => m.moveTo path
      | none => .ok m
    match moved with
    | .error fault => .error (.file fault)
    | .ok m =>
      match findProgram m.files program with
      | .error fault => .error (.file fault)
      | .ok () =>
        let m := match Command.parse command with
          | .ok command => finishShell (run runFuel m command)
          | .error fault => m.refuse command fault
        let status := if m.flow == .killed then Status.killed else .exited m.status
        .ok ⟨status, m.buffers[0]?.getD [], m.buffers[1]?.getD [], { m.files with here := fs.here }⟩

end Playbook.Shell
