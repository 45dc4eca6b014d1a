-- SUMMARY: The programs that scripts call: printing, files, tests and waiting, over a file tree.
import AgentGovernance.Command
import AgentGovernance.Disk
import AgentGovernance.Shell.Printf
import AgentGovernance.Text.Blank

/-!
# Utilities

Each utility takes its arguments and the state of the process, and ends with an exit status.
Complaints are worded as the system's programs word them.
-/

namespace AgentGovernance.Shell

/-- Where output goes. -/
inductive Sink where
  | out
  | err
  | file (place : Place)
  | nowhere
  deriving DecidableEq, Repr

/-- The state of a process. -/
structure Process where
  disk : Disk
  environment : List (String × String) := []
  /-- The name of the script and its arguments. -/
  arguments : List String := ["sh"]
  status : Nat := 0
  /-- Whether a command that fails ends the script. -/
  failsFast : Bool := false
  input : List UInt8 := []
  stdout : List UInt8 := []
  stderr : List UInt8 := []
  outTo : Sink := .out
  errTo : Sink := .err
  /-- Milliseconds passed so far, and those allowed. -/
  elapsed : Nat := 0
  limit : Nat

/-- Why a process stops before its script is over. -/
inductive Halt where
  | exited (status : Nat)
  | signaled (number : Nat)
  | late
  deriving DecidableEq, Repr

/-- A step of a process. -/
abbrev Step := EStateM Halt Process

/-! ## Output -/

/-- Adds bytes to what a sink holds. -/
def Process.emit (p : Process) (sink : Sink) (bytes : List UInt8) : Process :=
  match sink with
  | .out => { p with stdout := p.stdout ++ bytes }
  | .err => { p with stderr := p.stderr ++ bytes }
  | .nowhere => p
  | .file place =>
    let old := match p.disk.tree.node? place with
      | some (.file b) => b
      | _ => .empty
    let tree := p.disk.tree.put place (.file ⟨old.data ++ bytes.toArray⟩)
    { p with disk := { p.disk with tree } }

/-- Writes bytes to the standard output. -/
def print (bytes : List UInt8) : Step Unit := modify fun p => p.emit p.outTo bytes

/-- Writes a line to the standard error. -/
def complain (line : String) : Step Unit := modify fun p => p.emit p.errTo (bytesOf (line ++ "\n"))

/-- The name that the script was called by. -/
def Process.name (p : Process) : String := p.arguments.headD "sh"

/-- Writes a complaint of the shell itself. -/
def complainAsShell (line : String) : Step Unit := do
  complain s!"{(← get).name}: 1: {line}"

/-- The wording of a failure without its number. -/
def reason (e : FileError) : String :=
  match e with
  | .notFound => "No such file or directory"
  | .permissionDenied => "Permission denied"
  | .alreadyExists => "File exists"
  | .notADirectory => "Not a directory"
  | .isADirectory => "Is a directory"
  | .nameTooLong => "File name too long"
  | .nulInName => "Invalid argument"
  | .notText => "Invalid argument"

/-! ## Files -/

/-- Does something for each argument. The status is that of the last failure, if there is one. -/
def forEach (args : List String) (act : String → Step Nat) : Step Nat :=
  args.foldlM (fun status a => do
    let s ← act a
    return if s == 0 then status else s) 0

/-- Prints files, or the standard input. -/
def cat (args : List String) : Step Nat := do
  let args := if args.isEmpty then ["-"] else args
  forEach args fun a => do
    let p ← get
    if a == "-" then
      print p.input
      return 0
    match p.disk.tree.readBytes p.disk.cwd ⟨a⟩ with
    | .ok bytes =>
      print bytes.data.toList
      return 0
    | .error e =>
      complain s!"cat: {a}: {reason e}"
      return 1

/-- Splits arguments into letters of options and the rest. -/
def options (args : List String) : List Char × List String :=
  let isOption := fun (a : String) => a.length > 1 && a.toList.head? == some '-'
  ((args.takeWhile isOption).flatMap fun a => a.toList.tail, args.dropWhile isOption)

/-- Removes files. -/
def rm (args : List String) : Step Nat := do
  let (flags, names) := options args
  let force := flags.contains 'f'
  let deep := flags.contains 'r' || flags.contains 'R'
  forEach names fun a => do
    let p ← get
    match p.disk.tree.find p.disk.cwd ⟨a⟩ with
    | .ok (place, .file _) =>
      set { p with disk := { p.disk with tree := p.disk.tree.prune place } }
      return 0
    | .ok (place, .directory) =>
      if deep then
        set { p with disk := { p.disk with tree := p.disk.tree.prune place } }
        return 0
      complain s!"rm: cannot remove '{a}': Is a directory"
      return 1
    | .error e =>
      if force && e == .notFound then return 0
      complain s!"rm: cannot remove '{a}': {reason e}"
      return 1

/-- Creates files that are missing. -/
def touch (args : List String) : Step Nat :=
  forEach args fun a => do
    let p ← get
    if p.disk.has ⟨a⟩ then return 0
    match p.disk.writeFile ⟨a⟩ .empty with
    | .ok disk =>
      set { p with disk }
      return 0
    | .error e =>
      complain s!"touch: cannot touch '{a}': {reason e}"
      return 1

/-- Creates directories. -/
def mkdir (args : List String) : Step Nat := do
  let (flags, names) := options args
  forEach names fun a => do
    let p ← get
    let parent := ((Path.mk a).parent?.filter fun q => !q.isEmpty).getD ⟨"."⟩
    let outcome :=
      if flags.contains 'p' then p.disk.createDirectories ⟨a⟩
      else if p.disk.has ⟨a⟩ then (p.disk, .error .alreadyExists)
      else if p.disk.isDirectory parent then p.disk.createDirectories ⟨a⟩
      else (p.disk, .error .notFound)
    match outcome with
    | (disk, .ok ()) =>
      set { p with disk }
      return 0
    | (disk, .error e) =>
      set { p with disk }
      complain s!"mkdir: cannot create directory '{a}': {reason e}"
      return 1

/-- The path of a copy: inside a directory it keeps its name. -/
def copyTarget (d : Disk) (source target : String) : Path :=
  if d.isDirectory ⟨target⟩ then (Path.mk target).join ((Path.mk source).fileName?.getD "")
  else ⟨target⟩

/-- Copies a file, and removes the old one if it is `moved`. -/
def copy (name : String) (moved : Bool) : List String → Step Nat
  | [source, target] => do
    let p ← get
    match p.disk.tree.readBytes p.disk.cwd ⟨source⟩ with
    | .error e =>
      complain s!"{name}: cannot stat '{source}': {reason e}"
      return 1
    | .ok bytes =>
      match p.disk.writeFile (copyTarget p.disk source target) bytes with
      | .error e =>
        complain s!"{name}: cannot create regular file '{target}': {reason e}"
        return 1
      | .ok disk =>
        set { p with disk := if moved then (disk.removeFile ⟨source⟩).toOption.getD disk else disk }
        return 0
  | _ => do
    complain s!"{name}: missing file operand"
    return 1

/-! ## Tests -/

/-- Asks one question about a text or a file. -/
def unaryTest (d : Disk) (op arg : String) : Option Bool :=
  match op with
  | "-n" => some !arg.isEmpty
  | "-z" => some arg.isEmpty
  | "-e" => some (d.has ⟨arg⟩)
  | "-r" => some (d.has ⟨arg⟩)
  | "-w" => some (d.has ⟨arg⟩)
  | "-d" => some (d.isDirectory ⟨arg⟩)
  | "-x" => some (d.isDirectory ⟨arg⟩)
  | "-f" => some (d.has ⟨arg⟩ && !d.isDirectory ⟨arg⟩)
  | "-s" => match d.tree.find d.cwd ⟨arg⟩ with
    | .ok (_, .file bytes) => some (bytes.size != 0)
    | .ok (_, .directory) => some true
    | .error _ => some false
  | _ => none

/-- Compares two texts or numbers. -/
def binaryTest (a op b : String) : Option Bool :=
  let x := leadingInt a
  let y := leadingInt b
  match op with
  | "=" => some (a == b)
  | "!=" => some (a != b)
  | "-eq" => some (x == y)
  | "-ne" => some (x != y)
  | "-lt" => some (x < y)
  | "-le" => some (x ≤ y)
  | "-gt" => some (y < x)
  | "-ge" => some (y ≤ x)
  | _ => none

/-- The answer to a single question, or nothing if it is malformed. -/
def answer (d : Disk) : List String → Option Bool
  | [] => some false
  | [a] => some !a.isEmpty
  | "!" :: rest => (answer d rest).map not
  | [op, a] => unaryTest d op a
  | [a, op, b] => binaryTest a op b
  | _ => none

/-- The parts of a list between occurrences of a word. -/
def partsAt (word : String) : List String → List (List String)
  | [] => [[]]
  | a :: rest =>
    match partsAt word rest with
    | part :: parts => if a == word then [] :: part :: parts else (a :: part) :: parts
    | [] => [[a]]

/-- The answer to questions that are joined by `-a` and `-o`. -/
def answerAll (d : Disk) (args : List String) : Option Bool :=
  if args.length ≤ 3 then answer d args
  else do
    let terms ← (partsAt "-o" args).mapM fun term => do
      let factors ← (partsAt "-a" term).mapM (answer d)
      return factors.all id
    return terms.any id

/-- Operators that compare numbers. -/
def numericTests : List String := ["-eq", "-ne", "-lt", "-le", "-gt", "-ge"]

/-- Whether a text is an integer with blanks around it. -/
def isNumber (s : String) : Bool := (integer? (Text.trim s)).isSome

/-- The first operand of a comparison of numbers that is none. -/
def badNumber? : List String → Option String
  | a :: op :: b :: rest =>
    if numericTests.contains op && !isNumber a then some a
    else if numericTests.contains op && !isNumber b then some b
    else badNumber? (op :: b :: rest)
  | _ => none

/-- The status of a test under a name. -/
def test (name : String) (args : List String) : Step Nat := do
  match badNumber? args with
  | some a =>
    complainAsShell s!"{name}: Illegal number: {a}"
    return 2
  | none => match answerAll (← get).disk args with
    | some true => return 0
    | some false => return 1
    | none => return 2

/-! ## Time and signals -/

/-- The milliseconds that a number of seconds with decimals stands for. -/
def milliseconds (s : String) : Nat :=
  let whole := s.toList.takeWhile Char.isDigit
  let decimals := ((s.toList.drop whole.length).drop 1).takeWhile Char.isDigit
  let value := fun (ds : List Char) => ds.foldl (fun n d => 10 * n + (d.toNat - 0x30)) 0
  1000 * value whole + value ((decimals ++ ['0', '0', '0']).take 3)

/-- Lets time pass. A process that exceeds its limit is stopped. -/
def sleep (args : List String) : Step Nat := do
  let p ← get
  let elapsed := p.elapsed + args.foldl (fun n a => n + milliseconds a) 0
  set { p with elapsed }
  if p.limit < elapsed then throw .late
  return 0

/-- The number that the process has for itself. -/
def processId : String := "4242"

/-- The number of a signal by number or name. -/
def signalNumber (s : String) : Nat :=
  match s.toNat? with
  | some n => n
  | none => ((signalNames.find? fun n => n.2 == s || n.2 == "SIG" ++ s).map (·.1)).getD 15

/-- Sends a signal, to the process itself or to nobody. -/
def kill (args : List String) : Step Nat := do
  let (signal, targets) := match args with
    | "-s" :: name :: rest => (signalNumber name, rest)
    | a :: rest =>
      if a.toList.head? == some '-' then (signalNumber (String.ofList a.toList.tail), rest)
      else (15, a :: rest)
    | [] => (15, [])
  if targets.contains processId then
    if signal == 0 then return 0 else throw (.signaled signal)
  complainAsShell "kill: No such process\n"
  return 1

/-! ## Printing -/

/-- Prints its arguments. The one of the shell itself replaces escapes. -/
def echo (escapes : Bool) (args : List String) : Step Nat := do
  let (ending, args) := match args with
    | "-n" :: rest => ([], rest)
    | rest => ([(10 : UInt8)], rest)
  let text := " ".intercalate args
  print ((if escapes then unescape true (text.length + 1) text.toList else bytesOf text) ++ ending)
  return 0

/-- Prints its arguments in a format. -/
def printFormatted : List String → Step Nat
  | [] => do
    complainAsShell "printf: usage: printf format [arg ...]"
    return 2
  | form :: args => do
    print (printf form args)
    return 0

end AgentGovernance.Shell
