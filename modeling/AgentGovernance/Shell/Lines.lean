-- SUMMARY: Programs that work on lines of text, and the table of all programs.
import AgentGovernance.Shell.Pattern
import AgentGovernance.Shell.Utility
import AgentGovernance.Text.Lossy

/-!
# Lines

Programs that print some lines of their input, count them or change them. They read the files that
they are given, or else the standard input.
-/

namespace AgentGovernance.Shell

/-! ## Lines -/

/-- The lines of a text. A line feed at the end starts no line. -/
def linesOf (bytes : List UInt8) : List String :=
  let parts := (Text.decodeLossy ⟨bytes.toArray⟩).splitOn "\n"
  if parts.getLast? == some "" then parts.dropLast else parts

/-- Prints a line. -/
def printLine (line : String) : Step Unit := print (bytesOf (line ++ "\n"))

/-- Hands the bytes of each file to an action, or those of the standard input if there is no file.
-/
def withInputs (program : String) (names : List String) (missing : Nat)
    (act : Option String → List UInt8 → Step Nat) : Step Nat := do
  if names.isEmpty then act none (← get).input
  else forEach names fun name => do
    let p ← get
    if name == "-" then act none p.input
    else match p.disk.tree.readBytes p.disk.cwd ⟨name⟩ with
      | .ok bytes => act (some name) bytes.data.toList
      | .error e => do
        complain s!"{program}: {name}: {reason e}"
        return missing

/-- Prints lines that are chosen by a number: ten, or the one behind `-n` or a dash. -/
def someLines (program : String) (choose : Nat → List String → List String) (args : List String) :
    Step Nat := do
  let (count, names) := match args with
    | "-n" :: n :: rest => (n.toNat?.getD 10, rest)
    | a :: rest => match a.toList with
      | '-' :: 'n' :: ds => ((String.ofList ds).toNat?.getD 10, rest)
      | '-' :: ds => ((String.ofList ds).toNat?.getD 10, if ds.isEmpty then a :: rest else rest)
      | _ => (10, a :: rest)
    | [] => (10, [])
  withInputs program names 1 fun _ bytes => do
    (choose count (linesOf bytes)).forM printLine
    return 0

/-- Counts lines, words and bytes. -/
def wc (args : List String) : Step Nat := do
  let (flags, names) := options args
  withInputs "wc" names 1 fun name bytes => do
    let lines := bytes.count 10
    let words := (Text.words (Text.decodeLossy ⟨bytes.toArray⟩).toList).length
    let chosen := [('l', lines), ('w', words), ('c', bytes.length)].filter fun c =>
      flags.isEmpty || flags.contains c.1
    let numbers := chosen.map fun c => toString c.2
    printLine (" ".intercalate (numbers ++ name.toList))
    return 0

/-! ## Searching and replacing -/

/-- Prints the lines that an expression matches. -/
def grep (args : List String) : Step Nat := do
  let (flags, rest) := options args
  match rest with
  | [] => do
    complain "Usage: grep [OPTION]... PATTERNS [FILE]..."
    return 2
  | pattern :: names =>
    let has := fun (c : Char) => flags.contains c
    let fold := fun (s : String) => if has 'i' then s.toLower else s
    let e := if has 'F' then Expression.literal (fold pattern) else Expression.ofText (fold pattern)
    let before ← get
    let mut found := false
    let mut trouble := false
    for name in if names.isEmpty then ["-"] else names do
      let label := if 1 < names.length then name ++ ":" else ""
      let content := if name == "-" then .ok before.input
        else (before.disk.tree.readBytes before.disk.cwd ⟨name⟩).map fun b => b.data.toList
      match content with
      | .error cause =>
        trouble := true
        complain s!"grep: {name}: {reason cause}"
      | .ok bytes =>
        let hits := (linesOf bytes).zipIdx.filter fun (l, _) => e.isIn (fold l) != has 'v'
        found := found || !hits.isEmpty
        if has 'q' then pure ()
        else if has 'c' then printLine (label ++ toString hits.length)
        else if has 'l' then
          if !hits.isEmpty then printLine name
        else
          for (l, i) in hits do
            let number := if has 'n' then toString (i + 1) ++ ":" else ""
            printLine (label ++ number ++ l)
    return if trouble then 2 else if found then 0 else 1

/-- A command of the line editor. -/
inductive Edit where
  | substitute (e : Expression) (replacement : String) (all : Bool)
  | delete (e : Expression)
  | printMatching (e : Expression)
  | printNumber (n : Nat)

/-- Reads a command of the line editor: a replacement, or a line to delete or to print. -/
def Edit.parse? (text : String) : Option Edit :=
  match text.toList with
  | 's' :: d :: rest =>
    match (String.ofList rest).splitOn (String.singleton d) with
    | [old, new, flags] =>
      some (.substitute (Expression.ofText old) new (flags.toList.contains 'g'))
    | _ => none
  | '/' :: rest =>
    match (String.ofList rest).splitOn "/" with
    | [e, "d"] => some (.delete (Expression.ofText e))
    | [e, "p"] => some (.printMatching (Expression.ofText e))
    | _ => none
  | cs =>
    let ds := cs.takeWhile Char.isDigit
    if !ds.isEmpty && cs.drop ds.length == ['p'] then some (.printNumber (digitsValue ds)) else none

/-- Replaces the first match in a line, or all of them. -/
def substitute (e : Expression) (replacement : String) (all : Bool) : Nat → List Char → String
  | 0, cs => String.ofList cs
  | fuel + 1, cs =>
    match e.split? [] cs with
    | none => String.ofList cs
    | some (before, hit, after) =>
      let start := String.ofList before ++ replacement
      if all && !hit.isEmpty then start ++ substitute e replacement all fuel after
      else start ++ String.ofList after

/-- What becomes of a line with a number; `quiet` keeps lines from being printed unasked. -/
def Edit.apply (quiet : Bool) (line : String) (number : Nat) : Edit → List String
  | .substitute e new all =>
    if quiet then [] else [Shell.substitute e new all (line.length + 1) line.toList]
  | .delete e => if quiet || e.isIn line then [] else [line]
  | .printMatching e => (if quiet then [] else [line]) ++ if e.isIn line then [line] else []
  | .printNumber n => (if quiet then [] else [line]) ++ if n == number then [line] else []

/-- Edits lines, in place with the option `-i`. -/
def sed (args : List String) : Step Nat := do
  let (flags, rest) := options args
  match rest with
  | [] => do
    complain "Usage: sed [OPTION]... \x7bscript-only-if-no-other-script\x7d [input-file]..."
    return 1
  | script :: names =>
    match Edit.parse? script with
    | none => do
      complain "sed: -e expression #1, char 1: unknown command"
      return 1
    | some edit =>
      withInputs "sed" names 2 fun name bytes => do
        let lines := (linesOf bytes).zipIdx.flatMap fun (l, i) =>
          edit.apply (flags.contains 'n') l (i + 1)
        match name, flags.contains 'i' with
        | some name, true =>
          let text := String.join (lines.map (· ++ "\n"))
          modify fun p => match p.disk.writeFile ⟨name⟩ text.toUTF8 with
            | .ok disk => { p with disk }
            | .error _ => p
        | _, _ => lines.forM printLine
        return 0

/-! ## Names and variables -/

/-- Lists what stands at some paths: complaints come first, then files, then directories. -/
def ls (args : List String) : Step Nat := do
  let (flags, names) := options args
  let names := if names.isEmpty then ["."] else names
  let p ← get
  let found := names.map fun name => (name, p.disk.tree.find p.disk.cwd ⟨name⟩)
  let mut status := 0
  for (name, outcome) in found do
    if let .error e := outcome then
      complain s!"ls: cannot access '{name}': {reason e}"
      status := 2
  for (name, outcome) in found do
    if let .ok (_, .file _) := outcome then printLine name
  for (name, outcome) in found do
    if let .ok (place, .directory) := outcome then
      if 1 < names.length then printLine (name ++ ":")
      let shown := (p.disk.tree.namesAt place).filter fun n =>
        flags.contains 'a' || flags.contains 'A' || n.toList.head? != some '.'
      shown.forM printLine
  return status

/-- Prints its input and writes it to files. -/
def tee (args : List String) : Step Nat := do
  let (flags, names) := options args
  let input := (← get).input
  print input
  forEach names fun name => do
    let p ← get
    let bytes : ByteArray := ⟨input.toArray⟩
    let outcome := if flags.contains 'a' then p.disk.appendFile ⟨name⟩ bytes
      else p.disk.writeFile ⟨name⟩ bytes
    match outcome with
    | .ok disk =>
      set { p with disk }
      return 0
    | .error e =>
      complain s!"tee: {name}: {reason e}"
      return 1

/-- Prints the last name of a path, without an ending if it has it. -/
def basename : List String → Step Nat
  | path :: rest => do
    let name := ((Path.mk path).fileName?).getD path
    let ending := (rest.headD "").toList
    let kept := if ending.isSuffixOf name.toList && ending.length < name.length then
        String.ofList (name.toList.take (name.length - ending.length))
      else name
    printLine kept
    return 0
  | [] => return 1

/-- Prints a path without its last name. -/
def dirname : List String → Step Nat
  | path :: _ => do
    let above := ((Path.mk path).parent?.map (·.text)).getD "/"
    printLine (if above.isEmpty then "." else above)
    return 0
  | [] => return 1

/-- Prints variables: those that are named, or all with their names. -/
def printVariables (args : List String) : Step Nat := do
  let environment := (← get).environment
  if args.isEmpty then
    environment.forM fun (name, value) => printLine s!"{name}={value}"
    return 0
  else forEach args fun name => match environment.lookup name with
    | some value => do
      printLine value
      return 0
    | none => return 1

/-! ## All programs -/

/-- The utility of a name, if there is one. The flag tells whether the shell itself calls it. -/
def utility? (inShell : Bool) : String → Option (List String → Step Nat)
  | "true" => some fun _ => return 0
  | "false" => some fun _ => return 1
  | "echo" => some (echo inShell)
  | "printf" => some printFormatted
  | "cat" => some cat
  | "rm" => some rm
  | "touch" => some touch
  | "mkdir" => some mkdir
  | "cp" => some (copy "cp" false)
  | "mv" => some (copy "mv" true)
  | "sleep" => some sleep
  | "kill" => some kill
  | "ls" => some ls
  | "grep" => some grep
  | "sed" => some sed
  | "head" => some (someLines "head" fun n ls => ls.take n)
  | "tail" => some (someLines "tail" fun n ls => ls.drop (ls.length - n))
  | "wc" => some wc
  | "tee" => some tee
  | "basename" => some basename
  | "dirname" => some dirname
  | "printenv" => some printVariables
  | "env" => some printVariables
  | "test" => some (test "test")
  | "[" => some fun args => do
    if args.getLast? == some "]" then test "[" args.dropLast
    else
      complainAsShell "[: missing ]"
      return 2
  | "pwd" => some fun _ => do
    print (bytesOf ((Path.ofNames (← get).disk.cwd).text ++ "\n"))
    return 0
  | _ => none

end AgentGovernance.Shell
