-- SUMMARY: Running shell scripts and programs on a file tree.
import AgentGovernance.Shell.Arithmetic
import AgentGovernance.Shell.Lines
import AgentGovernance.Shell.Script

/-!
# Running scripts

A script runs in a process: words are expanded, redirections are set up, and commands run one after
the other. Loops and recursion are bounded by fuel. `Shell.runner` is the runner for external
commands that finds its programs here.
-/

namespace AgentGovernance.Shell

/-! ## Parameters -/

/-- The value of a parameter; nothing if it is unset. -/
def Process.parameter? (p : Process) (name : String) : Option String :=
  match name with
  | "#" => some (toString (p.arguments.length - 1))
  | "?" => some (toString p.status)
  | "$" => some processId
  | "@" => some (" ".intercalate p.arguments.tail)
  | "*" => some (" ".intercalate p.arguments.tail)
  | "!" => none
  | "-" => some ""
  | _ =>
    match name.toList with
    | [d] => if d.isDigit then p.arguments[d.toNat - 0x30]? else p.environment.lookup name
    | _ => p.environment.lookup name

/-- Sets a variable. -/
def Process.assign (p : Process) (name value : String) : Process :=
  { p with environment := (name, value) :: p.environment.filter fun v => v.1 != name }

/-- Forgets a variable. -/
def Process.forget (p : Process) (name : String) : Process :=
  { p with environment := p.environment.filter fun v => v.1 != name }

/-! ## Fields -/

/-- Characters, each with a flag that tells whether it can be a wildcard. -/
abbrev Field := List (Char × Bool)

def Field.text (f : Field) : String := String.ofList (f.map (·.1))

/-- Fields under construction: those that are complete, and the one being built. -/
structure Fields where
  done : List Field := []
  current : Option Field := none

/-- Adds text that is not split. -/
def Fields.add (f : Fields) (isLive : Bool) (s : String) : Fields :=
  { f with current := some (f.current.getD [] ++ s.toList.map fun c => (c, isLive)) }

/-- Ends the field being built. -/
def Fields.cut (f : Fields) : Fields :=
  match f.current with
  | some s => { done := f.done ++ [s] }
  | none => f

/-- Adds text that is split at blanks. -/
def Fields.addSplit (f : Fields) (s : String) : Fields :=
  s.toList.foldl (fun f c =>
    if c == ' ' || c == '\t' || c == '\n' then f.cut else f.add true (String.ofList [c])) f

/-- Adds the value of an expansion. -/
def Fields.addValue (f : Fields) (quoted : Bool) (s : String) : Fields :=
  if quoted then f.add false s else f.addSplit s

/-- The fields between slashes. -/
def Field.segments : Field → List Field
  | [] => [[]]
  | c :: rest =>
    match Field.segments rest with
    | part :: parts => if c.1 == '/' then [] :: part :: parts else (c :: part) :: parts
    | [] => [[c]]

/-- The paths that go on from given ones by a name that may have wildcards. These do not match a dot
in front. -/
def pathsFrom (d : Disk) (starts : List String) (name : Field) : List String :=
  starts.flatMap fun start =>
    if Pattern.hasWildcards name then
      let pattern := Pattern.ofWildcards (name.length + 1) name
      let asksForDot := name.head?.map (·.1) == some '.'
      let fits := fun (n : String) =>
        (asksForDot || n.toList.head? != some '.') && pattern.matchesAll n.toList
      match d.list ⟨if start.isEmpty then "." else start⟩ with
      | .ok names => (names.filter fits).map (start ++ ·)
      | .error _ => []
    else
      let path := start ++ name.text
      if path.isEmpty || d.has ⟨path⟩ then [path] else []

/-- The texts of a field: the paths that it matches if it has wildcards, or else itself. -/
def Field.texts (d : Disk) (f : Field) : List String :=
  if Pattern.hasWildcards f then
    let found := match f.segments with
      | first :: rest => rest.foldl (fun starts name => pathsFrom d (starts.map (· ++ "/")) name)
          (pathsFrom d [""] first)
      | [] => []
    if found.isEmpty then [f.text] else found
  else [f.text]

/-- A part that is neither split nor has wildcards. -/
def Part.inQuotes : Part → Part
  | .text s _ => .text s true
  | .parameter name a _ => .parameter name a true
  | .output script _ => .output script true
  | .number e => .number e

/-- Whether a part is the output of a script. -/
def Part.isOutput : Part → Bool
  | .output .. => true
  | _ => false

/-- A text in braces or in an expression as a word. Quotation marks around it go. -/
def wordOfText (text : String) : Word :=
  let cs := text.toList.filter (· != '"')
  match doubleQuoted (cs.length + 2) [] [] (cs ++ ['"']) with
  | some (parts, _) => parts.reverse
  | none => [.text text true]

/-- Cuts off what a pattern matches at the start or the end of a text. -/
def cutMatch (atEnd longest : Bool) (pattern value : String) : String :=
  let p := Pattern.ofWildcards (pattern.length + 1) (pattern.toList.map fun c => (c, true))
  let cs := value.toList
  let lengths := if atEnd then
      (List.range (cs.length + 1)).filter fun n => p.matchesAll (cs.drop (cs.length - n))
    else p.matchLengths cs
  match if longest then lengths.max? else lengths.min? with
  | some n => String.ofList (if atEnd then cs.take (cs.length - n) else cs.drop n)
  | none => value

/-- A text without line feeds at its end. -/
def dropNewlines (s : String) : String :=
  String.ofList (Text.dropEndWhile (· == '\n') s.toList)

/-! ## Running -/

/-- Runs a step in a shell below this one, which ends alone. A signal to the process ends both. -/
def isolate (step : Step Nat) : Step Nat := do
  let failsFast := (← get).failsFast
  let status ← try step catch
    | .exited status => pure status
    | halt => throw halt
  modify fun p => { p with failsFast }
  return status

/-- What the shell says when a signal ends a process. -/
def signalWording : List (Nat × String) :=
  [(1, "Hangup"), (3, "Quit"), (4, "Illegal instruction"), (6, "Aborted"),
   (8, "Floating point exception"), (9, "Killed"), (11, "Segmentation fault"), (14, "Alarm clock"), (15, "Terminated")]

/-- Runs a step as a process of its own. -/
def asProcess (step : Step Nat) : Step Nat := do
  let before ← get
  let status ← try isolate step catch
    | .signaled n => do
      modify fun p => { p with errTo := before.errTo }
      (signalWording.lookup n).forM complain
      pure (128 + n)
    | halt => throw halt
  modify fun p => { p with arguments := before.arguments, environment := before.environment }
  return status

/-- Runs a step whose failure does not end the script. -/
def tolerate (step : Step Nat) : Step Nat := do
  let failsFast := (← get).failsFast
  modify fun p => { p with failsFast := false }
  let status ← step
  modify fun p => { p with failsFast }
  return status

/-- Where a descriptor goes. -/
def Process.sink (p : Process) (descriptor : Nat) : Sink :=
  if descriptor == 2 then p.errTo else p.outTo

/-- Makes a descriptor go elsewhere. -/
def Process.setSink (p : Process) (descriptor : Nat) (s : Sink) : Process :=
  if descriptor == 2 then { p with errTo := s } else { p with outTo := s }

/-- Sets up one redirection. The result tells whether that succeeded. -/
def redirectTo (r : Redirect) (target : String) : Step Bool := do
  let p ← get
  let refuse := fun (what missing : String) (e : FileError) => do
    let cause := if e == .notFound then missing else reason e
    complainAsShell s!"cannot {what} {target}: {cause}"
    return false
  match r.mode with
  | .duplicate =>
    set (p.setSink r.descriptor (p.sink (target.toNat?.getD 1)))
    return true
  | .text =>
    set { p with input := bytesOf target }
    return true
  | .input =>
    if target == "/dev/null" then
      set { p with input := [] }
      return true
    match p.disk.tree.readBytes p.disk.cwd ⟨target⟩ with
    | .ok bytes =>
      set { p with input := bytes.data.toList }
      return true
    | .error e => refuse "open" "No such file" e
  | mode =>
    if target == "/dev/null" then
      set (p.setSink r.descriptor .nowhere)
      return true
    match p.disk.tree.locateFile p.disk.cwd ⟨target⟩ with
    | .error e => refuse "create" "Directory nonexistent" e
    | .ok place =>
      let keep := mode == .append && (p.disk.tree.node? place).isSome
      let tree := if keep then p.disk.tree else p.disk.tree.put place (.file .empty)
      set ({ p with disk := { p.disk with tree } }.setSink r.descriptor (.file place))
      return true

mutual

/-- The fields that a word expands to. -/
def expandWord : Nat → Word → Fields → Step Fields
  | 0, _, f => return f
  | _, [], f => return f
  | fuel + 1, part :: rest, f => do
    let f ← match part with
      | .text s quoted => pure (f.add (!quoted) s)
      | .parameter "@" .asIs true => do
        let args := (← get).arguments.tail
        pure (args.foldl (fun (f : Fields × Bool) a =>
          ((if f.2 then f.1.cut else f.1).add false a, true)) (f, false)).1
      | .parameter name adjustment quoted => do
        let value ← expandParameter fuel name adjustment
        pure (f.addValue quoted value)
      | .output script quoted => do
        let text ← captureOutput fuel script
        pure (f.addValue quoted text)
      | .number expression => do
        let text ← expandText fuel (wordOfText expression)
        let p ← get
        match Arithmetic.evaluate? (fun name => leadingInt ((p.parameter? name).getD "")) text with
        | some n => pure (f.add false (toString n))
        | none => do
          complainAsShell ("arithmetic expression: expecting primary: \"" ++ text ++ "\"")
          throw (.exited 2)
    expandWord fuel rest f

/-- The value of a parameter after its adjustment. -/
def expandParameter : Nat → String → Adjustment → Step String
  | 0, _, _ => return ""
  | fuel + 1, name, adjustment => do
    let value? := (← get).parameter? name
    let value := value?.getD ""
    let isSet := fun (whenEmpty : Bool) => value?.isSome && !(whenEmpty && value.isEmpty)
    match adjustment with
    | .asIs => return value
    | .length => return toString value.length
    | .fallback whenEmpty text =>
      if isSet whenEmpty then return value else expandText fuel (wordOfText text)
    | .assign whenEmpty text =>
      if isSet whenEmpty then return value
      else
        let new ← expandText fuel (wordOfText text)
        modify fun p => p.assign name new
        return new
    | .alternative whenEmpty text =>
      if isSet whenEmpty then expandText fuel (wordOfText text) else return ""
    | .cut atEnd longest pattern =>
      return cutMatch atEnd longest (← expandText fuel (wordOfText pattern)) value

/-- The output of a script, without line feeds at its end. -/
def captureOutput : Nat → String → Step String
  | 0, _ => return ""
  | fuel + 1, script => do
    let before ← get
    set { before with stdout := [], outTo := .out }
    let status ← isolate (match Script.parse? script with
      | some s => run fuel s
      | none => return 2)
    let after ← get
    set { before with disk := { after.disk with cwd := before.disk.cwd }, stderr := after.stderr
                      elapsed := after.elapsed, status }
    return dropNewlines (Text.decodeLossy ⟨after.stdout.toArray⟩)

/-- The fields of several words. -/
def expandWords : Nat → List Word → Step (List String)
  | 0, _ => return []
  | _, [] => return []
  | fuel + 1, w :: ws => do
    let f ← expandWord fuel w {}
    let disk := (← get).disk
    return f.cut.done.flatMap (Field.texts disk) ++ (← expandWords fuel ws)

/-- The text that a word expands to as a whole. -/
def expandText : Nat → Word → Step String
  | 0, _ => return ""
  | fuel + 1, w => do
    let f ← expandWord fuel (w.map Part.inQuotes) {}
    return " ".intercalate (f.cut.done.map Field.text)

/-- Sets up redirections from left to right. -/
def redirectAll : Nat → List Redirect → Step Bool
  | 0, _ => return true
  | _, [] => return true
  | fuel + 1, r :: rs => do
    let target ← expandText fuel r.target
    if ← redirectTo r target then redirectAll fuel rs else return false

/-- Sets variables from left to right. -/
def assignAll : Nat → List (String × Word) → Step Unit
  | 0, _ => return ()
  | _, [] => return ()
  | fuel + 1, (name, w) :: rest => do
    let value ← expandText fuel w
    modify fun p => p.assign name value
    assignAll fuel rest

/-- Calls a command by name. -/
def call : Nat → String → List String → Step Nat
  | 0, _, _ => return 2
  | fuel + 1, name, args => do
    match name with
    | ":" => return 0
    | "wait" => return 0
    | "exit" =>
      match args with
      | [] => throw (.exited (← get).status)
      | a :: _ =>
        if a.toList.all Char.isDigit && !a.isEmpty then
          throw (.exited (digitsValue a.toList % 256))
        else
          complainAsShell s!"exit: Illegal number: {a}"
          throw (.exited 2)
    | "cd" => do
      let p ← get
      match p.disk.tree.find p.disk.cwd ⟨args.headD "/"⟩ with
      | .ok (place, .directory) =>
        set ({ p with disk := { p.disk with cwd := place } }.assign "PWD" (Path.ofNames place).text)
        return 0
      | _ =>
        complainAsShell ("cd: can't cd to " ++ args.headD "")
        return 2
    | "shift" => do
      modify fun p => { p with arguments := p.arguments.take 1 ++ p.arguments.drop 2 }
      return 0
    | "export" => do
      args.forM fun a => modify fun p =>
        let name := String.ofList (a.toList.takeWhile (· != '='))
        if name.length < a.length then
          p.assign name (String.ofList (a.toList.drop (name.length + 1)))
        else p
      return 0
    | "unset" => do
      args.forM fun a => modify fun p => p.forget a
      return 0
    | "set" => do
      modify fun p => match args with
        | "-e" :: _ => { p with failsFast := true }
        | "+e" :: _ => { p with failsFast := false }
        | "--" :: rest => { p with arguments := p.arguments.take 1 ++ rest }
        | _ => p
      return 0
    | "exec" =>
      match args with
      | [] => return 0
      | program :: args => do
        let status ← call fuel program args
        throw (.exited status)
    | "eval" => runText fuel (" ".intercalate args)
    | "." => do
      match (← get).disk.readText ⟨args.headD ""⟩ with
      | .ok text => runText fuel text
      | .error _ => do
        complainAsShell (".: cannot open " ++ args.headD "" ++ ": No such file")
        throw (.exited 2)
    | "sh" => asProcess (shellBody fuel args)
    | "command" =>
      match args with
      | "-v" :: name :: _ =>
        if name == "sh" || (utility? true name).isSome then
          printLine ("/usr/bin/" ++ name)
          return 0
        else return 127
      | name :: args => call fuel name args
      | [] => return 0
    | _ =>
      match utility? true name with
      | some u => u args
      | none => do
        if name.toList.contains '/' && (← get).disk.has ⟨name⟩ then
          complainAsShell s!"{name}: Permission denied"
          return 126
        complainAsShell s!"{name}: not found"
        return 127

/-- Runs the text of a script. -/
def runText : Nat → String → Step Nat
  | 0, _ => return 2
  | fuel + 1, text =>
    match Script.parse? text with
    | some script => run fuel script
    | none => do
      complainAsShell "Syntax error"
      throw (.exited 2)

/-- Runs a script of its own: a text behind `-c`, a file, or the standard input. -/
def shellBody : Nat → List String → Step Nat
  | 0, _ => return 2
  | fuel + 1, args => do
    let p ← get
    let (source, arguments) := match args with
      | "-c" :: script :: rest => (Except.ok script, if rest.isEmpty then ["sh"] else rest)
      | file :: rest => (p.disk.readText ⟨file⟩, file :: rest)
      | [] => (.ok (Text.decodeLossy ⟨p.input.toArray⟩), ["sh"])
    match source with
    | .error _ => do
      complain ("sh: 0: cannot open " ++ args.headD "" ++ ": No such file")
      return 2
    | .ok text => do
      set { p with arguments, status := 0, failsFast := false }
      runText fuel text

/-- Runs a script and notes its status. -/
def run : Nat → Script → Step Nat
  | 0, _ => return 2
  | fuel + 1, script => do
    let status ← match script with
      | .nothing => pure (← get).status
      | .simple assignments words redirects => do
        let before ← get
        let fields ← expandWords fuel words
        let ready ← redirectAll fuel redirects
        let status ← if !ready then pure 2
          else do
            assignAll fuel assignments
            match fields with
            | [] => do
              let status := (← get).status
              pure (if assignments.any fun a => a.2.any Part.isOutput then status else 0)
            | name :: args => call fuel name args
        -- Redirections without a command stay.
        if fields != ["exec"] then
          modify fun p =>
            { p with outTo := before.outTo, errTo := before.errTo, input := before.input }
        pure status
      | .pipe first second => do
        let before ← get
        set { before with stdout := [], outTo := .out }
        let _ ← isolate (run fuel first)
        let after ← get
        set { after with input := after.stdout, stdout := before.stdout, outTo := before.outTo
                         environment := before.environment }
        let status ← isolate (run fuel second)
        modify fun p => { p with input := before.input, environment := before.environment }
        pure status
      | .both first second => do
        let status ← tolerate (run fuel first)
        if status == 0 then run fuel second else pure status
      | .either first second => do
        let status ← tolerate (run fuel first)
        if status == 0 then pure status else run fuel second
      | .sequence first .nothing => run fuel first
      | .sequence first second => do
        let _ ← run fuel first
        run fuel second
      | .negate body => do pure (if (← tolerate (run fuel body)) == 0 then 1 else 0)
      | .branch condition yes no => do
        let status ← tolerate (run fuel condition)
        modify fun p => { p with status := 0 }
        if status == 0 then run fuel yes else run fuel no
      | .loop expected condition body => do
        let status ← tolerate (run fuel condition)
        modify fun p => { p with status := 0 }
        if (status == 0) == expected then do
          let _ ← run fuel body
          run fuel (.loop expected condition body)
        else pure 0
      | .each name words body => do
        let fields ← expandWords fuel words
        eachValue fuel name fields body
      | .choice subject cases => do
        let value ← expandText fuel subject
        firstCase fuel value.toList cases
      | .group isolated body redirects => do
        let before ← get
        let ready ← redirectAll fuel redirects
        let status ← if !ready then pure 2
          else if isolated then isolate (run fuel body) else run fuel body
        modify fun p =>
          let p := { p with outTo := before.outTo, errTo := before.errTo, input := before.input }
          if isolated then
            { p with environment := before.environment
                     disk := { p.disk with cwd := before.disk.cwd } }
          else p
        pure status
    modify fun p => { p with status }
    if status != 0 && (← get).failsFast then
      match script with
      | .simple .. | .pipe .. | .group true _ _ => throw (.exited status)
      | _ => return status
    else return status

/-- Runs the script of the first case that matches a text. -/
def firstCase : Nat → List Char → List (List Word × Script) → Step Nat
  | 0, _, _ => return 2
  | _, _, [] => return 0
  | fuel + 1, value, (patterns, body) :: rest => do
    if ← anyMatch fuel value patterns then run fuel body else firstCase fuel value rest

/-- Whether one of some patterns matches a text. -/
def anyMatch : Nat → List Char → List Word → Step Bool
  | 0, _, _ => return false
  | _, _, [] => return false
  | fuel + 1, value, w :: ws => do
    let field := ((← expandWord fuel w {}).cut.done).flatten
    if (Pattern.ofWildcards (field.length + 1) field).matchesAll value then return true
    else anyMatch fuel value ws

/-- Runs a script for each value of a variable. -/
def eachValue : Nat → String → List String → Script → Step Nat
  | 0, _, _, _ => return 2
  | _, _, [], _ => return 0
  | fuel + 1, name, v :: vs, body => do
    modify fun p => p.assign name v
    let status ← run fuel body
    if vs.isEmpty then return status else eachValue fuel name vs body

end

/-! ## Programs -/

/-- How much a script may do: far more than any that ends within its limit of time. -/
def runFuel : Nat := 10000

/-- Directories in which programs are found. -/
def programDirectories : List String := ["/bin/", "/usr/bin/"]

/-- The name of a program that is called by name or by a path into a program directory. -/
def programName (program : String) : String :=
  match programDirectories.find? fun d => d.toList.isPrefixOf program.toList with
  | some d => String.ofList (program.toList.drop d.length)
  | none => program

/-- The step that a program takes, or why there is none. -/
def program (disk : Disk) (name : String) : Except FileError (List String → Step Nat) :=
  if programName name == "sh" then .ok (shellBody runFuel)
  else match utility? false (programName name) with
    | some u => .ok u
    | none =>
      if name.toList.contains '/' then
        match disk.tree.find disk.cwd ⟨name⟩ with
        | .ok _ => .error .permissionDenied
        | .error e => .error e
      else .error .notFound

/-- The status of a process that took a step. -/
def ending : EStateM.Result Halt Process Nat → Timed CommandEnd × Process
  | .ok status p => (.inTime (finished (.exited status) p), p)
  | .error (.exited status) p => (.inTime (finished (.exited status) p), p)
  | .error (.signaled n) p => (.inTime (finished (.signaled n) p), p)
  | .error .late p => (.late, p)
where
  /-- The end of a process with what it wrote. -/
  finished (status : ExitStatus) (p : Process) : CommandEnd :=
    .finished status ⟨p.stdout.toArray⟩ ⟨p.stderr.toArray⟩

/-- Runs programs on a disk with the given variables in the environment. -/
def runner (environment : List (String × String)) : CommandRunner Disk := fun c limit => do
  let disk ← Act.world
  match disk.tree.find disk.cwd c.directory with
  | .error e => return .inTime (.notStarted e)
  | .ok (_, .file _) => return .inTime (.notStarted .notADirectory)
  | .ok (place, .directory) =>
    let inside := { disk with cwd := place }
    match program inside c.program with
    | .error e => return .inTime (.notStarted e)
    | .ok step =>
      let start : Process :=
        { disk := inside, limit
          environment := ("PWD", (Path.ofNames place).text) :: c.environment ++ environment }
      let (ended, p) := ending (step c.args start)
      Act.setWorld { p.disk with cwd := disk.cwd }
      return ended

end AgentGovernance.Shell
