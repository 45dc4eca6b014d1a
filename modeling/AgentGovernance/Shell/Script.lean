-- SUMMARY: Shell scripts: words, redirections and commands, and reading them from text.

/-!
# Shell scripts

External validators and fixers are often a line of shell. This is the part of the language that such
lines use: quoting, parameters, command substitution, redirection, pipes, conditions and loops.
-/

namespace AgentGovernance.Shell

/-- What is done to the value of a parameter. Texts for the case that the parameter is unset count
also for an empty value if `whenEmpty` holds. -/
inductive Adjustment where
  | asIs
  | length
  | fallback (whenEmpty : Bool) (text : String)
  | assign (whenEmpty : Bool) (text : String)
  /-- A text in place of the value, if there is one. -/
  | alternative (whenEmpty : Bool) (text : String)
  /-- Cuts off what a pattern matches at the start or the end. -/
  | cut (atEnd longest : Bool) (pattern : String)
  deriving DecidableEq, Repr, Inhabited

/-- A part of a word. What stands in quotes is not split at blanks, and has no wildcards. -/
inductive Part where
  | text (text : String) (quoted : Bool)
  | parameter (name : String) (adjustment : Adjustment) (quoted : Bool)
  /-- The output of a script. -/
  | output (script : String) (quoted : Bool)
  /-- The value of an arithmetic expression. -/
  | number (expression : String)
  deriving DecidableEq, Repr, Inhabited

abbrev Word := List Part

/-- What a redirection does to a descriptor. -/
inductive RedirectMode where
  | input
  /-- Takes a text as the input. -/
  | text
  | output
  | append
  /-- Makes it the same as another descriptor. -/
  | duplicate
  deriving DecidableEq, Repr

structure Redirect where
  descriptor : Nat
  mode : RedirectMode
  target : Word
  deriving DecidableEq, Repr

/-- A script. -/
inductive Script where
  | nothing
  | simple (assignments : List (String × Word)) (words : List Word) (redirects : List Redirect)
  | pipe (first second : Script)
  | both (first second : Script)
  | either (first second : Script)
  | sequence (first second : Script)
  | negate (script : Script)
  | branch (condition yes no : Script)
  /-- Repeats while the condition ends as `expected`. -/
  | loop (expected : Bool) (condition body : Script)
  | each (name : String) (words : List Word) (body : Script)
  /-- The first script one of whose patterns matches a word. -/
  | choice (subject : Word) (cases : List (List Word × Script))
  /-- A script in braces, or in parentheses if it is `isolated`. -/
  | group (isolated : Bool) (body : Script) (redirects : List Redirect)
  deriving Inhabited

/-! ## Words -/

/-- Characters that end a word. -/
def isMeta (c : Char) : Bool :=
  c == ' ' || c == '\t' || c == '\n' || c == ';' || c == '&' || c == '|' || c == '<' || c == '>' ||
    c == '(' || c == ')'

def isNameStart (c : Char) : Bool := c.isAlpha || c == '_'

def isNameChar (c : Char) : Bool := c.isAlphanum || c == '_'

/-- Parameters whose name is a single mark or digit. -/
def isSpecial (c : Char) : Bool := c.isDigit || "@*#?$!-".toList.contains c

def isQuote (c : Char) : Bool := c.toNat == 0x27

def isGrave (c : Char) : Bool := c.toNat == 0x60

/-- The text up to the mark that closes the one before it; `done` is reversed. -/
def untilClose (opening closing : Char) : (depth : Nat) → (quote : Option Char) →
    (done : List Char) → List Char → Option (List Char × List Char)
  | _, _, _, [] => none
  | depth, some q, done, c :: cs =>
    untilClose opening closing depth (if c == q then none else some q) (c :: done) cs
  | depth, none, done, c :: cs =>
    if c == closing then
      match depth with
      | 0 => some (done.reverse, cs)
      | d + 1 => untilClose opening closing d none (c :: done) cs
    else if c == opening then untilClose opening closing (depth + 1) none (c :: done) cs
    else if c == '"' || isQuote c then untilClose opening closing depth (some c) (c :: done) cs
    else untilClose opening closing depth none (c :: done) cs

/-- The adjustment behind the name of a parameter in braces. -/
def adjustment? : List Char → Option Adjustment
  | [] => some .asIs
  | ':' :: '-' :: t => some (.fallback true (String.ofList t))
  | ':' :: '=' :: t => some (.assign true (String.ofList t))
  | ':' :: '+' :: t => some (.alternative true (String.ofList t))
  | '-' :: t => some (.fallback false (String.ofList t))
  | '=' :: t => some (.assign false (String.ofList t))
  | '+' :: t => some (.alternative false (String.ofList t))
  | '%' :: '%' :: t => some (.cut true true (String.ofList t))
  | '%' :: t => some (.cut true false (String.ofList t))
  | '#' :: '#' :: t => some (.cut false true (String.ofList t))
  | '#' :: t => some (.cut false false (String.ofList t))
  | _ => none

/-- A parameter in braces. -/
def bracedParameter? (quoted : Bool) (body : List Char) : Option Part :=
  let nameOf := fun (cs : List Char) => match cs with
    | c :: _ => if isSpecial c then [c] else cs.takeWhile isNameChar
    | [] => []
  match body with
  | '#' :: c :: rest =>
    if (nameOf (c :: rest)).length == rest.length + 1 then
      some (.parameter (String.ofList (c :: rest)) .length quoted)
    else none
  | _ =>
    let name := nameOf body
    if name.isEmpty then none
    else (adjustment? (body.drop name.length)).map fun a => .parameter (String.ofList name) a quoted

/-- An expansion behind its dollar sign; nothing if the sign stands for itself. -/
def expansion? (quoted : Bool) : List Char → Option (Part × List Char)
  | [] => none
  | '\x7b' :: cs => do
    let (body, rest) ← untilClose '\x7b' '\x7d' 0 none [] cs
    return (← bracedParameter? quoted body, rest)
  | '(' :: cs => do
    let (body, rest) ← untilClose '(' ')' 0 none [] cs
    match body with
    | '(' :: inner =>
      if inner.getLast? == some ')' then return (.number (String.ofList inner.dropLast), rest)
      else return (.output (String.ofList body) quoted, rest)
    | _ => return (.output (String.ofList body) quoted, rest)
  | c :: cs =>
    if isSpecial c then some (.parameter (String.ofList [c]) .asIs quoted, cs)
    else if isNameStart c then
      let name := (c :: cs).takeWhile isNameChar
      some (.parameter (String.ofList name) .asIs quoted, (c :: cs).drop name.length)
    else none

/-- Adds literal text, given in reverse, to parts in reverse. -/
def addText (quoted : Bool) (text : List Char) (parts : List Part) : List Part :=
  if text.isEmpty then parts else .text (String.ofList text.reverse) quoted :: parts

/-- Reads up to the closing double quote. -/
def doubleQuoted : Nat → (text : List Char) → List Part → List Char →
    Option (List Part × List Char)
  | 0, _, _, _ => none
  | _, _, _, [] => none
  | fuel + 1, text, parts, c :: cs =>
    if c == '"' then some (.text (String.ofList text.reverse) true :: parts, cs)
    else if c == '\\' then
      match cs with
      | d :: ds =>
        if d == '\n' then doubleQuoted fuel text parts ds
        else if d == '$' || d == '"' || d == '\\' || isGrave d then
          doubleQuoted fuel (d :: text) parts ds
        else doubleQuoted fuel (c :: text) parts cs
      | [] => none
    else if c == '$' then
      match expansion? true cs with
      | some (part, rest) => doubleQuoted fuel [] (part :: addText true text parts) rest
      | none => doubleQuoted fuel (c :: text) parts cs
    else if isGrave c then
      let body := cs.takeWhile fun d => !isGrave d
      doubleQuoted fuel [] (.output (String.ofList body) true :: addText true text parts)
        (cs.drop (body.length + 1))
    else doubleQuoted fuel (c :: text) parts cs

/-- Reads a word. Parts are collected in reverse. -/
def wordFrom : Nat → (text : List Char) → List Part → List Char → Option (Word × List Char)
  | 0, _, _, _ => none
  | _, text, parts, [] => some ((addText false text parts).reverse, [])
  | fuel + 1, text, parts, c :: cs =>
    let flushed := addText false text parts
    if isMeta c then some (flushed.reverse, c :: cs)
    else if isQuote c then
      let body := cs.takeWhile fun d => !isQuote d
      match cs.drop body.length with
      | _ :: rest => wordFrom fuel [] (.text (String.ofList body) true :: flushed) rest
      | [] => none
    else if c == '"' then do
      let (parts, rest) ← doubleQuoted (cs.length + 1) [] flushed cs
      wordFrom fuel [] parts rest
    else if c == '\\' then
      match cs with
      | '\n' :: rest => wordFrom fuel text parts rest
      | d :: rest => wordFrom fuel [] (.text (String.ofList [d]) true :: flushed) rest
      | [] => wordFrom fuel (c :: text) parts cs
    else if c == '$' then
      match expansion? false cs with
      | some (part, rest) => wordFrom fuel [] (part :: flushed) rest
      | none => wordFrom fuel (c :: text) parts cs
    else if isGrave c then
      let body := cs.takeWhile fun d => !isGrave d
      wordFrom fuel [] (.output (String.ofList body) false :: flushed) (cs.drop (body.length + 1))
    else wordFrom fuel (c :: text) parts cs

/-- Reads a word. -/
def word (cs : List Char) : Option (Word × List Char) := wordFrom (cs.length + 1) [] [] cs

/-! ## Commands -/

/-- Drops blanks, continued lines and a comment. -/
def skipBlanks : List Char → List Char
  | ' ' :: cs => skipBlanks cs
  | '\t' :: cs => skipBlanks cs
  | '\\' :: '\n' :: cs => skipBlanks cs
  | '#' :: cs => cs.dropWhile (· != '\n')
  | cs => cs

/-- Drops everything that separates commands. -/
def skipSeparators : Nat → List Char → List Char
  | 0, cs => cs
  | fuel + 1, cs =>
    match skipBlanks cs with
    | ';' :: ';' :: rest => ';' :: ';' :: rest
    | ';' :: rest => skipSeparators fuel rest
    | '\n' :: rest => skipSeparators fuel rest
    | '&' :: '&' :: rest => '&' :: '&' :: rest
    | '&' :: rest => skipSeparators fuel rest
    | rest => rest

/-- The text up to the next character that ends a word. -/
def bareWord (cs : List Char) : String := String.ofList (cs.takeWhile fun c => !isMeta c)

/-- Words that end a list of commands. -/
def closers : List String := ["then", "elif", "else", "fi", "do", "done", "esac", "\x7d"]

/-- Passes over an expected word. -/
def expect (w : String) (cs : List Char) : Option (List Char) :=
  let cs := skipSeparators (cs.length + 1) cs
  if bareWord cs == w then some (cs.drop w.length) else none

/-- Reads a redirection, if one comes next. -/
def redirect? (cs : List Char) : Option (Option (Redirect × List Char)) :=
  let digits := cs.takeWhile Char.isDigit
  let number := digits.foldl (fun n d => 10 * n + (d.toNat - 0x30)) 0
  let read := fun (mode : RedirectMode) (usual : Nat) (rest : List Char) => do
    let (target, rest) ← word (skipBlanks rest)
    if target.isEmpty then none
    return some ({ descriptor := if digits.isEmpty then usual else number, mode, target }, rest)
  match cs.drop digits.length with
  | '>' :: '>' :: rest => read .append 1 rest
  | '>' :: '&' :: rest => read .duplicate 1 rest
  | '>' :: rest => read .output 1 rest
  | '<' :: '<' :: '<' :: rest => read .text 0 rest
  | '<' :: rest => read .input 0 rest
  | _ => some none

/-- The name and the rest of a word that assigns a variable. -/
def assignment? : Word → Option (String × Word)
  | .text s false :: parts =>
    let name := s.toList.takeWhile isNameChar
    match name, s.toList.drop name.length with
    | c :: _, '=' :: value =>
      if isNameStart c then
        some (String.ofList name, addText false value.reverse [] ++ parts)
      else none
    | _, _ => none
  | _ => none

/-- Reads the words and redirections of a simple command. -/
def simpleFrom : Nat → List (String × Word) → List Word → List Redirect → List Char →
    Option (Script × List Char)
  | 0, _, _, _, _ => none
  | fuel + 1, assignments, words, redirects, cs =>
    let cs := skipBlanks cs
    match redirect? cs with
    | none => none
    | some (some (r, rest)) => simpleFrom fuel assignments words (redirects ++ [r]) rest
    | some none =>
      match cs with
      | [] => some (.simple assignments words redirects, [])
      | c :: _ =>
        if isMeta c then some (.simple assignments words redirects, cs)
        else do
          let (w, rest) ← word cs
          match if words.isEmpty then assignment? w else none with
          | some a => simpleFrom fuel (assignments ++ [a]) words redirects rest
          | none => simpleFrom fuel assignments (words ++ [w]) redirects rest

/-- Reads the redirections behind a group. -/
def redirectsFrom : Nat → List Redirect → List Char → Option (List Redirect × List Char)
  | 0, _, _ => none
  | fuel + 1, done, cs => do
    match ← redirect? (skipBlanks cs) with
    | some (r, rest) => redirectsFrom fuel (done ++ [r]) rest
    | none => return (done, cs)

/-- Reads words up to the end of the line or a semicolon. -/
def wordsFrom : Nat → List Word → List Char → Option (List Word × List Char)
  | 0, _, _ => none
  | fuel + 1, done, cs =>
    match skipBlanks cs with
    | [] => some (done, [])
    | c :: rest =>
      if isMeta c then some (done, c :: rest)
      else do
        let (w, rest) ← word (c :: rest)
        wordsFrom fuel (done ++ [w]) rest

/-- Reads the patterns of a case up to the parenthesis behind them. -/
def patternsFrom : Nat → List Word → List Char → Option (List Word × List Char)
  | 0, _, _ => none
  | fuel + 1, done, cs => do
    let (w, rest) ← word (skipBlanks cs)
    match skipBlanks rest with
    | '|' :: rest => patternsFrom fuel (done ++ [w]) rest
    | ')' :: rest => return (done ++ [w], rest)
    | _ => none

mutual

/-- Reads commands up to a word or a parenthesis that closes them. -/
def list : Nat → List Char → Option (Script × List Char)
  | 0, _ => none
  | fuel + 1, cs =>
    let cs := skipSeparators (cs.length + 1) cs
    if cs.isEmpty || cs.head? == some ')' || [';', ';'].isPrefixOf cs ||
        closers.contains (bareWord cs) then some (.nothing, cs)
    else do
      let (first, rest) ← andOr fuel cs
      let (second, rest) ← list fuel rest
      return (.sequence first second, rest)

/-- Reads pipelines that depend on each other's success. -/
def andOr : Nat → List Char → Option (Script × List Char)
  | 0, _ => none
  | fuel + 1, cs => do
    let (first, rest) ← pipeline fuel cs
    andOrFrom fuel first rest

/-- Reads what depends on the success of a script. -/
def andOrFrom : Nat → Script → List Char → Option (Script × List Char)
  | 0, _, _ => none
  | fuel + 1, first, cs =>
    match skipBlanks cs with
    | '&' :: '&' :: rest => do
      let (second, rest) ← pipeline fuel (skipSeparators rest.length rest)
      andOrFrom fuel (.both first second) rest
    | '|' :: '|' :: rest => do
      let (second, rest) ← pipeline fuel (skipSeparators rest.length rest)
      andOrFrom fuel (.either first second) rest
    | rest => some (first, rest)

/-- Reads commands that are joined by pipes. -/
def pipeline : Nat → List Char → Option (Script × List Char)
  | 0, _ => none
  | fuel + 1, cs =>
    let cs := skipBlanks cs
    if bareWord cs == "!" then do
      let (script, rest) ← pipeline fuel (cs.drop 1)
      return (.negate script, rest)
    else do
      let (first, rest) ← command fuel cs
      match skipBlanks rest with
      | '|' :: '|' :: rest => return (first, '|' :: '|' :: rest)
      | '|' :: rest => do
        let (second, rest) ← pipeline fuel (skipSeparators rest.length rest)
        return (.pipe first second, rest)
      | rest => return (first, rest)

/-- Reads one command with the redirections behind it. -/
def command : Nat → List Char → Option (Script × List Char)
  | 0, _ => none
  | fuel + 1, cs => do
    match ← compound fuel cs with
    | some (isolated, body, rest) =>
      let (redirects, rest) ← redirectsFrom rest.length.succ [] rest
      return (.group isolated body redirects, rest)
    | none => simpleFrom (cs.length + 1) [] [] [] cs

/-- Reads a command that is made of commands, if one comes next, and tells whether it stands in
parentheses. -/
def compound : Nat → List Char → Option (Option (Bool × Script × List Char))
  | 0, _ => none
  | fuel + 1, cs => do
    match bareWord cs with
    | "if" =>
      let (script, rest) ← branchFrom fuel (cs.drop 2)
      return some (false, script, rest)
    | "while" =>
      let (script, rest) ← loopFrom fuel true (cs.drop 5)
      return some (false, script, rest)
    | "until" =>
      let (script, rest) ← loopFrom fuel false (cs.drop 5)
      return some (false, script, rest)
    | "for" =>
      let cs := skipBlanks (cs.drop 3)
      let name := cs.takeWhile isNameChar
      let rest ← expect "in" (cs.drop name.length)
      let (words, rest) ← wordsFrom (rest.length + 1) [] rest
      let (body, rest) ← list fuel (← expect "do" rest)
      return some (false, .each (String.ofList name) words body, ← expect "done" rest)
    | "case" =>
      let (subject, rest) ← word (skipBlanks (cs.drop 4))
      let (cases, rest) ← casesFrom fuel (← expect "in" rest)
      return some (false, .choice subject cases, rest)
    | "\x7b" =>
      let (body, rest) ← list fuel (cs.drop 1)
      return some (false, body, ← expect "\x7d" rest)
    | _ =>
      match cs with
      | '(' :: rest => do
        let (body, rest) ← list fuel rest
        match skipBlanks rest with
        | ')' :: rest => return some (true, body, rest)
        | _ => none
      | _ => return none

/-- Reads the cases of a choice up to its end. -/
def casesFrom : Nat → List Char → Option (List (List Word × Script) × List Char)
  | 0, _ => none
  | fuel + 1, cs => do
    let cs := skipSeparators (cs.length + 1) cs
    if bareWord cs == "esac" then return ([], cs.drop 4)
    let (patterns, rest) ← patternsFrom (cs.length + 1) [] (match cs with
      | '(' :: rest => rest
      | _ => cs)
    let (body, rest) ← list fuel rest
    let rest := match skipBlanks rest with
      | ';' :: ';' :: rest => rest
      | rest => rest
    let (more, rest) ← casesFrom fuel rest
    return ((patterns, body) :: more, rest)

/-- Reads a condition and its branches behind `if` or `elif`. -/
def branchFrom : Nat → List Char → Option (Script × List Char)
  | 0, _ => none
  | fuel + 1, cs => do
    let (condition, rest) ← list fuel cs
    let (yes, rest) ← list fuel (← expect "then" rest)
    let rest := skipSeparators (rest.length + 1) rest
    match bareWord rest with
    | "elif" => do
      let (no, rest) ← branchFrom fuel (rest.drop 4)
      return (.branch condition yes no, rest)
    | "else" => do
      let (no, rest) ← list fuel (rest.drop 4)
      return (.branch condition yes no, ← expect "fi" rest)
    | _ => return (.branch condition yes .nothing, ← expect "fi" rest)

/-- Reads a loop behind its first word. -/
def loopFrom : Nat → Bool → List Char → Option (Script × List Char)
  | 0, _, _ => none
  | fuel + 1, expected, cs => do
    let (condition, rest) ← list fuel cs
    let (body, rest) ← list fuel (← expect "do" rest)
    return (.loop expected condition body, ← expect "done" rest)

end

/-! ## Here documents -/

/-- A text in double quotes, where expansions take place. -/
def inDoubleQuotes (text : List Char) : List Char :=
  '"' :: text.flatMap (fun c => if c == '"' then ['\\', '"'] else [c]) ++ ['"']

/-- A text in single quotes. -/
def inSingleQuotes (text : List Char) : List Char :=
  let q := Char.ofNat 0x27
  q :: text.flatMap (fun c => if c == q then [q, '\\', q, q] else [c]) ++ [q]

/-- The lines before one that is given, and the text behind it. -/
def linesUntil (last : List Char) : Nat → List Char → List Char × List Char
  | 0, cs => ([], cs)
  | fuel + 1, cs =>
    let line := cs.takeWhile (· != '\n')
    let rest := cs.drop (line.length + 1)
    if line == last || cs.isEmpty then ([], rest)
    else
      let (more, rest) := linesUntil last fuel rest
      (line ++ '\n' :: more, rest)

/-- Replaces each document that follows a line by a text within the line. -/
def inlineDocuments : Nat → (quote : Option Char) → List Char → List Char
  | 0, _, cs => cs
  | _, _, [] => []
  | fuel + 1, some q, c :: cs => c :: inlineDocuments fuel (if c == q then none else some q) cs
  | fuel + 1, none, '\\' :: c :: cs => '\\' :: c :: inlineDocuments fuel none cs
  | fuel + 1, none, '<' :: '<' :: cs =>
    let mark := (skipBlanks cs).takeWhile fun c => !isMeta c
    let after := (skipBlanks cs).drop mark.length
    let name := mark.filter fun c => !(c == '"' || isQuote c || c == '\\')
    let line := after.takeWhile (· != '\n')
    let (body, rest) := linesUntil name (cs.length + 1) (after.drop (line.length + 1))
    let text := if name.length == mark.length then inDoubleQuotes body else inSingleQuotes body
    "<<<".toList ++ text ++ line ++ '\n' :: inlineDocuments fuel none rest
  | fuel + 1, none, c :: cs =>
    c :: inlineDocuments fuel (if c == '"' || isQuote c then some c else none) cs

/-- Reads a whole script. -/
def Script.parse? (text : String) : Option Script := do
  let cs := text.toList
  let cs := inlineDocuments (cs.length + 1) none cs
  let (script, rest) ← list (4 * cs.length + 8) cs
  if rest.isEmpty then return script else none

end AgentGovernance.Shell
