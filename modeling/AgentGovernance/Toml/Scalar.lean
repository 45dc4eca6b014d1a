-- SUMMARY: TOML strings, numbers, dates and times.
import AgentGovernance.Time.Calendar
import AgentGovernance.Toml.Basic

/-!
# Scalars

Every reader takes the characters that are still to be read and hands on the rest of them. A string
stands between single or double quotes; three of them open a string over several lines.
-/

namespace AgentGovernance.Toml

/-! ## Characters -/

/-- Blank and tab. -/
def isGap (c : Char) : Bool := c == ' ' || c == '\t'

/-- Characters that may stand in comments and, quotes and backslashes apart, in strings. -/
def isPlain (c : Char) : Bool :=
  c == '\t' || (0x20 ≤ c.toNat && c.toNat != 0x7F)

/-- The text behind the line break at its start. -/
def lineBreak? : List Char → Option (List Char)
  | '\n' :: rest => some rest
  | '\r' :: '\n' :: rest => some rest
  | _ => none

/-! ## Strings -/

/-- The character of a code point, if it is one. -/
def scalarChar? (n : Nat) : Option Char :=
  if n.isValidChar then some (Char.ofNat n) else none

/-- The character that an escape behind its backslash stands for, and the length of the escape. -/
def escape? : List Char → Option (Char × Nat)
  | 'b' :: _ => some (Char.ofNat 0x08, 1)
  | 't' :: _ => some ('\t', 1)
  | 'n' :: _ => some ('\n', 1)
  | 'f' :: _ => some (Char.ofNat 0x0C, 1)
  | 'r' :: _ => some ('\r', 1)
  | '"' :: _ => some ('"', 1)
  | '\\' :: _ => some ('\\', 1)
  | 'u' :: rest => do return (← scalarChar? (← hexNumber? 4 rest), 5)
  | 'U' :: rest => do return (← scalarChar? (← hexNumber? 8 rest), 9)
  | _ => none

/-- A string on one line behind its opening quote. Escapes count in double quotes only. -/
def lineString (quote : Char) (cs : List Char) : Option (List Char × List Char) :=
  match cs with
  | [] => none
  | c :: rest =>
    if c == quote then some ([], rest)
    else if c == '\\' && quote == '"' then do
      let (e, size) ← escape? rest
      let (text, rest) ← lineString quote (rest.drop size)
      return (e :: text, rest)
    else if isPlain c then do
      let (text, rest) ← lineString quote rest
      return (c :: text, rest)
    else none
termination_by cs.length
decreasing_by all_goals simp only [List.length_drop, List.length_cons]; omega

/-- The text behind a backslash at the end of a line: blanks and line breaks up to the next other
character. -/
def joinedLine? (cs : List Char) : Option (List Char) := do
  let rest ← lineBreak? (cs.dropWhile isGap)
  return skip rest.length rest
where
  /-- Passes over blanks and line breaks. -/
  skip : Nat → List Char → List Char
    | 0, cs => cs
    | n + 1, cs =>
      let cs := cs.dropWhile isGap
      match lineBreak? cs with
      | some rest => skip n rest
      | none => cs

/-- A string over several lines behind its opening quotes. A line break of any kind reads as a line
feed. One or two quotes stand for themselves, also right before the closing three. -/
def blockString (quote : Char) : Nat → List Char → Option (List Char × List Char)
  | 0, _ => none
  | _, [] => none
  | n + 1, c :: rest =>
    if c == quote then
      let run := (c :: rest).takeWhile (· == quote)
      if run.length < 3 then do
        let (text, rest) ← blockString quote n (rest.drop (run.length - 1))
        return (run ++ text, rest)
      else
        let extra := min (run.length - 3) 2
        some (List.replicate extra quote, rest.drop (extra + 2))
    else if c == '\\' && quote == '"' then
      match joinedLine? rest with
      | some rest => blockString quote n rest
      | none => do
        let (e, size) ← escape? rest
        let (text, rest) ← blockString quote n (rest.drop size)
        return (e :: text, rest)
    else match lineBreak? (c :: rest) with
      | some rest => do
        let (text, rest) ← blockString quote n rest
        return ('\n' :: text, rest)
      | none =>
        if isPlain c then do
          let (text, rest) ← blockString quote n rest
          return (c :: text, rest)
        else none

/-- A string of any kind, from its opening quote on. -/
def string? (cs : List Char) : Option (String × List Char) :=
  match cs with
  | [] => none
  | quote :: rest =>
    if quote != '"' && quote != '\'' then none
    else
      let found := match rest with
        | a :: b :: body =>
          if a == quote && b == quote then
            let body := (lineBreak? body).getD body
            blockString quote (body.length + 1) body
          else lineString quote rest
        | _ => lineString quote rest
      found.map fun (text, rest) => (String.ofList text, rest)

/-! ## Dates and times -/

/-- Exactly `n` decimal digits with a value in a range. -/
def fixedDigits (n low high : Nat) (cs : List Char) : Option (Nat × List Char) :=
  let ds := cs.take n
  if ds.length == n && ds.all Char.isDigit && low ≤ digitsValue ds && digitsValue ds ≤ high then
    some (digitsValue ds, cs.drop n)
  else none

/-- The rest behind a certain character. -/
def behind (c : Char) : List Char → Option (List Char)
  | d :: rest => if d == c then some rest else none
  | [] => none

/-- A day, in normal form. -/
def date? (cs : List Char) : Option (String × List Char) := do
  let (year, cs) ← fixedDigits 4 0 9999 cs
  let (month, cs) ← fixedDigits 2 1 12 (← behind '-' cs)
  let (day, cs) ← fixedDigits 2 1 (Date.daysInMonth year month) (← behind '-' cs)
  return (s!"{padded 4 year}-{padded 2 month}-{padded 2 day}", cs)

/-- The fraction of a second, of which nine digits count, without zeros at its end. -/
def fraction (cs : List Char) : String × List Char :=
  match cs with
  | '.' :: rest =>
    let (ds, after) := spanDigits rest
    if ds.isEmpty then ("", cs)
    else
      let kept := (((ds.take 9).reverse).dropWhile (· == '0')).reverse
      (if kept.isEmpty then "" else String.ofList ('.' :: kept), after)
  | _ => ("", cs)

/-- A time of day, in normal form. -/
def time? (cs : List Char) : Option (String × List Char) := do
  let (hour, cs) ← fixedDigits 2 0 23 cs
  let (minute, cs) ← fixedDigits 2 0 59 (← behind ':' cs)
  let (second, cs) ← fixedDigits 2 0 60 (← behind ':' cs)
  let (part, cs) := fraction cs
  return (s!"{padded 2 hour}:{padded 2 minute}:{padded 2 second}" ++ part, cs)

/-- A distance from universal time, in normal form, if one follows. -/
def offset (cs : List Char) : String × List Char :=
  let numeric : Option (String × List Char) := do
    let (sign, rest) ← match cs with
      | '+' :: rest => some ("+", rest)
      | '-' :: rest => some ("-", rest)
      | _ => none
    let (hour, rest) ← fixedDigits 2 0 23 rest
    let (minute, rest) ← fixedDigits 2 0 59 (← behind ':' rest)
    let sign := if hour == 0 && minute == 0 then "+" else sign
    return (s!"{sign}{padded 2 hour}:{padded 2 minute}", rest)
  match cs with
  | 'Z' :: rest => ("Z", rest)
  | 'z' :: rest => ("Z", rest)
  | _ => numeric.getD ("", cs)

/-- A day, a time of day, or both with or without an offset. -/
def moment? (cs : List Char) : Option (String × List Char) :=
  match date? cs with
  | none => time? cs
  | some (day, rest) =>
    let timed : Option (String × List Char) := do
      let (c, rest) ← rest.head?.map fun c => (c, rest.tail)
      if c == 'T' || c == 't' || c == ' ' then
        let (time, rest) ← time? rest
        let (off, rest) := offset rest
        return (s!"{day}T{time}{off}", rest)
      else none
    some (timed.getD (day, rest))

/-! ## Numbers -/

/-- Digits of a class, single underscores between them left out. -/
def groupedDigits (ok : Char → Bool) : List Char → List Char × List Char
  | c :: '_' :: d :: rest =>
    if ok c && ok d then
      let (ds, after) := groupedDigits ok (d :: rest)
      (c :: ds, after)
    else if ok c then ([c], '_' :: d :: rest)
    else ([], c :: '_' :: d :: rest)
  | c :: rest =>
    if ok c then
      let (ds, after) := groupedDigits ok rest
      (c :: ds, after)
    else ([], c :: rest)
  | [] => ([], [])

/-- The integer part of a number: digits that do not start with a zero, or a single digit. -/
def wholeDigits (cs : List Char) : Option (List Char × List Char) :=
  match cs with
  | '0' :: rest => some (['0'], rest)
  | _ => match groupedDigits Char.isDigit cs with
    | ([], _) => none
    | found => some found

/-- The exponent of a float, if one follows. -/
def floatExponent (cs : List Char) : Option (List Char × List Char) :=
  match cs with
  | c :: rest =>
    if c == 'e' || c == 'E' then
      let (minus, body) := leadingSign rest
      match groupedDigits Char.isDigit body with
      | ([], _) => none
      | (ds, after) => some ('e' :: (if minus then ['-'] else []) ++ ds, after)
    else none
  | [] => none

/-- A float without its sign: a fraction, an exponent or both behind the integer part. -/
def float? (minus : Bool) (cs : List Char) : Option (Toml × List Char) := do
  let sign := if minus then ['-'] else []
  let (whole, rest) ← wholeDigits cs
  let (tail, rest) ← match rest with
    | '.' :: after => match groupedDigits Char.isDigit after with
      | ([], _) => none
      | (ds, after) =>
        let (e, after) := (floatExponent after).getD ([], after)
        some ('.' :: ds ++ e, after)
    | _ => floatExponent rest
  match Double.read? (String.ofList (sign ++ whole ++ tail)) with
  | some (.infinite false) => none
  | some d => some (.float d, rest)
  | none => none

/-- One of the words for numbers that have no digits. -/
def wordNumber? (minus : Bool) : List Char → Option (Toml × List Char)
  | 'i' :: 'n' :: 'f' :: rest => some (.float (.infinite minus), rest)
  | 'n' :: 'a' :: 'n' :: rest => some (.float .nan, rest)
  | _ => none

/-- Integers have 64 bits. -/
def boundedInteger? (n : Int) : Option Toml :=
  if -(Nat.pow 2 63 : Int) ≤ n && n < (Nat.pow 2 63 : Int) then some (.integer n) else none

/-- An integer in a base other than ten, behind its mark. -/
def basedInteger? (base : Nat) (cs : List Char) : Option (Toml × List Char) :=
  let ok : Char → Bool := fun c => match hexValue? c with
    | some v => v < base
    | none => false
  match groupedDigits ok cs with
  | ([], _) => none
  | (ds, rest) =>
    let n := ds.foldl (fun n d => base * n + (hexValue? d).getD 0) 0
    (boundedInteger? n).map fun t => (t, rest)

/-- A number of any kind. -/
def number? (cs : List Char) : Option (Toml × List Char) :=
  match cs with
  | '0' :: 'x' :: rest => basedInteger? 16 rest
  | '0' :: 'o' :: rest => basedInteger? 8 rest
  | '0' :: 'b' :: rest => basedInteger? 2 rest
  | _ =>
    let (minus, body) := leadingSign cs
    float? minus body <|> wordNumber? minus body <|> do
      let (ds, rest) ← wholeDigits body
      let n : Int := digitsValue ds
      let t ← boundedInteger? (if minus then -n else n)
      return (t, rest)

/-- A date, a time, a number or a truth value. -/
def bareScalar? (cs : List Char) : Option (Toml × List Char) :=
  match cs with
  | 't' :: 'r' :: 'u' :: 'e' :: rest => some (.bool true, rest)
  | 'f' :: 'a' :: 'l' :: 's' :: 'e' :: rest => some (.bool false, rest)
  | _ => (moment? cs).map (fun (m, rest) => (.moment m, rest)) <|> number? cs

end AgentGovernance.Toml
