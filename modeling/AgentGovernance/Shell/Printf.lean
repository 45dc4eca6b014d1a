-- SUMMARY: Formatted output of shell commands: escapes and conversions, byte by byte.
import AgentGovernance.Number.Digits

/-!
# Formatted output

Formats and escapes yield bytes and not characters, since an octal escape may stand for a byte that
is no character of its own.
-/

namespace AgentGovernance.Shell

/-- The bytes of a text. -/
def bytesOf (s : String) : List UInt8 := s.toUTF8.data.toList

/-- The bytes of one character. -/
def charBytes (c : Char) : List UInt8 := bytesOf (String.ofList [c])

/-- Letters behind a backslash that stand for one byte. -/
def escapeBytes : List (Char × UInt8) :=
  [('a', 7), ('b', 8), ('f', 12), ('n', 10), ('r', 13), ('t', 9), ('v', 11), ('e', 27),
   ('\\', 92)]

def isOctal (c : Char) : Bool := '0' ≤ c && c ≤ '7'

/-- The bytes of an escape behind its backslash, and what follows. An octal number has up to three
digits, behind a zero one more if `leadingZero` holds. -/
def escape (leadingZero : Bool) (cs : List Char) : List UInt8 × List Char :=
  match cs with
  | [] => ([92], [])
  | c :: rest =>
    match escapeBytes.lookup c with
    | some b => ([b], rest)
    | none =>
      let width := if leadingZero && c == '0' then 4 else 3
      let digits := (cs.take width).takeWhile isOctal
      if digits.isEmpty then (92 :: charBytes c, rest)
      else
        let n := digits.foldl (fun n d => 8 * n + (d.toNat - 0x30)) 0
        ([n.toUInt8], cs.drop digits.length)

/-- The bytes of a text with its escapes replaced. -/
def unescape (leadingZero : Bool) : Nat → List Char → List UInt8
  | 0, _ => []
  | _, [] => []
  | fuel + 1, '\\' :: cs =>
    let (bytes, rest) := escape leadingZero cs
    bytes ++ unescape leadingZero fuel rest
  | fuel + 1, c :: cs => charBytes c ++ unescape leadingZero fuel cs

/-- The number that a text starts with. -/
def leadingInt (s : String) : Int :=
  match s.toList with
  | '-' :: cs => -(number cs : Int)
  | '+' :: cs => number cs
  | cs => number cs
where
  /-- The value of the leading digits, which are hexadecimal behind `0x` and octal behind `0`. -/
  number (cs : List Char) : Nat :=
    match cs with
    | '0' :: 'x' :: rest =>
      let digits := (rest.map hexValue?).takeWhile Option.isSome
      digits.foldl (fun n d => 16 * n + d.getD 0) 0
    | '0' :: rest => (rest.takeWhile isOctal).foldl (fun n d => 8 * n + (d.toNat - 0x30)) 0
    | _ => digitsValue (cs.takeWhile Char.isDigit)

/-- How a conversion is laid out. -/
structure Layout where
  left : Bool := false
  zeros : Bool := false
  plus : Bool := false
  width : Nat := 0
  precision : Option Nat := none

/-- Reads flags, width and precision behind a percent sign. -/
def layout (cs : List Char) : Layout × List Char :=
  let isFlag := fun (c : Char) => "-0+ #".toList.contains c
  let flags := cs.takeWhile isFlag
  let (width, rest) := spanDigits (cs.drop flags.length)
  let (precision, rest) := match rest with
    | '.' :: more =>
      let (ds, rest) := spanDigits more
      (some (digitsValue ds), rest)
    | _ => (none, rest)
  ({ left := flags.contains '-', zeros := flags.contains '0', plus := flags.contains '+'
     width := digitsValue width, precision }, rest)

/-- Fills bytes up to the width of a layout. -/
def Layout.fill (l : Layout) (bytes : List UInt8) : List UInt8 :=
  let blanks := List.replicate (l.width - bytes.length) 32
  if l.left then bytes ++ blanks else blanks ++ bytes

/-- The digits of a number with its sign. Zeros fill the width if the layout says so. -/
def Layout.number (l : Layout) (negative : Bool) (digits : String) : List UInt8 :=
  let sign := if negative then "-" else if l.plus then "+" else ""
  let wanted := match l.precision with
    | some n => n
    | none => if l.zeros && !l.left then l.width - sign.length else 0
  let zeros := String.ofList (List.replicate (wanted - digits.length) '0')
  l.fill (bytesOf (sign ++ zeros ++ digits))

/-- The bytes of one conversion applied to an argument. -/
def convert (l : Layout) (kind : Char) (arg : String) : List UInt8 :=
  let value := leadingInt arg
  let word := (value % (Nat.pow 2 64 : Int)).toNat
  let cut := fun (bytes : List UInt8) => match l.precision with
    | some n => bytes.take n
    | none => bytes
  if kind == 's' then l.fill (cut (bytesOf arg))
  else if kind == 'b' then l.fill (cut (unescape true (arg.length + 1) arg.toList))
  else if kind == 'c' then l.fill ((arg.toList.head?.map charBytes).getD [])
  else if kind == 'd' || kind == 'i' then l.number (value < 0) (toString value.natAbs)
  else if kind == 'u' then l.number false (toString word)
  else if kind == 'x' then l.number false (String.ofList (Nat.toDigits 16 word))
  else if kind == 'X' then l.number false (String.ofList (Nat.toDigits 16 word)).toUpper
  else if kind == 'o' then l.number false (String.ofList (Nat.toDigits 8 word))
  else charBytes '%' ++ charBytes kind

/-- Applies a format once. The result has the arguments that are left. -/
def formatOnce : Nat → List Char → List String → List UInt8 × List String
  | 0, _, args => ([], args)
  | _, [], args => ([], args)
  | fuel + 1, '\\' :: cs, args =>
    let (bytes, rest) := escape false cs
    let (more, args) := formatOnce fuel rest args
    (bytes ++ more, args)
  | fuel + 1, '%' :: '%' :: cs, args =>
    let (more, args) := formatOnce fuel cs args
    (charBytes '%' ++ more, args)
  | fuel + 1, '%' :: cs, args =>
    match layout cs with
    | (_, []) => (charBytes '%', args)
    | (l, kind :: cs) =>
      let (more, rest) := formatOnce fuel cs args.tail
      (convert l kind (args.headD "") ++ more, rest)
  | fuel + 1, c :: cs, args =>
    let (more, args) := formatOnce fuel cs args
    (charBytes c ++ more, args)

/-- Applies a format again and again until all arguments are used. -/
def formatAll (form : List Char) : Nat → List String → List UInt8
  | 0, _ => []
  | fuel + 1, args =>
    let (bytes, rest) := formatOnce (form.length + 1) form args
    if rest.isEmpty || rest.length == args.length then bytes
    else bytes ++ formatAll form fuel rest

/-- The output of a format with arguments. -/
def printf (form : String) (args : List String) : List UInt8 :=
  formatAll form.toList (args.length + 1) args

end AgentGovernance.Shell
