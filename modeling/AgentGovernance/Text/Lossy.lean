-- SUMMARY: Bytes as text, with a replacement character for what is not UTF-8.

/-!
# Lossy decoding

Bytes that are UTF-8 decode to their characters. Where they are not, the longest stretch that could
still have become a character, or a single byte if there is none, is replaced by U+FFFD.
-/

namespace AgentGovernance.Text

/-- How many bytes follow a first byte, and the range in which the second one lies. -/
def sequenceShape (b : UInt8) : Option (Nat × UInt8 × UInt8) :=
  if 0xC2 ≤ b && b ≤ 0xDF then some (1, 0x80, 0xBF)
  else if b == 0xE0 then some (2, 0xA0, 0xBF)
  else if (0xE1 ≤ b && b ≤ 0xEC) || b == 0xEE || b == 0xEF then some (2, 0x80, 0xBF)
  else if b == 0xED then some (2, 0x80, 0x9F)
  else if b == 0xF0 then some (3, 0x90, 0xBF)
  else if 0xF1 ≤ b && b ≤ 0xF3 then some (3, 0x80, 0xBF)
  else if b == 0xF4 then some (3, 0x80, 0x8F)
  else none

/-- How many of the bytes, up to `n`, lie in the range that the first of them needs. -/
def continuation : Nat → UInt8 → UInt8 → List UInt8 → Nat
  | n + 1, low, high, b :: bs =>
    if low ≤ b && b ≤ high then 1 + continuation n 0x80 0xBF bs else 0
  | _, _, _, _ => 0

/-- The number that the bytes behind a first byte complete. -/
def codePoint (first : Nat) (rest : List UInt8) : Nat :=
  rest.foldl (fun v b => 64 * v + b.toNat % 64) first

/-- The replacement character. -/
def replacement : Char := Char.ofNat 0xFFFD

/-- Decodes up to `fuel` characters. -/
def decodeFrom : Nat → List UInt8 → List Char
  | 0, _ => []
  | _, [] => []
  | fuel + 1, b :: bs =>
    if b < 0x80 then Char.ofNat b.toNat :: decodeFrom fuel bs
    else match sequenceShape b with
      | none => replacement :: decodeFrom fuel bs
      | some (n, low, high) =>
        let k := continuation n low high bs
        if k == n then
          let first := if n == 1 then b.toNat % 32 else if n == 2 then b.toNat % 16 else b.toNat % 8
          Char.ofNat (codePoint first (bs.take n)) :: decodeFrom fuel (bs.drop n)
        else replacement :: decodeFrom fuel (bs.drop k)

/-- The text of bytes that may not be UTF-8. -/
def decodeLossy (bytes : ByteArray) : String :=
  match String.fromUTF8? bytes with
  | some s => s
  | none => String.ofList (decodeFrom bytes.size bytes.data.toList)

end AgentGovernance.Text
