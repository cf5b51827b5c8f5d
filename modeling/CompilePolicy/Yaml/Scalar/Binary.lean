/-!
# Bytes in base 64

Bytes written with 64 characters, six bits each. Characters outside the
alphabet are skipped. Four characters make three bytes, and a last group of two
or three is filled up with padding, after which nothing is read.
-/

namespace CompilePolicy.Yaml

/-- The six bits of a character. -/
def sixBits? (c : Char) : Option Nat :=
  if 'A' ≤ c ∧ c ≤ 'Z' then some (c.toNat - 'A'.toNat)
  else if 'a' ≤ c ∧ c ≤ 'z' then some (c.toNat - 'a'.toNat + 26)
  else if '0' ≤ c ∧ c ≤ '9' then some (c.toNat - '0'.toNat + 52)
  else if c = '+' then some 62
  else if c = '/' then some 63
  else none

/-- The bytes that a group of up to four characters completes. -/
def groupBytes : List Nat → List UInt8
  | [a, b] => [UInt8.ofNat (a * 4 + b / 16)]
  | [a, b, c] => [UInt8.ofNat (a * 4 + b / 16), UInt8.ofNat (b % 16 * 16 + c / 4)]
  | [a, b, c, d] =>
    [UInt8.ofNat (a * 4 + b / 16), UInt8.ofNat (b % 16 * 16 + c / 4), UInt8.ofNat (c % 4 * 64 + d)]
  | _ => []

/-- The bytes after the characters of an unfinished group and the padding
behind them. -/
def bytesFrom (group : List Nat) (padding : Nat) : List Char → Option (List UInt8)
  | [] => if group.isEmpty then some [] else none
  | c :: rest =>
    if c = '=' then
      if 2 ≤ group.length then
        if 4 ≤ group.length + padding + 1 then some (groupBytes group)
        else bytesFrom group (padding + 1) rest
      else bytesFrom group padding rest
    else
      match sixBits? c with
      | none => bytesFrom group padding rest
      | some bits =>
        if group.length = 3 then
          (bytesFrom [] 0 rest).map (groupBytes (group ++ [bits]) ++ ·)
        else bytesFrom (group ++ [bits]) 0 rest

/-- The bytes that ASCII characters stand for. -/
def bytesOfBase64? (chars : List Char) : Option (List UInt8) :=
  if chars.all fun c => decide (c.toNat < 128) then bytesFrom [] 0 chars else none

example : bytesOfBase64? ['a', 'G', 'k', '='] = some [104, 105] := by decide
example : bytesOfBase64? ['a', 'G', 'k'] = none := by decide

end CompilePolicy.Yaml
