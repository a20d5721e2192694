/-!
# CommandCompiler.Text.Base64

Base64, decoded leniently: characters outside its alphabet are skipped, and
nothing is read after the padding.

* `digitValue?` : the alphabet;
* `decode?` : the bytes of a text, unless it ends inside a group.
-/

namespace CommandCompiler.Text.Base64

/-- The value of a character of the alphabet. -/
def digitValue? (c : Char) : Option Nat :=
  let n := c.toNat
  if 'A' ≤ c ∧ c ≤ 'Z' then some (n - 0x41)
  else if 'a' ≤ c ∧ c ≤ 'z' then some (n - 0x61 + 26)
  else if '0' ≤ c ∧ c ≤ '9' then some (n - 0x30 + 52)
  else if c = '+' then some 62
  else if c = '/' then some 63
  else none

/-- The first `count` bytes of a group of four digits. -/
def groupBytes (count : Nat) (digits : List Nat) : List UInt8 :=
  let n := (digits ++ List.replicate (4 - digits.length) 0).foldl (fun n d => 64 * n + d) 0
  ([n / 0x10000, n / 0x100 % 0x100, n % 0x100].take count).map UInt8.ofNat

/-- Decodes the text after the `group` of digits that has been begun, with the padding since its
last digit. -/
def decodeFrom (group : List Nat) (padding : Nat) : List Char → Option (List UInt8)
  | [] => if group.isEmpty then some [] else none
  | c :: cs =>
    if c = '=' then
      if 2 ≤ group.length then
        if 4 ≤ group.length + padding + 1 then some (groupBytes (group.length - 1) group)
        else decodeFrom group (padding + 1) cs
      else decodeFrom group padding cs
    else
      match digitValue? c with
      | none => decodeFrom group padding cs
      | some d =>
        if group.length = 3 then
          (groupBytes 3 (group ++ [d]) ++ ·) <$> decodeFrom [] 0 cs
        else decodeFrom (group ++ [d]) 0 cs

/-- The bytes that a text spells. -/
def decode? (cs : List Char) : Option (List UInt8) := decodeFrom [] 0 cs

end CommandCompiler.Text.Base64
