/-!
# Bytes in 64 characters

Four characters stand for three bytes. Characters outside the repertoire are passed over,
and padding ends the text as soon as it completes a group of four.
-/

namespace AsmNavigator.Text.Base64

def value? (c : Char) : Option Nat :=
  if 'A' ≤ c && c ≤ 'Z' then some (c.toNat - 65)
  else if 'a' ≤ c && c ≤ 'z' then some (c.toNat - 71)
  else if '0' ≤ c && c ≤ '9' then some (c.toNat + 4)
  else if c == '+' then some 62
  else if c == '/' then some 63
  else none

/-- What has been read of a group of four. -/
structure Group where
  /-- The number of characters. -/
  size : Nat := 0
  /-- The bits that make no whole byte yet. -/
  left : Nat := 0
  /-- The padding since the last character. -/
  padding : Nat := 0

/-- The group after one more character, and the byte that it completes. -/
def Group.push (group : Group) (bits : Nat) : Group × List UInt8 :=
  match group.size with
  | 0 => (⟨1, bits, 0⟩, [])
  | 1 => (⟨2, bits % 16, 0⟩, [UInt8.ofNat (group.left * 4 + bits / 16)])
  | 2 => (⟨3, bits % 4, 0⟩, [UInt8.ofNat (group.left * 16 + bits / 4)])
  | _ => (⟨0, 0, 0⟩, [UInt8.ofNat (group.left * 64 + bits)])

/-- The bytes from a place on; nothing if the text ends inside a group. -/
def decodeFrom : Group → List Char → Option (List UInt8)
  | group, [] => if group.size = 0 then some [] else none
  | group, c :: rest =>
      if c == '=' then
        if group.size < 2 then decodeFrom group rest
        else if group.size + group.padding + 1 ≥ 4 then some []
        else decodeFrom { group with padding := group.padding + 1 } rest
      else
        match value? c with
        | none => decodeFrom group rest
        | some bits =>
            let (group, bytes) := group.push bits
            (decodeFrom group rest).map (bytes ++ ·)

def decode? (cs : List Char) : Option (List UInt8) := decodeFrom {} cs

end AsmNavigator.Text.Base64
