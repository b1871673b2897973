namespace LinkAtlas.Text

/-!
# UTF-8

* `Utf8.followers?` — what may follow the first octet of a character;
* `Utf8.Fault` — where octets stop being UTF-8, and how;
* `Utf8.decode` — the text of octets.
-/

namespace Utf8

/-- What is wrong with octets. -/
inductive Fault where
  /-- So many octets from an index could begin a character, but the next does not go on with it. -/
  | invalid (length index : Nat)
  /-- The text ends inside the character at an index. -/
  | incomplete (index : Nat)
  deriving DecidableEq, Repr

/-- The text of a fault. -/
def Fault.message : Fault → String
  | invalid length index =>
    "invalid utf-8 sequence of " ++ toString length ++ " bytes from index " ++ toString index
  | incomplete index => "incomplete utf-8 byte sequence from index " ++ toString index

/-- The octets of a character that are not its first. -/
def anyFollower : Nat × Nat := (0x80, 0xBF)

/-- The bounds of the octets that follow a first octet; none where it starts no character. -/
def followers? (b : Nat) : Option (List (Nat × Nat)) :=
  if b < 0x80 then some []
  else if b < 0xC2 then none
  else if b < 0xE0 then some [anyFollower]
  else if b = 0xE0 then some [(0xA0, 0xBF), anyFollower]
  else if b = 0xED then some [(0x80, 0x9F), anyFollower]
  else if b < 0xF0 then some [anyFollower, anyFollower]
  else if b = 0xF0 then some [(0x90, 0xBF), anyFollower, anyFollower]
  else if b < 0xF4 then some [anyFollower, anyFollower, anyFollower]
  else if b = 0xF4 then some [(0x80, 0x8F), anyFollower, anyFollower]
  else none

/-- The bits that the first octet gives to a character with so many followers. -/
def leadBits (count b : Nat) : Nat :=
  match count with
  | 0 => b
  | 1 => b - 0xC0
  | 2 => b - 0xE0
  | _ => b - 0xF0

/-- Reads the octets that follow, and gives the number of the character and the rest. -/
def follow (index : Nat) : Nat → List (Nat × Nat) → Nat → List UInt8 → Except Fault (Nat × List UInt8)
  | _, [], n, rest => .ok (n, rest)
  | _, _ :: _, _, [] => .error (.incomplete index)
  | seen, (low, high) :: bounds, n, b :: rest =>
    if low ≤ b.toNat ∧ b.toNat ≤ high then
      follow index (seen + 1) bounds (n * 64 + (b.toNat - 0x80)) rest
    else .error (.invalid seen index)

/-- The characters of octets from an index on, with a bound on their number. -/
def decodeFrom : Nat → Nat → List UInt8 → Except Fault (List Char)
  | _, _, [] => .ok []
  | 0, _, _ => .ok []
  | fuel + 1, index, b :: rest =>
    match followers? b.toNat with
    | none => .error (.invalid 1 index)
    | some bounds => do
      let (n, rest) ← follow index 1 bounds (leadBits bounds.length b.toNat) rest
      return Char.ofNat n :: (← decodeFrom fuel (index + 1 + bounds.length) rest)

/-- The text of octets. -/
def decode (bytes : List UInt8) : Except Fault String :=
  (decodeFrom bytes.length 0 bytes).map String.ofList

/-- The octets of a text. -/
def encode (s : String) : List UInt8 := s.toUTF8.toList

end Utf8

end LinkAtlas.Text
