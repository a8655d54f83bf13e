/-! Texts of byte strings. -/
namespace BytePool.Text

/-- The digits of a byte to the base sixteen. -/
def hexByte (byte : UInt8) : List Char :=
  [Nat.digitChar (byte.toNat / 16), Nat.digitChar (byte.toNat % 16)]

def hexBytes (bytes : List UInt8) : String := String.ofList (bytes.flatMap hexByte)

/-- A byte as the character it stands for, or as an escape where that is no printable one. -/
def byteText (byte : UInt8) : List Char :=
  let c := Char.ofNat byte.toNat
  if c = '\n' then ['\\', 'n']
  else if c = '\r' then ['\\', 'r']
  else if c = '\t' then ['\\', 't']
  else if c = '\\' then ['\\', '\\']
  else if c = '"' then ['\\', '"']
  else if c = '\x00' then ['\\', '0']
  else if 0x20 ≤ byte ∧ byte ≤ 0x7e then [c]
  else '\\' :: 'x' :: hexByte byte

def byteString (bytes : List UInt8) : String :=
  "b\"" ++ String.ofList (bytes.flatMap byteText) ++ "\""

end BytePool.Text
