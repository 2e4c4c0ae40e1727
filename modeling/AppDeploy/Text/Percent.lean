/-! Percent-encoding of one path segment: letters, digits and `-_.~` stay, and every
other byte of the UTF-8 form is written as `%` and two capital hexadecimal digits. -/
namespace AppDeploy.Text.Percent

/-- The characters that need no encoding. -/
def isUnreserved (c : Char) : Bool :=
  c.isAlphanum || c = '-' || c = '_' || c = '.' || c = '~'

/-- A hexadecimal digit in capitals. -/
def hexDigit (n : Nat) : Char :=
  if n < 10 then Char.ofNat (48 + n) else Char.ofNat (55 + n)

/-- A byte as `%` and two digits. -/
def escape (b : UInt8) : List Char :=
  ['%', hexDigit (b.toNat / 16), hexDigit (b.toNat % 16)]

def encodeChar (c : Char) : List Char :=
  if isUnreserved c then [c] else (String.utf8EncodeChar c).flatMap escape

/-- A text as one path segment. -/
def encode (s : String) : String :=
  String.ofList (s.toList.flatMap encodeChar)

end AppDeploy.Text.Percent
