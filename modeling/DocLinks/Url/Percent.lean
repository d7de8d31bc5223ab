import DocLinks.Text.Digit
import DocLinks.Text.Utf8

namespace DocLinks.Url.Percent

def isEncodedAlways (c : Char) : Bool :=
  c < ' ' || '~' < c

def isEncodedInFragment (c : Char) : Bool :=
  isEncodedAlways c || [' ', '"', '<', '>', '\x60'].contains c

def isEncodedInPath (c : Char) : Bool :=
  isEncodedInFragment c || ['#', '?', '\x7b', '\x7d'].contains c

def isEncodedInUser (c : Char) : Bool :=
  isEncodedInPath c || ['/', ':', ';', '=', '@', '[', '\\', ']', '^', '|'].contains c

/-- In addresses of the known schemes an apostrophe is encoded, too. -/
def isEncodedInQuery (isSpecial : Bool) (c : Char) : Bool :=
  isEncodedAlways c || [' ', '"', '#', '<', '>'].contains c || (isSpecial && c == '\'')

def hexDigit (n : Nat) : Char :=
  (Nat.digitChar n).toUpper

def encodeByte (b : UInt8) : Text :=
  ['%', hexDigit (b.toNat / 16), hexDigit (b.toNat % 16)]

/-- Writes the bytes of the characters of `isEncoded`; percent signs stay as they are. -/
def encode (isEncoded : Char → Bool) (t : Text) : Text :=
  t.flatMap fun c => if isEncoded c then (Utf8.encodeChar c).flatMap encodeByte else [c]

/-- The bytes of a text in which bytes are written with percent signs. A sign without two digits
behind it stands for itself. -/
def decode : Text → List UInt8
  | [] => []
  | '%' :: a :: b :: rest =>
      match Text.digitValue? 16 a, Text.digitValue? 16 b with
      | some high, some low => UInt8.ofNat (high * 16 + low) :: decode rest
      | _, _ => 0x25 :: decode (a :: b :: rest)
  | c :: rest => Utf8.encodeChar c ++ decode rest

end DocLinks.Url.Percent
