import DocLinks.Text.Digit

namespace DocLinks.Url.Ipv4

/-- A number in decimal, in octal behind a zero, or in hexadecimal behind `0x`. Behind these signs
no digit at all stands for zero. -/
def readNumber (t : Text) : Option Nat :=
  match t with
  | [] => none
  | ['0'] => some 0
  | '0' :: 'x' :: digits | '0' :: 'X' :: digits =>
      if digits.isEmpty then some 0 else Text.toNat? 16 digits
  | '0' :: digits => Text.toNat? 8 digits
  | digits => Text.toNat? 10 digits

def readNumbers : List Text → Option (List Nat)
  | [] => some []
  | part :: parts =>
      match readNumber part, readNumbers parts with
      | some n, some numbers => some (n :: numbers)
      | _, _ => none

def partsOf (host : Text) : List Text :=
  let parts := Text.splitAll '.' host
  if 1 < parts.length && parts.getLast? == some [] then parts.dropLast else parts

/-- Whether a host can be nothing but a number: so its last part says. -/
def isNumeric (host : Text) : Bool :=
  match (partsOf host).getLast? with
  | some part => (!part.isEmpty && part.all Char.isDigit) || (readNumber part).isSome
  | none => false

def combine (bytes : List Nat) (last : Nat) : Option Nat :=
  let left := Nat.pow 256 (4 - bytes.length)
  if bytes.length < 4 && bytes.all (· < 256) && last < left then
    some (bytes.foldl (fun n b => n * 256 + b) 0 * left + last)
  else none

def parse (host : Text) : Option Nat :=
  match readNumbers (partsOf host) with
  | some numbers => numbers.getLast?.bind (combine numbers.dropLast)
  | none => none

def serialize (n : Nat) : Text :=
  Text.join ['.']
    ([n / 16777216 % 256, n / 65536 % 256, n / 256 % 256, n % 256].map Text.ofNat)

end DocLinks.Url.Ipv4
