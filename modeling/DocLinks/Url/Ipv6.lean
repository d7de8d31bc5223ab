import DocLinks.Text.Digit

namespace DocLinks.Url.Ipv6

def readGroup (t : Text) : Option Nat :=
  if t.length ≤ 4 then Text.toNat? 16 t else none

/-- A decimal number below 256 without needless zeros. -/
def readByte (t : Text) : Option Nat :=
  match t with
  | '0' :: _ :: _ => none
  | _ => (Text.toNat? 10 t).filter (· < 256)

def readBytes (t : Text) : Option (List Nat) :=
  match (Text.splitAll '.' t).map readByte with
  | [some a, some b, some c, some d] => some [a * 256 + b, c * 256 + d]
  | _ => none

/-- Groups, the last of which may be four bytes when `mayEndInBytes`. -/
def readGroups (mayEndInBytes : Bool) : List Text → Option (List Nat)
  | [] => some []
  | [part] =>
      if mayEndInBytes && part.contains '.' then readBytes part
      else (readGroup part).map fun group => [group]
  | part :: parts =>
      match readGroup part, readGroups mayEndInBytes parts with
      | some group, some groups => some (group :: groups)
      | _, _ => none

def readSide (mayEndInBytes : Bool) (t : Text) : Option (List Nat) :=
  if t.isEmpty then some [] else readGroups mayEndInBytes (Text.splitAll ':' t)

def splitDouble : Text → Option (Text × Text)
  | ':' :: ':' :: rest => some ([], rest)
  | c :: rest => (splitDouble rest).map fun halves => (c :: halves.1, halves.2)
  | [] => none

def parse (t : Text) : Option (List Nat) :=
  match splitDouble t with
  | some (front, back) =>
      match readSide false front, readSide true back with
      | some front, some back =>
          if front.length + back.length < 8 then
            some (front ++ List.replicate (8 - front.length - back.length) 0 ++ back)
          else none
      | _, _ => none
  | none =>
      match readGroups true (Text.splitAll ':' t) with
      | some groups => if groups.length = 8 then some groups else none
      | none => none

def zerosAhead (groups : List Nat) : Nat :=
  (groups.takeWhile (· == 0)).length

/-- The longest run of zeros, the first of equals: how many groups come before it, and its length.
-/
def longestZeros : List Nat → Nat × Nat
  | [] => (0, 0)
  | group :: groups =>
      let here := zerosAhead (group :: groups)
      let later := longestZeros groups
      if later.2 ≤ here then (0, here) else (later.1 + 1, later.2)

def writeGroups (groups : List Nat) : Text :=
  Text.join [':'] (groups.map (Nat.toDigits 16))

/-- The groups; a double colon stands for the longest run of at least two zeros. -/
def serialize (groups : List Nat) : Text :=
  let (before, zeros) := longestZeros groups
  if zeros < 2 then writeGroups groups
  else
    writeGroups (groups.take before) ++ [':', ':'] ++ writeGroups (groups.drop (before + zeros))

end DocLinks.Url.Ipv6
