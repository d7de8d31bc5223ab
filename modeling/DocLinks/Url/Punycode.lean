import DocLinks.Text.Basic

/-!
Names in the letters, digits and hyphens of ASCII. The ASCII characters of a label come first;
behind a hyphen, digits of base 36 say which character is put in next and where.
-/

namespace DocLinks.Url.Punycode

/-- The character of a digit: letters first. -/
def digitChar (digit : Nat) : Char :=
  if digit < 26 then Char.ofNat ('a'.toNat + digit) else Char.ofNat ('0'.toNat + (digit - 26))

def digitValue? (c : Char) : Option Nat :=
  if 'a' ≤ c && c ≤ 'z' then some (c.toNat - 'a'.toNat)
  else if 'A' ≤ c && c ≤ 'Z' then some (c.toNat - 'A'.toNat)
  else if c.isDigit then some (c.toNat - '0'.toNat + 26)
  else none

/-- A digit below the threshold of its place is the last one of its number. -/
def threshold (place bias : Nat) : Nat :=
  if place ≤ bias then 1 else min (place - bias) 26

theorem one_le_threshold (place bias : Nat) : 1 ≤ threshold place bias := by
  unfold threshold
  split <;> omega

/-- Divides by 35 until at most 455 is left; the second number grows by 36 with each division. -/
def scaleDown (delta shift : Nat) : Nat × Nat :=
  if 455 < delta then scaleDown (delta / 35) (shift + 36) else (delta, shift)
termination_by delta

/-- The bias for the next number, after `delta` has been written for the place of one of `count`
characters. -/
def adapt (delta count : Nat) (isFirst : Bool) : Nat :=
  let halved := if isFirst then delta / 700 else delta / 2
  let scaled := scaleDown (halved + halved / count) 0
  scaled.2 + 36 * scaled.1 / (scaled.1 + 38)

def digits (bias place n : Nat) : Text :=
  let t := threshold place bias
  if n < t then [digitChar n]
  else digitChar (t + (n - t) % (36 - t)) :: digits bias (place + 36) ((n - t) / (36 - t))
termination_by n
decreasing_by
  have := one_le_threshold place bias
  exact Nat.lt_of_le_of_lt (Nat.div_le_self _ _) (by omega)

/-- What has been written so far: the digits, the distance from the last place, the bias, and the
number of characters that are already in place. -/
structure Writer where
  output : Text
  delta : Nat
  bias : Nat
  placed : Nat

/-- Passes a character of the label while the characters with the code point `n` are put in. -/
def Writer.pass (n basic : Nat) (w : Writer) (c : Char) : Writer :=
  if c.toNat < n then { w with delta := w.delta + 1 }
  else if c.toNat = n then
    ⟨w.output ++ digits w.bias 36 w.delta, 0,
      adapt w.delta (w.placed + 1) (w.placed == basic), w.placed + 1⟩
  else w

/-- Puts in the characters of increasing code points, all of which lie above those put in before
and the first of which is not below `n`. -/
def Writer.put (label : Text) (basic : Nat) : List Nat → Nat → Writer → Writer
  | [], _, w => w
  | m :: rest, n, w =>
      let passed := label.foldl (Writer.pass m basic)
        { w with delta := w.delta + (m - n) * (w.placed + 1) }
      Writer.put label basic rest (m + 1) { passed with delta := passed.delta + 1 }

def insertOnce (n : Nat) : List Nat → List Nat
  | [] => [n]
  | m :: rest =>
      if n < m then n :: m :: rest else if n = m then m :: rest else m :: insertOnce n rest

def encode (label : Text) : Text :=
  let basic := label.filter Text.isAscii
  let others := (label.filter fun c => !Text.isAscii c).foldr (fun c => insertOnce c.toNat) []
  let written := Writer.put label basic.length others 0x80 ⟨[], 0, 72, basic.length⟩
  basic ++ (if basic.isEmpty then [] else ['-']) ++ written.output

/-- Numbers and the weights of their digits stay below this. -/
def numberBound : Nat := 4294967296

/-- Reads a number: its value added to `n`, and the characters behind it. -/
def readNumber (bias : Nat) : Text → Nat → Nat → Nat → Option (Nat × Text)
  | [], _, _, _ => none
  | c :: rest, place, weight, n =>
      match digitValue? c with
      | none => none
      | some digit =>
          let n := n + digit * weight
          let t := threshold place bias
          if numberBound ≤ n then none
          else if digit < t then some (n, rest)
          else if numberBound ≤ weight * (36 - t) then none
          else readNumber bias rest (place + 36) (weight * (36 - t)) n

def putBack (fuel : Nat) (input : Text) (label : Text) (n index bias : Nat) (isFirst : Bool) :
    Option Text :=
  match fuel, input with
  | _, [] => some label
  | 0, _ => none
  | fuel + 1, input =>
      match readNumber bias input 36 1 index with
      | none => none
      | some (next, rest) =>
          let count := label.length + 1
          let n := n + next / count
          let place := next % count
          if n.isValidChar then
            putBack fuel rest (label.take place ++ Char.ofNat n :: label.drop place) n (place + 1)
              (adapt (next - index) count isFirst) false
          else none

def decode (input : Text) : Option Text :=
  match Text.splitLast '-' input with
  | some (basic, numbers) =>
      if basic.isEmpty then none else putBack numbers.length numbers basic 0x80 0 72 true
  | none => putBack input.length input [] 0x80 0 72 true

end DocLinks.Url.Punycode
