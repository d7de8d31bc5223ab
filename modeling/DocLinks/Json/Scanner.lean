import DocLinks.Text.Digit

namespace DocLinks.Json

/-- Why a text is refused: it goes wrong, it ends too early, or a value is not of the form asked
for. -/
inductive Refusal where
  | malformed
  | unfinished
  | mismatched
  deriving DecidableEq, Repr

def isBlank (c : Char) : Bool :=
  c == ' ' || c == '\n' || c == '\t' || c == '\r'

def skipBlanks (t : Text) : Text :=
  t.dropWhile isBlank

/-- Four hexadecimal digits. The text is unfinished when fewer than four bytes are left, whatever
they are. -/
def readHex4 (t : Text) : Except Refusal (Nat × Text) :=
  let hex? := Text.digitValue? 16
  if Text.utf8Length t < 4 then .error .unfinished
  else
    match t with
    | a :: b :: c :: d :: rest =>
        match hex? a, hex? b, hex? c, hex? d with
        | some a, some b, some c, some d => .ok (((a * 16 + b) * 16 + c) * 16 + d, rest)
        | _, _, _, _ => .error .malformed
    | _ => .error .malformed

/-- The character of a `\u` escape, read behind the `u`. A high surrogate needs the escape of a
low one behind it; a low one alone is refused. -/
def readUnicodeEscape (t : Text) : Except Refusal (Char × Text) := do
  let (n, rest) ← readHex4 t
  if 0xDC00 ≤ n ∧ n ≤ 0xDFFF then throw .malformed
  if n < 0xD800 ∨ 0xDBFF < n then return (Char.ofNat n, rest)
  match rest with
  | [] => throw .unfinished
  | '\\' :: [] => throw .unfinished
  | '\\' :: 'u' :: rest =>
      let (low, rest) ← readHex4 rest
      if low < 0xDC00 ∨ 0xDFFF < low then throw .malformed
      return (Char.ofNat (0x10000 + (n - 0xD800) * 0x400 + (low - 0xDC00)), rest)
  | _ => throw .malformed

def simpleEscape? : Char → Option Char
  | '"' => some '"'
  | '\\' => some '\\'
  | '/' => some '/'
  | 'b' => some '\x08'
  | 'f' => some '\x0c'
  | 'n' => some '\n'
  | 'r' => some '\r'
  | 't' => some '\t'
  | _ => none

/-- The rest of a string whose opening quote has been read, with its escapes decoded. -/
def readStringTail : Nat → Text → Except Refusal (Text × Text)
  | 0, _ => .error .unfinished
  | _ + 1, [] => .error .unfinished
  | fuel + 1, c :: rest =>
      if c = '"' then .ok ([], rest)
      else if c.toNat < 0x20 then .error .malformed
      else if c ≠ '\\' then do
        let (tail, rest) ← readStringTail fuel rest
        return (c :: tail, rest)
      else
        match rest with
        | [] => .error .unfinished
        | 'u' :: rest => do
            let (d, rest) ← readUnicodeEscape rest
            let (tail, rest) ← readStringTail fuel rest
            return (d :: tail, rest)
        | e :: rest =>
            match simpleEscape? e with
            | none => .error .malformed
            | some d => do
                let (tail, rest) ← readStringTail fuel rest
                return (d :: tail, rest)

def readString (t : Text) : Except Refusal (Text × Text) :=
  readStringTail (t.length + 1) t

/-- Reads over the rest of a string whose opening quote has been read; surrogates need no partner.
-/
def skipStringTail : Nat → Text → Except Refusal Text
  | 0, _ => .error .unfinished
  | _ + 1, [] => .error .unfinished
  | fuel + 1, c :: rest =>
      if c = '"' then .ok rest
      else if c.toNat < 0x20 then .error .malformed
      else if c ≠ '\\' then skipStringTail fuel rest
      else
        match rest with
        | [] => .error .unfinished
        | 'u' :: rest => do
            let (_, rest) ← readHex4 rest
            skipStringTail fuel rest
        | e :: rest =>
            match simpleEscape? e with
            | none => .error .malformed
            | some _ => skipStringTail fuel rest

def skipString (t : Text) : Except Refusal Text :=
  skipStringTail (t.length + 1) t

def expect : Text → Text → Except Refusal Text
  | [], t => .ok t
  | _ :: _, [] => .error .unfinished
  | c :: word, d :: rest => if c = d then expect word rest else .error .malformed

def readDigits (t : Text) : Except Refusal (Text × Text) :=
  match t with
  | [] => .error .unfinished
  | c :: _ =>
      if c.isDigit then .ok (t.takeWhile Char.isDigit, t.dropWhile Char.isDigit)
      else .error .malformed

/-- A number as written: its digits before and behind the point, and its exponent. -/
structure Numeral where
  whole : Text
  fraction : Text
  exponentNegative : Bool
  exponent : Text
  deriving Repr

def readFraction (t : Text) : Except Refusal (Text × Text) :=
  match t with
  | '.' :: rest => readDigits rest
  | _ => .ok ([], t)

def readSign : Text → Bool × Text
  | '+' :: rest => (false, rest)
  | '-' :: rest => (true, rest)
  | rest => (false, rest)

def readExponent (t : Text) : Except Refusal ((Bool × Text) × Text) :=
  match t with
  | mark :: rest =>
      if mark = 'e' ∨ mark = 'E' then do
        let (negative, rest) := readSign rest
        let (digits, rest) ← readDigits rest
        return ((negative, digits), rest)
      else .ok ((false, []), t)
  | [] => .ok ((false, []), t)

/-- A number without its sign: no zero before another digit, a digit behind a point and in an
exponent. -/
def readNumeral (t : Text) : Except Refusal (Numeral × Text) := do
  let (whole, rest) ← readDigits t
  if whole.head? = some '0' ∧ whole.length > 1 then throw .malformed
  let (fraction, rest) ← readFraction rest
  let ((negative, exponent), rest) ← readExponent rest
  return (⟨whole, fraction, negative, exponent⟩, rest)

def skipNumber (t : Text) : Except Refusal Text := do
  let (_, rest) ← readNumeral (if t.head? = some '-' then t.tail else t)
  return rest

mutual

/-- Reads over one value and the blanks before it. Every step reads at least one character, so
fuel for each of them is enough. -/
def skipValue : Nat → Text → Except Refusal Text
  | 0, _ => .error .unfinished
  | fuel + 1, t =>
      match skipBlanks t with
      | [] => .error .unfinished
      | 'n' :: rest => expect ['u', 'l', 'l'] rest
      | 't' :: rest => expect ['r', 'u', 'e'] rest
      | 'f' :: rest => expect ['a', 'l', 's', 'e'] rest
      | '"' :: rest => skipString rest
      | '[' :: rest =>
          match skipBlanks rest with
          | [] => .error .unfinished
          | ']' :: rest => .ok rest
          | rest => skipItems fuel rest
      | '\x7b' :: rest =>
          match skipBlanks rest with
          | [] => .error .unfinished
          | '\x7d' :: rest => .ok rest
          | rest => skipMembers fuel rest
      | c :: rest =>
          if c = '-' ∨ c.isDigit then skipNumber (c :: rest) else .error .malformed

def skipItems : Nat → Text → Except Refusal Text
  | 0, _ => .error .unfinished
  | fuel + 1, t =>
      match skipValue fuel t with
      | .error e => .error e
      | .ok rest =>
          match skipBlanks rest with
          | [] => .error .unfinished
          | ',' :: rest => skipItems fuel rest
          | ']' :: rest => .ok rest
          | _ => .error .malformed

def skipMembers : Nat → Text → Except Refusal Text
  | 0, _ => .error .unfinished
  | fuel + 1, t =>
      match skipBlanks t with
      | [] => .error .unfinished
      | '"' :: rest =>
          match skipString rest with
          | .error e => .error e
          | .ok rest =>
              match skipBlanks rest with
              | [] => .error .unfinished
              | ':' :: rest =>
                  match skipValue fuel rest with
                  | .error e => .error e
                  | .ok rest =>
                      match skipBlanks rest with
                      | [] => .error .unfinished
                      | ',' :: rest => skipMembers fuel rest
                      | '\x7d' :: rest => .ok rest
                      | _ => .error .malformed
              | _ => .error .malformed
      | _ => .error .malformed

end

def skip (t : Text) : Except Refusal Text :=
  skipValue (2 * t.length + 2) t

/-- The least number that rounds to no double: half a unit above the largest one. -/
def hugeBound : Nat :=
  Nat.pow 2 1024 - Nat.pow 2 970

def Numeral.isHuge (n : Numeral) : Bool :=
  let digits := n.whole ++ n.fraction
  let significand := digits.foldl (fun m c => m * 10 + (c.toNat - '0'.toNat)) 0
  let exponent := n.exponent.foldl (fun m c => m * 10 + (c.toNat - '0'.toNat)) 0
  if significand = 0 ∨ n.exponentNegative then false
  else if exponent > 400 + n.fraction.length then true
  else hugeBound * Nat.pow 10 n.fraction.length ≤ significand * Nat.pow 10 exponent

/-- Refuses a value that is not of the form asked for: what is wrong with the value itself comes
first. Arrays and objects are refused at their opening. -/
def refuse (t : Text) : Refusal :=
  match t with
  | [] => .unfinished
  | 'n' :: rest => verdict (expect ['u', 'l', 'l'] rest)
  | 't' :: rest => verdict (expect ['r', 'u', 'e'] rest)
  | 'f' :: rest => verdict (expect ['a', 'l', 's', 'e'] rest)
  | '"' :: rest => verdict ((readString rest).map Prod.snd)
  | '[' :: _ => .mismatched
  | '\x7b' :: _ => .mismatched
  | c :: rest =>
      if c = '-' ∨ c.isDigit then
        match readNumeral (if c = '-' then rest else t) with
        | .error e => e
        | .ok (n, _) => if n.isHuge then .malformed else .mismatched
      else .malformed
where
  verdict : Except Refusal Text → Refusal
    | .error e => e
    | .ok _ => .mismatched

end DocLinks.Json
