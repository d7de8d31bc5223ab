import DocLinks.Anchor.Outcome

namespace DocLinks

/-- A line or a range of lines, by the decimal digits written. -/
inductive LinePointer where
  | line (digits : Text)
  | range (first last : Text)
  deriving DecidableEq, Repr

namespace LinePointer

/-- A number without a leading zero at the front of a text, and the text behind it. -/
def readNumber (t : Text) : Option (Text × Text) :=
  match t with
  | c :: _ =>
      if c.isDigit ∧ c ≠ '0' then some (t.takeWhile Char.isDigit, t.dropWhile Char.isDigit)
      else none
  | [] => none

/-- Whether nothing is left but an optional equals sign. -/
def isEnd (t : Text) : Bool :=
  t == [] || t == ['=']

def parse? (anchor : Text) : Option LinePointer :=
  match anchor with
  | 'L' :: rest =>
      match readNumber rest with
      | none => none
      | some (first, rest) =>
          if isEnd rest then some (.line first)
          else
            match rest with
            | '-' :: 'L' :: rest =>
                match readNumber rest with
                | some (last, rest) => if isEnd rest then some (.range first last) else none
                | none => none
            | _ => none
  | _ => none

def numberOf (digits : Text) : Nat :=
  digits.foldl (fun n c => n * 10 + (c.toNat - '0'.toNat)) 0

/-- The largest number of a line; larger ones count as this one. -/
def maxLine : Nat :=
  18446744073709551615

def lineOf (digits : Text) : Nat :=
  min (numberOf digits) maxLine

end LinePointer

/-- Whether a text has at least the required number of newline characters. What stands behind the
last of these is not looked at. -/
def hasLines (content : Text) (required : Nat) : Bool :=
  match content, required with
  | _, 0 => true
  | [], _ + 1 => false
  | c :: content, missing + 1 => hasLines content (if c = '\n' then missing else missing + 1)

def lineTarget (digits content : Text) : AnchorOutcome :=
  if hasLines content (LinePointer.lineOf digits) then .lineTarget else .failed .lineTargetFail

/-- Resolves a line pointer against a content. -/
def matchLinePointer (anchor content : Text) : AnchorOutcome :=
  match LinePointer.parse? anchor with
  | some (.line digits) => lineTarget digits content
  | some (.range first last) =>
      if LinePointer.lineOf last ≤ LinePointer.lineOf first then
        .failed .multiLineTargetRangeInvalid
      else lineTarget last content
  | none =>
      if anchor.head? = some 'L' then .failed .lineTargetInvalid else .failed .noAnchorsInFiletype

end DocLinks
