import DocLinks.Text.Basic
import DocLinks.Text.CombiningClass
import DocLinks.Text.Composite

namespace DocLinks.Text

namespace Hangul

def leadBase : Nat := 0x1100
def vowelBase : Nat := 0x1161
/-- The code point before the first trailing consonant: its place stands for having none. -/
def trailBase : Nat := 0x11A7
def syllableBase : Nat := 0xAC00
def leadCount : Nat := 19
def vowelCount : Nat := 21
def trailCount : Nat := 28

def jamo? (c : Char) : Option Text :=
  let index := c.toNat - syllableBase
  if syllableBase ≤ c.toNat && index < leadCount * vowelCount * trailCount then
    let trail := index % trailCount
    some (Char.ofNat (leadBase + index / (vowelCount * trailCount)) ::
      Char.ofNat (vowelBase + index / trailCount % vowelCount) ::
      if trail = 0 then [] else [Char.ofNat (trailBase + trail)])
  else none

/-- The syllable of a leading consonant and a vowel, or of an open syllable and a trailing one. -/
def join? (a b : Char) : Option Char :=
  let lead := a.toNat - leadBase
  let vowel := b.toNat - vowelBase
  let index := a.toNat - syllableBase
  let trail := b.toNat - trailBase
  if leadBase ≤ a.toNat && lead < leadCount && vowelBase ≤ b.toNat && vowel < vowelCount then
    some (Char.ofNat (syllableBase + (lead * vowelCount + vowel) * trailCount))
  else if syllableBase ≤ a.toNat && index < leadCount * vowelCount * trailCount &&
      index % trailCount = 0 && trailBase < b.toNat && trail < trailCount then
    some (Char.ofNat (a.toNat + trail))
  else none

end Hangul

def parts? (c : Char) : Option (Char × Char) :=
  joined.findSome? fun (mark, letters) =>
    (letters.find? fun letter => letter.2 = c.toNat).map fun letter =>
      (Char.ofNat letter.1, Char.ofNat mark)

def join? (a b : Char) : Option Char :=
  match joined.find? fun entry => entry.1 = b.toNat with
  | some (_, letters) =>
      (letters.find? fun letter => letter.1 = a.toNat).map fun letter => Char.ofNat letter.2
  | none => Hangul.join? a b

/-- The characters that one stands for, its own letter taken apart at most `depth` times. -/
def takeApart (depth : Nat) (c : Char) : Text :=
  match depth with
  | 0 => [c]
  | depth + 1 =>
      match parts? c with
      | some (letter, mark) => takeApart depth letter ++ [mark]
      | none => (Hangul.jamo? c).getD [c]

/-- No character has more than three marks in it. -/
def decompose (t : Text) : Text :=
  t.flatMap (takeApart 3)

/-- Puts a character behind the marks in front of `t` that have a smaller class. -/
def place (c : Char) : Text → Text
  | [] => [c]
  | d :: rest =>
      if 0 < combiningClass d && combiningClass d < combiningClass c then d :: place c rest
      else c :: d :: rest

def sortMarks (t : Text) : Text :=
  t.foldr place []

/-- Whether a character behind a letter and some marks that stay can still join the letter. -/
def reaches (marks : Text) (c : Char) : Bool :=
  marks.all fun mark => combiningClass mark < combiningClass c

/-- Joins the letter with what follows it; `marks` are those behind the letter that do not join.
-/
def composeFrom (letter : Char) (marks : Text) : Text → Text
  | [] => letter :: marks
  | c :: rest =>
      match if reaches marks c then join? letter c else none with
      | some letter => composeFrom letter marks rest
      | none =>
          if combiningClass c = 0 then letter :: (marks ++ composeFrom c [] rest)
          else composeFrom letter (marks ++ [c]) rest

def composeMarks : Text → Text
  | [] => []
  | c :: rest =>
      if combiningClass c = 0 then composeFrom c [] rest else c :: composeMarks rest

/-- The composed form of a text. -/
def compose (t : Text) : Text :=
  composeMarks (sortMarks (decompose t))

end DocLinks.Text
