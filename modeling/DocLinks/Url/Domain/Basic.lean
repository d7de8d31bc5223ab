import DocLinks.Text.Composition
import DocLinks.Text.Mark
import DocLinks.Url.Domain.Image
import DocLinks.Url.Domain.Joiner
import DocLinks.Url.Domain.Refused
import DocLinks.Url.Punycode

namespace DocLinks.Url.Domain

/-- What a character of a name becomes; none for one outside ASCII that makes a name invalid. -/
def plain? (c : Char) : Option Text :=
  if Text.isAscii c then some [c.toLower] else if isRefused c then none else some (image c)

def plainText? : Text → Option Text
  | [] => some []
  | c :: rest =>
      match plain? c, plainText? rest with
      | some front, some back => some (front ++ back)
      | _, _ => none

def isPlain (t : Text) : Bool :=
  t.all (fun c => plain? c == some [c]) && Text.compose t == t

/-- A label in ASCII, and the text it stands for. -/
structure Label where
  ascii : Text
  text : Text
  deriving DecidableEq, Repr

def asciiWriting : Text := "xn--".toList

def maxWritten : Nat := 1000

def maxRead : Nat := 2000

/-- Whether the text of a label may be one: no mark in front, and the joiners in place. -/
def isLabelText (t : Text) : Bool :=
  !(t.head?.any Text.isMark) && joinersFit [] t && (t.all Text.isAscii || t.length ≤ maxWritten)

def labelOfWritten? (written : Text) : Option Label :=
  if written.length ≤ maxRead && written.all Text.isAscii && written.getLast? != some '-' then
    match Punycode.decode written with
    | some text => if isPlain text then some ⟨asciiWriting ++ written, text⟩ else none
    | none => none
  else none

def label? (part : Text) : Option Label :=
  let label :=
    if asciiWriting.isPrefixOf part then
      if part.length = asciiWriting.length then none
      else labelOfWritten? (part.drop asciiWriting.length)
    else if part.all Text.isAscii then some ⟨part, part⟩
    else some ⟨asciiWriting ++ Punycode.encode part, part⟩
  label.filter fun label => isLabelText label.text

def labels? : List Text → Option (List Label)
  | [] => some []
  | part :: parts =>
      match label? part, labels? parts with
      | some label, some labels => some (label :: labels)
      | _, _ => none

/-- The name in ASCII. -/
def toAscii (name : Text) : Option Text :=
  match (plainText? name).map Text.compose with
  | some name =>
      if name.any isRefused then none
      else
        match labels? (Text.splitAll '.' name) with
        | some labels =>
            if areDirected (labels.map Label.text) then
              some (Text.join ['.'] (labels.map Label.ascii))
            else none
        | none => none
  | none => none

end DocLinks.Url.Domain
