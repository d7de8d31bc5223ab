namespace DocLinks

/-- A text, character by character. -/
abbrev Text := List Char

namespace Text

/-- The part before the first `c` and the part after it, when `c` occurs. -/
def splitOnce (c : Char) : Text → Option (Text × Text)
  | [] => none
  | d :: rest =>
      if d = c then some ([], rest)
      else (splitOnce c rest).map fun halves => (d :: halves.1, halves.2)

def splitLast (c : Char) (t : Text) : Option (Text × Text) :=
  (splitOnce c t.reverse).map fun halves => (halves.2.reverse, halves.1.reverse)

/-- The parts between the occurrences of `c`, empty ones included; never the empty list. -/
def splitAll (c : Char) : Text → List Text
  | [] => [[]]
  | d :: rest =>
      if d = c then [] :: splitAll c rest
      else
        match splitAll c rest with
        | [] => [[d]]
        | part :: parts => (d :: part) :: parts

def join (separator : Text) : List Text → Text
  | [] => []
  | [part] => part
  | part :: parts => part ++ separator ++ join separator parts

def dropEndWhile (p : Char → Bool) (t : Text) : Text :=
  (t.reverse.dropWhile p).reverse

def trimWhile (p : Char → Bool) (t : Text) : Text :=
  dropEndWhile p (t.dropWhile p)

def ofNat (n : Nat) : Text :=
  Nat.toDigits 10 n

theorem notMem_ofNat {c : Char} (hc : c.isDigit = false) (n : Nat) : c ∉ ofNat n := by
  intro hmem
  rw [Nat.isDigit_of_mem_toDigits (by decide) (by decide) hmem] at hc
  cases hc

def isAscii (c : Char) : Bool :=
  c.toNat < 0x80

def toAsciiLower (t : Text) : Text :=
  t.map Char.toLower

def eqIgnoreAsciiCase (s t : Text) : Bool :=
  toAsciiLower s == toAsciiLower t

def isBeforeOrEqual (s t : Text) : Bool :=
  !List.lex t s fun c d => c.toNat < d.toNat

def utf8Length (t : Text) : Nat :=
  t.foldl (fun n c => n + c.utf8Size) 0

theorem utf8Length_cons (c : Char) (t : Text) :
    utf8Length (c :: t) = c.utf8Size + utf8Length t := by
  have hshift : ∀ (t : Text) (n : Nat),
      t.foldl (fun n c => n + c.utf8Size) n = n + utf8Length t := by
    intro t
    induction t with
    | nil => exact fun n => rfl
    | cons c t ih =>
        intro n
        rw [utf8Length, List.foldl_cons, List.foldl_cons, ih, ih]
        omega
  rw [utf8Length, List.foldl_cons, hshift]
  omega

theorem length_le_utf8Length (t : Text) : t.length ≤ utf8Length t := by
  induction t with
  | nil => exact Nat.le_refl 0
  | cons c t ih =>
      have hc := c.utf8Size_pos
      rw [utf8Length_cons, List.length_cons]
      omega

end Text

end DocLinks
