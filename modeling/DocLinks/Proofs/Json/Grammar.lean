import DocLinks.Json.Scanner

namespace DocLinks.Json

/-- What a JSON text says. A number is kept as it is written. -/
inductive Value where
  | null
  | bool (b : Bool)
  | number (written : Text)
  | string (s : Text)
  | array (items : List Value)
  | object (members : List (Text × Value))

def IsBlanks (t : Text) : Prop :=
  ∀ c ∈ t, c ∈ [' ', '\n', '\t', '\r']

def IsDigits (t : Text) : Prop :=
  t ≠ [] ∧ ∀ c ∈ t, c.isDigit = true

inductive IsFraction : Text → Prop
  | absent : IsFraction []
  | present {digits : Text} : IsDigits digits → IsFraction ('.' :: digits)

inductive IsExponent : Text → Prop
  | absent : IsExponent []
  | present {mark : Char} {sign digits : Text} : mark ∈ ['e', 'E'] → sign ∈ [[], ['+'], ['-']] →
      IsDigits digits → IsExponent (mark :: sign ++ digits)

/-- A number: no zero stands in front of other digits. -/
inductive IsNumber : Text → Prop
  | mk {sign whole fraction exponent : Text} : sign ∈ [[], ['-']] → IsDigits whole →
      (whole.head? = some '0' → whole = ['0']) → IsFraction fraction → IsExponent exponent →
        IsNumber (sign ++ (whole ++ (fraction ++ exponent)))

def shortEscapes : List (Char × Char) :=
  [('"', '"'), ('\\', '\\'), ('/', '/'), ('b', '\x08'), ('f', '\x0c'), ('n', '\n'), ('r', '\r'),
    ('t', '\t')]

def IsHex (n : Nat) (digits : Text) : Prop :=
  digits.length = 4 ∧ Text.toNat? 16 digits = some n

inductive WrittenChar : Char → Text → Prop
  | plain {c : Char} : 0x20 ≤ c.toNat → c ≠ '"' → c ≠ '\\' → WrittenChar c [c]
  | short {e c : Char} : (e, c) ∈ shortEscapes → WrittenChar c ['\\', e]
  | unit {c : Char} {digits : Text} : IsHex c.toNat digits → WrittenChar c ('\\' :: 'u' :: digits)
  | pair {c : Char} {high low : Nat} {digits digits' : Text} : 0xD800 ≤ high ∧ high ≤ 0xDBFF →
      0xDC00 ≤ low ∧ low ≤ 0xDFFF →
        c.toNat = 0x10000 + (high - 0xD800) * 0x400 + (low - 0xDC00) → IsHex high digits →
          IsHex low digits' →
            WrittenChar c ('\\' :: 'u' :: (digits ++ '\\' :: 'u' :: digits'))

inductive WrittenChars : Text → Text → Prop
  | nil : WrittenChars [] []
  | cons {c : Char} {s t u : Text} : WrittenChar c t → WrittenChars s u →
      WrittenChars (c :: s) (t ++ u)

mutual

/-- A value as it is written, from its first character to its last. -/
inductive Written : Value → Text → Prop
  | null : Written .null ['n', 'u', 'l', 'l']
  | true : Written (.bool true) ['t', 'r', 'u', 'e']
  | false : Written (.bool false) ['f', 'a', 'l', 's', 'e']
  | number {t : Text} : IsNumber t → Written (.number t) t
  | string {s t : Text} : WrittenChars s t → Written (.string s) ('"' :: (t ++ ['"']))
  | emptyArray {blanks : Text} : IsBlanks blanks → Written (.array []) ('[' :: (blanks ++ [']']))
  | array {items : List Value} {t : Text} : WrittenItems items t →
      Written (.array items) ('[' :: (t ++ [']']))
  | emptyObject {blanks : Text} : IsBlanks blanks →
      Written (.object []) ('\x7b' :: (blanks ++ ['\x7d']))
  | object {members : List (Text × Value)} {t : Text} : WrittenMembers members t →
      Written (.object members) ('\x7b' :: (t ++ ['\x7d']))

/-- A value with blanks around it. A whole JSON text is of this form. -/
inductive Padded : Value → Text → Prop
  | mk {v : Value} {before t behind : Text} : IsBlanks before → Written v t → IsBlanks behind →
      Padded v (before ++ (t ++ behind))

inductive WrittenItems : List Value → Text → Prop
  | last {v : Value} {t : Text} : Padded v t → WrittenItems [v] t
  | more {v : Value} {items : List Value} {t u : Text} : Padded v t → WrittenItems items u →
      WrittenItems (v :: items) (t ++ ',' :: u)

inductive WrittenMember : Text × Value → Text → Prop
  | mk {name : Text} {v : Value} {before t behind u : Text} : IsBlanks before →
      WrittenChars name t → IsBlanks behind → Padded v u →
        WrittenMember (name, v) (before ++ '"' :: (t ++ '"' :: (behind ++ ':' :: u)))

inductive WrittenMembers : List (Text × Value) → Text → Prop
  | last {m : Text × Value} {t : Text} : WrittenMember m t → WrittenMembers [m] t
  | more {m : Text × Value} {members : List (Text × Value)} {t u : Text} : WrittenMember m t →
      WrittenMembers members u → WrittenMembers (m :: members) (t ++ ',' :: u)

end

theorem isBlanks_nil : IsBlanks [] := by
  simp [IsBlanks]

theorem WrittenChars.plain {s : Text} (h : ∀ c ∈ s, 0x20 ≤ c.toNat ∧ c ≠ '"' ∧ c ≠ '\\') :
    WrittenChars s s := by
  induction s with
  | nil => exact .nil
  | cons c s ih =>
      obtain ⟨⟨hcontrol, hquote, hbackslash⟩, hs⟩ := List.forall_mem_cons.mp h
      exact .cons (.plain hcontrol hquote hbackslash) (ih hs)

theorem Written.padded {v : Value} {t : Text} (h : Written v t) : Padded v t := by
  simpa using Padded.mk isBlanks_nil h isBlanks_nil

end DocLinks.Json
