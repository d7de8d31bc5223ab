import DocLinks.Json.Scanner
import DocLinks.Options.Basic

/-!
Settings from a JSON text. An object gives fields by name, in any order; names not known are read
over, a field given twice is refused, and a field not given has its default. An array gives the
fields in their order. What is wrong first in reading order decides the refusal.
-/

namespace DocLinks.Config

open Json

/-- The settings read so far; a field not yet given is none. -/
structure Partial where
  dialect : Option Dialect := none
  docExtensions : Option (List Text) := none
  deriving Repr

structure Fields where
  docExtensions : Bool
  deriving Repr

def exactDialect? (t : Text) : Option Dialect :=
  Dialect.all.find? fun dialect => dialect.name == t

/-- A dialect: its name as a string, or an object of its name and null. -/
def readDialect (t : Text) : Except Refusal (Dialect × Text) :=
  match skipBlanks t with
  | [] => .error .unfinished
  | '"' :: rest => do
      let (name, rest) ← readString rest
      match exactDialect? name with
      | some dialect => return (dialect, rest)
      | none => throw .mismatched
  | '\x7b' :: rest =>
      match skipBlanks rest with
      | '"' :: rest => do
          let (name, rest) ← readString rest
          match exactDialect? name with
          | none => throw .mismatched
          | some dialect =>
              match skipBlanks rest with
              | [] => throw .unfinished
              | ':' :: rest =>
                  match skipBlanks rest with
                  | 'n' :: rest =>
                      let rest ← expect ['u', 'l', 'l'] rest
                      match skipBlanks rest with
                      | [] => throw .unfinished
                      | '\x7d' :: rest => return (dialect, rest)
                      | _ => throw .malformed
                  | rest => throw (refuse rest)
              | _ => throw .malformed
      | rest => .error (refuse rest)
  | _ => .error .malformed

def readStrings : Nat → Text → Except Refusal (List Text × Text)
  | 0, _ => .error .unfinished
  | fuel + 1, t =>
      match skipBlanks t with
      | '"' :: rest => do
          let (item, rest) ← readString rest
          match skipBlanks rest with
          | [] => throw .unfinished
          | ']' :: rest => return ([item], rest)
          | ',' :: rest =>
              match skipBlanks rest with
              | ']' :: _ => throw .malformed
              | rest =>
                  let (items, rest) ← readStrings fuel rest
                  return (item :: items, rest)
          | _ => throw .malformed
      | rest => .error (refuse rest)

def readExtensions (t : Text) : Except Refusal (List Text × Text) :=
  match skipBlanks t with
  | '[' :: rest =>
      match skipBlanks rest with
      | ']' :: rest => .ok ([], rest)
      | rest => readStrings (rest.length + 1) rest
  | rest => .error (refuse rest)

def readColon (t : Text) : Except Refusal Text :=
  match skipBlanks t with
  | [] => .error .unfinished
  | ':' :: rest => .ok rest
  | _ => .error .malformed

/-- The value of a field by its name; a field known and given before is refused before its value
is looked at. -/
def readField (fields : Fields) (sofar : Partial) (name t : Text) :
    Except Refusal (Partial × Text) :=
  if name = "dialect".toList then
    if sofar.dialect.isSome then .error .mismatched
    else do
      let rest ← readColon t
      let (dialect, rest) ← readDialect rest
      return ({ sofar with dialect := some dialect }, rest)
  else if fields.docExtensions ∧ name = "docExtensions".toList then
    if sofar.docExtensions.isSome then .error .mismatched
    else do
      let rest ← readColon t
      let (extensions, rest) ← readExtensions rest
      return ({ sofar with docExtensions := some extensions }, rest)
  else do
    let rest ← readColon t
    let rest ← skip rest
    return (sofar, rest)

def readMembers (fields : Fields) : Nat → Partial → Text → Except Refusal (Partial × Text)
  | 0, _, _ => .error .unfinished
  | fuel + 1, sofar, t =>
      match skipBlanks t with
      | [] => .error .unfinished
      | '"' :: rest => do
          let (name, rest) ← readString rest
          let (sofar, rest) ← readField fields sofar name rest
          match skipBlanks rest with
          | [] => throw .unfinished
          | '\x7d' :: rest => return (sofar, rest)
          | ',' :: rest => readMembers fields fuel sofar rest
          | _ => throw .malformed
      | _ => .error .malformed

def nextItem (t : Text) : Except Refusal (Option Text) :=
  match skipBlanks t with
  | [] => .error .unfinished
  | ']' :: _ => .ok none
  | ',' :: rest =>
      match skipBlanks rest with
      | [] => .error .unfinished
      | ']' :: _ => .error .malformed
      | rest => .ok (some rest)
  | _ => .error .malformed

def readArrayEnd (t : Text) : Except Refusal Text :=
  match skipBlanks t with
  | [] => .error .unfinished
  | ']' :: rest => .ok rest
  | ',' :: _ => .error .malformed
  | _ => .error .malformed

def readOrdered (fields : Fields) (t : Text) : Except Refusal (Partial × Text) :=
  match skipBlanks t with
  | [] => .error .unfinished
  | ']' :: rest => .ok ({}, rest)
  | rest => do
      let (dialect, rest) ← readDialect rest
      let sofar : Partial := { dialect := some dialect }
      if fields.docExtensions then
        match ← nextItem rest with
        | none =>
            let rest ← readArrayEnd rest
            return (sofar, rest)
        | some rest =>
            let (extensions, rest) ← readExtensions rest
            let rest ← readArrayEnd rest
            return ({ sofar with docExtensions := some extensions }, rest)
      else
        let rest ← readArrayEnd rest
        return (sofar, rest)

def read (fields : Fields) (t : Text) : Except Refusal Partial := do
  let (given, rest) ←
    match skipBlanks t with
    | '[' :: rest => readOrdered fields rest
    | '\x7b' :: rest =>
        match skipBlanks rest with
        | '\x7d' :: rest => pure ({}, rest)
        | rest => readMembers fields (rest.length + 1) {} rest
    | rest => throw (refuse rest)
  if skipBlanks rest = [] then return given else throw .malformed

def readVerifyOptions (t : Text) : Except Refusal VerifyOptions := do
  let given ← read ⟨true⟩ t
  let defaults : VerifyOptions := {}
  return ⟨given.dialect.getD defaults.dialect, given.docExtensions.getD defaults.docExtensions⟩

def readScanOptions (t : Text) : Except Refusal ScanOptions := do
  let given ← read ⟨false⟩ t
  let defaults : ScanOptions := {}
  return ⟨given.dialect.getD defaults.dialect⟩

end DocLinks.Config
