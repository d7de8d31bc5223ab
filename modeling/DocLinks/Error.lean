import DocLinks.Path.Basic

namespace DocLinks

/-- Why a file could not be read. -/
inductive ReadFailure where
  | noSuchFile
  | notADirectory
  | isADirectory
  | nameTooLong
  | tooManyLinks
  | noSuchDevice
  | interiorNul
  | other (text : Text)
  deriving DecidableEq, Repr

def ReadFailure.message : ReadFailure → Text
  | .noSuchFile => "No such file or directory (os error 2)".toList
  | .notADirectory => "Not a directory (os error 20)".toList
  | .isADirectory => "Is a directory (os error 21)".toList
  | .nameTooLong => "File name too long (os error 36)".toList
  | .tooManyLinks => "Too many levels of symbolic links (os error 40)".toList
  | .noSuchDevice => "No such device or address (os error 6)".toList
  | .interiorNul => "file name contained an unexpected NUL byte".toList
  | .other text => text

structure SourceLocation where
  file : Option Text
  line : Nat
  column : Nat
  deriving DecidableEq, Repr

def SourceLocation.message (l : SourceLocation) : Text :=
  let place := Text.ofNat l.line ++ ':' :: Text.ofNat l.column
  match l.file with
  | some file => file ++ ':' :: place
  | none => place

inductive CheckError where
  | unreadable (path : Path) (failure : ReadFailure)
  | malformed (message : Text) (location : SourceLocation)
  | relativeBase (path : Path)
  deriving DecidableEq, Repr

namespace CheckError

def message : CheckError → Text
  | .unreadable path failure =>
      "IO error reading ".toList ++ path.text ++ ": ".toList ++ failure.message
  | .malformed message location =>
      "Parse error at ".toList ++ location.message ++ ": ".toList ++ message
  | .relativeBase path => "Base path must be absolute: ".toList ++ path.text

/-- Names the file in which the notation is broken; other errors already have their path. -/
def inFile (e : CheckError) (file : Text) : CheckError :=
  match e with
  | .malformed message location => .malformed message { location with file := some file }
  | e => e

end CheckError

end DocLinks
