import DocLinks.Path.Basic

/-!
Lexical normal form: dots are dropped and a double dot cancels the name before it, without a look
at any file. At the root a double dot is dropped; in a relative path without a name left it stays.
-/

namespace DocLinks.Path

/-- The path after one more component; `rooted` tells whether a root came first. -/
def normalStep (rooted : Bool) (out : Path) : Component → Path
  | .root => out.push ⟨['/']⟩
  | .current => out
  | .name part => out.push ⟨part⟩
  | .parent =>
      match out.components.getLast? with
      | some (.name _) => out.parent?.getD out
      | some .parent | none => if rooted then out else out.push ⟨['.', '.']⟩
      | _ => out

/-- The lexical normal form. -/
def normalize (p : Path) : Path :=
  p.components.foldl (normalStep p.isAbsolute) ⟨[]⟩

end DocLinks.Path
