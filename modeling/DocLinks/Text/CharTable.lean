namespace DocLinks

/-- A table of ranges of code points, first and last included, in increasing order. -/
abbrev CharTable := List (Nat × Nat)

def CharTable.holds (table : CharTable) (c : Char) : Bool :=
  table.any fun range => range.1 ≤ c.toNat && c.toNat ≤ range.2

/-- A map on code points, given by runs: first and last code point, step, and the image of the
first. The image of each member of a run lies as far from it as that of the first. -/
abbrev CharMap := List (Nat × Nat × Nat × Nat)

/-- The image of a member of one of the runs, and any other code point unchanged. -/
def CharMap.apply (runs : CharMap) (n : Nat) : Nat :=
  match runs with
  | [] => n
  | (first, last, step, image) :: runs =>
      if first ≤ n ∧ n ≤ last ∧ (n - first) % step = 0 then image + (n - first)
      else CharMap.apply runs n

end DocLinks
