namespace DocLinks

structure Point where
  line : Nat
  column : Nat
  deriving DecidableEq, Repr

/-- The extent of a node: its first character, and the point just after its last. -/
structure Position where
  start : Point
  stop : Point
  deriving DecidableEq, Repr

end DocLinks
