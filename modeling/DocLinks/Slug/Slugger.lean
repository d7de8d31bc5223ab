import DocLinks.Slug.Basic

/-!
Anchors that stay unique within a document. A slugger remembers every anchor that it has handed
out, each with a counter: the last number tried behind that anchor. A second heading of the same
slug gets the slug with the next number that is free.
-/

namespace DocLinks

/-- The anchors handed out so far, latest first, each with the last number tried behind it. -/
structure Slugger where
  style : SlugStyle
  counts : List (Text × Nat)
  deriving Repr

namespace Slugger

def new (style : SlugStyle) : Slugger :=
  ⟨style, []⟩

def taken (s : Slugger) : List Text :=
  s.counts.map Prod.fst

/-- The counter of an anchor, zero for one never handed out. -/
def count (counts : List (Text × Nat)) (slug : Text) : Nat :=
  (counts.lookup slug).getD 0

def setCount (slug : Text) (n : Nat) (counts : List (Text × Nat)) : List (Text × Nat) :=
  counts.map fun entry => if entry.1 = slug then (entry.1, n) else entry

def numbered (slug : Text) (n : Nat) : Text :=
  slug ++ '-' :: Text.ofNat n

/-- The first number above `n` that makes `slug` an anchor not yet taken. One of the next
`fuel + 1` numbers is free when `fuel` anchors are taken, so with that much fuel the search never
gives up. -/
def firstFree (taken : List Text) (slug : Text) : Nat → Nat → Nat
  | 0, n => n + 1
  | fuel + 1, n =>
      if numbered slug (n + 1) ∈ taken then firstFree taken slug fuel (n + 1) else n + 1

def claim (s : Slugger) (slug : Text) : Text × Slugger :=
  if slug ∈ s.taken then
    let n := firstFree s.taken slug s.taken.length (count s.counts slug)
    let anchor := numbered slug n
    (anchor, { s with counts := (anchor, 0) :: setCount slug n s.counts })
  else (slug, { s with counts := (slug, 0) :: s.counts })

/-- The unique anchor for the next heading text. -/
def next (s : Slugger) (t : Text) : Text × Slugger :=
  s.claim (s.style.base t)

/-- The anchors for a list of heading texts, in order, and the slugger after them. -/
def run (s : Slugger) : List Text → List Text × Slugger
  | [] => ([], s)
  | t :: texts =>
      let (anchor, s') := s.next t
      let (anchors, s'') := run s' texts
      (anchor :: anchors, s'')

end Slugger

end DocLinks
