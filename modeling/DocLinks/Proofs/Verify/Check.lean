import DocLinks.Proofs.Text.Cut
import DocLinks.Verify.Session

namespace DocLinks

/-- A destination cut at its first number sign. -/
inductive Cut : Text → Text → Option Text → Prop
  | whole {target : Text} : '#' ∉ target → Cut target target none
  | anchored {target anchor : Text} : '#' ∉ target →
      Cut (target ++ '#' :: anchor) target (some anchor)

theorem exists_cut (href : Text) : ∃ target anchor, Cut href target anchor := by
  cases hcut : Text.splitOnce '#' href with
  | none => exact ⟨href, none, .whole (Text.splitOnce_eq_none_iff.mp hcut)⟩
  | some halves =>
      obtain ⟨hhref, htarget⟩ := Text.splitOnce_eq_some_iff.mp hcut
      exact ⟨halves.1, some halves.2, hhref ▸ .anchored htarget⟩

namespace Session

def checkResolved (fs : FileSystem) (s : Session) (resolved : Path) (anchor : Option Text) :
    Except CheckError (Option Verdict) :=
  match s.locate resolved with
  | some error => .ok (some (.file error))
  | none =>
      if fs.isPresent resolved then
        match anchor with
        | none => .ok none
        | some anchor => s.checkTargetAnchor fs resolved anchor
      else .ok (some (.file .fileNotExists))

variable {fs : FileSystem} {s : Session} {link : Link}

theorem read_eq (fs : FileSystem) (path : Path) :
    Document.read fs ⟨[]⟩ path =
      match fs.readBytes path with
      | .ok bytes => .ok ⟨path, Utf8.decode bytes⟩
      | .error failure => .error (.unreadable path failure) := by
  have hjoin : (⟨[]⟩ : Path).join path = path := by
    rw [Path.join, Path.push]
    split <;> rfl
  cases hbytes : fs.readBytes path <;> simp [Document.read, hjoin, hbytes]

theorem checkFileLink_of_cut {href target : Text} {anchor : Option Text}
    (h : Cut href target anchor) :
    s.checkFileLink fs href = s.checkResolved fs (s.resolve target) anchor := by
  cases h with
  | whole hhref => rw [checkFileLink, Text.splitOnce_eq_none_iff.mpr hhref]; rfl
  | anchored htarget => rw [checkFileLink, Text.splitOnce_eq_some_iff.mpr ⟨rfl, htarget⟩]; rfl

theorem check_of_url (h : link.url ≠ none) : s.check fs link = .ok none :=
  if_pos (Option.isSome_iff_ne_none.mpr h)

theorem check_of_pureAnchor {anchor : Text} (hurl : link.url = none)
    (hhref : link.href = '#' :: anchor) : s.check fs link = .ok (s.checkPureAnchor anchor) := by
  rw [check, hurl, hhref]
  rfl

theorem check_of_file (hurl : link.url = none) (hhref : link.href.head? ≠ some '#') :
    s.check fs link = s.checkFileLink fs link.href := by
  rw [check, hurl]
  simp only [Option.isSome_none, Bool.false_eq_true, if_false]
  split
  next anchor hanchor => simp [hanchor] at hhref
  next => rfl

theorem link_cases (link : Link) :
    link.url ≠ none ∨
      (∃ anchor, link.url = none ∧ link.href = '#' :: anchor) ∨
        (link.url = none ∧ link.href.head? ≠ some '#') := by
  by_cases hurl : link.url = none
  · right
    by_cases hhref : link.href.head? = some '#'
    · obtain ⟨anchor, hanchor⟩ := List.head?_eq_some_iff.mp hhref
      exact Or.inl ⟨anchor, hurl, hanchor⟩
    · exact Or.inr ⟨hurl, hhref⟩
  · exact Or.inl hurl

theorem item?_eq_none_iff : s.item? fs link = none ↔ s.check fs link = .ok none := by
  rw [item?]
  split <;> simp_all

theorem item?_eq_ok_iff {error : LinkError} :
    s.item? fs link = some (.ok error) ↔
      s.check fs link = .ok (some error.verdict) ∧ error.link = link := by
  obtain ⟨verdict, told⟩ := error
  rw [item?]
  split
  next hcheck => simp [hcheck]
  next hcheck => simp [hcheck, eq_comm]
  next hcheck => simp [hcheck]

theorem item?_eq_error_iff {e : CheckError} :
    s.item? fs link = some (.error e) ↔ s.check fs link = .error e := by
  rw [item?]
  split
  next hcheck => simp [hcheck]
  next hcheck => simp [hcheck]
  next hcheck => simp [hcheck]

/-- What the outcome of a check puts into the items: nothing if there is nothing to tell. -/
def itemOf (link : Link) :
    Except CheckError (Option Verdict) → Option (Except CheckError LinkError)
  | .ok none => none
  | .ok (some verdict) => some (.ok ⟨verdict, link⟩)
  | .error e => some (.error e)

theorem item?_eq_itemOf (fs : FileSystem) (s : Session) (link : Link) :
    s.item? fs link = itemOf link (s.check fs link) := by
  rw [item?]
  split <;> simp_all [itemOf]

theorem items_of_next?_none {links : List Link} (h : s.next? fs links = none) :
    s.items fs links = [] := by
  rw [items]
  split
  · rfl
  next heq => simp [h] at heq

theorem items_of_next?_some {links rest : List Link} {item : Except CheckError LinkError}
    (h : s.next? fs links = some (item, rest)) :
    s.items fs links = item :: s.items fs rest := by
  rw [items]
  split
  next hnone => simp [h] at hnone
  next heq =>
    obtain ⟨rfl, rfl⟩ := Prod.mk.inj (Option.some.inj (h.symm.trans heq))
    rfl

/-- The items of the links, each found by itself. -/
theorem items_eq_filterMap (fs : FileSystem) (s : Session) (links : List Link) :
    s.items fs links = links.filterMap (s.item? fs) := by
  induction links with
  | nil => exact items_of_next?_none rfl
  | cons link links ih =>
      cases hitem : s.item? fs link with
      | some item =>
          have hnext : s.next? fs (link :: links) = some (item, links) := by
            rw [next?, hitem]
          rw [items_of_next?_some hnext, List.filterMap_cons_some hitem, ih]
      | none =>
          have hnext : s.next? fs (link :: links) = s.next? fs links := by
            rw [next?, hitem]
          rw [List.filterMap_cons_none hitem, ← ih]
          cases hrest : s.next? fs links with
          | none => rw [items_of_next?_none hrest, items_of_next?_none (hnext.trans hrest)]
          | some next => rw [items_of_next?_some hrest, items_of_next?_some (hnext.trans hrest)]

theorem items_append_cons (fs : FileSystem) (s : Session) (link : Link) (before after : List Link) :
    s.items fs (before ++ link :: after) =
      s.items fs before ++ (itemOf link (s.check fs link)).toList ++ s.items fs after := by
  simp only [items_eq_filterMap, List.filterMap_append, List.append_assoc, ← item?_eq_itemOf]
  cases hitem : s.item? fs link with
  | none => rw [List.filterMap_cons_none hitem]; rfl
  | some item => rw [List.filterMap_cons_some hitem]; rfl

theorem start_of_isAbsolute {base : Path} (h : base.isAbsolute = true) (document : Document)
    (options : VerifyOptions) :
    start base document options = .ok ⟨base.normalize, document, options⟩ :=
  if_pos h

variable {base : Path} {document : Document} {options : VerifyOptions}

theorem verifyLinks_eq_items (fs : FileSystem) (h : base.isAbsolute = true) (links : List Link) :
    verifyLinks fs base document links options =
      .ok ((⟨base.normalize, document, options⟩ : Session).items fs links) := by
  rw [verifyLinks, start_of_isAbsolute h]
  rfl

theorem verifyLinks_of_isAbsolute (fs : FileSystem) (h : base.isAbsolute = true)
    (links : List Link) :
    verifyLinks fs base document links options =
      .ok (links.filterMap (item? fs ⟨base.normalize, document, options⟩)) := by
  rw [verifyLinks_eq_items fs h, items_eq_filterMap]

theorem verifyLinks_singleton_eq_nil_iff (h : base.isAbsolute = true) :
    verifyLinks fs base document [link] options = .ok [] ↔
      (⟨base.normalize, document, options⟩ : Session).check fs link = .ok none := by
  rw [verifyLinks_of_isAbsolute fs h, Except.ok.injEq, List.filterMap_eq_nil_iff,
    List.forall_mem_singleton, item?_eq_none_iff]

theorem verifyLinks_singleton_eq_verdict_iff (h : base.isAbsolute = true) {verdict : Verdict} :
    verifyLinks fs base document [link] options = .ok [.ok ⟨verdict, link⟩] ↔
      (⟨base.normalize, document, options⟩ : Session).check fs link = .ok (some verdict) := by
  rw [verifyLinks_of_isAbsolute fs h, List.filterMap_cons, item?]
  cases (⟨base.normalize, document, options⟩ : Session).check fs link with
  | error e => simp
  | ok outcome => cases outcome <;> simp

end Session

end DocLinks
