import DocLinks.Proofs.Verify.Check
import DocLinks.Proofs.Verify.Location

namespace DocLinks

/-- Paths in normal form behind a base: its components come first, and more follow. -/
structure Path.IsBelow (p base : Path) : Prop where
  normal : p.normalize = p
  starts : base.normalize.components <+: p.components
  differs : base.normalize.components ≠ p.components

namespace FileSystem

/-- Two file systems that give the same answers on all paths below a base. -/
def AgreeBelow (base : Path) (fs other : FileSystem) : Prop :=
  ∀ p : Path, p.IsBelow base →
    fs.isPresent p = other.isPresent p ∧ fs.isDirectory p = other.isDirectory p ∧
      fs.readBytes p = other.readBytes p

/-- The file system with the answers of another one at a single path. -/
def replaceAt (fs : FileSystem) (path : Path) (other : FileSystem) : FileSystem where
  isPresent p := if p = path then other.isPresent p else fs.isPresent p
  isDirectory p := if p = path then other.isDirectory p else fs.isDirectory p
  readBytes p := if p = path then other.readBytes p else fs.readBytes p

theorem agreeBelow_replaceAt {base path : Path} (h : ¬ path.IsBelow base) (fs other : FileSystem) :
    AgreeBelow base fs (fs.replaceAt path other) := by
  intro p hp
  have hne : p ≠ path := by
    rintro rfl
    exact h hp
  simp [replaceAt, hne]

end FileSystem

namespace Session

open FileSystem

theorem isBelow_of_locate {base : Path} {document : Document} {options : VerifyOptions}
    {target : Text}
    (h : (⟨base.normalize, document, options⟩ : Session).locate
      ((⟨base.normalize, document, options⟩ : Session).resolve target) = none) :
    ((⟨base.normalize, document, options⟩ : Session).resolve target).IsBelow base := by
  have hplace := isNormal_directory_follow base document ⟨target⟩
  rw [resolve_eq] at h ⊢
  obtain ⟨_, hprefix, hne⟩ := (locate_toPath_eq_none hplace).mp h
  refine ⟨?_, ?_, ?_⟩
  · rw [Place.normalize_eq_toPath, Place.ofPath_toPath hplace]
  · rwa [Place.components_normalize, Place.components_toPath hplace]
  · rwa [Place.components_normalize, Place.components_toPath hplace]

theorem checkTargetAnchor_congr {fs other : FileSystem} {path : Path}
    (hdirectory : fs.isDirectory path = other.isDirectory path)
    (hbytes : fs.readBytes path = other.readBytes path) (s : Session) (anchor : Text) :
    s.checkTargetAnchor fs path anchor = s.checkTargetAnchor other path anchor := by
  rw [checkTargetAnchor, checkTargetAnchor, hdirectory, read_eq, read_eq, hbytes]

theorem check_congr {fs other : FileSystem} {base : Path} (h : AgreeBelow base fs other)
    (document : Document) (options : VerifyOptions) (link : Link) :
    (⟨base.normalize, document, options⟩ : Session).check fs link =
      (⟨base.normalize, document, options⟩ : Session).check other link := by
  rcases link_cases link with hurl | ⟨anchor, hurl, hhref⟩ | ⟨hurl, hhref⟩
  · rw [check_of_url hurl, check_of_url hurl]
  · rw [check_of_pureAnchor hurl hhref, check_of_pureAnchor hurl hhref]
  · obtain ⟨target, anchor, hcut⟩ := exists_cut link.href
    rw [check_of_file hurl hhref, check_of_file hurl hhref, checkFileLink_of_cut hcut,
      checkFileLink_of_cut hcut]
    unfold checkResolved
    split
    · rfl
    next hlocate =>
      obtain ⟨hpresent, hdirectory, hbytes⟩ := h _ (isBelow_of_locate hlocate)
      rw [hpresent]
      cases anchor with
      | none => rfl
      | some anchor => simp only [checkTargetAnchor_congr hdirectory hbytes]

/-- Verification depends on nothing but what lies below the base: file systems that agree there
give the same items, and a change anywhere else is not seen. -/
theorem verifyLinks_eq_of_agreeBelow (fs : FileSystem) (base : Path) (document : Document)
    (links : List Link) (options : VerifyOptions) :
    (∀ other, AgreeBelow base fs other →
      verifyLinks other base document links options =
        verifyLinks fs base document links options) ∧
    ∀ path other, ¬ path.IsBelow base →
      verifyLinks (fs.replaceAt path other) base document links options =
        verifyLinks fs base document links options := by
  have hagree : ∀ other, AgreeBelow base fs other →
      verifyLinks other base document links options =
        verifyLinks fs base document links options := by
    intro other h
    rw [verifyLinks, verifyLinks, start]
    split
    · have hitem : item? other ⟨base.normalize, document, options⟩ =
          item? fs ⟨base.normalize, document, options⟩ := by
        funext link
        rw [item?, item?, check_congr h]
      change Except.ok _ = Except.ok _
      rw [items_eq_filterMap, items_eq_filterMap, hitem]
    · rfl
  refine ⟨hagree, ?_⟩
  intro path other houtside
  exact hagree _ (agreeBelow_replaceAt houtside fs other)

theorem verifyLinks_blind_beside_base :
    let base := Path.ofString "/base"
    let document : Document := ⟨.ofString "a.md", []⟩
    let links := [Link.relative "../base-old/b.md".toList, .relative "//base/./b.md#L1".toList,
      .relative "/base".toList]
    let everything : FileSystem := ⟨fun _ => true, fun _ => false, fun _ => .ok []⟩
    let inside : FileSystem := { everything with isPresent := fun p => p.startsWith base }
    (AgreeBelow base everything inside ∧
      verifyLinks inside base document links {} = verifyLinks everything base document links {}) ∧
    ¬ (Path.ofString "/base-old/b.md").IsBelow base ∧
      verifyLinks (everything.replaceAt (.ofString "/base-old/b.md") inside) base document links
          {} =
        verifyLinks everything base document links {} := by
  intro base document links everything inside
  have hagree : AgreeBelow base everything inside := by
    intro p hp
    have hbase : base.normalize.components = base.components := by decide +kernel
    have hstarts : p.startsWith base = true := by
      rw [Path.startsWith, List.isPrefixOf_iff_prefix, ← hbase]
      exact hp.starts
    exact ⟨hstarts.symm, rfl, rfl⟩
  have hbeside : ¬ (Path.ofString "/base-old/b.md").IsBelow base := by
    intro h
    exact absurd h.starts (by decide +kernel)
  obtain ⟨hsame, hunseen⟩ := verifyLinks_eq_of_agreeBelow everything base document links {}
  exact ⟨⟨hagree, hsame inside hagree⟩, hbeside, hunseen _ inside hbeside⟩

end Session

end DocLinks
