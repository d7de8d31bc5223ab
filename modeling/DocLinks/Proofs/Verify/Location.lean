import DocLinks.Proofs.Path.Normalize
import DocLinks.Proofs.Verify.Check

namespace DocLinks

namespace Document

def place (document : Document) (base : Place) : Place :=
  base.follow document.path

/-- The place of the directory that holds the document. -/
def directory (document : Document) (base : Place) : Place :=
  base.steps document.path.components.dropLast

theorem directory_eq (document : Document) (base : Place) :
    document.directory base = base.follow document.dirname := by
  rw [directory, Place.follow, dirname, Path.components_parent]

end Document

namespace Place

/-- Places behind a base, and not the base itself. -/
def IsBelow (place base : Place) : Prop :=
  base <+: place ∧ base ≠ place

instance (place base : Place) : Decidable (place.IsBelow base) :=
  inferInstanceAs (Decidable (_ ∧ _))

end Place

namespace Session

open Place

variable (base : Path) (document : Document) (options : VerifyOptions)

theorem documentPath_eq :
    (⟨base.normalize, document, options⟩ : Session).documentPath =
      (document.place (ofPath base)).toPath :=
  normalize_join_normalize base document.path

theorem isNormal_directory_follow (target : Path) :
    IsNormal ((document.directory (ofPath base)).follow target) := by
  rw [Document.directory_eq]
  exact ((isNormal_ofPath base).follow _).follow target

theorem resolve_eq (target : Text) :
    (⟨base.normalize, document, options⟩ : Session).resolve target =
      ((document.directory (ofPath base)).follow ⟨target⟩).toPath := by
  have hnormal : IsNormal (document.directory (ofPath base)) := by
    rw [Document.directory_eq]
    exact (isNormal_ofPath base).follow _
  have hdirectory : ofPath (⟨base.normalize, document, options⟩ : Session).documentDir =
      document.directory (ofPath base) := by
    rw [documentDir, normalize_join_normalize, ← Document.directory_eq, ofPath_toPath hnormal]
  rw [resolve, normalize_eq_toPath, ofPath, follow_join]
  change ((ofPath _).follow _).toPath = _
  rw [hdirectory]

theorem check_of_cut {fs : FileSystem} {link : Link} {target : Text} {anchor : Option Text}
    (hurl : link.url = none) (hhref : link.href.head? ≠ some '#')
    (hcut : Cut link.href target anchor) :
    (⟨base.normalize, document, options⟩ : Session).check fs link =
      (⟨base.normalize, document, options⟩ : Session).checkResolved fs
        ((document.directory (ofPath base)).follow ⟨target⟩).toPath anchor := by
  rw [check_of_file hurl hhref, checkFileLink_of_cut hcut, resolve_eq]

theorem locate_eq_none {s : Session} {resolved : Path} :
    s.locate resolved = none ↔
      resolved ≠ s.documentPath ∧ resolved ≠ s.base ∧ resolved.startsWith s.base = true := by
  rw [locate]
  split
  next hdocument => simp [hdocument]
  next hdocument =>
    split
    next houtside =>
      simp only [reduceCtorEq, false_iff]
      rintro ⟨_, hbase, hstarts⟩
      exact houtside.elim hbase fun hoffbase => hoffbase hstarts
    next hinside =>
      obtain ⟨hbase, hstarts⟩ := not_or.mp hinside
      simp [hdocument, hbase, Decidable.not_not.mp hstarts]

variable {base document options}

theorem locate_toPath_eq_none {place : Place} (h : IsNormal place) :
    (⟨base.normalize, document, options⟩ : Session).locate place.toPath = none ↔
      place ≠ document.place (ofPath base) ∧ place.IsBelow (ofPath base) := by
  have hbase := isNormal_ofPath base
  have hdocument : IsNormal (document.place (ofPath base)) := hbase.follow _
  rw [locate_eq_none, documentPath_eq, ne_eq, toPath_injective h hdocument, ne_eq,
    normalize_eq_toPath, toPath_injective h hbase, Path.startsWith, components_toPath h,
    components_toPath hbase, List.isPrefixOf_iff_prefix, IsBelow]
  constructor
  · rintro ⟨hplace, hne, hprefix⟩
    exact ⟨hplace, hprefix, Ne.symm hne⟩
  · rintro ⟨hplace, hprefix, hne⟩
    exact ⟨hplace, Ne.symm hne, hprefix⟩

theorem checkResolved_of_present {fs : FileSystem} {place : Place} (hnormal : IsNormal place)
    (helsewhere : place ≠ document.place (ofPath base)) (hbelow : place.IsBelow (ofPath base))
    (hpresent : fs.isPresent place.toPath = true) (anchor : Text) :
    (⟨base.normalize, document, options⟩ : Session).checkResolved fs place.toPath (some anchor) =
      (⟨base.normalize, document, options⟩ : Session).checkTargetAnchor fs place.toPath anchor := by
  have hlocate : (⟨base.normalize, document, options⟩ : Session).locate place.toPath = none :=
    (locate_toPath_eq_none hnormal).mpr ⟨helsewhere, hbelow⟩
  simp [checkResolved, hlocate, hpresent]

end Session

end DocLinks
