import DocLinks.Batch
import DocLinks.Proofs.Verify.Location

namespace DocLinks

namespace Path

theorem components_of_fileName? {p : Path} {part : Text} (h : p.fileName? = some part) :
    p.components = p.components.dropLast ++ [.name part] := by
  have hlast : p.components.getLast? = some (.name part) := by
    rw [fileName?] at h
    split at h
    next heq => rw [heq, Option.some.inj h]
    next => simp at h
  obtain ⟨front, hfront⟩ := List.getLast?_eq_some_iff.mp hlast
  rw [hfront, List.dropLast_concat]

theorem extension?_congr {p q : Path} (h : p.fileName? = q.fileName?) :
    p.extension? = q.extension? := by
  rw [extension?, extension?, h]

theorem fileName?_ne_none_of_extension? {p : Path} {extension : Text}
    (h : p.extension? = some extension) : p.fileName? ≠ none := by
  intro hnone
  rw [extension?, hnone] at h
  simp at h

end Path

theorem isDocumentPath_congr {options : VerifyOptions} {p q : Path}
    (h : p.fileName? = q.fileName?) : isDocumentPath options p = isDocumentPath options q := by
  rw [isDocumentPath, isDocumentPath, Path.extension?_congr h]

theorem exists_fileName?_of_isDocumentPath {options : VerifyOptions} {p : Path}
    (h : isDocumentPath options p = true) : ∃ part, p.fileName? = some part := by
  rw [isDocumentPath] at h
  split at h
  next hextension =>
    exact Option.ne_none_iff_exists'.mp (Path.fileName?_ne_none_of_extension? hextension)
  next => simp at h

theorem anchorStrategy_of_isDocumentPath {options : VerifyOptions} {p : Path}
    (h : isDocumentPath options p = true) : anchorStrategy p options = .headings := by
  rw [isDocumentPath] at h
  rw [anchorStrategy]
  split at h
  next hextension => simp [hextension, h]
  next => simp at h

theorem Place.fileName?_toPath {place : Place} {part : Text}
    (h : IsNormal (place ++ [.name part])) :
    (toPath (place ++ [.name part])).fileName? = some part := by
  simp [Path.fileName?, components_toPath h]

namespace Document

open Place

variable {document : Document} {part : Text}

theorem place_of_fileName? (h : document.path.fileName? = some part) (base : Place) :
    document.place base = document.directory base ++ [.name part] := by
  rw [place, follow, Path.components_of_fileName? h, steps_append]
  rfl

theorem isNormal_place (document : Document) (base : Path) :
    IsNormal (document.place (ofPath base)) :=
  (isNormal_ofPath base).follow document.path

theorem absolutePath_eq (document : Document) (base : Path) :
    document.absolutePath base = (document.place (ofPath base)).toPath := by
  rw [absolutePath, normalize_eq_toPath, ofPath, follow_join]
  rfl

theorem fileName?_absolutePath (h : document.path.fileName? = some part) (base : Path) :
    (document.absolutePath base).fileName? = some part := by
  have hnormal := document.isNormal_place base
  rw [place_of_fileName? h] at hnormal
  rw [absolutePath_eq, place_of_fileName? h, fileName?_toPath hnormal]

theorem isDocumentPath_absolutePath {options : VerifyOptions}
    (h : isDocumentPath options document.path = true) (base : Path) :
    isDocumentPath options (document.absolutePath base) = true := by
  obtain ⟨part, hpart⟩ := exists_fileName?_of_isDocumentPath h
  rw [isDocumentPath_congr ((fileName?_absolutePath hpart base).trans hpart.symm), h]

end Document

end DocLinks
