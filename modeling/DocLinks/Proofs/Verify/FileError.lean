import DocLinks.Proofs.Verify.LastName
import DocLinks.Proofs.Verify.Resolves

namespace DocLinks

namespace Session

open Place

variable {fs : FileSystem} {s : Session}

theorem locate_eq_convertPureAnchor_iff {resolved : Path} :
    s.locate resolved = some .convertPureAnchor ↔ resolved = s.documentPath := by
  rw [locate]
  split
  next hown => simp [hown]
  next hown => split <;> simp [hown]

theorem locate_eq_fileOutsideBase_iff {resolved : Path} :
    s.locate resolved = some .fileOutsideBase ↔
      resolved ≠ s.documentPath ∧ s.locate resolved ≠ none := by
  rw [locate]
  split
  next hown => simp [hown]
  next hown => split <;> simp [hown]

theorem locate_ne_fileNotExists {resolved : Path} :
    s.locate resolved ≠ some .fileNotExists := by
  rw [locate]
  split
  · simp
  · split <;> simp

theorem checkTargetAnchor_ne_file {path : Path} {anchor : Text} {error : FileError} :
    s.checkTargetAnchor fs path anchor ≠ .ok (some (.file error)) := by
  by_cases hanchor : anchor = []
  · simp [checkTargetAnchor, hanchor]
  cases hfile : fs.isDirectory path with
  | true => simp [checkTargetAnchor, hanchor, hfile]
  | false =>
      rw [checkTargetAnchor_of_file hanchor hfile]
      split
      · split <;> simp
      · simp

theorem checkResolved_eq_file_iff {path : Path} {anchor : Option Text} {error : FileError} :
    s.checkResolved fs path anchor = .ok (some (.file error)) ↔
      s.locate path = some error ∨
        s.locate path = none ∧ fs.isPresent path = false ∧ error = .fileNotExists := by
  unfold checkResolved
  cases hlocate : s.locate path with
  | some found => simp
  | none =>
      cases hpresent : fs.isPresent path with
      | false => simp [eq_comm]
      | true =>
          cases anchor with
          | none => simp
          | some anchor => simpa using checkTargetAnchor_ne_file

section Places

variable {base : Path} {document : Document} {options : VerifyOptions} {place : Place}

theorem locate_toPath_eq_convertPureAnchor_iff (h : IsNormal place) :
    (⟨base.normalize, document, options⟩ : Session).locate place.toPath =
        some .convertPureAnchor ↔
      place = document.place (ofPath base) := by
  rw [locate_eq_convertPureAnchor_iff, documentPath_eq,
    toPath_injective h (document.isNormal_place base)]

theorem locate_toPath_eq_fileOutsideBase_iff (h : IsNormal place) :
    (⟨base.normalize, document, options⟩ : Session).locate place.toPath =
        some .fileOutsideBase ↔
      place ≠ document.place (ofPath base) ∧ ¬ place.IsBelow (ofPath base) := by
  rw [locate_eq_fileOutsideBase_iff, documentPath_eq, ne_eq,
    toPath_injective h (document.isNormal_place base), ne_eq, locate_toPath_eq_none h]
  constructor
  · rintro ⟨hplace, hnone⟩
    exact ⟨hplace, fun hbelow => hnone ⟨hplace, hbelow⟩⟩
  · rintro ⟨hplace, houtside⟩
    exact ⟨hplace, fun hnone => houtside hnone.2⟩

end Places

/-- The verification of a link alone tells of a file error and of nothing else. -/
def HasFileError (fs : FileSystem) (base : Path) (document : Document) (options : VerifyOptions)
    (link : Link) (error : FileError) : Prop :=
  verifyLinks fs base document [link] options = .ok [.ok ⟨.file error, link⟩]

section HasFileError

variable {base : Path} (habsolute : base.isAbsolute = true) {document : Document}
  {options : VerifyOptions} {link : Link} {target : Text} {anchor : Option Text}
  (hurl : link.url = none) (hhref : link.href.head? ≠ some '#')
  (hcut : Cut link.href target anchor) {place : Place}
  (hplace : (document.directory (ofPath base)).follow ⟨target⟩ = place)

include habsolute hurl hhref hcut hplace

theorem hasFileError_iff {error : FileError} :
    HasFileError fs base document options link error ↔
      (⟨base.normalize, document, options⟩ : Session).locate place.toPath = some error ∨
        (⟨base.normalize, document, options⟩ : Session).locate place.toPath = none ∧
          fs.isPresent place.toPath = false ∧ error = .fileNotExists := by
  rw [HasFileError, verifyLinks_singleton_eq_verdict_iff habsolute,
    check_of_cut base document options hurl hhref hcut, hplace, checkResolved_eq_file_iff]

theorem hasFileError_convertPureAnchor_iff :
    HasFileError fs base document options link .convertPureAnchor ↔
      place = document.place (ofPath base) := by
  have hnormal : IsNormal place := hplace ▸ isNormal_directory_follow base document ⟨target⟩
  rw [hasFileError_iff habsolute hurl hhref hcut hplace,
    locate_toPath_eq_convertPureAnchor_iff hnormal]
  simp

theorem hasFileError_fileOutsideBase_iff :
    HasFileError fs base document options link .fileOutsideBase ↔
      place ≠ document.place (ofPath base) ∧ ¬ place.IsBelow (ofPath base) := by
  have hnormal : IsNormal place := hplace ▸ isNormal_directory_follow base document ⟨target⟩
  rw [hasFileError_iff habsolute hurl hhref hcut hplace,
    locate_toPath_eq_fileOutsideBase_iff hnormal]
  simp

theorem hasFileError_fileNotExists_iff :
    HasFileError fs base document options link .fileNotExists ↔
      place ≠ document.place (ofPath base) ∧ place.IsBelow (ofPath base) ∧
        fs.isPresent place.toPath = false := by
  have hnormal : IsNormal place := hplace ▸ isNormal_directory_follow base document ⟨target⟩
  rw [hasFileError_iff habsolute hurl hhref hcut hplace, locate_toPath_eq_none hnormal]
  simp [locate_ne_fileNotExists, and_assoc]

end HasFileError

theorem exists_anchor_of_not_hasFileError {base : Path} (habsolute : base.isAbsolute = true)
    {document : Document} {options : VerifyOptions} {link : Link}
    (h : ∀ error, ¬ HasFileError fs base document options link error) :
    ∃ items, verifyLinks fs base document [link] options = .ok items ∧
      ∀ e, .ok e ∈ items → ∃ error, e.verdict = .anchor error := by
  refine ⟨_, verifyLinks_of_isAbsolute fs habsolute [link], ?_⟩
  intro e he
  obtain ⟨_, hmem, hitem⟩ := List.mem_filterMap.mp he
  obtain rfl := List.mem_singleton.mp hmem
  rw [item?] at hitem
  split at hitem
  next => simp at hitem
  next verdict hcheck =>
    obtain rfl := Except.ok.inj (Option.some.inj hitem)
    cases verdict with
    | anchor error => exact ⟨error, rfl⟩
    | file error =>
        exact absurd ((verifyLinks_singleton_eq_verdict_iff habsolute).mpr hcheck) (h error)
  next => simp at hitem

/-- The file error of a link is decided by the place that the part of its destination before the
number sign leads to: the place of the document, or else a place that is not below the base, or
else one where nothing is; there are no others. So only the last one depends on the files, none on
what is behind the number sign, and of a target outside the base it is never told that it is
missing. -/
theorem file_error_iff_place (fs : FileSystem) {base : Path} (habsolute : base.isAbsolute = true)
    (document : Document) (options : VerifyOptions) {link : Link} {target : Text}
    {anchor : Option Text} (hurl : link.url = none) (hhref : link.href.head? ≠ some '#')
    (hcut : Cut link.href target anchor) :
    let own := document.place (ofPath base)
    let place := (document.directory (ofPath base)).follow ⟨target⟩
    (HasFileError fs base document options link .convertPureAnchor ↔ place = own) ∧
      (HasFileError fs base document options link .fileOutsideBase ↔
        place ≠ own ∧ ¬ place.IsBelow (ofPath base)) ∧
      (HasFileError fs base document options link .fileNotExists ↔
        place ≠ own ∧ place.IsBelow (ofPath base) ∧ fs.isPresent place.toPath = false) ∧
      (place ≠ own → place.IsBelow (ofPath base) → fs.isPresent place.toPath = true →
        ∃ items, verifyLinks fs base document [link] options = .ok items ∧
          ∀ e, .ok e ∈ items → ∃ error, e.verdict = .anchor error) ∧
      ∀ (other : FileSystem) (next : Link) (rest : Option Text), next.url = none →
        next.href.head? ≠ some '#' → Cut next.href target rest →
        (HasFileError other base document options next .convertPureAnchor ↔
          HasFileError fs base document options link .convertPureAnchor) ∧
        (HasFileError other base document options next .fileOutsideBase ↔
          HasFileError fs base document options link .fileOutsideBase) ∧
        (¬ place.IsBelow (ofPath base) →
          ¬ HasFileError other base document options next .fileNotExists) := by
  intro own place
  have hplace : (document.directory (ofPath base)).follow ⟨target⟩ = place := rfl
  have hself : HasFileError fs base document options link .convertPureAnchor ↔ place = own :=
    hasFileError_convertPureAnchor_iff habsolute hurl hhref hcut hplace
  have houtside : HasFileError fs base document options link .fileOutsideBase ↔
      place ≠ own ∧ ¬ place.IsBelow (ofPath base) :=
    hasFileError_fileOutsideBase_iff habsolute hurl hhref hcut hplace
  have hmissing : HasFileError fs base document options link .fileNotExists ↔
      place ≠ own ∧ place.IsBelow (ofPath base) ∧ fs.isPresent place.toPath = false :=
    hasFileError_fileNotExists_iff habsolute hurl hhref hcut hplace
  refine ⟨hself, houtside, hmissing, ?_, ?_⟩
  · intro hown hbelow hpresent
    refine exists_anchor_of_not_hasFileError habsolute ?_
    rintro (_ | _ | _) herror
    · simp [(hmissing.mp herror).2.2] at hpresent
    · exact (houtside.mp herror).2 hbelow
    · exact hown (hself.mp herror)
  · intro other next rest hnextUrl hnextHref hnextCut
    refine ⟨?_, ?_, ?_⟩
    · rw [hself, hasFileError_convertPureAnchor_iff habsolute hnextUrl hnextHref hnextCut hplace]
    · rw [houtside, hasFileError_fileOutsideBase_iff habsolute hnextUrl hnextHref hnextCut hplace]
    · rw [hasFileError_fileNotExists_iff habsolute hnextUrl hnextHref hnextCut hplace]
      rintro hnotBelow ⟨_, hbelow, _⟩
      exact hnotBelow hbelow

theorem file_errors_in_empty_file_system :
    let fs : FileSystem := ⟨fun _ => false, fun _ => false, fun _ => .error .noSuchFile⟩
    let base := Path.ofString "/b/./c/.."
    let document : Document := ⟨.ofString "notes/../docs/a.md", []⟩
    let link (target : String) := Link.relative (target.toList ++ '#' :: "L1".toList)
    base.isAbsolute = true ∧
      (∀ target ∈ ["a.md", ".././docs//a.md/"],
        HasFileError fs base document {} (link target) .convertPureAnchor) ∧
      (∀ target ∈ ["..//.", "../../b-old/a.md", "/b"],
        HasFileError fs base document {} (link target) .fileOutsideBase) ∧
      HasFileError fs base document {} (link "../../b/docs/b.md") .fileNotExists := by
  intro fs base document link
  have habsolute : base.isAbsolute = true := by decide +kernel
  have hown : ∀ target ∈ ["a.md", ".././docs//a.md/"], (link target).href.head? ≠ some '#' ∧
      '#' ∉ target.toList ∧ (document.directory (ofPath base)).follow ⟨target.toList⟩ =
        document.place (ofPath base) := by
    decide +kernel
  have houtside : ∀ target ∈ ["..//.", "../../b-old/a.md", "/b"],
      (link target).href.head? ≠ some '#' ∧ '#' ∉ target.toList ∧
        (document.directory (ofPath base)).follow ⟨target.toList⟩ ≠
          document.place (ofPath base) ∧
        ¬ ((document.directory (ofPath base)).follow ⟨target.toList⟩).IsBelow (ofPath base) := by
    decide +kernel
  refine ⟨habsolute, ?_, ?_, ?_⟩
  · intro target htarget
    obtain ⟨hhref, hcut, hplace⟩ := hown target htarget
    have hurl : (link target).url = none := rfl
    exact (file_error_iff_place fs habsolute document {} hurl hhref (.anchored hcut)).1.mpr hplace
  · intro target htarget
    obtain ⟨hhref, hcut, hplace⟩ := houtside target htarget
    have hurl : (link target).url = none := rfl
    exact (file_error_iff_place fs habsolute document {} hurl hhref (.anchored hcut)).2.1.mpr hplace
  · refine (file_error_iff_place fs habsolute document {} rfl ?_ (.anchored ?_)).2.2.1.mpr ?_
    all_goals decide +kernel

end Session

end DocLinks
