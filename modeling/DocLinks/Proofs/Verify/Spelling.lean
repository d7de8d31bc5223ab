import DocLinks.Proofs.Verify.LastName
import Mathlib.Data.List.Basic

/-!
The spelling of paths does not matter. Sessions whose bases have one normal form and whose
documents lie at one place tell the same of links that lead to one place: the path of the document
gives its last name and its directory, and both are those of the place.
-/

namespace DocLinks

namespace Session

open Place

theorem checkResolved_congr {s other : Session} (hbase : s.base = other.base)
    (hpath : s.documentPath = other.documentPath) (hoptions : s.options = other.options)
    (fs : FileSystem) (resolved : Path) (anchor : Option Text) :
    s.checkResolved fs resolved anchor = other.checkResolved fs resolved anchor := by
  simp only [checkResolved, locate, checkTargetAnchor, hbase, hpath, hoptions]

theorem checkPureAnchor_congr {document document' : Document}
    (hname : document.path.fileName? = document'.path.fileName?)
    (hcontent : document.content = document'.content) (base base' : Path)
    (options : VerifyOptions) (anchor : Text) :
    (⟨base, document, options⟩ : Session).checkPureAnchor anchor =
      (⟨base', document', options⟩ : Session).checkPureAnchor anchor := by
  simp only [checkPureAnchor, Document.extension?, Path.extension?_congr hname, hcontent]

/-- Two bases and two documents that are the same but for the spelling of their paths. -/
structure IsRespelled (base : Path) (document : Document) (base' : Path) (document' : Document) :
    Prop where
  bases : base.normalize = base'.normalize
  contents : document.content = document'.content
  named : document.path.fileName? ≠ none
  named' : document'.path.fileName? ≠ none
  locations : document.absolutePath base = document'.absolutePath base'

variable {base base' : Path} {document document' : Document}

theorem IsRespelled.directory_fileName? (h : IsRespelled base document base' document') :
    document.directory (ofPath base) = document'.directory (ofPath base') ∧
      document.path.fileName? = document'.path.fileName? := by
  obtain ⟨part, hpart⟩ := Option.ne_none_iff_exists'.mp h.named
  obtain ⟨part', hpart'⟩ := Option.ne_none_iff_exists'.mp h.named'
  have hplace := h.locations
  rw [Document.absolutePath_eq, Document.absolutePath_eq,
    toPath_injective (document.isNormal_place base) (document'.isNormal_place base'),
    Document.place_of_fileName? hpart, Document.place_of_fileName? hpart'] at hplace
  obtain ⟨hdirectory, hlast⟩ := List.append_inj' hplace rfl
  have hname : part = part' := by simpa using hlast
  exact ⟨hdirectory, by rw [hpart, hpart', hname]⟩

theorem check_eq_of_pureAnchor (h : IsRespelled base document base' document')
    (fs : FileSystem) (options : VerifyOptions) {link link' : Link} {anchor : Text}
    (hurl : link.url = none) (hurl' : link'.url = none) (hhref : link.href = '#' :: anchor)
    (hhref' : link'.href = '#' :: anchor) :
    (⟨base.normalize, document, options⟩ : Session).check fs link =
      (⟨base'.normalize, document', options⟩ : Session).check fs link' := by
  rw [check_of_pureAnchor hurl hhref, check_of_pureAnchor hurl' hhref',
    checkPureAnchor_congr h.directory_fileName?.2 h.contents]

theorem check_eq_of_same_place (h : IsRespelled base document base' document')
    (fs : FileSystem) (options : VerifyOptions) {link link' : Link} {target target' : Text}
    {anchor : Option Text} (hurl : link.url = none) (hurl' : link'.url = none)
    (hhref : link.href.head? ≠ some '#') (hhref' : link'.href.head? ≠ some '#')
    (hcut : Cut link.href target anchor) (hcut' : Cut link'.href target' anchor)
    (hplace : (document.directory (ofPath base)).follow ⟨target⟩ =
      (document'.directory (ofPath base')).follow ⟨target'⟩) :
    (⟨base.normalize, document, options⟩ : Session).check fs link =
      (⟨base'.normalize, document', options⟩ : Session).check fs link' := by
  have hpath : (⟨base.normalize, document, options⟩ : Session).documentPath =
      (⟨base'.normalize, document', options⟩ : Session).documentPath := by
    rw [documentPath_eq, documentPath_eq, ← Document.absolutePath_eq, ← Document.absolutePath_eq,
      h.locations]
  rw [check_of_cut base document options hurl hhref hcut,
    check_of_cut base' document' options hurl' hhref' hcut', hplace,
    checkResolved_congr h.bases hpath rfl]

theorem verifyLinks_eq_of_isRespelled (h : IsRespelled base document base' document')
    (habsolute : base.isAbsolute = true) (habsolute' : base'.isAbsolute = true) (fs : FileSystem)
    (options : VerifyOptions) (links : List Link) :
    verifyLinks fs base document links options =
      verifyLinks fs base' document' links options := by
  have hitem : item? fs ⟨base.normalize, document, options⟩ =
      item? fs ⟨base'.normalize, document', options⟩ := by
    funext link
    rw [item?, item?]
    rcases link_cases link with hurl | ⟨anchor, hurl, hhref⟩ | ⟨hurl, hhref⟩
    · rw [check_of_url hurl, check_of_url hurl]
    · rw [check_eq_of_pureAnchor h fs options hurl hurl hhref hhref]
    · obtain ⟨target, anchor, hcut⟩ := exists_cut link.href
      have hplace : (document.directory (ofPath base)).follow ⟨target⟩ =
          (document'.directory (ofPath base')).follow ⟨target⟩ := by
        rw [h.directory_fileName?.1]
      rw [check_eq_of_same_place h fs options hurl hurl hhref hhref hcut hcut hplace]
  rw [verifyLinks_of_isAbsolute fs habsolute, verifyLinks_of_isAbsolute fs habsolute', hitem]

/-- However the base and the document are spelled, an anchor into the document itself is checked
alike, and so are two destinations that lead to one place with one anchor: the outcome is the same
silence, the same verdict or the same failure. In particular the same links give the same items.
-/
theorem check_eq_of_respelled (h : IsRespelled base document base' document')
    (habsolute : base.isAbsolute = true) (habsolute' : base'.isAbsolute = true) (fs : FileSystem)
    (options : VerifyOptions) :
    ∃ s s', start base document options = .ok s ∧ start base' document' options = .ok s' ∧
      (∀ (link link' : Link) (anchor : Text), link.url = none → link'.url = none →
        link.href = '#' :: anchor → link'.href = '#' :: anchor →
        s.check fs link = s'.check fs link') ∧
      (∀ (link link' : Link) (target target' : Text) (anchor : Option Text), link.url = none →
        link'.url = none → link.href.head? ≠ some '#' → link'.href.head? ≠ some '#' →
        Cut link.href target anchor → Cut link'.href target' anchor →
        (document.directory (ofPath base)).follow ⟨target⟩ =
          (document'.directory (ofPath base')).follow ⟨target'⟩ →
        s.check fs link = s'.check fs link') ∧
      ∀ links, verifyLinks fs base document links options =
        verifyLinks fs base' document' links options := by
  refine ⟨_, _, start_of_isAbsolute habsolute document options,
    start_of_isAbsolute habsolute' document' options, ?_, ?_, ?_⟩
  · intro link link' anchor hurl hurl' hhref hhref'
    exact check_eq_of_pureAnchor h fs options hurl hurl' hhref hhref'
  · intro link link' target target' anchor hurl hurl' hhref hhref' hcut hcut' hplace
    exact check_eq_of_same_place h fs options hurl hurl' hhref hhref' hcut hcut' hplace
  · exact verifyLinks_eq_of_isRespelled h habsolute habsolute' fs options

theorem check_eq_from_base_and_from_root :
    let fs : FileSystem := ⟨fun _ => true, fun _ => false, fun _ => .error .noSuchDevice⟩
    let base := Path.ofString "/b"
    let base' := Path.ofString "/x/../b/."
    let document : Document := ⟨.ofString "docs/a.md", "# A".toList⟩
    let document' : Document := ⟨.ofString "/b//docs/./x/../a.md/", "# A".toList⟩
    let target := ".././c.md".toList
    let target' := "/b/c.md".toList
    let failure : CheckError := .unreadable (.ofString "/b/c.md") .noSuchDevice
    IsRespelled base document base' document' ∧
      ∃ s s', start base document {} = .ok s ∧ start base' document' {} = .ok s' ∧
        s.check fs (.relative (target ++ '#' :: "L1".toList)) =
          s'.check fs (.relative (target' ++ '#' :: "L1".toList)) ∧
        s.check fs (.relative (target ++ '#' :: "L1".toList)) = .error failure ∧
        s.check fs (.relative "#b".toList) = s'.check fs (.relative "#b".toList) := by
  intro fs base base' document document' target target' failure
  have h : IsRespelled base document base' document' := by
    constructor <;> decide +kernel
  have habsolute : base.isAbsolute = true := by decide +kernel
  have habsolute' : base'.isAbsolute = true := by decide +kernel
  obtain ⟨s, s', hstart, hstart', hpure, hfile, _⟩ :=
    check_eq_of_respelled h habsolute habsolute' fs {}
  refine ⟨h, s, s', hstart, hstart', ?_, ?_, ?_⟩
  · refine hfile _ _ target target' _ rfl rfl ?_ ?_ (.anchored ?_) (.anchored ?_) ?_
    all_goals decide +kernel
  · obtain rfl := Except.ok.inj ((start_of_isAbsolute habsolute document {}).symm.trans hstart)
    decide +kernel
  · exact hpure _ _ "b".toList rfl rfl rfl rfl

end Session

end DocLinks
