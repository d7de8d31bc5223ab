import DocLinks.Proofs.Path.Join
import DocLinks.Proofs.Verify.AnchorError
import DocLinks.Proofs.Verify.LastName

namespace DocLinks

open Place

namespace Path

theorem fileName?_eq_some_iff {p : Path} {part : Text} :
    p.fileName? = some part ↔ p.components.getLast? = some (.name part) := by
  constructor
  · intro h
    rw [components_of_fileName? h, List.getLast?_concat]
  · intro h
    rw [fileName?, h]

theorem isPlainText_congr {p q : Path} (h : p.fileName? = q.fileName?) :
    p.isPlainText = q.isPlainText := by
  rw [isPlainText, isPlainText, h]

theorem isName_of_fileName? {p : Path} {part : Text} (h : p.fileName? = some part) :
    IsName part := by
  have hmem : Component.name part ∈ p.start.toList ++ named p.text := by
    rw [← components_eq]
    exact List.mem_of_getLast? (fileName?_eq_some_iff.mp h)
  rcases List.mem_append.mp hmem with hstart | hnamed
  · rcases start_cases p with ⟨_, _, heq⟩ | ⟨_, heq⟩ | ⟨_, _, heq⟩ | ⟨_, heq⟩ <;>
      simp [heq] at hstart
  · rcases isInner_of_mem_named hnamed with hparent | ⟨other, hother, heq⟩
    · simp at hparent
    · rwa [Component.name.inj heq]

theorem fileName?_of_isName {part : Text} (h : IsName part) :
    (⟨part⟩ : Path).fileName? = some part := by
  have hnames : ∀ other ∈ [part], IsName other := List.forall_mem_singleton.mpr h
  have hcomponents : (⟨part⟩ : Path).components = [.name part] := components_ofNames hnames
  rw [fileName?_eq_some_iff, hcomponents]
  rfl

end Path

theorem anchorStrategy_congr {p q : Path} (h : p.fileName? = q.fileName?)
    (options : VerifyOptions) : anchorStrategy p options = anchorStrategy q options := by
  rw [anchorStrategy, anchorStrategy, Path.extension?_congr h, Path.isPlainText_congr h]

theorem anchorStrategy_eq_headings_iff {p : Path} {options : VerifyOptions} :
    anchorStrategy p options = .headings ↔ isDocumentPath options p = true := by
  have hnames := anchorStrategy_names p options
  cases hstrategy : anchorStrategy p options <;> simp_all

namespace Document

variable {document : Document} {part : Text}

theorem absolutePath_of_fileName? (h : document.path.fileName? = some part) (base : Path) :
    document.absolutePath base = (base.join document.dirname).normalize.join ⟨part⟩ := by
  have hnormal : IsNormal (document.directory (ofPath base)) := by
    rw [directory_eq]
    exact (isNormal_ofPath base).follow _
  have hinner : IsInner (.name part) := Or.inr ⟨part, Path.isName_of_fileName? h, rfl⟩
  rw [absolutePath_eq, place_of_fileName? h, ← push_toPath hnormal hinner, directory_eq,
    normalize_join]
  rfl

theorem fileName?_normalize (h : document.path.fileName? = some part) :
    document.path.normalize.fileName? = some part := by
  have hempty : (⟨[]⟩ : Path).join document.path = document.path := by
    rw [Path.join, Path.push]
    split <;> rfl
  have hname := fileName?_absolutePath h ⟨[]⟩
  rwa [absolutePath, hempty] at hname

theorem checkPureAnchor_eq_noAnchorsInFiletype_iff (base : Path) (options : VerifyOptions)
    {anchor : Text} (hanchor : anchor ≠ []) :
    (⟨base, document, options⟩ : Session).checkPureAnchor anchor =
        some (.anchor .noAnchorsInFiletype) ↔
      isDocumentPath options document.path = false := by
  rw [Session.checkPureAnchor, if_neg hanchor, isDocumentPath, extension?]
  cases hextension : document.path.extension? with
  | none => simp
  | some extension =>
      cases hdoc : options.isDocExtension extension with
      | false => simp [hdoc]
      | true =>
          cases herror : (matchHeading anchor document.content options.dialect).error? with
          | none => simp
          | some error => simp [(error?_matchHeading_eq_some herror).1]

/-- However the path of a file is written, when its last component is a name the location of the
file ends in that name, and the name by itself tells the type: the extension, whether it is plain
text, and how anchors are resolved are the same for the path as it is given, for its normal form,
for the location, and for the bare name. So a batch keeps the file, its own anchors are looked for
among headings, and the anchors of links to it are, in the same cases. -/
theorem type_of_last_name (h : document.path.components.getLast? = some (.name part))
    (base : Path) (options : VerifyOptions) :
    let location := document.absolutePath base
    let name : Path := ⟨part⟩
    location.components.getLast? = some (.name part) ∧
      location = (base.join document.dirname).normalize.join name ∧
      (∀ p ∈ [document.path, document.path.normalize, location],
        p.extension? = name.extension? ∧ p.isPlainText = name.isPlainText ∧
          anchorStrategy p options = anchorStrategy name options) ∧
      isDocumentPath options document.path = isDocumentPath options name ∧
      (∀ (start : Path) (anchor : Text), anchor ≠ [] →
        ((⟨start, document, options⟩ : Session).checkPureAnchor anchor =
            some (.anchor .noAnchorsInFiletype) ↔
          isDocumentPath options name = false)) ∧
      ∀ (other : Session) (target : Text), other.resolve target = location →
        anchorStrategy (other.resolve target) options = anchorStrategy name options ∧
          (anchorStrategy (other.resolve target) options = .headings ↔
            isDocumentPath options name = true) := by
  intro location name
  have hpath : document.path.fileName? = some part := Path.fileName?_eq_some_iff.mpr h
  have hlocation : location.fileName? = some part := fileName?_absolutePath hpath base
  have hname : name.fileName? = some part :=
    Path.fileName?_of_isName (Path.isName_of_fileName? hpath)
  have hnames : ∀ p ∈ [document.path, document.path.normalize, location],
      p.fileName? = name.fileName? := by
    simp [hname, hpath, hlocation, fileName?_normalize hpath]
  have hdocument : isDocumentPath options document.path = isDocumentPath options name :=
    isDocumentPath_congr (hpath.trans hname.symm)
  refine ⟨Path.fileName?_eq_some_iff.mp hlocation, absolutePath_of_fileName? hpath base, ?_,
    hdocument, ?_, ?_⟩
  · intro p hp
    have hp := hnames p hp
    exact ⟨Path.extension?_congr hp, Path.isPlainText_congr hp, anchorStrategy_congr hp options⟩
  · intro start anchor hanchor
    rw [checkPureAnchor_eq_noAnchorsInFiletype_iff start options hanchor, hdocument]
  · intro other target hresolve
    have hstrategy : anchorStrategy location options = anchorStrategy name options :=
      anchorStrategy_congr (hlocation.trans hname.symm) options
    rw [hresolve, hstrategy]
    exact ⟨rfl, anchorStrategy_eq_headings_iff⟩

theorem type_of_last_name_behind_spare_separators :
    let document : Document := ⟨.ofString "../b/./docs//guide.md/./", []⟩
    let other : Session := ⟨.ofString "/b", ⟨.ofString "notes/a.txt", []⟩, {}⟩
    let location := document.absolutePath (.ofString "/b")
    document.path.components.getLast? = some (.name "guide.md".toList) ∧
      location ∈ [document.path, document.path.normalize, location] ∧
      location.extension? = (Path.ofString "guide.md").extension? ∧
      "own".toList ≠ [] ∧
      (⟨.ofString "/", document, {}⟩ : Session).checkPureAnchor "own".toList ≠
        some (.anchor .noAnchorsInFiletype) ∧
      other.resolve "../docs/x/../guide.md".toList = location ∧
      anchorStrategy (other.resolve "../docs/x/../guide.md".toList) {} = .headings := by
  intro document other location
  have hlast : document.path.components.getLast? = some (.name "guide.md".toList) := by
    decide +kernel
  have hmem : location ∈ [document.path, document.path.normalize, location] := by simp
  have hanchor : "own".toList ≠ [] := by decide
  have hresolve : other.resolve "../docs/x/../guide.md".toList = location := by decide +kernel
  have hdocument : isDocumentPath {} (.ofString "guide.md") = true := by decide +kernel
  obtain ⟨_, _, htypes, _, hown, hother⟩ := type_of_last_name hlast (.ofString "/b") {}
  refine ⟨hlast, hmem, (htypes location hmem).1, hanchor, ?_, hresolve, ?_⟩
  · rw [ne_eq, hown (.ofString "/") _ hanchor, Bool.not_eq_false]
    exact hdocument
  · exact (hother other _ hresolve).2.mpr hdocument

end Document

end DocLinks
