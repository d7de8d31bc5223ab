import DocLinks.Proofs.Path.Names
import DocLinks.Proofs.Text.Utf8
import DocLinks.Proofs.Verify.LastName
import DocLinks.Proofs.Verify.LazyRead

namespace DocLinks

open Place

/-- Where a path leads is a regular file with the given bytes. -/
structure FileSystem.HasFile (fs : FileSystem) (path : Path) (bytes : List UInt8) : Prop where
  present : fs.isPresent path = true
  regular : fs.isDirectory path = false
  bytes : fs.readBytes path = .ok bytes

/-- A document below a base, by its name, with the content of the file at its place. -/
structure Document.IsStored (document : Document) (fs : FileSystem) (base : Path)
    (options : VerifyOptions) : Prop where
  named : isDocumentPath options document.path = true
  below : (document.place (ofPath base)).IsBelow (ofPath base)
  stored : ∃ bytes, fs.HasFile (document.absolutePath base) bytes ∧
    document.content = Utf8.decode bytes

namespace Session

variable {fs : FileSystem} {s : Session}

theorem checkPureAnchor_of_isDocumentPath {document : Document} {options : VerifyOptions}
    (h : isDocumentPath options document.path = true) (base : Path) (anchor : Text) :
    (⟨base, document, options⟩ : Session).checkPureAnchor anchor =
      (checkAnchor .headings anchor document.content options.dialect).error?.map .anchor := by
  rw [isDocumentPath] at h
  rw [checkPureAnchor, checkAnchor, Document.extension?]
  by_cases hanchor : anchor = []
  · rw [if_pos hanchor, if_pos hanchor]
    rfl
  · rw [if_neg hanchor, if_neg hanchor]
    split at h
    next hextension => simp [hextension, h]
    next => simp at h

theorem checkTargetAnchor_of_isDocumentPath {path : Path} {bytes : List UInt8}
    (hfile : fs.HasFile path bytes) (h : isDocumentPath s.options path = true) (anchor : Text) :
    s.checkTargetAnchor fs path anchor =
      .ok ((checkAnchor .headings anchor (Utf8.decode bytes)
        s.options.dialect).error?.map .anchor) := by
  rw [checkTargetAnchor_of_read hfile.regular hfile.bytes, classifyAnchor,
    anchorStrategy_of_isDocumentPath h]

variable {base : Path} {document other : Document} {options : VerifyOptions}

theorem checkResolved_of_isStored (h : document.IsStored fs base options)
    (helsewhere : document.place (ofPath base) ≠ other.place (ofPath base)) (anchor : Text) :
    (⟨base.normalize, other, options⟩ : Session).checkResolved fs
        (document.place (ofPath base)).toPath (some anchor) =
      .ok ((⟨base.normalize, document, options⟩ : Session).checkPureAnchor anchor) := by
  obtain ⟨bytes, hfile, hcontent⟩ := h.stored
  have hdoc := Document.isDocumentPath_absolutePath h.named base
  rw [Document.absolutePath_eq] at hfile hdoc
  rw [checkResolved_of_present (document.isNormal_place base) helsewhere h.below hfile.present,
    checkPureAnchor_of_isDocumentPath h.named, hcontent]
  exact checkTargetAnchor_of_isDocumentPath hfile hdoc anchor

theorem check_of_leads_to_stored (h : document.IsStored fs base options)
    (helsewhere : document.place (ofPath base) ≠ other.place (ofPath base)) {link : Link}
    {target anchor : Text} (hurl : link.url = none) (hhref : link.href.head? ≠ some '#')
    (hcut : Cut link.href target (some anchor))
    (hplace : (other.directory (ofPath base)).follow ⟨target⟩ = document.place (ofPath base)) :
    (⟨base.normalize, other, options⟩ : Session).check fs link =
      .ok ((⟨base.normalize, document, options⟩ : Session).checkPureAnchor anchor) := by
  rw [check_of_cut base other options hurl hhref hcut, hplace,
    checkResolved_of_isStored h helsewhere]

theorem checkPureAnchor_cases (s : Session) (anchor : Text) :
    s.checkPureAnchor anchor = none ∨
      ∃ error, s.checkPureAnchor anchor = some (.anchor error) := by
  rw [checkPureAnchor]
  split
  · exact Or.inr ⟨_, rfl⟩
  · split
    · exact Or.inr ⟨_, rfl⟩
    · split
      · cases (matchHeading anchor s.document.content s.options.dialect).error? with
        | none => exact Or.inl rfl
        | some error => exact Or.inr ⟨error, rfl⟩
      · exact Or.inr ⟨_, rfl⟩

/-- An anchor, whatever it is, checked in a stored document, and the same anchor checked from
elsewhere behind a destination that leads to this document and does not start with the number
sign: both links resolve, or both fail by the same error. -/
theorem own_anchor_agrees_with_file_anchor (h : document.IsStored fs base options)
    (habsolute : base.isAbsolute = true)
    (helsewhere : document.place (ofPath base) ≠ other.place (ofPath base)) {own link : Link}
    {target anchor : Text} (htarget : '#' ∉ target) (hownUrl : own.url = none)
    (hownHref : own.href = '#' :: anchor) (hurl : link.url = none)
    (hhref : link.href = target ++ '#' :: anchor) (hfile : link.href.head? ≠ some '#')
    (hplace : (other.directory (ofPath base)).follow ⟨target⟩ = document.place (ofPath base)) :
    (verifyLinks fs base document [own] options = .ok [] ∧
        verifyLinks fs base other [link] options = .ok []) ∨
      ∃ error,
        verifyLinks fs base document [own] options = .ok [.ok ⟨.anchor error, own⟩] ∧
          verifyLinks fs base other [link] options = .ok [.ok ⟨.anchor error, link⟩] := by
  have hcut : Cut link.href target (some anchor) := hhref ▸ .anchored htarget
  have hown : (⟨base.normalize, document, options⟩ : Session).check fs own =
      .ok ((⟨base.normalize, document, options⟩ : Session).checkPureAnchor anchor) :=
    check_of_pureAnchor hownUrl hownHref
  have hlink := check_of_leads_to_stored h helsewhere hurl hfile hcut hplace
  rcases checkPureAnchor_cases ⟨base.normalize, document, options⟩ anchor with
    hnone | ⟨error, herror⟩
  · left
    rw [verifyLinks_singleton_eq_nil_iff habsolute, verifyLinks_singleton_eq_nil_iff habsolute,
      hown, hlink, hnone]
    exact ⟨rfl, rfl⟩
  · right
    refine ⟨error, ?_⟩
    rw [verifyLinks_singleton_eq_verdict_iff habsolute,
      verifyLinks_singleton_eq_verdict_iff habsolute, hown, hlink, herror]
    exact ⟨rfl, rfl⟩

theorem file_anchor_found_as_own_anchor :
    let base := Path.ofString "/b"
    let content := "# A".toList
    let fs : FileSystem := ⟨fun path => path == .ofString "/b/docs/q.md", fun _ => false,
      fun _ => .ok (Utf8.encode content)⟩
    let document : Document := ⟨.ofString "docs/../docs/q.md", content⟩
    let other : Document := ⟨.ofString "/b/notes/p.txt", []⟩
    let target := ".././x/..//docs/q.md/.".toList
    let own := Link.relative "#a".toList
    let link := Link.relative (target ++ '#' :: "a".toList)
    document.IsStored fs base {} ∧ verifyLinks fs base document [own] {} = .ok [] ∧
      verifyLinks fs base other [link] {} = .ok [] := by
  intro base content fs document other target own link
  have hstored : document.IsStored fs base {} := by
    refine ⟨by decide +kernel, by decide +kernel, Utf8.encode content, ?_, by decide +kernel⟩
    constructor <;> decide +kernel
  have habsolute : base.isAbsolute = true := by decide +kernel
  have helsewhere : document.place (ofPath base) ≠ other.place (ofPath base) := by
    decide +kernel
  have htarget : '#' ∉ target := by decide +kernel
  have hfile : link.href.head? ≠ some '#' := by decide +kernel
  have hplace : (other.directory (ofPath base)).follow ⟨target⟩ = document.place (ofPath base) := by
    decide +kernel
  have hown : verifyLinks fs base document [own] {} = .ok [] := by decide +kernel
  have hownUrl : own.url = none := rfl
  have hownHref : own.href = '#' :: "a".toList := by decide
  have hurl : link.url = none := rfl
  have hhref : link.href = target ++ '#' :: "a".toList := rfl
  rcases own_anchor_agrees_with_file_anchor hstored habsolute helsewhere htarget hownUrl hownHref
    hurl hhref hfile hplace with ⟨_, hlink⟩ | ⟨error, herror, _⟩
  · exact ⟨hstored, hown, hlink⟩
  · exact absurd (hown.symm.trans herror) (by simp)

section Names

variable {names : List Text} {content : Text}

theorem place_ofNames (hnames : ∀ part ∈ names, IsName part) (content : Text) (base : Place) :
    (⟨.ofNames names, content⟩ : Document).place base = base ++ names.map .name := by
  rw [Document.place, follow, components_ofNames hnames, steps_names]

theorem place_ofNames_inj {others : List Text} (hnames : ∀ part ∈ names, IsName part)
    (hothers : ∀ part ∈ others, IsName part) {content text : Text} {base : Place} :
    (⟨.ofNames names, content⟩ : Document).place base =
        (⟨.ofNames others, text⟩ : Document).place base ↔ names = others := by
  rw [place_ofNames hnames, place_ofNames hothers, List.append_right_inj]
  exact List.map_inj_right fun _ _ h => Path.Component.name.inj h

theorem directory_ofNames {directories : List Text} {name : Text}
    (hnames : ∀ part ∈ directories ++ [name], IsName part) (content : Text) (base : Place) :
    (⟨.ofNames (directories ++ [name]), content⟩ : Document).directory base =
      base ++ directories.map .name := by
  rw [Document.directory, components_ofNames hnames, List.map_append, List.map_singleton,
    List.dropLast_concat, steps_names]

theorem ne_nil_of_isDocumentPath (h : isDocumentPath options (.ofNames names) = true) :
    names ≠ [] := by
  rintro rfl
  obtain ⟨part, hpart⟩ := exists_fileName?_of_isDocumentPath h
  exact absurd hpart (by simp [Path.ofNames, Text.join, Path.fileName?, Path.components_eq,
    Path.start])

theorem isStored_ofNames (hnames : ∀ part ∈ names, IsName part)
    (hdoc : isDocumentPath options (.ofNames names) = true)
    (hfile : fs.HasFile (base.join (.ofNames names)).normalize (Utf8.encode content)) :
    (⟨.ofNames names, content⟩ : Document).IsStored fs base options := by
  refine ⟨hdoc, ?_, Utf8.encode content, hfile, (Utf8.decode_encode content).symm⟩
  rw [place_ofNames hnames]
  refine ⟨List.prefix_append _ _, ?_⟩
  simpa using ne_nil_of_isDocumentPath hdoc

/-- Every heading of a document that lies at some names below the base is addressable: from any
other document below the base by climbing out of its directories and going down the names, and
from within by the anchor alone. -/
theorem heading_addressable_from_everywhere (habsolute : base.isAbsolute = true)
    {directories : List Text} {name : Text}
    (hother : ∀ part ∈ directories ++ [name], IsName part)
    (hnames : ∀ part ∈ names, IsName part ∧ '#' ∉ part) (hne : directories ++ [name] ≠ names)
    (hdoc : isDocumentPath options (.ofNames names) = true)
    (hfile : fs.HasFile (base.join (.ofNames names)).normalize (Utf8.encode content))
    {heading : Heading}
    (hheading : heading ∈ scanForHeadings ⟨.ofNames names, content⟩ options.scanOptions)
    (hanchor : heading.anchor ≠ []) :
    (∀ (text : Text) (link : Link),
      link.href = Path.climbing directories.length names ++ '#' :: heading.anchor →
      verifyLinks fs base ⟨.ofNames (directories ++ [name]), text⟩ [link] options = .ok []) ∧
    ∀ link : Link, link.href = '#' :: heading.anchor →
      verifyLinks fs base ⟨.ofNames names, content⟩ [link] options = .ok [] := by
  have hparts : ∀ part ∈ names, IsName part := fun part hpart => (hnames part hpart).1
  have hstored := isStored_ofNames hparts hdoc hfile
  have hpure : (⟨base.normalize, ⟨.ofNames names, content⟩, options⟩ : Session).checkPureAnchor
      heading.anchor = none :=
    checkPureAnchor_eq_none.mpr ⟨hanchor, hdoc, heading, hheading, rfl⟩
  constructor
  · intro text link hhref
    rw [verifyLinks_singleton_eq_nil_iff habsolute]
    by_cases hurl : link.url = none
    · have hcut : Cut link.href (Path.climbing directories.length names) (some heading.anchor) :=
        hhref ▸ .anchored (Path.notMem_climbing (by decide) (by decide) _
          fun part hpart => (hnames part hpart).2)
      rw [check_of_leads_to_stored hstored ?_ hurl ?_ hcut ?_, hpure]
      · rw [ne_eq, place_ofNames_inj hparts hother]
        exact hne.symm
      · rw [hhref]
        simp [Path.climbing]
      · rw [directory_ofNames hother, place_ofNames hparts, follow_climbing _ _ hparts]
    · exact check_of_url hurl
  · intro link hhref
    rw [verifyLinks_singleton_eq_nil_iff habsolute]
    by_cases hurl : link.url = none
    · rw [check_of_pureAnchor hurl hhref, hpure]
    · exact check_of_url hurl

theorem heading_addressable_from_two_directories_down :
    let base := Path.ofString "/b/x/.."
    let content := "# A".toList
    let fs : FileSystem := ⟨fun path => path == .ofString "/b/docs/q.md", fun _ => false,
      fun _ => .ok (Utf8.encode content)⟩
    let names := ["docs".toList, "q.md".toList]
    let directories := ["notes".toList, "old".toList]
    base.isAbsolute = true ∧
      fs.HasFile (base.join (.ofNames names)).normalize (Utf8.encode content) ∧
      verifyLinks fs base ⟨.ofNames (directories ++ ["p.md".toList]), []⟩
        [.relative "./../../docs/q.md#a".toList] {} = .ok [] ∧
      verifyLinks fs base ⟨.ofNames names, content⟩ [.relative "#a".toList] {} = .ok [] := by
  intro base content fs names directories
  have habsolute : base.isAbsolute = true := by decide +kernel
  have hfile : fs.HasFile (base.join (.ofNames names)).normalize (Utf8.encode content) := by
    constructor <;> decide +kernel
  have hnames : ∀ part ∈ names, IsName part ∧ '#' ∉ part := by
    simp only [isName_iff]
    decide +kernel
  have hother : ∀ part ∈ directories ++ ["p.md".toList], IsName part := by
    simp only [isName_iff]
    decide +kernel
  obtain ⟨heading, hheading, hanchor⟩ :
      ∃ heading ∈ scanForHeadings ⟨.ofNames names, content⟩ (VerifyOptions.scanOptions {}),
        heading.anchor = "a".toList := by
    decide +kernel
  obtain ⟨hfrom, hwithin⟩ := heading_addressable_from_everywhere habsolute hother hnames
    (by decide +kernel) (by decide +kernel) hfile hheading (by rw [hanchor]; decide)
  refine ⟨habsolute, hfile, hfrom [] _ ?_, hwithin _ ?_⟩
  · rw [hanchor]
    decide +kernel
  · rw [hanchor]
    rfl

end Names

end Session

end DocLinks
