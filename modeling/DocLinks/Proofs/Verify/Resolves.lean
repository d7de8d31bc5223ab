import DocLinks.Batch
import DocLinks.Proofs.Anchor.LinePointer
import DocLinks.Proofs.Verify.Check
import DocLinks.Proofs.Verify.Location

/-!
Which links resolve, said without the order in which they are checked. A link resolves by an
absolute address, by a heading of its own document, or by a file below the base and an anchor in
it; the check of a link is silent on those and on no others.
-/

namespace DocLinks

def HasHeading (dialect : Dialect) (content anchor : Text) : Prop :=
  ∃ heading ∈ headingsIn dialect content, heading.anchor = anchor

/-- Whether an anchor leads somewhere in the file at a path: to a heading of a document, or to
lines of another text file. -/
inductive LeadsInto (fs : FileSystem) (options : VerifyOptions) (path : Path) (anchor : Text) : Prop
  | heading {bytes : List UInt8} :
      isDocumentPath options path = true →
      fs.readBytes path = .ok bytes →
      HasHeading options.dialect (Utf8.decode bytes) anchor →
      LeadsInto fs options path anchor
  | lines {bytes : List UInt8} {pointer : LinePointer} :
      isDocumentPath options path = false →
      path.isPlainText = true →
      fs.readBytes path = .ok bytes →
      pointer.Written anchor →
      pointer.Within ((Utf8.decode bytes).count '\n') →
      LeadsInto fs options path anchor

/-- Links of a document that resolve below a base. -/
inductive Resolves (fs : FileSystem) (base : Place) (document : Document) (options : VerifyOptions)
    (link : Link) : Prop
  | url : link.url ≠ none → Resolves fs base document options link
  | heading {anchor : Text} :
      link.url = none →
      link.href = '#' :: anchor →
      anchor ≠ [] →
      isDocumentPath options document.path = true →
      HasHeading options.dialect document.content anchor →
      Resolves fs base document options link
  | file {target : Text} {anchor : Option Text} {place : Place} :
      link.url = none →
      link.href.head? ≠ some '#' →
      Cut link.href target anchor →
      place = (document.directory base).follow ⟨target⟩ →
      place ≠ document.place base →
      place.IsBelow base →
      fs.isPresent place.toPath = true →
      (∀ a ∈ anchor, a ≠ [] ∧ fs.isDirectory place.toPath = false ∧
        LeadsInto fs options place.toPath a) →
      Resolves fs base document options link

/-- The contents of readable files have fewer bytes than the largest number of a line. -/
def FileSystem.HasShortFiles (fs : FileSystem) : Prop :=
  ∀ path bytes, fs.readBytes path = .ok bytes →
    Text.utf8Length (Utf8.decode bytes) < 0xFFFFFFFFFFFFFFFF

theorem count_newline_lt {fs : FileSystem} (h : fs.HasShortFiles) {path : Path}
    {bytes : List UInt8} (hbytes : fs.readBytes path = .ok bytes) :
    (Utf8.decode bytes).count '\n' < LinePointer.maxLine := by
  calc (Utf8.decode bytes).count '\n'
      ≤ (Utf8.decode bytes).length := List.count_le_length
    _ ≤ Text.utf8Length (Utf8.decode bytes) := Text.length_le_utf8Length _
    _ < LinePointer.maxLine := h path bytes hbytes

theorem error?_matchHeading_eq_none {anchor content : Text} {dialect : Dialect} :
    (matchHeading anchor content dialect).error? = none ↔ HasHeading dialect content anchor := by
  rw [matchHeading]
  split
  next hany => simpa [AnchorOutcome.error?, HasHeading] using hany
  next hany => simpa [AnchorOutcome.error?, HasHeading] using hany

theorem error?_matchLinePointer_eq_none {anchor content : Text}
    (h : content.count '\n' < LinePointer.maxLine) :
    (matchLinePointer anchor content).error? = none ↔
      ∃ p : LinePointer, p.Written anchor ∧ p.Within (content.count '\n') := by
  rw [← LinePointer.isSuccess_matchLinePointer_iff h, AnchorOutcome.isSuccess,
    Option.isNone_iff_eq_none]

theorem any_textExtensions_nil :
    (textExtensions.any fun known => Text.eqIgnoreAsciiCase known.toList []) = false := by
  decide +kernel

theorem Path.extension?_ne_none_of_isPlainText {p : Path} (h : p.isPlainText = true) :
    p.extension? ≠ none := by
  intro hnone
  rw [Path.isPlainText] at h
  rw [Path.extension?] at hnone
  cases hafter : p.fileName?.bind Path.extensionOfName with
  | none => simp [hafter] at h
  | some after =>
      cases after with
      | nil => simp [hafter, any_textExtensions_nil] at h
      | cons c after => simp [hafter] at hnone

theorem anchorStrategy_names (p : Path) (options : VerifyOptions) :
    match anchorStrategy p options with
    | .undiscoverable =>
        p.extension? = none ∧ isDocumentPath options p = false ∧ p.isPlainText = false
    | .headings => p.extension? ≠ none ∧ isDocumentPath options p = true
    | .linePointers =>
        p.extension? ≠ none ∧ isDocumentPath options p = false ∧ p.isPlainText = true
    | .binary =>
        p.extension? ≠ none ∧ isDocumentPath options p = false ∧ p.isPlainText = false := by
  cases htext : p.isPlainText with
  | true =>
      obtain ⟨extension, hextension⟩ :=
        Option.ne_none_iff_exists'.mp (Path.extension?_ne_none_of_isPlainText htext)
      cases hdoc : options.isDocExtension extension <;>
        simp [anchorStrategy, isDocumentPath, hextension, hdoc, htext]
  | false =>
      cases hextension : p.extension? with
      | none => simp [anchorStrategy, isDocumentPath, hextension]
      | some extension =>
          cases hdoc : options.isDocExtension extension <;>
            simp [anchorStrategy, isDocumentPath, hextension, hdoc, htext]

theorem anchorStrategy_cases (path : Path) (options : VerifyOptions) :
    (anchorStrategy path options = .headings ∧ isDocumentPath options path = true) ∨
      (anchorStrategy path options = .linePointers ∧ isDocumentPath options path = false ∧
        path.isPlainText = true) ∨
      ((anchorStrategy path options).needsContent = false ∧ isDocumentPath options path = false ∧
        path.isPlainText = false) := by
  have hnames := anchorStrategy_names path options
  cases hstrategy : anchorStrategy path options <;> simp_all [AnchorStrategy.needsContent]

theorem error?_checkAnchor_ne_none {strategy : AnchorStrategy} {anchor content : Text}
    {dialect : Dialect} (h : strategy.needsContent = false) :
    (checkAnchor strategy anchor content dialect).error? ≠ none := by
  unfold checkAnchor
  split
  · simp [AnchorOutcome.error?]
  · cases strategy <;> simp_all [AnchorStrategy.needsContent, AnchorOutcome.error?]

theorem leadsInto_iff {fs : FileSystem} (hshort : fs.HasShortFiles) {options : VerifyOptions}
    {path : Path} {anchor : Text} (hanchor : anchor ≠ []) :
    LeadsInto fs options path anchor ↔
      (anchorStrategy path options).needsContent = true ∧
        ∃ bytes, fs.readBytes path = .ok bytes ∧
          (checkAnchor (anchorStrategy path options) anchor (Utf8.decode bytes)
            options.dialect).error? = none := by
  simp only [checkAnchor, if_neg hanchor]
  rcases anchorStrategy_cases path options with ⟨hstrategy, hdoc⟩ | ⟨hstrategy, hdoc, htext⟩ |
    ⟨hcontent, hdoc, htext⟩
  · simp only [hstrategy, error?_matchHeading_eq_none]
    constructor
    · rintro (⟨_, hbytes, hheading⟩ | ⟨hnodoc, _, _, _, _⟩)
      · exact ⟨rfl, _, hbytes, hheading⟩
      · simp [hdoc] at hnodoc
    · rintro ⟨_, bytes, hbytes, hheading⟩
      exact .heading hdoc hbytes hheading
  · simp only [hstrategy]
    constructor
    · rintro (⟨hisdoc, _, _⟩ | ⟨_, _, hbytes, hwritten, hwithin⟩)
      · simp [hdoc] at hisdoc
      · refine ⟨rfl, _, hbytes, ?_⟩
        rw [error?_matchLinePointer_eq_none (count_newline_lt hshort hbytes)]
        exact ⟨_, hwritten, hwithin⟩
    · rintro ⟨_, bytes, hbytes, hlines⟩
      rw [error?_matchLinePointer_eq_none (count_newline_lt hshort hbytes)] at hlines
      obtain ⟨p, hwritten, hwithin⟩ := hlines
      exact .lines hdoc htext hbytes hwritten hwithin
  · rw [hcontent]
    simp only [Bool.false_eq_true, false_and, iff_false]
    rintro (⟨hisdoc, _, _⟩ | ⟨_, histext, _, _, _⟩)
    · simp [hdoc] at hisdoc
    · simp [htext] at histext

namespace Session

variable {fs : FileSystem} {s : Session}

theorem checkPureAnchor_eq_none {anchor : Text} :
    s.checkPureAnchor anchor = none ↔
      anchor ≠ [] ∧ isDocumentPath s.options s.document.path = true ∧
        HasHeading s.options.dialect s.document.content anchor := by
  rw [checkPureAnchor, isDocumentPath, Document.extension?]
  by_cases hanchor : anchor = []
  · simp [hanchor]
  · rw [if_neg hanchor]
    cases s.document.path.extension? with
    | none => simp
    | some extension =>
        cases hdoc : s.options.isDocExtension extension with
        | true => simp [hanchor, hdoc, error?_matchHeading_eq_none]
        | false => simp [hdoc]

theorem checkTargetAnchor_of_file {path : Path} {anchor : Text} (hanchor : anchor ≠ [])
    (hfile : fs.isDirectory path = false) :
    s.checkTargetAnchor fs path anchor =
      if (anchorStrategy path s.options).needsContent then
        match fs.readBytes path with
        | .ok bytes =>
            .ok ((checkAnchor (anchorStrategy path s.options) anchor (Utf8.decode bytes)
              s.options.dialect).error?.map .anchor)
        | .error failure => .error (.unreadable path failure)
      else
        .ok ((checkAnchor (anchorStrategy path s.options) anchor []
          s.options.dialect).error?.map .anchor) := by
  rw [checkTargetAnchor, if_neg hanchor, hfile]
  simp only [Bool.false_eq_true, if_false, read_eq]
  cases fs.readBytes path <;> rfl

theorem checkTargetAnchor_eq_none (hshort : fs.HasShortFiles) {path : Path} {anchor : Text} :
    s.checkTargetAnchor fs path anchor = .ok none ↔
      anchor ≠ [] ∧ fs.isDirectory path = false ∧ LeadsInto fs s.options path anchor := by
  by_cases hanchor : anchor = []
  · simp [checkTargetAnchor, hanchor]
  cases hfile : fs.isDirectory path with
  | true => simp [checkTargetAnchor, hanchor, hfile]
  | false =>
      rw [checkTargetAnchor_of_file hanchor hfile, leadsInto_iff hshort hanchor]
      cases hcontent : (anchorStrategy path s.options).needsContent with
      | true =>
          cases hbytes : fs.readBytes path with
          | ok bytes => simp [hanchor]
          | error failure => simp [hanchor]
      | false => simp [error?_checkAnchor_ne_none hcontent]

theorem checkResolved_eq_none (hshort : fs.HasShortFiles) {path : Path} {anchor : Option Text} :
    s.checkResolved fs path anchor = .ok none ↔
      s.locate path = none ∧ fs.isPresent path = true ∧
        ∀ a ∈ anchor, a ≠ [] ∧ fs.isDirectory path = false ∧ LeadsInto fs s.options path a := by
  unfold checkResolved
  cases hlocate : s.locate path with
  | some error => simp
  | none =>
      cases hpresent : fs.isPresent path with
      | false => simp
      | true =>
          cases anchor with
          | none => simp
          | some anchor => simpa using checkTargetAnchor_eq_none hshort

/-- The check of a link below an absolute base tells nothing exactly when the link resolves, and
so the verification of some links tells nothing exactly when all of them do. -/
theorem item?_eq_none_iff_resolves {fs : FileSystem} {base : Path}
    (habsolute : base.isAbsolute = true) (hshort : fs.HasShortFiles) (document : Document)
    (options : VerifyOptions) :
    ∃ s, start base document options = .ok s ∧
      (∀ link, s.item? fs link = none ↔
        Resolves fs (Place.ofPath base) document options link) ∧
      ∀ links, verifyLinks fs base document links options = .ok [] ↔
        ∀ link ∈ links, Resolves fs (Place.ofPath base) document options link := by
  have hstart := start_of_isAbsolute habsolute document options
  suffices hitem : ∀ link, item? fs ⟨base.normalize, document, options⟩ link = none ↔
      Resolves fs (Place.ofPath base) document options link by
    refine ⟨_, hstart, hitem, ?_⟩
    intro links
    rw [verifyLinks, hstart]
    change Except.ok _ = Except.ok _ ↔ _
    rw [Except.ok.injEq, items_eq_filterMap, List.filterMap_eq_nil_iff]
    simp only [hitem]
  intro link
  rw [item?_eq_none_iff]
  constructor
  · intro hcheck
    rcases link_cases link with hurl | ⟨anchor, hurl, hhref⟩ | ⟨hurl, hhref⟩
    · exact .url hurl
    · rw [check_of_pureAnchor hurl hhref, Except.ok.injEq, checkPureAnchor_eq_none] at hcheck
      obtain ⟨hanchor, hdoc, hheading⟩ := hcheck
      exact .heading hurl hhref hanchor hdoc hheading
    · obtain ⟨target, anchor, hcut⟩ := exists_cut link.href
      rw [check_of_file hurl hhref, checkFileLink_of_cut hcut, checkResolved_eq_none hshort,
        resolve_eq base document options target,
        locate_toPath_eq_none (isNormal_directory_follow base document ⟨target⟩)] at hcheck
      obtain ⟨⟨hdocument, hbelow⟩, hpresent, hanchor⟩ := hcheck
      exact .file hurl hhref hcut rfl hdocument hbelow hpresent hanchor
  · rintro (hurl | ⟨hurl, hhref, hanchor, hdoc, hheading⟩ |
      @⟨target, anchor, _, hurl, hhref, hcut, rfl, hdocument, hbelow, hpresent, hanchor⟩)
    · exact check_of_url hurl
    · rw [check_of_pureAnchor hurl hhref, Except.ok.injEq, checkPureAnchor_eq_none]
      exact ⟨hanchor, hdoc, hheading⟩
    · rw [check_of_file hurl hhref, checkFileLink_of_cut hcut, checkResolved_eq_none hshort,
        resolve_eq base document options target,
        locate_toPath_eq_none (isNormal_directory_follow base document ⟨target⟩)]
      exact ⟨⟨hdocument, hbelow⟩, hpresent, hanchor⟩

theorem resolves_second_line :
    let fs : FileSystem :=
      ⟨fun path => path == .ofString "/b/main.c", fun _ => false, fun _ => .ok [97, 10, 98, 10]⟩
    let base := Path.ofString "/b/."
    let document : Document := ⟨.ofString "notes/a.md", []⟩
    base.isAbsolute = true ∧ fs.HasShortFiles ∧
      Resolves fs (Place.ofPath base) document {} (.relative "../main.c#L1-L2=".toList) ∧
      ¬ Resolves fs (Place.ofPath base) document {} (.relative "../main.c#L3".toList) := by
  intro fs base document
  have habsolute : base.isAbsolute = true := by decide +kernel
  have hshort : fs.HasShortFiles := by
    intro path bytes hbytes
    obtain rfl : [97, 10, 98, 10] = bytes := Except.ok.inj hbytes
    decide +kernel
  obtain ⟨s, hstart, hresolves, _⟩ := item?_eq_none_iff_resolves habsolute hshort document {}
  obtain rfl := Except.ok.inj ((start_of_isAbsolute habsolute document {}).symm.trans hstart)
  refine ⟨habsolute, hshort, (hresolves _).mp ?_, fun h => absurd ((hresolves _).mpr h) ?_⟩
  · decide +kernel
  · decide +kernel

end Session

end DocLinks
