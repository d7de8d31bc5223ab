import DocLinks.Proofs.Verify.Resolves
import Mathlib.Data.List.Basic

/-!
Reading a target late. The content of a target is read only where its name says that anchors are
looked up in it, and an anchor into anything else comes to the same end whatever the content is.
So what is told of an anchor is what its classification in the whole file tells, and files that
are not looked into may be unreadable without being noticed.
-/

namespace DocLinks

/-- What is to be told of a link with an anchor of this outcome. -/
def AnchorOutcome.items (outcome : AnchorOutcome) (link : Link) :
    List (Except CheckError LinkError) :=
  (outcome.error?.map fun error => .ok ⟨.anchor error, link⟩).toList

/-- Two file systems that differ at most in the bytes of files that no anchor is looked up in. -/
structure FileSystem.AgreeWhereRead (options : VerifyOptions) (fs other : FileSystem) : Prop where
  present : ∀ path, fs.isPresent path = other.isPresent path
  directory : ∀ path, fs.isDirectory path = other.isDirectory path
  bytes : ∀ path, (anchorStrategy path options).needsContent = true →
    fs.readBytes path = other.readBytes path

variable {fs : FileSystem} {options : VerifyOptions} {path : Path} {anchor : Text}

theorem AnchorStrategy.needsContent_eq_false_iff {strategy : AnchorStrategy} :
    strategy.needsContent = false ↔ strategy = .undiscoverable ∨ strategy = .binary := by
  cases strategy <;> simp [needsContent]

theorem needsContent_anchorStrategy_iff :
    (anchorStrategy path options).needsContent = true ↔
      isDocumentPath options path = true ∨ path.isPlainText = true := by
  have hnames := anchorStrategy_names path options
  cases hstrategy : anchorStrategy path options <;> simp_all [AnchorStrategy.needsContent]

theorem checkAnchor_of_not_needsContent {strategy : AnchorStrategy}
    (h : anchor = [] ∨ strategy.needsContent = false) (content other : Text) (dialect : Dialect) :
    checkAnchor strategy anchor content dialect = checkAnchor strategy anchor other dialect := by
  unfold checkAnchor
  split
  · rfl
  next hanchor =>
    rcases AnchorStrategy.needsContent_eq_false_iff.mp (h.resolve_left hanchor) with rfl | rfl
    · rfl
    · rfl

namespace Session

variable {s : Session}

theorem checkTargetAnchor_of_read (hfile : fs.isDirectory path = false) {bytes : List UInt8}
    (hbytes : fs.readBytes path = .ok bytes) (anchor : Text) :
    s.checkTargetAnchor fs path anchor =
      .ok ((classifyAnchor ⟨path, Utf8.decode bytes⟩ anchor s.options).error?.map .anchor) := by
  by_cases hanchor : anchor = []
  · simp [checkTargetAnchor, classifyAnchor, checkAnchor, hanchor, AnchorOutcome.error?]
  rw [checkTargetAnchor_of_file hanchor hfile, hbytes, classifyAnchor]
  split
  next => rfl
  next hcontent =>
    have hunread : (anchorStrategy path s.options).needsContent = false := by simpa using hcontent
    rw [checkAnchor_of_not_needsContent (Or.inr hunread) []]

theorem checkTargetAnchor_of_unread (hfile : fs.isDirectory path = false)
    (h : anchor = [] ∨ (anchorStrategy path s.options).needsContent = false) (content : Text) :
    s.checkTargetAnchor fs path anchor =
      .ok ((classifyAnchor ⟨path, content⟩ anchor s.options).error?.map .anchor) := by
  by_cases hanchor : anchor = []
  · simp [checkTargetAnchor, classifyAnchor, checkAnchor, hanchor, AnchorOutcome.error?]
  · have hunread := h.resolve_left hanchor
    rw [checkTargetAnchor_of_file hanchor hfile, if_neg (by simp [hunread]), classifyAnchor,
      checkAnchor_of_not_needsContent h []]

theorem checkTargetAnchor_congr_of_agreeWhereRead {other : FileSystem}
    (h : fs.AgreeWhereRead s.options other) (path : Path) (anchor : Text) :
    s.checkTargetAnchor fs path anchor = s.checkTargetAnchor other path anchor := by
  by_cases hanchor : anchor = []
  · simp [checkTargetAnchor, hanchor]
  cases hfile : fs.isDirectory path with
  | true => simp [checkTargetAnchor, hfile, ← h.directory path]
  | false =>
      have hother : other.isDirectory path = false := by rw [← h.directory path, hfile]
      cases hcontent : (anchorStrategy path s.options).needsContent with
      | true =>
          rw [checkTargetAnchor_of_file hanchor hfile, checkTargetAnchor_of_file hanchor hother,
            h.bytes path hcontent]
      | false =>
          rw [checkTargetAnchor_of_unread hfile (Or.inr hcontent) [],
            checkTargetAnchor_of_unread hother (Or.inr hcontent) []]

theorem check_congr_of_agreeWhereRead {other : FileSystem}
    (h : fs.AgreeWhereRead s.options other) (link : Link) :
    s.check fs link = s.check other link := by
  rcases link_cases link with hurl | ⟨anchor, hurl, hhref⟩ | ⟨hurl, hhref⟩
  · rw [check_of_url hurl, check_of_url hurl]
  · rw [check_of_pureAnchor hurl hhref, check_of_pureAnchor hurl hhref]
  · obtain ⟨target, anchor, hcut⟩ := exists_cut link.href
    rw [check_of_file hurl hhref, check_of_file hurl hhref, checkFileLink_of_cut hcut,
      checkFileLink_of_cut hcut]
    unfold checkResolved
    rw [h.present]
    cases anchor with
    | none => rfl
    | some anchor => simp only [checkTargetAnchor_congr_of_agreeWhereRead h]

open Place

theorem verifyLinks_of_check {base : Path} {document : Document} {link : Link}
    {outcome : AnchorOutcome} (habsolute : base.isAbsolute = true)
    (h : (⟨base.normalize, document, options⟩ : Session).check fs link =
      .ok (outcome.error?.map .anchor)) :
    verifyLinks fs base document [link] options = .ok (outcome.items link) := by
  rw [verifyLinks_of_isAbsolute fs habsolute, List.filterMap_cons, item?, h, AnchorOutcome.items]
  cases outcome.error? with
  | none => rfl
  | some error => rfl

/-- Of an anchor into another file below the base it is told what the classification in the
content of the file tells, if the file can be read, and, if no content is needed, what the
classification in any content tells, whether the file can be read or not. So all links are
verified alike where file systems differ only in what is never read. -/
theorem verifyLinks_eq_items_of_classifyAnchor {base : Path} (habsolute : base.isAbsolute = true)
    (fs : FileSystem) (document : Document) (options : VerifyOptions) :
    (∀ (link : Link) (target anchor : Text), link.url = none → link.href.head? ≠ some '#' →
      Cut link.href target (some anchor) →
      let place := (document.directory (ofPath base)).follow ⟨target⟩
      place ≠ document.place (ofPath base) → place.IsBelow (ofPath base) →
      fs.isPresent place.toPath = true → fs.isDirectory place.toPath = false →
      (∀ bytes, fs.readBytes place.toPath = .ok bytes →
        verifyLinks fs base document [link] options =
          .ok ((classifyAnchor ⟨place.toPath, Utf8.decode bytes⟩ anchor options).items link)) ∧
      (anchor = [] ∨ anchorStrategy place.toPath options = .undiscoverable ∨
          anchorStrategy place.toPath options = .binary →
        ∀ content, verifyLinks fs base document [link] options =
          .ok ((classifyAnchor ⟨place.toPath, content⟩ anchor options).items link))) ∧
    ∀ other, fs.AgreeWhereRead options other → ∀ links,
      verifyLinks other base document links options =
        verifyLinks fs base document links options := by
  constructor
  · intro link target anchor hurl hhref hcut place helsewhere hbelow hpresent hfile
    have hcheck : (⟨base.normalize, document, options⟩ : Session).check fs link =
        (⟨base.normalize, document, options⟩ : Session).checkTargetAnchor fs place.toPath
          anchor := by
      rw [check_of_cut base document options hurl hhref hcut]
      exact checkResolved_of_present (isNormal_directory_follow base document ⟨target⟩) helsewhere
        hbelow hpresent anchor
    constructor
    · intro bytes hbytes
      exact verifyLinks_of_check habsolute
        (hcheck.trans (checkTargetAnchor_of_read hfile hbytes anchor))
    · intro hunread content
      rw [← AnchorStrategy.needsContent_eq_false_iff] at hunread
      exact verifyLinks_of_check habsolute
        (hcheck.trans (checkTargetAnchor_of_unread hfile hunread content))
  · intro other h links
    have hitem : item? other ⟨base.normalize, document, options⟩ =
        item? fs ⟨base.normalize, document, options⟩ := by
      funext link
      rw [item?, item?, check_congr_of_agreeWhereRead (s := ⟨_, _, options⟩) h]
    rw [verifyLinks_of_isAbsolute other habsolute, verifyLinks_of_isAbsolute fs habsolute, hitem]

theorem unreadable_file_told_of_unread :
    let base := Path.ofString "/b/."
    let fs : FileSystem := ⟨fun _ => true, fun _ => false, fun path =>
      if (anchorStrategy path {}).needsContent then .ok (Utf8.encode "# A".toList)
      else .error .noSuchDevice⟩
    let other : FileSystem := { fs with readBytes := fun _ => .ok (Utf8.encode "# A".toList) }
    let document : Document := ⟨.ofString "notes/a.md", []⟩
    let heading := Link.relative ("../b.md".toList ++ '#' :: "a".toList)
    let license := Link.relative ("../LICENSE".toList ++ '#' :: "L1".toList)
    base.isAbsolute = true ∧
      verifyLinks fs base document [heading] {} =
        .ok ((classifyAnchor ⟨.ofString "/b/b.md", "# A".toList⟩ "a".toList {}).items heading) ∧
      (∀ content, verifyLinks fs base document [license] {} =
        .ok ((classifyAnchor ⟨.ofString "/b/LICENSE", content⟩ "L1".toList {}).items license)) ∧
      verifyLinks fs base document [heading, license] {} =
        .ok [.ok ⟨.anchor .anchorUndiscoverable, license⟩] ∧
      fs.AgreeWhereRead {} other ∧
      ∀ links, verifyLinks other base document links {} =
        verifyLinks fs base document links {} := by
  intro base fs other document heading license
  have habsolute : base.isAbsolute = true := by decide +kernel
  have hother : fs.AgreeWhereRead {} other :=
    ⟨fun _ => rfl, fun _ => rfl, fun _ hcontent => if_pos hcontent⟩
  obtain ⟨hlinks, hagree⟩ := verifyLinks_eq_items_of_classifyAnchor habsolute fs document {}
  refine ⟨habsolute, ?_, ?_, by decide +kernel, hother, hagree other hother⟩
  · have hcut : Cut heading.href "../b.md".toList (some "a".toList) := .anchored (by decide)
    obtain ⟨hread, _⟩ :=
      hlinks heading _ _ rfl (by decide) hcut (by decide +kernel) (by decide +kernel) rfl rfl
    exact hread (Utf8.encode "# A".toList) (by decide +kernel)
  · have hcut : Cut license.href "../LICENSE".toList (some "L1".toList) := .anchored (by decide)
    obtain ⟨_, hunread⟩ :=
      hlinks license _ _ rfl (by decide) hcut (by decide +kernel) (by decide +kernel) rfl rfl
    exact hunread (Or.inr (Or.inl (by decide +kernel)))

end Session

end DocLinks
