import DocLinks.Proofs.Anchor.LineFailure
import DocLinks.Proofs.Verify.HeadingLink

namespace DocLinks

open Place

def AnchorError.isOfLines : AnchorError → Bool
  | .lineTargetFail | .lineTargetInvalid | .multiLineTargetRangeInvalid => true
  | _ => false

/-- What an anchor is looked up in: the document that holds the link, or the file at a path. -/
inductive AnchorTarget where
  | own (document : Document)
  | file (path : Path)

namespace AnchorTarget

def path : AnchorTarget → Path
  | .own document => document.path
  | .file path => path

def IsDirectory (fs : FileSystem) : AnchorTarget → Prop
  | .own _ => False
  | .file path => fs.isDirectory path = true

def HasContent (fs : FileSystem) : AnchorTarget → Text → Prop
  | .own document, content => document.content = content
  | .file path, content => ∃ bytes, fs.readBytes path = .ok bytes ∧ Utf8.decode bytes = content

def IsDocument (fs : FileSystem) (options : VerifyOptions) (target : AnchorTarget) : Prop :=
  ¬ target.IsDirectory fs ∧ isDocumentPath options target.path = true

def IsTextFile (fs : FileSystem) (options : VerifyOptions) (target : AnchorTarget) : Prop :=
  ¬ target.IsDirectory fs ∧ isDocumentPath options target.path = false ∧
    target.path.isPlainText = true

def IsBinary (fs : FileSystem) (options : VerifyOptions) (target : AnchorTarget) : Prop :=
  ¬ target.IsDirectory fs ∧ target.path.extension? ≠ none ∧
    isDocumentPath options target.path = false ∧ target.path.isPlainText = false

/-- How an anchor into the target is resolved; nothing is told of what is in a directory. -/
def strategy (fs : FileSystem) (options : VerifyOptions) : AnchorTarget → AnchorStrategy
  | .own document => anchorStrategy document.path options
  | .file path =>
      if fs.isDirectory path then .undiscoverable else anchorStrategy path options

end AnchorTarget

/-- An error of an anchor, given without its number sign, says what is wrong with its target. -/
structure AnchorError.Explains (fs : FileSystem) (options : VerifyOptions) (target : AnchorTarget)
    (anchor : Text) (error : AnchorError) : Prop where
  empty : error = .emptyAnchor ↔ anchor = []
  undiscoverable : anchor ≠ [] →
    (error = .anchorUndiscoverable ↔ target.IsDirectory fs ∨ target.path.extension? = none)
  heading : anchor ≠ [] →
    (error = .headingMatchFail ↔ target.IsDocument fs options ∧
      ∃ content, target.HasContent fs content ∧ ¬ HasHeading options.dialect content anchor)
  binary : anchor ≠ [] → (error = .binaryFile ↔ target.IsBinary fs options)
  lines : anchor ≠ [] → error.isOfLines = true →
    target.IsTextFile fs options ∧ anchor.head? = some 'L'
  foreign : anchor ≠ [] →
    (error = .noAnchorsInFiletype ↔ target.IsTextFile fs options ∧ anchor.head? ≠ some 'L')

namespace AnchorTarget

variable {fs : FileSystem} {options : VerifyOptions} {target : AnchorTarget}

theorem strategy_of_isDirectory (h : target.IsDirectory fs) :
    target.strategy fs options = .undiscoverable := by
  cases target with
  | own document => exact h.elim
  | file path => exact if_pos h

theorem strategy_of_not_isDirectory (h : ¬ target.IsDirectory fs) :
    target.strategy fs options = anchorStrategy target.path options := by
  cases target with
  | own document => rfl
  | file path => exact if_neg h

theorem strategy_kinds (fs : FileSystem) (options : VerifyOptions) (target : AnchorTarget) :
    ((target.IsDirectory fs ∨ target.path.extension? = none) ↔
      target.strategy fs options = .undiscoverable) ∧
    (target.IsDocument fs options ↔ target.strategy fs options = .headings) ∧
    (target.IsTextFile fs options ↔ target.strategy fs options = .linePointers) ∧
    (target.IsBinary fs options ↔ target.strategy fs options = .binary) := by
  rw [IsDocument, IsTextFile, IsBinary]
  by_cases hdirectory : target.IsDirectory fs
  · simp [hdirectory, strategy_of_isDirectory hdirectory]
  · have hnames := anchorStrategy_names target.path options
    rw [strategy_of_not_isDirectory hdirectory]
    cases hstrategy : anchorStrategy target.path options <;> simp_all

end AnchorTarget

theorem error?_matchHeading_eq_some {anchor content : Text} {dialect : Dialect}
    {error : AnchorError} (h : (matchHeading anchor content dialect).error? = some error) :
    error = .headingMatchFail ∧ ¬ HasHeading dialect content anchor := by
  have hnone : ¬ HasHeading dialect content anchor := by
    rw [← error?_matchHeading_eq_none, h]
    simp
  rw [matchHeading] at h
  split at h
  · simp [AnchorOutcome.error?] at h
  · exact ⟨(Option.some.inj h).symm, hnone⟩

theorem isOfLines_of_lineTarget {digits content : Text} {error : AnchorError}
    (h : (lineTarget digits content).error? = some error) : error.isOfLines = true := by
  rcases LinePointer.lineTarget_cases digits content with htarget | hfailed
  · simp [htarget, AnchorOutcome.error?] at h
  · rw [hfailed] at h
    obtain rfl := Option.some.inj h
    rfl

theorem error?_matchLinePointer_eq_some {anchor content : Text} {error : AnchorError}
    (h : (matchLinePointer anchor content).error? = some error) :
    (error.isOfLines = true ∧ anchor.head? = some 'L') ∨
      (error = .noAnchorsInFiletype ∧ anchor.head? ≠ some 'L') := by
  by_cases hwritten : ∃ p, LinePointer.Written p anchor
  · obtain ⟨p, hp⟩ := hwritten
    refine Or.inl ⟨?_, hp.head?_eq⟩
    cases p with
    | line digits =>
        rw [LinePointer.matchLinePointer_line hp] at h
        exact isOfLines_of_lineTarget h
    | range first last =>
        rw [LinePointer.matchLinePointer_range hp] at h
        split at h
        · obtain rfl := Option.some.inj h
          rfl
        · exact isOfLines_of_lineTarget h
  · rw [LinePointer.matchLinePointer_of_not_written (not_exists.mp hwritten)] at h
    split at h
    next hhead =>
      obtain rfl := Option.some.inj h
      exact Or.inl ⟨rfl, hhead⟩
    next hhead =>
      obtain rfl := Option.some.inj h
      exact Or.inr ⟨rfl, hhead⟩

namespace AnchorTarget

variable {fs : FileSystem} {options : VerifyOptions} {target : AnchorTarget}
  {anchor content : Text} {error : AnchorError}

theorem explains_iff (hanchor : anchor ≠ []) :
    error.Explains fs options target anchor ↔
      error ≠ .emptyAnchor ∧
      (error = .anchorUndiscoverable ↔ target.strategy fs options = .undiscoverable) ∧
      (error = .headingMatchFail ↔ target.strategy fs options = .headings ∧
        ∃ content, target.HasContent fs content ∧ ¬ HasHeading options.dialect content anchor) ∧
      (error = .binaryFile ↔ target.strategy fs options = .binary) ∧
      (error.isOfLines = true →
        target.strategy fs options = .linePointers ∧ anchor.head? = some 'L') ∧
      (error = .noAnchorsInFiletype ↔
        target.strategy fs options = .linePointers ∧ anchor.head? ≠ some 'L') := by
  obtain ⟨hundiscoverable, hdocument, htext, hbinary⟩ := strategy_kinds fs options target
  rw [← hundiscoverable, ← hdocument, ← htext, ← hbinary]
  constructor
  · rintro ⟨hempty, hundiscoverable, hheading, hbinary, hlines, hforeign⟩
    exact ⟨fun h => hanchor (hempty.mp h), hundiscoverable hanchor, hheading hanchor,
      hbinary hanchor, hlines hanchor, hforeign hanchor⟩
  · rintro ⟨hempty, hundiscoverable, hheading, hbinary, hlines, hforeign⟩
    exact ⟨iff_of_false hempty hanchor, fun _ => hundiscoverable, fun _ => hheading,
      fun _ => hbinary, fun _ => hlines, fun _ => hforeign⟩

theorem explains_empty : AnchorError.Explains fs options target [] .emptyAnchor := by
  constructor <;> simp

theorem explains_of_error?_checkAnchor (content : Text)
    (hcontent : (target.strategy fs options).needsContent = true → target.HasContent fs content)
    (h : (checkAnchor (target.strategy fs options) anchor content options.dialect).error? =
      some error) : error.Explains fs options target anchor := by
  unfold checkAnchor at h
  split at h
  next hanchor =>
    obtain rfl := Option.some.inj h
    rw [hanchor]
    exact explains_empty
  next hanchor =>
    rw [explains_iff hanchor]
    cases hstrategy : target.strategy fs options with
    | undiscoverable =>
        rw [hstrategy] at h
        obtain rfl := Option.some.inj h
        simp [AnchorError.isOfLines]
    | binary =>
        rw [hstrategy] at h
        obtain rfl := Option.some.inj h
        simp [AnchorError.isOfLines]
    | headings =>
        rw [hstrategy] at h hcontent
        obtain ⟨rfl, hheading⟩ := error?_matchHeading_eq_some h
        have hunlisted : ∃ content, target.HasContent fs content ∧
            ¬ HasHeading options.dialect content anchor :=
          ⟨content, hcontent rfl, hheading⟩
        simpa [AnchorError.isOfLines] using hunlisted
    | linePointers =>
        rw [hstrategy] at h
        rcases error?_matchLinePointer_eq_some h with ⟨hlines, hhead⟩ | ⟨rfl, hhead⟩
        · cases error <;> simp_all [AnchorError.isOfLines]
        · simpa [AnchorError.isOfLines] using hhead

end AnchorTarget

/-- What the part of a destination before the number sign leads to: the document itself if it is
empty, and otherwise what is there at another place below the base. -/
inductive Document.LeadsTo (fs : FileSystem) (base : Place) (document : Document) :
    Text → AnchorTarget → Prop
  | own : LeadsTo fs base document [] (.own document)
  | file {target : Text} {place : Place} :
      target ≠ [] →
      place = (document.directory base).follow ⟨target⟩ →
      place ≠ document.place base →
      place.IsBelow base →
      fs.isPresent place.toPath = true →
      LeadsTo fs base document target (.file place.toPath)

namespace Session

variable {fs : FileSystem} {s : Session}

theorem explains_of_checkTargetAnchor {path : Path} {anchor : Text} {error : AnchorError}
    (h : s.checkTargetAnchor fs path anchor = .ok (some (.anchor error))) :
    error.Explains fs s.options (.file path) anchor := by
  by_cases hanchor : anchor = []
  · obtain rfl : AnchorError.emptyAnchor = error := by
      simpa [checkTargetAnchor, hanchor] using h
    rw [hanchor]
    exact AnchorTarget.explains_empty
  cases hdirectory : fs.isDirectory path with
  | true =>
      have hstrategy : AnchorTarget.strategy fs s.options (.file path) = .undiscoverable :=
        AnchorTarget.strategy_of_isDirectory hdirectory
      apply AnchorTarget.explains_of_error?_checkAnchor []
      · simp [hstrategy, AnchorStrategy.needsContent]
      · simpa [checkTargetAnchor, hanchor, hdirectory, hstrategy, checkAnchor,
          AnchorOutcome.error?] using h
  | false =>
      have hstrategy : AnchorTarget.strategy fs s.options (.file path) =
          anchorStrategy path s.options :=
        AnchorTarget.strategy_of_not_isDirectory (by simp [AnchorTarget.IsDirectory, hdirectory])
      rw [checkTargetAnchor_of_file hanchor hdirectory] at h
      split at h
      next hcontent =>
        split at h
        next bytes hbytes =>
          apply AnchorTarget.explains_of_error?_checkAnchor (Utf8.decode bytes)
          · exact fun _ => ⟨bytes, hbytes, rfl⟩
          · simpa [hstrategy] using h
        next => simp at h
      next hcontent =>
        apply AnchorTarget.explains_of_error?_checkAnchor []
        · simp [hstrategy, hcontent]
        · simpa [hstrategy] using h

theorem checkResolved_eq_anchor {path : Path} {anchor : Option Text} {error : AnchorError}
    (h : s.checkResolved fs path anchor = .ok (some (.anchor error))) :
    ∃ a, anchor = some a ∧ s.locate path = none ∧ fs.isPresent path = true ∧
      s.checkTargetAnchor fs path a = .ok (some (.anchor error)) := by
  unfold checkResolved at h
  split at h
  · simp at h
  next hlocate =>
    split at h
    next hpresent =>
      cases anchor with
      | none => simp at h
      | some a => exact ⟨a, rfl, hlocate, hpresent, h⟩
    next => simp at h

/-- An anchor error of a link in a document explains what the link leads to. -/
theorem explains_of_check {base : Path} {document : Document} {options : VerifyOptions}
    (hdoc : isDocumentPath options document.path = true) {link : Link} {error : AnchorError}
    (h : (⟨base.normalize, document, options⟩ : Session).check fs link =
      .ok (some (.anchor error))) :
    ∃ target anchor place, Cut link.href target (some anchor) ∧
      document.LeadsTo fs (ofPath base) target place ∧
      error.Explains fs options place anchor := by
  rcases link_cases link with hurl | ⟨anchor, hurl, hhref⟩ | ⟨hurl, hhref⟩
  · rw [check_of_url hurl] at h
    simp at h
  · have hstrategy : AnchorTarget.strategy fs options (.own document) = .headings :=
      anchorStrategy_of_isDocumentPath hdoc
    have hcut : Cut link.href [] (some anchor) := hhref ▸ .anchored List.not_mem_nil
    rw [check_of_pureAnchor hurl hhref, checkPureAnchor_of_isDocumentPath hdoc] at h
    refine ⟨[], anchor, _, hcut, .own, ?_⟩
    apply AnchorTarget.explains_of_error?_checkAnchor document.content
    · exact fun _ => rfl
    · simpa [hstrategy] using h
  · obtain ⟨target, anchor, hcut⟩ := exists_cut link.href
    rw [check_of_cut base document options hurl hhref hcut] at h
    obtain ⟨a, rfl, hlocate, hpresent, hanchor⟩ := checkResolved_eq_anchor h
    have hplace := isNormal_directory_follow base document ⟨target⟩
    obtain ⟨hdocument, hbelow⟩ := (locate_toPath_eq_none hplace).mp hlocate
    have htarget : target ≠ [] := by
      rintro rfl
      generalize link.href = href at hcut hhref
      cases hcut
      simp at hhref
    exact ⟨target, a, _, hcut, .file htarget rfl hdocument hbelow hpresent,
      explains_of_checkTargetAnchor hanchor⟩

end Session

end DocLinks
