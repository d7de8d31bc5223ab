import DocLinks.Proofs.Anchor.LineFailure
import DocLinks.Proofs.Anchor.LineNumber
import DocLinks.Proofs.Text.AsciiByte
import DocLinks.Proofs.Verify.HeadingLink

namespace DocLinks

open Place

variable {fs : FileSystem} {options : VerifyOptions} {path : Path} {bytes : List UInt8}

theorem Document.read_of_bytes {dir : Path} (h : fs.readBytes (dir.join path) = .ok bytes) :
    Document.read fs dir path = .ok ⟨path, Utf8.decode bytes⟩ := by
  rw [Document.read, h]

theorem anchorStrategy_of_isPlainText (hdoc : isDocumentPath options path = false)
    (htext : path.isPlainText = true) : anchorStrategy path options = .linePointers := by
  rcases anchorStrategy_cases path options with ⟨_, hisdoc⟩ | ⟨hstrategy, _⟩ | ⟨_, _, hnotext⟩
  · simp [hdoc] at hisdoc
  · exact hstrategy
  · simp [htext] at hnotext

namespace LinePointer

theorem lineTarget_ofNat {n : Nat} (h : n < maxLine) (content : Text) :
    lineTarget (Text.ofNat n) content =
      if n ≤ content.count '\n' then .lineTarget else .failed .lineTargetFail := by
  have hline : lineOf (Text.ofNat n) = n := by
    rw [lineOf, numberOf_ofNat]
    omega
  simp only [lineTarget, hline, hasLines_iff]

theorem classifyAnchor_line {n : Nat} (hdoc : isDocumentPath options path = false)
    (htext : path.isPlainText = true) (hpos : 0 < n) (hlt : n < maxLine) :
    classifyAnchor ⟨path, Utf8.decode bytes⟩ ('L' :: Text.ofNat n) options =
      if n ≤ bytes.count 0x0A then .lineTarget else .failed .lineTargetFail := by
  have hwritten : Written (.line (Text.ofNat n)) ('L' :: Text.ofNat n) := by
    have hline := Written.line (isNumeral_ofNat hpos) (Or.inl rfl)
    rwa [List.append_nil] at hline
  rw [classifyAnchor, anchorStrategy_of_isPlainText hdoc htext, checkAnchor,
    if_neg (List.cons_ne_nil _ _)]
  change matchLinePointer _ _ = _
  rw [matchLinePointer_line hwritten, lineTarget_ofNat hlt, Utf8.count_newline_decode]

end LinePointer

namespace Session

variable {base : Path} {document : Document}

/-- Whatever bytes a file has, its content has a newline character for each newline byte, and the
content is what was written if that was UTF-8. So a link from elsewhere to a line of a text file
resolves exactly when the file has as many newline bytes, and is told of for its line otherwise.
-/
theorem line_link_resolves_iff_newline_bytes (habsolute : base.isAbsolute = true) {place : Place}
    (hfile : fs.HasFile place.toPath bytes) (hdoc : isDocumentPath options place.toPath = false)
    (htext : place.toPath.isPlainText = true)
    (helsewhere : place ≠ document.place (ofPath base)) (hbelow : place.IsBelow (ofPath base)) :
    (∀ dir path, fs.readBytes (dir.join path) = .ok bytes →
      ∃ content, Document.read fs dir path = .ok ⟨path, content⟩ ∧
        content.count '\n' = bytes.count 0x0A ∧
        ∀ t, bytes = Utf8.encode t → content = t) ∧
    ∀ (link : Link) (target : Text) (n : Nat), link.url = none → link.href.head? ≠ some '#' →
      Cut link.href target (some ('L' :: Text.ofNat n)) →
      (document.directory (ofPath base)).follow ⟨target⟩ = place →
      0 < n → n < LinePointer.maxLine →
      (verifyLinks fs base document [link] options = .ok [] ↔ n ≤ bytes.count 0x0A) ∧
        (bytes.count 0x0A < n →
          verifyLinks fs base document [link] options =
            .ok [.ok ⟨.anchor .lineTargetFail, link⟩]) := by
  constructor
  · intro dir path hbytes
    refine ⟨Utf8.decode bytes, Document.read_of_bytes hbytes, Utf8.count_newline_decode bytes, ?_⟩
    rintro t rfl
    exact Utf8.decode_encode t
  · intro link target n hurl hhref hcut hplace hpos hlt
    have hcheck : (⟨base.normalize, document, options⟩ : Session).check fs link =
        .ok ((if n ≤ bytes.count 0x0A then AnchorOutcome.lineTarget
          else .failed .lineTargetFail).error?.map .anchor) := by
      have hnormal : IsNormal place := hplace ▸ isNormal_directory_follow base document ⟨target⟩
      rw [check_of_cut base document options hurl hhref hcut, hplace,
        checkResolved_of_present hnormal helsewhere hbelow hfile.present,
        checkTargetAnchor_of_read hfile.regular hfile.bytes,
        LinePointer.classifyAnchor_line hdoc htext hpos hlt]
    rw [verifyLinks_singleton_eq_nil_iff habsolute,
      verifyLinks_singleton_eq_verdict_iff habsolute, hcheck]
    by_cases hlines : n ≤ bytes.count 0x0A
    · simp [hlines, AnchorOutcome.error?]
    · simp [hlines, AnchorOutcome.error?]

theorem lines_of_broken_bytes_resolve :
    let bytes : List UInt8 := [0xE2, 0x82, 0x0A, 0xC0, 0x8A, 0x0A, 0xED, 0xA0, 0x80, 0x80, 0x0A]
    let fs : FileSystem := ⟨fun path => path == .ofString "/b/main.c", fun _ => false,
      fun _ => .ok bytes⟩
    let base := Path.ofString "/b/."
    let document : Document := ⟨.ofString "notes/a.md", []⟩
    let link (n : Nat) := Link.relative ("../main.c".toList ++ '#' :: 'L' :: Text.ofNat n)
    base.isAbsolute = true ∧ fs.HasFile (.ofString "/b/main.c") bytes ∧
      verifyLinks fs base document [link 3] {} = .ok [] ∧
      verifyLinks fs base document [link 4] {} =
        .ok [.ok ⟨.anchor .lineTargetFail, link 4⟩] ∧
      Document.read fs base (.ofString "main.c") =
        .ok ⟨.ofString "main.c", "\uFFFD\n\uFFFD\uFFFD\n\uFFFD\uFFFD\uFFFD\uFFFD\n".toList⟩ := by
  intro bytes fs base document link
  let place := ofPath (.ofString "/b/main.c")
  have habsolute : base.isAbsolute = true := by decide +kernel
  have hfile : fs.HasFile place.toPath bytes := ⟨by decide +kernel, rfl, rfl⟩
  have hdoc : isDocumentPath {} place.toPath = false := by decide +kernel
  have htext : place.toPath.isPlainText = true := by decide +kernel
  have helsewhere : place ≠ document.place (ofPath base) := by decide +kernel
  have hbelow : place.IsBelow (ofPath base) := by decide +kernel
  have hcut : ∀ n, Cut (link n).href "../main.c".toList (some ('L' :: Text.ofNat n)) :=
    fun n => .anchored (by decide)
  have hplace : (document.directory (ofPath base)).follow ⟨"../main.c".toList⟩ = place := by
    decide +kernel
  obtain ⟨_, hlinks⟩ :=
    line_link_resolves_iff_newline_bytes habsolute hfile hdoc htext helsewhere hbelow
  refine ⟨habsolute, ⟨by decide +kernel, rfl, rfl⟩, ?_, ?_, by decide +kernel⟩
  · have hthird := hlinks (link 3) _ 3 rfl (by decide) (hcut 3) hplace (by decide) (by decide)
    exact hthird.1.mpr (by decide)
  · have hfourth := hlinks (link 4) _ 4 rfl (by decide) (hcut 4) hplace (by decide) (by decide)
    exact hfourth.2 (by decide)

end Session

end DocLinks
