import DocLinks.Proofs.Batch.FirstFailure
import DocLinks.Proofs.Verify.AnchorError

namespace DocLinks

section

theorem Document.path_of_read {fs : FileSystem} {base path : Path} {document : Document}
    (h : Document.read fs base path = .ok document) : document.path = path := by
  rw [Document.read] at h
  split at h
  next => exact congrArg Document.path (Except.ok.inj h).symm
  next => simp at h

variable {fs : FileSystem} {base : Path} {paths : List Path} {options : VerifyOptions}
  {b : BatchReport}

theorem isAbsolute_of_verifyDocuments (h : verifyDocuments fs base paths options = .ok b) :
    base.isAbsolute = true := by
  rw [verifyDocuments] at h
  split at h
  next habsolute => exact habsolute
  next => simp at h

theorem mem_reports (h : verifyDocuments fs base paths options = .ok b) {r : DocumentReport}
    (hr : r ∈ b.reports) :
    isDocumentPath options r.path = true ∧ r = verifyDocument fs base.normalize options r.path := by
  rw [verifyDocuments_of_isAbsolute fs base options (isAbsolute_of_verifyDocuments h)] at h
  obtain rfl := Except.ok.inj h
  obtain ⟨path, hpath, rfl⟩ := List.mem_map.mp hr
  rw [path_verifyDocument]
  exact ⟨(List.mem_filter.mp hpath).2, rfl⟩

/-- Every anchor error in a batch explains what its link leads to: the document itself, or what is
there at another place below the base. -/
theorem anchor_errors_explain_targets (h : verifyDocuments fs base paths options = .ok b)
    {r : DocumentReport} (hr : r ∈ b.reports) {e : LinkError} (he : e ∈ r.errors)
    {error : AnchorError} (herror : e.verdict = .anchor error) :
    ∃ document before anchor target,
      Document.read fs base.normalize r.path = .ok document ∧
      e.link ∈ scanForLinks document options.scanOptions ∧
      Cut e.link.href before (some anchor) ∧
      document.LeadsTo fs (Place.ofPath base) before target ∧
      error.Explains fs options target anchor := by
  obtain ⟨hdoc, hreport⟩ := mem_reports h hr
  rw [hreport] at he
  have habsolute : base.normalize.isAbsolute = true := by
    rw [Place.isAbsolute_normalize]
    exact isAbsolute_of_verifyDocuments h
  obtain ⟨document, hread, hlink, hcheck⟩ := check_of_mem_errors habsolute he
  rw [← Document.path_of_read hread] at hdoc
  rw [herror] at hcheck
  obtain ⟨before, anchor, target, hcut, hleads, hexplains⟩ :=
    Session.explains_of_check hdoc hcheck
  rw [Place.ofPath_normalize] at hleads
  exact ⟨document, before, anchor, target, hread, hlink, hcut, hleads, hexplains⟩

theorem anchor_errors_of_each_kind_explain_targets :
    let base := Path.ofString "/b/."
    let fs : FileSystem :=
      ⟨fun _ => true, fun path => path == .ofString "/b/d.md", fun path =>
        if path = .ofString "/b/a.md" then
          .ok (Utf8.encode "[](#)[](#l)[](d.md#l)[](c.h#l)[](c.h#L9)[](e.o#l)".toList)
        else .ok []⟩
    ∃ b, verifyDocuments fs base [.ofString "a.md"] {} = .ok b ∧
      (b.reports.map fun r => r.errors.map LinkError.verdict) =
        [[.anchor .emptyAnchor, .anchor .headingMatchFail, .anchor .anchorUndiscoverable,
          .anchor .noAnchorsInFiletype, .anchor .lineTargetFail, .anchor .binaryFile]] ∧
      ∀ r ∈ b.reports, ∀ e ∈ r.errors, ∀ error, e.verdict = .anchor error →
        ∃ document before anchor target,
          Document.read fs base.normalize r.path = .ok document ∧
          e.link ∈ scanForLinks document (VerifyOptions.scanOptions {}) ∧
          Cut e.link.href before (some anchor) ∧
          document.LeadsTo fs (Place.ofPath base) before target ∧
          error.Explains fs {} target anchor := by
  intro base fs
  have habsolute : base.isAbsolute = true := by decide +kernel
  have hb := verifyDocuments_of_isAbsolute fs base {} habsolute [.ofString "a.md"]
  refine ⟨_, hb, by decide +kernel, ?_⟩
  intro r hr e he error herror
  exact anchor_errors_explain_targets hb hr he herror

end

end DocLinks
