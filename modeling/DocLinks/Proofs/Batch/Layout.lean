import DocLinks.Proofs.Batch.AnchorError
import DocLinks.Proofs.Path.Characters
import DocLinks.Proofs.Verify.ReadFailure
import Mathlib.Algebra.BigOperators.Group.List.Basic
import Mathlib.Algebra.Order.BigOperators.Group.List
import Mathlib.Algebra.Order.Ring.Nat

/-!
The lines of a report on a batch. A report tells of a document, of each broken link and of a
failure in a line of its own, and passes paths, destinations and reasons on as they are; so it has
a line too many for every line feed in one of them. A destination can bring one in, as a character
reference.
-/

namespace DocLinks

theorem LinkError.count_newline_message (e : LinkError) :
    e.message.count '\n' = e.link.href.count '\n' := by
  have hline : '\n' ∉ e.link.lineText := by
    rw [Link.lineText]
    split
    · exact Text.notMem_ofNat (by decide) _
    · decide
  have hkind : '\n' ∉ e.verdict.kind := by
    rcases e.verdict with error | error
    · exact (by decide : '\n' ∉ "file".toList)
    · exact (by decide : '\n' ∉ "anchor".toList)
  have hcode : '\n' ∉ e.verdict.code := by
    rcases e.verdict with error | error <;> cases error <;> decide
  have hfront : '\n' ∉ "line ".toList ++ e.link.lineText ++ ": ".toList := by
    simp only [List.mem_append, not_or]
    exact ⟨⟨by decide, hline⟩, by decide⟩
  have hbehind : '\n' ∉
      " (".toList ++ e.verdict.kind ++ " error ".toList ++ e.verdict.code ++ [')'] := by
    simp only [List.mem_append, not_or]
    exact ⟨⟨⟨⟨by decide, hkind⟩, by decide⟩, hcode⟩, by decide⟩
  have hmessage : e.message = ("line ".toList ++ e.link.lineText ++ ": ".toList) ++ e.link.href ++
      (" (".toList ++ e.verdict.kind ++ " error ".toList ++ e.verdict.code ++ [')']) := by
    calc
      e.message = "line ".toList ++ e.link.lineText ++ ": ".toList ++ e.link.href ++
          " (".toList ++ e.verdict.kind ++ " error ".toList ++ e.verdict.code ++ [')'] := rfl
      _ = _ := by simp only [List.append_assoc]
  rw [hmessage, List.count_append, List.count_append, List.count_eq_zero_of_not_mem hfront,
    List.count_eq_zero_of_not_mem hbehind, Nat.zero_add, Nat.add_zero]

namespace DocumentReport

variable (r : DocumentReport)

/-- What the report has to tell of: the document, each broken link, and a failure. -/
def entries : Nat :=
  1 + r.errors.length + if r.failure.isSome then 1 else 0

/-- The line feeds in what the report passes on. -/
def lineFeeds : Nat :=
  r.path.text.count '\n' + (r.errors.map fun e => e.link.href.count '\n').sum +
    (r.failure.getD []).count '\n'

def heading : Text :=
  if r.isClean then r.path.text ++ " [OK]".toList else "--- ".toList ++ r.path.text ++ " ---".toList

theorem lines_eq :
    r.lines = r.heading :: r.errors.map LinkError.message ++
      (r.failure.map fun failure => "failed: ".toList ++ failure).toList := by
  rw [lines, heading]
  cases hclean : r.isClean with
  | false => rfl
  | true =>
      have hparts : r.failure = none ∧ r.errors = [] := by simpa [isClean] using hclean
      simp [hparts]

theorem length_lines : r.lines.length = r.entries := by
  rw [lines_eq, entries]
  cases r.failure <;> simp <;> omega

theorem sum_count_newline_lines : (r.lines.map (List.count '\n')).sum = r.lineFeeds := by
  have hheading : r.heading.count '\n' = r.path.text.count '\n' := by
    rw [heading]
    split <;> simp [List.count_append]
  have herrors : (r.errors.map LinkError.message).map (List.count '\n') =
      r.errors.map fun e => e.link.href.count '\n' := by
    rw [List.map_map]
    apply List.map_congr_left
    intro e _
    rw [Function.comp_apply, e.count_newline_message]
  rw [lines_eq, lineFeeds, List.map_append, List.map_cons, hheading, herrors]
  cases r.failure <;> simp [Nat.add_assoc]

theorem splitAll_message :
    Text.splitAll '\n' r.message = r.lines.flatMap (Text.splitAll '\n') := by
  apply Text.splitAll_join_eq_flatMap
  simp [lines_eq]

theorem length_splitAll_message :
    (Text.splitAll '\n' r.message).length = r.entries + r.lineFeeds := by
  rw [splitAll_message, List.length_flatMap, ← length_lines, ← sum_count_newline_lines]
  simp [Text.length_splitAll, List.sum_map_add, Nat.add_comm]

theorem splitAll_message_of_lineFeeds (h : r.lineFeeds = 0) :
    Text.splitAll '\n' r.message = r.lines := by
  rw [← sum_count_newline_lines, List.sum_eq_zero_iff, List.forall_mem_map] at h
  have hlines : ∀ line ∈ r.lines, Text.splitAll '\n' line = [line] :=
    fun line hline => Text.splitAll_of_notMem (List.count_eq_zero.mp (h line hline))
  rw [splitAll_message, List.flatMap_congr hlines]
  exact List.flatMap_singleton' _

end DocumentReport

namespace BatchReport

variable {b : BatchReport}

theorem splitAll_message (hne : b.reports ≠ []) :
    Text.splitAll '\n' b.message =
      b.reports.flatMap fun r => Text.splitAll '\n' r.message := by
  rw [message, Text.splitAll_join_eq_flatMap (by simpa using hne), List.flatMap_map]

theorem length_splitAll_message (hne : b.reports ≠ []) :
    (Text.splitAll '\n' b.message).length =
      (b.reports.map DocumentReport.entries).sum +
        (b.reports.map DocumentReport.lineFeeds).sum := by
  rw [splitAll_message hne, List.length_flatMap, ← List.sum_map_add]
  simp only [DocumentReport.length_splitAll_message]

theorem splitAll_message_eq_lines_iff (hne : b.reports ≠ []) :
    Text.splitAll '\n' b.message = b.reports.flatMap DocumentReport.lines ↔
      ∀ r ∈ b.reports, r.lineFeeds = 0 := by
  constructor
  · intro hlines
    have hlength := congrArg List.length hlines
    have hentries : (fun r : DocumentReport => r.lines.length) = DocumentReport.entries :=
      funext DocumentReport.length_lines
    rw [length_splitAll_message hne, List.length_flatMap, hentries] at hlength
    have hsum : (b.reports.map DocumentReport.lineFeeds).sum = 0 := by omega
    rwa [List.sum_eq_zero_iff, List.forall_mem_map] at hsum
  · intro hnone
    rw [splitAll_message hne]
    exact List.flatMap_congr fun r hr => r.splitAll_message_of_lineFeeds (hnone r hr)

end BatchReport

section SingleLine

open Place Session

variable {fs : FileSystem} {base : Path} {paths : List Path} {options : VerifyOptions}

/-- Nothing that a batch is given or reads for its reports has a line feed in it: neither base nor
paths, no destination of a link into the files, and no reason for which a file cannot be read. -/
structure IsSingleLine (fs : FileSystem) (base : Path) (paths : List Path)
    (options : VerifyOptions) : Prop where
  root : '\n' ∉ base.text
  documents : ∀ path ∈ paths, '\n' ∉ path.text
  destinations : ∀ path ∈ paths, ∀ document, Document.read fs base.normalize path = .ok document →
    ∀ link ∈ scanForLinks document options.scanOptions, link.url = none → '\n' ∉ link.href
  reasons : ∀ path failure, fs.readBytes path = .error failure → '\n' ∉ failure.message

theorem Document.read_eq_error_iff {path : Path} {e : CheckError} :
    Document.read fs base path = .error e ↔
      ∃ failure, fs.readBytes (base.join path) = .error failure ∧
        e = .unreadable (base.join path) failure := by
  cases hbytes : fs.readBytes (base.join path) <;> simp [Document.read, hbytes, eq_comm]

theorem newline_notMem_message {path : Path} {failure : ReadFailure} (hpath : '\n' ∉ path.text)
    (hfailure : '\n' ∉ failure.message) :
    '\n' ∉ (CheckError.unreadable path failure).message := by
  change '\n' ∉ "IO error reading ".toList ++ path.text ++ ": ".toList ++ failure.message
  simp only [List.mem_append, not_or]
  exact ⟨⟨⟨by decide, hpath⟩, by decide⟩, hfailure⟩

theorem Cut.subset {href target : Text} {anchor : Option Text} (h : Cut href target anchor) :
    target ⊆ href := by
  cases h with
  | whole => exact List.Subset.refl _
  | anchored => exact List.subset_append_left _ _

theorem url_eq_none_of_check {s : Session} {link : Link} {verdict : Verdict}
    (h : s.check fs link = .ok (some verdict)) : link.url = none := by
  by_contra hurl
  simp [check_of_url hurl] at h

theorem FailsToRead.url_eq_none {place : Place} {document : Document} {link : Link}
    {path : Path} {failure : ReadFailure}
    (h : FailsToRead fs place document options link path failure) : link.url = none := by
  cases h with
  | file hurl => exact hurl

theorem FailsToRead.readBytes_eq {place : Place} {document : Document} {link : Link}
    {path : Path} {failure : ReadFailure}
    (h : FailsToRead fs place document options link path failure) :
    fs.readBytes path = .error failure := by
  obtain ⟨_, _, _, _, _, _, _, _, _, _, hbytes⟩ := h
  exact hbytes

theorem newline_notMem_of_failsToRead {document : Document} {link : Link} {path : Path}
    {failure : ReadFailure} (h : FailsToRead fs (ofPath base) document options link path failure)
    (hbase : '\n' ∉ base.text) (hdocument : '\n' ∉ document.path.text)
    (hhref : '\n' ∉ link.href) : '\n' ∉ path.text := by
  obtain ⟨_, _, hcut, rfl, _⟩ := h
  have hdot : '\n' ≠ '.' := by decide
  have hdirectory : Avoids (document.directory (ofPath base)) '\n' := by
    apply (avoids_ofPath hdot hbase).steps
    intro d hd
    exact notMem_text_of_mem_components hdot hdocument d (List.dropLast_subset _ hd)
  have htarget := mt (hcut.subset ·) hhref
  exact (hdirectory.follow hdot htarget).notMem_toPath (by decide)

theorem lineFeeds_eq_zero_of_isSingleLine (h : IsSingleLine fs base paths options)
    (habsolute : base.isAbsolute = true) {path : Path} (hpath : path ∈ paths) :
    (verifyDocument fs base.normalize options path).lineFeeds = 0 := by
  have hdot : '\n' ≠ '.' := by decide
  have hslash : '\n' ≠ '/' := by decide
  have hnormal : base.normalize.isAbsolute = true := by rwa [isAbsolute_normalize]
  have hbase : '\n' ∉ base.normalize.text := by
    rw [normalize_eq_toPath]
    exact (avoids_ofPath hdot h.root).notMem_toPath hslash
  have herrors : ∀ e ∈ (verifyDocument fs base.normalize options path).errors,
      '\n' ∉ e.link.href := by
    intro e he
    obtain ⟨document, hread, hlink, hcheck⟩ := check_of_mem_errors hnormal he
    exact h.destinations path hpath document hread e.link hlink (url_eq_none_of_check hcheck)
  have hfailure : ∀ failure,
      (verifyDocument fs base.normalize options path).failure = some failure →
        '\n' ∉ failure := by
    intro failure hsome
    obtain ⟨e, rfl, hread | ⟨document, hread, link, hlink, hcheck⟩⟩ :=
      check_of_failure hnormal hsome
    · obtain ⟨reason, hbytes, rfl⟩ := Document.read_eq_error_iff.mp hread
      exact newline_notMem_message (Path.notMem_join hslash hbase (h.documents path hpath))
        (h.reasons _ reason hbytes)
    · obtain ⟨target, reason, hfails, rfl⟩ := check_eq_error_iff.mp hcheck
      have hdocument : '\n' ∉ document.path.text := by
        rw [Document.path_of_read hread]
        exact h.documents path hpath
      have hhref := h.destinations path hpath document hread link hlink hfails.url_eq_none
      exact newline_notMem_message (newline_notMem_of_failsToRead hfails hbase hdocument hhref)
        (h.reasons target reason hfails.readBytes_eq)
  have hpathText := h.documents path hpath
  rw [← path_verifyDocument fs base.normalize options path] at hpathText
  rw [DocumentReport.lineFeeds, List.count_eq_zero_of_not_mem hpathText, Nat.zero_add,
    Nat.add_eq_zero_iff]
  constructor
  · rw [List.sum_eq_zero_iff, List.forall_mem_map]
    exact fun e he => List.count_eq_zero_of_not_mem (herrors e he)
  · cases hsome : (verifyDocument fs base.normalize options path).failure with
    | none => rfl
    | some failure => exact List.count_eq_zero_of_not_mem (hfailure failure hsome)

end SingleLine

/-- The report on the documents of a batch has, in this order, a line for each document, broken
link and failure, and besides a line for each line feed in a path, a destination or a reason that
it passes on. So it has exactly the lines that it should have where there is no such line feed,
and none can come in where base, paths, destinations and reasons have none. -/
theorem verifyDocuments_lines {base : Path} (habsolute : base.isAbsolute = true) (fs : FileSystem)
    (options : VerifyOptions) {paths : List Path}
    (hdocument : ∃ path ∈ paths, isDocumentPath options path = true) :
    ∃ b, verifyDocuments fs base paths options = .ok b ∧
      let lines := Text.splitAll '\n' b.message
      let entries := (b.reports.map DocumentReport.entries).sum
      lines.length = entries + (b.reports.map DocumentReport.lineFeeds).sum ∧
      (lines.length = entries ↔ ∀ r ∈ b.reports, r.lineFeeds = 0) ∧
      (lines = b.reports.flatMap DocumentReport.lines ↔ ∀ r ∈ b.reports, r.lineFeeds = 0) ∧
      (IsSingleLine fs base paths options → ∀ r ∈ b.reports, r.lineFeeds = 0) := by
  have hb := verifyDocuments_of_isAbsolute fs base options habsolute paths
  refine ⟨_, hb, ?_⟩
  have hne : (batchReport fs base.normalize options paths).reports ≠ [] := by
    obtain ⟨path, hpath, hkept⟩ := hdocument
    apply List.ne_nil_of_mem
    exact List.mem_map_of_mem (List.mem_filter.mpr ⟨hpath, hkept⟩)
  have hlength := BatchReport.length_splitAll_message hne
  refine ⟨hlength, ?_, BatchReport.splitAll_message_eq_lines_iff hne, ?_⟩
  · rw [hlength, Nat.add_eq_left, List.sum_eq_zero_iff, List.forall_mem_map]
  · intro hsingle r hr
    obtain ⟨path, hpath, rfl⟩ := List.mem_map.mp hr
    exact lineFeeds_eq_zero_of_isSingleLine hsingle habsolute (List.mem_filter.mp hpath).1

theorem lines_of_each_kind :
    let base := Path.ofString "/b/."
    let fs : FileSystem := ⟨fun path => path == .ofString "/b/c.h", fun _ => false, fun path =>
      if path = .ofString "/b/a.md" then .ok (Utf8.encode "[](x) [](c.h#L1)".toList)
      else if path = .ofString "/b/b.md" then .ok [] else .error .noSuchFile⟩
    let paths := [Path.ofString "a.md", .ofString "c.h", .ofString "b.md", .ofString "lost.md"]
    base.isAbsolute = true ∧ (∃ path ∈ paths, isDocumentPath {} path = true) ∧
      IsSingleLine fs base paths {} ∧
      ∃ b, verifyDocuments fs base paths {} = .ok b ∧
        Text.splitAll '\n' b.message =
        ["--- a.md ---".toList,
         "line 1: x (file error FILE_NOT_EXISTS)".toList,
         "failed: IO error reading /b/c.h: No such file or directory (os error 2)".toList,
         "b.md [OK]".toList,
         "--- lost.md ---".toList,
         "failed: IO error reading /b/lost.md: No such file or directory (os error 2)".toList] := by
  intro base fs paths
  have habsolute : base.isAbsolute = true := by decide +kernel
  have hdocument : ∃ path ∈ paths, isDocumentPath {} path = true := by decide +kernel
  have hsingle : IsSingleLine fs base paths {} := by
    refine ⟨by decide, by decide, ?_, ?_⟩
    · intro path hpath document hread link hlink _
      have hhrefs : ∀ path ∈ paths,
          ((Document.read fs base.normalize path).toOption.all fun document =>
            (scanForLinks document {}).all fun link => !link.href.contains '\n') = true := by
        decide +kernel
      have hdocument := hhrefs path hpath
      rw [hread] at hdocument
      simpa using List.all_eq_true.mp hdocument link hlink
    · intro path failure hbytes
      simp only [fs] at hbytes
      split at hbytes
      · simp at hbytes
      · split at hbytes
        · simp at hbytes
        · obtain rfl := Except.error.inj hbytes
          decide
  obtain ⟨b, hb, _, _, hlines, hfree⟩ := verifyDocuments_lines habsolute fs {} hdocument
  have hresult : (verifyDocuments fs base paths {}).map
      (fun b => b.reports.flatMap DocumentReport.lines) =
      .ok ["--- a.md ---".toList,
        "line 1: x (file error FILE_NOT_EXISTS)".toList,
        "failed: IO error reading /b/c.h: No such file or directory (os error 2)".toList,
        "b.md [OK]".toList,
        "--- lost.md ---".toList,
        "failed: IO error reading /b/lost.md: No such file or directory (os error 2)".toList] := by
    decide +kernel
  rw [hb] at hresult
  exact ⟨habsolute, hdocument, hsingle, b, hb,
    (hlines.mpr (hfree hsingle)).trans (Except.ok.inj hresult)⟩

/-- A line feed written as a character reference makes one broken link look like two. -/
theorem line_of_link_that_does_not_exist :
    let base := Path.ofString "/b"
    let fs : FileSystem := ⟨fun _ => false, fun _ => false, fun _ =>
      .ok (Utf8.encode "[](<x (file error FILE_NOT_EXISTS)&#10;line 2: y>)".toList)⟩
    ∃ b, verifyDocuments fs base [.ofString "a.md"] {} = .ok b ∧
      Text.splitAll '\n' b.message =
        ["--- a.md ---".toList,
          "line 1: x (file error FILE_NOT_EXISTS)".toList,
          "line 2: y (file error FILE_NOT_EXISTS)".toList] ∧
      (b.reports.map DocumentReport.entries).sum = 2 := by
  intro base fs
  have habsolute : base.isAbsolute = true := by decide +kernel
  have hb := verifyDocuments_of_isAbsolute fs base {} habsolute [.ofString "a.md"]
  exact ⟨_, hb, by decide +kernel, by decide +kernel⟩

end DocLinks
