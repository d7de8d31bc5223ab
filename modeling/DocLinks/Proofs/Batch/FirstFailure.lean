import DocLinks.Proofs.Batch.Account
import DocLinks.Proofs.Verify.Location
import Mathlib.Data.List.Forall2

/-!
What a batch tells of a document, against the whole verification of its links. A session goes on
behind a failure, a report does not: it has the link errors before the first failure and that
failure, and the same is collected by asking the session for its items one by one until one of
them is a failure.
-/

namespace DocLinks

/-- Items cut at their first failure: the link errors before it, and the failure, if there is one.
-/
inductive CutAtFailure :
    List (Except CheckError LinkError) → List LinkError → Option CheckError → Prop
  | whole (errors : List LinkError) : CutAtFailure (errors.map .ok) errors none
  | cut (errors : List LinkError) (e : CheckError) (rest : List (Except CheckError LinkError)) :
      CutAtFailure (errors.map .ok ++ .error e :: rest) errors (some e)

namespace CutAtFailure

variable {items : List (Except CheckError LinkError)} {errors : List LinkError}
  {failure : Option CheckError}

theorem cut_iff : CutAtFailure items errors failure ↔
    items = errors.map .ok ∧ failure = none ∨
      ∃ e rest, items = errors.map .ok ++ .error e :: rest ∧ failure = some e := by
  constructor
  · intro h
    cases h with
    | whole => exact Or.inl ⟨rfl, rfl⟩
    | cut _ e rest => exact Or.inr ⟨e, rest, rfl, rfl⟩
  · rintro (⟨rfl, rfl⟩ | ⟨e, rest, rfl, rfl⟩)
    · exact whole errors
    · exact cut errors e rest

theorem nil_iff : CutAtFailure [] errors failure ↔ errors = [] ∧ failure = none := by
  simp [cut_iff, eq_comm]

theorem error_iff {e : CheckError} :
    CutAtFailure (.error e :: items) errors failure ↔ errors = [] ∧ failure = some e := by
  cases errors <;> simp [cut_iff]

theorem ok_iff {error : LinkError} :
    CutAtFailure (.ok error :: items) errors failure ↔
      ∃ rest, errors = error :: rest ∧ CutAtFailure items rest failure := by
  cases errors with
  | nil => simp [cut_iff]
  | cons first rest =>
      simp only [cut_iff, List.map_cons, List.cons_append, List.cons.injEq, Except.ok.injEq]
      constructor
      · rintro (⟨⟨rfl, hitems⟩, hfailure⟩ | ⟨e, behind, ⟨rfl, hitems⟩, hfailure⟩)
        · exact ⟨rest, ⟨rfl, rfl⟩, Or.inl ⟨hitems, hfailure⟩⟩
        · exact ⟨rest, ⟨rfl, rfl⟩, Or.inr ⟨e, behind, hitems, hfailure⟩⟩
      · rintro ⟨_, ⟨rfl, rfl⟩, ⟨hitems, hfailure⟩ | ⟨e, behind, hitems, hfailure⟩⟩
        · exact Or.inl ⟨⟨rfl, hitems⟩, hfailure⟩
        · exact Or.inr ⟨e, behind, ⟨rfl, hitems⟩, hfailure⟩

theorem mem_items {error : LinkError} (h : CutAtFailure items errors failure)
    (herror : error ∈ errors) : .ok error ∈ items := by
  have hmem : (.ok error : Except CheckError LinkError) ∈ errors.map .ok :=
    List.mem_map_of_mem herror
  cases h with
  | whole => exact hmem
  | cut => exact List.mem_append_left _ hmem

theorem failure_mem_items {e : CheckError} (h : CutAtFailure items errors (some e)) :
    .error e ∈ items := by
  cases h with
  | cut => exact List.mem_append_right _ List.mem_cons_self

end CutAtFailure

namespace Session

/-- What is collected by asking for the next item of some links until one is a failure. -/
inductive Collects (fs : FileSystem) (s : Session) :
    List Link → List LinkError → Option CheckError → Prop
  | done {links : List Link} : s.next? fs links = none → Collects fs s links [] none
  | failed {links rest : List Link} {e : CheckError} :
      s.next? fs links = some (.error e, rest) → Collects fs s links [] (some e)
  | error {links rest : List Link} {error : LinkError} {errors : List LinkError}
      {failure : Option CheckError} :
      s.next? fs links = some (.ok error, rest) → Collects fs s rest errors failure →
      Collects fs s links (error :: errors) failure

variable {fs : FileSystem} {s : Session} {links rest : List Link} {errors : List LinkError}
  {failure : Option CheckError}

theorem collectErrors_of_next?_none (h : s.next? fs links = none) :
    s.collectErrors fs links = ([], none) := by
  rw [collectErrors]
  split <;> simp_all

theorem collectErrors_of_next?_error {e : CheckError}
    (h : s.next? fs links = some (.error e, rest)) :
    s.collectErrors fs links = ([], some e) := by
  rw [collectErrors]
  split <;> simp_all

theorem collectErrors_of_next?_ok {error : LinkError}
    (h : s.next? fs links = some (.ok error, rest)) :
    s.collectErrors fs links =
      (error :: (s.collectErrors fs rest).1, (s.collectErrors fs rest).2) := by
  rw [collectErrors]
  split <;> simp_all

theorem collectErrors_eq_iff :
    s.collectErrors fs links = (errors, failure) ↔
      CutAtFailure (s.items fs links) errors failure := by
  induction links using collectErrors.induct fs s generalizing errors with
  | case1 links hnext =>
      rw [collectErrors_of_next?_none hnext, items_of_next?_none hnext, CutAtFailure.nil_iff]
      simp [eq_comm]
  | case2 links e rest hnext =>
      rw [collectErrors_of_next?_error hnext, items_of_next?_some hnext, CutAtFailure.error_iff]
      simp [eq_comm]
  | case3 links error rest hnext _ _ _ ih =>
      rw [collectErrors_of_next?_ok hnext, items_of_next?_some hnext, CutAtFailure.ok_iff]
      simp only [← ih, Prod.mk.injEq]
      constructor
      · rintro ⟨rfl, hfailure⟩
        exact ⟨_, rfl, Prod.ext rfl hfailure⟩
      · rintro ⟨errors, rfl, hrest⟩
        exact ⟨by rw [hrest], by rw [hrest]⟩

theorem cutAtFailure_collectErrors (fs : FileSystem) (s : Session) (links : List Link) :
    CutAtFailure (s.items fs links) (s.collectErrors fs links).1 (s.collectErrors fs links).2 :=
  collectErrors_eq_iff.mp rfl

theorem Collects.cutAtFailure (h : s.Collects fs links errors failure) :
    CutAtFailure (s.items fs links) errors failure := by
  induction h with
  | done hnext =>
      rw [items_of_next?_none hnext]
      exact .whole []
  | failed hnext =>
      rw [items_of_next?_some hnext]
      exact .cut [] _ _
  | error hnext _ ih =>
      rw [items_of_next?_some hnext]
      exact CutAtFailure.ok_iff.mpr ⟨_, rfl, ih⟩

theorem collects_collectErrors (fs : FileSystem) (s : Session) (links : List Link) :
    s.Collects fs links (s.collectErrors fs links).1 (s.collectErrors fs links).2 := by
  induction links using collectErrors.induct fs s with
  | case1 links hnext =>
      rw [collectErrors_of_next?_none hnext]
      exact .done hnext
  | case2 links e rest hnext =>
      rw [collectErrors_of_next?_error hnext]
      exact .failed hnext
  | case3 links error rest hnext _ _ _ ih =>
      rw [collectErrors_of_next?_ok hnext]
      exact .error hnext ih

/-- Asking until the first failure collects what is left when all items are cut at the first
failure. -/
theorem collects_iff :
    s.Collects fs links errors failure ↔ CutAtFailure (s.items fs links) errors failure := by
  constructor
  · exact Collects.cutAtFailure
  · intro h
    have hcollects := collects_collectErrors fs s links
    rwa [collectErrors_eq_iff.mpr h] at hcollects

end Session

section Document

variable {fs : FileSystem} {base path : Path} {options : VerifyOptions} {document : Document}

theorem verifyDocument_of_unreadable {e : CheckError} (h : Document.read fs base path = .error e) :
    verifyDocument fs base options path = ⟨path, [], some e.message⟩ := by
  rw [verifyDocument, h]

theorem verifyDocument_of_read (habsolute : base.isAbsolute = true)
    (h : Document.read fs base path = .ok document) :
    let collected := (⟨base.normalize, document, options⟩ : Session).collectErrors fs
      (scanForLinks document options.scanOptions)
    verifyDocument fs base options path =
      ⟨path, collected.1, collected.2.map CheckError.message⟩ := by
  rw [verifyDocument, h]
  simp only [Session.start_of_isAbsolute habsolute]

theorem check_of_mem_errors (habsolute : base.isAbsolute = true) {error : LinkError}
    (h : error ∈ (verifyDocument fs base options path).errors) :
    ∃ document, Document.read fs base path = .ok document ∧
      error.link ∈ scanForLinks document options.scanOptions ∧
      (⟨base.normalize, document, options⟩ : Session).check fs error.link =
        .ok (some error.verdict) := by
  cases hread : Document.read fs base path with
  | error e =>
      rw [verifyDocument_of_unreadable hread] at h
      simp at h
  | ok document =>
      rw [verifyDocument_of_read habsolute hread] at h
      have hitem := (Session.cutAtFailure_collectErrors fs _ _).mem_items h
      rw [Session.items_eq_filterMap, List.mem_filterMap] at hitem
      obtain ⟨link, hlink, hitem⟩ := hitem
      obtain ⟨hcheck, rfl⟩ := Session.item?_eq_ok_iff.mp hitem
      exact ⟨document, rfl, hlink, hcheck⟩

theorem check_of_failure (habsolute : base.isAbsolute = true) {failure : Text}
    (h : (verifyDocument fs base options path).failure = some failure) :
    ∃ e : CheckError, failure = e.message ∧
      (Document.read fs base path = .error e ∨
        ∃ document, Document.read fs base path = .ok document ∧
          ∃ link ∈ scanForLinks document options.scanOptions,
            (⟨base.normalize, document, options⟩ : Session).check fs link = .error e) := by
  cases hread : Document.read fs base path with
  | error e =>
      rw [verifyDocument_of_unreadable hread] at h
      exact ⟨e, (Option.some.inj h).symm, Or.inl rfl⟩
  | ok document =>
      rw [verifyDocument_of_read habsolute hread] at h
      obtain ⟨e, hcut, rfl⟩ := Option.map_eq_some_iff.mp h
      have hcuts := Session.cutAtFailure_collectErrors fs
        ⟨base.normalize, document, options⟩ (scanForLinks document options.scanOptions)
      rw [hcut] at hcuts
      have hitem := hcuts.failure_mem_items
      rw [Session.items_eq_filterMap, List.mem_filterMap] at hitem
      obtain ⟨link, hlink, hitem⟩ := hitem
      exact ⟨e, rfl, Or.inr ⟨document, rfl, link, hlink, Session.item?_eq_error_iff.mp hitem⟩⟩

end Document

/-- A report on the document at a path is the session of its links, cut at the first failure, and
has nothing but the reason where the document cannot be read. -/
structure DocumentReport.IsCutSession (fs : FileSystem) (base : Path) (options : VerifyOptions)
    (path : Path) (r : DocumentReport) : Prop where
  named : r.path = path
  unreadable : ∀ e, Document.read fs base path = .error e →
    r.errors = [] ∧ r.failure = some e.message
  readable : ∀ document, Document.read fs base path = .ok document →
    let links := scanForLinks document options.scanOptions
    ∃ s items failure,
      Session.start base document options = .ok s ∧
      verifyLinks fs base document links options = .ok items ∧
      CutAtFailure items r.errors failure ∧
      s.Collects fs links r.errors failure ∧
      r.failure = failure.map CheckError.message

theorem isCutSession_verifyDocument {base : Path} (habsolute : base.isAbsolute = true)
    (fs : FileSystem) (options : VerifyOptions) (path : Path) :
    (verifyDocument fs base options path).IsCutSession fs base options path := by
  refine ⟨path_verifyDocument fs base options path, ?_, ?_⟩
  · intro e hread
    rw [verifyDocument_of_unreadable hread]
    exact ⟨rfl, rfl⟩
  · intro document hread
    let s : Session := ⟨base.normalize, document, options⟩
    let links := scanForLinks document options.scanOptions
    have hstart : Session.start base document options = .ok s :=
      Session.start_of_isAbsolute habsolute document options
    have hitems : verifyLinks fs base document links options = .ok (s.items fs links) :=
      Session.verifyLinks_eq_items fs habsolute links
    have hcut := Session.cutAtFailure_collectErrors fs s links
    rw [verifyDocument_of_read habsolute hread]
    exact ⟨s, _, _, hstart, hitems, hcut, Session.collects_iff.mpr hcut, rfl⟩

/-- Below an absolute base the batch has a report on each document, in order, and each report is
the session of its document cut at the first failure. -/
theorem verifyDocuments_cuts_sessions {base : Path} (habsolute : base.isAbsolute = true)
    (fs : FileSystem) (options : VerifyOptions) (paths : List Path) :
    ∃ b, verifyDocuments fs base paths options = .ok b ∧
      List.Forall₂ (DocumentReport.IsCutSession fs base.normalize options)
        (paths.filter (isDocumentPath options)) b.reports := by
  refine ⟨_, verifyDocuments_of_isAbsolute fs base options habsolute paths, ?_⟩
  change List.Forall₂ _ _ (List.map _ _)
  rw [List.forall₂_map_right_iff, List.forall₂_same]
  intro path _
  rw [← Place.isAbsolute_normalize] at habsolute
  exact isCutSession_verifyDocument habsolute fs options path

theorem link_behind_unreadable_target_not_reported :
    let base := Path.ofString "/b"
    let fs : FileSystem := ⟨fun path => path == .ofString "/b/c.h", fun _ => false, fun path =>
      if path = .ofString "/b/a.md" then .ok (Utf8.encode "[](x) [](c.h#L1) [](/)".toList)
      else .error .noSuchFile⟩
    let paths := [Path.ofString "a.md", .ofString "c.h", .ofString "lost.md"]
    base.isAbsolute = true ∧
      ∃ b, verifyDocuments fs base paths {} = .ok b ∧
        List.Forall₂ (DocumentReport.IsCutSession fs base.normalize {})
          [.ofString "a.md", .ofString "lost.md"] b.reports ∧
        b.reports.map (fun r => (r.errors.map LinkError.verdict, r.failure)) =
        [([.file .fileNotExists],
           some "IO error reading /b/c.h: No such file or directory (os error 2)".toList),
         ([],
           some "IO error reading /b/lost.md: No such file or directory (os error 2)".toList)] := by
  intro base fs paths
  have habsolute : base.isAbsolute = true := by decide +kernel
  obtain ⟨b, hb, hreports⟩ := verifyDocuments_cuts_sessions habsolute fs {} paths
  have hkept : paths.filter (isDocumentPath {}) = [.ofString "a.md", .ofString "lost.md"] := by
    decide +kernel
  have hresult : (verifyDocuments fs base paths {}).map
      (fun b => b.reports.map fun r => (r.errors.map LinkError.verdict, r.failure)) =
        .ok [([.file .fileNotExists],
          some "IO error reading /b/c.h: No such file or directory (os error 2)".toList),
        ([],
          some "IO error reading /b/lost.md: No such file or directory (os error 2)".toList)] := by
    decide +kernel
  rw [hb] at hresult
  rw [hkept] at hreports
  exact ⟨habsolute, b, hb, hreports, Except.ok.inj hresult⟩

end DocLinks
