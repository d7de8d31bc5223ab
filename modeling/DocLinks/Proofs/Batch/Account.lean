import DocLinks.Batch
import Mathlib.Data.List.Perm.Basic

namespace DocLinks

namespace DocumentReport

/-- Whether the document was verified to its end and some link of it does not resolve. -/
def isBroken (r : DocumentReport) : Bool :=
  r.failure.isNone && !r.errors.isEmpty

def isFailed (r : DocumentReport) : Bool :=
  r.failure.isSome

theorem kind_cases (r : DocumentReport) :
    (r.isClean = true ∧ r.isBroken = false ∧ r.isFailed = false) ∨
      (r.isClean = false ∧ r.isBroken = true ∧ r.isFailed = false) ∨
        (r.isClean = false ∧ r.isBroken = false ∧ r.isFailed = true) := by
  rw [isClean, isBroken, isFailed]
  cases r.failure <;> cases r.errors.isEmpty <;> simp

theorem not_isClean (r : DocumentReport) : (!r.isClean) = (r.isBroken || r.isFailed) := by
  rcases r.kind_cases with ⟨hclean, hbroken, hfailed⟩ | ⟨hclean, hbroken, hfailed⟩ |
    ⟨hclean, hbroken, hfailed⟩
  all_goals
    rw [hclean, hbroken, hfailed]
    rfl

theorem countP_kinds (reports : List DocumentReport) :
    reports.countP isClean + reports.countP isBroken + reports.countP isFailed =
      reports.length := by
  induction reports with
  | nil => rfl
  | cons r reports ih =>
      rw [List.countP_cons, List.countP_cons, List.countP_cons, List.length_cons, ← ih]
      rcases r.kind_cases with ⟨hclean, hbroken, hfailed⟩ | ⟨hclean, hbroken, hfailed⟩ |
        ⟨hclean, hbroken, hfailed⟩
      all_goals
        rw [hclean, hbroken, hfailed]
        simp only [if_true, Bool.false_eq_true, if_false]
        omega

end DocumentReport

namespace Tally

def ofReports (reports : List DocumentReport) : Tally :=
  ⟨reports.countP DocumentReport.isClean, reports.countP DocumentReport.isBroken,
    reports.countP DocumentReport.isFailed⟩

theorem add_ofReports (reports : List DocumentReport) (r : DocumentReport) :
    (ofReports reports).add r = ofReports (r :: reports) := by
  rcases r with ⟨path, errors, failure⟩
  rw [ofReports, ofReports, List.countP_cons, List.countP_cons, List.countP_cons]
  cases failure with
  | some failure => rfl
  | none => cases errors <;> rfl

theorem ofReports_middle (before after : List DocumentReport) (r : DocumentReport) :
    ofReports (before ++ r :: after) = (ofReports (before ++ after)).add r := by
  have hperm : (before ++ r :: after).Perm (r :: (before ++ after)) := List.perm_middle
  rw [add_ofReports, ofReports, ofReports, hperm.countP_eq, hperm.countP_eq, hperm.countP_eq]

theorem foldl_add (counted reports : List DocumentReport) :
    reports.foldl add (ofReports counted) = ofReports (counted ++ reports) := by
  induction reports generalizing counted with
  | nil => rw [List.foldl_nil, List.append_nil]
  | cons r reports ih =>
      have hcounted := ofReports_middle counted [] r
      rw [List.append_nil] at hcounted
      rw [List.foldl_cons, ← hcounted, ih, List.append_assoc, List.singleton_append]

end Tally

theorem path_verifyDocument (fs : FileSystem) (base : Path) (options : VerifyOptions)
    (path : Path) : (verifyDocument fs base options path).path = path := by
  rw [verifyDocument]
  split
  · rfl
  · split <;> rfl

/-- What the report on a batch of paths accounts for. -/
structure BatchReport.Accounts (fs : FileSystem) (base : Path) (options : VerifyOptions)
    (paths : List Path) (b : BatchReport) : Prop where
  reports : b.reports = (paths.filter (isDocumentPath options)).map (verifyDocument fs base options)
  documents : b.reports.map DocumentReport.path = paths.filter (isDocumentPath options)
  total : b.stats.total = paths.length
  skipped : b.stats.skipped = paths.countP fun path => !isDocumentPath options path
  clean : b.stats.clean = b.reports.countP DocumentReport.isClean
  withErrors : b.stats.withErrors = b.reports.countP DocumentReport.isBroken
  failed : b.stats.failed = b.reports.countP DocumentReport.isFailed
  sum : b.stats.skipped + b.stats.clean + b.stats.withErrors + b.stats.failed = b.stats.total
  hasErrors : b.hasErrors = true ↔ 0 < b.stats.withErrors + b.stats.failed

/-- The reports of two batches, one behind the other, with every count added. -/
def BatchReport.append (b other : BatchReport) : BatchReport :=
  ⟨b.reports ++ other.reports,
    { total := b.stats.total + other.stats.total
      skipped := b.stats.skipped + other.stats.skipped
      clean := b.stats.clean + other.stats.clean
      withErrors := b.stats.withErrors + other.stats.withErrors
      failed := b.stats.failed + other.stats.failed }⟩

def batchReport (fs : FileSystem) (base : Path) (options : VerifyOptions) (paths : List Path) :
    BatchReport :=
  let reports := (paths.filter (isDocumentPath options)).map (verifyDocument fs base options)
  let tally := Tally.ofReports reports
  ⟨reports,
    { total := paths.length
      skipped := paths.countP fun path => !isDocumentPath options path
      clean := tally.clean
      withErrors := tally.withErrors
      failed := tally.failed }⟩

section

variable (fs : FileSystem) (base : Path) (options : VerifyOptions)

theorem length_sub_documents (paths : List Path) :
    paths.length - (paths.filter (isDocumentPath options)).length =
      paths.countP fun path => !isDocumentPath options path := by
  have hlength := List.length_eq_countP_add_countP (isDocumentPath options) (l := paths)
  rw [← List.countP_eq_length_filter]
  simp only [Bool.not_eq_true, Bool.decide_eq_false] at hlength
  omega

theorem verifyDocuments_of_isAbsolute (h : base.isAbsolute = true) (paths : List Path) :
    verifyDocuments fs base paths options = .ok (batchReport fs base.normalize options paths) := by
  rw [verifyDocuments, if_pos h, batchReport]
  simp only [length_sub_documents]
  have htally := Tally.foldl_add []
    ((paths.filter (isDocumentPath options)).map (verifyDocument fs base.normalize options))
  rw [List.nil_append] at htally
  rw [← htally]
  rfl

theorem batchReport_append (paths more : List Path) :
    batchReport fs base options (paths ++ more) =
      (batchReport fs base options paths).append (batchReport fs base options more) := by
  simp [batchReport, BatchReport.append, Tally.ofReports, List.filter_append, List.countP_append]

theorem hasErrors_iff (b : BatchReport) :
    b.hasErrors = true ↔
      0 < b.reports.countP DocumentReport.isBroken + b.reports.countP DocumentReport.isFailed := by
  rw [BatchReport.hasErrors, Nat.add_pos_iff_pos_or_pos, List.countP_pos_iff, List.countP_pos_iff]
  simp only [DocumentReport.not_isClean, List.any_eq_true, Bool.or_eq_true, and_or_left, exists_or]

theorem batchReport_accounts (paths : List Path) :
    (batchReport fs base options paths).Accounts fs base options paths := by
  let reports := (paths.filter (isDocumentPath options)).map (verifyDocument fs base options)
  have hkinds := DocumentReport.countP_kinds reports
  have hlength := List.length_eq_countP_add_countP (isDocumentPath options) (l := paths)
  refine ⟨rfl, ?_, rfl, rfl, rfl, rfl, rfl, ?_, hasErrors_iff _⟩
  · change reports.map DocumentReport.path = _
    rw [List.map_map]
    exact List.map_id'' (path_verifyDocument fs base options) _
  · change paths.countP _ + reports.countP _ + reports.countP _ + reports.countP _ = paths.length
    have hreports : reports.length = paths.countP (isDocumentPath options) := by
      rw [List.length_map, List.countP_eq_length_filter]
    simp only [Bool.not_eq_true, Bool.decide_eq_false] at hlength
    omega

end

end DocLinks
