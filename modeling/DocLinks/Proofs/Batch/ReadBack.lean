import DocLinks.Proofs.Batch.Layout
import DocLinks.Proofs.Slug.Numbering
import DocLinks.Proofs.Text.Run

/-!
What can be read back from a report. A line shows by its begin and its end what it tells of, and a
line on a broken link or a failure belongs to the document that was named last. So a report shows
all that it was made from, but for the addresses and columns of links. Only a failure can be taken
for something else, namely when its line ends like that of a clean document.
-/

namespace DocLinks

structure ShownError where
  line : Option Nat
  href : Text
  verdict : Verdict
  deriving DecidableEq

/-- What a report shows of a document. -/
structure ShownReport where
  path : Text
  errors : List ShownError
  failure : Option Text
  deriving DecidableEq

def LinkError.shown (e : LinkError) : ShownError :=
  ⟨e.link.line, e.link.href, e.verdict⟩

def DocumentReport.shown (r : DocumentReport) : ShownReport :=
  ⟨r.path.text, r.errors.map LinkError.shown, r.failure⟩

def BatchReport.shown (b : BatchReport) : List ShownReport :=
  b.reports.map DocumentReport.shown

inductive ReportLine where
  | clean (path : Text)
  | heading (path : Text)
  | error (e : ShownError)
  | failure (text : Text)

namespace Verdict

def remark (v : Verdict) : Text :=
  v.kind ++ " error ".toList ++ v.code ++ [')']

def all : List Verdict :=
  [.file .fileNotExists, .file .fileOutsideBase, .file .convertPureAnchor, .anchor .emptyAnchor,
   .anchor .binaryFile, .anchor .anchorUndiscoverable, .anchor .noAnchorsInFiletype,
   .anchor .headingMatchFail, .anchor .lineTargetFail, .anchor .lineTargetInvalid,
   .anchor .multiLineTargetRangeInvalid]

theorem mem_all (v : Verdict) : v ∈ all := by
  rcases v with error | error <;> cases error <;> decide

theorem remark_injective {v w : Verdict} (h : v.remark = w.remark) : v = w := by
  have hnodup : (all.map remark).Nodup := by decide +kernel
  exact List.inj_on_of_nodup_map hnodup (mem_all v) (mem_all w) h

theorem bracket_notMem_remark (v : Verdict) : '(' ∉ v.remark := by
  have hall : ∀ v ∈ all, '(' ∉ v.remark := by decide +kernel
  exact hall v (mem_all v)

end Verdict

namespace ShownError

def lineText (line : Option Nat) : Text :=
  (line.map Text.ofNat).getD ['?']

def text (e : ShownError) : Text :=
  "line ".toList ++ (lineText e.line ++ ':' :: ' ' :: (e.href ++ ' ' :: '(' :: e.verdict.remark))

theorem colon_notMem_lineText (line : Option Nat) : ':' ∉ lineText line := by
  cases line with
  | none => decide
  | some n => exact Text.notMem_ofNat (by decide) n

theorem lineText_injective : Function.Injective lineText := by
  have hmark (n : Nat) : lineText (some n) ≠ lineText none := by
    intro h
    have hmem : '?' ∈ lineText (some n) := by
      rw [h]
      decide
    exact Text.notMem_ofNat (by decide) n hmem
  intro line line' h
  cases line with
  | none =>
      cases line' with
      | none => rfl
      | some n => exact absurd h.symm (hmark n)
  | some n =>
      cases line' with
      | none => exact absurd h (hmark n)
      | some m => rw [Slugger.ofNat_injective h]

/-- The first colon and the last bracket are those around the destination, whatever it holds. -/
theorem text_injective {e e' : ShownError} (h : e.text = e'.text) : e = e' := by
  obtain ⟨line, href, verdict⟩ := e
  obtain ⟨line', href', verdict'⟩ := e'
  obtain ⟨hline, hbehind⟩ := Text.append_cons_inj_of_notMem_left (colon_notMem_lineText line)
    (colon_notMem_lineText line') (List.append_cancel_left h)
  have hbracket : (href ++ [' ']) ++ '(' :: verdict.remark =
      (href' ++ [' ']) ++ '(' :: verdict'.remark := by
    simpa using (List.cons.inj hbehind).2
  obtain ⟨hhref, hverdict⟩ := Text.append_cons_inj_of_notMem_right
    verdict.bracket_notMem_remark verdict'.bracket_notMem_remark hbracket
  obtain rfl := lineText_injective hline
  obtain rfl := List.append_cancel_right hhref
  obtain rfl := Verdict.remark_injective hverdict
  rfl

theorem head?_text (e : ShownError) : e.text.head? = some 'l' := by
  have hline : "line ".toList.head? = some 'l' := by decide
  rw [text, List.head?_append, hline, Option.some_or]

theorem getLast?_text (e : ShownError) : e.text.getLast? = some ')' := by
  have hend : e.text = ("line ".toList ++ lineText e.line ++ ':' :: ' ' :: e.href ++
      ' ' :: '(' :: e.verdict.kind ++ " error ".toList ++ e.verdict.code) ++ [')'] := by
    simp only [text, Verdict.remark, List.append_assoc, List.cons_append]
  rw [hend, List.getLast?_concat]

end ShownError

theorem LinkError.message_eq (e : LinkError) : e.message = e.shown.text := by
  have hline : e.link.lineText = ShownError.lineText e.link.line := by
    rw [Link.lineText]
    cases e.link.line <;> rfl
  calc
    e.message = "line ".toList ++ ShownError.lineText e.link.line ++ [':', ' '] ++ e.link.href ++
        [' ', '('] ++ e.verdict.kind ++ " error ".toList ++ e.verdict.code ++ [')'] := by
      rw [← hline]
      rfl
    _ = e.shown.text := by
      simp only [shown, ShownError.text, Verdict.remark, List.append_assoc, List.cons_append,
        List.nil_append]

namespace ReportLine

def cleanMark : Text :=
  " [OK]".toList

def text : ReportLine → Text
  | .clean path => path ++ cleanMark
  | .heading path => "--- ".toList ++ path ++ " ---".toList
  | .error e => e.text
  | .failure text => "failed: ".toList ++ text

/-- Only failures can make a line end like that of a clean document. -/
def IsLegible : ReportLine → Prop
  | .failure text => ¬cleanMark <:+ "failed: ".toList ++ text
  | _ => True

def sign : ReportLine → Option Char
  | .clean _ => none
  | .heading _ => some '-'
  | .error _ => some 'l'
  | .failure _ => some 'f'

def signOf (t : Text) : Option Char :=
  if cleanMark.isSuffixOf t then none else t.head?

variable {l l' : ReportLine}

theorem signOf_of_getLast? {t : Text} {c : Char} (hlast : t.getLast? = some c) (hc : c ≠ ']') :
    signOf t = t.head? := by
  apply if_neg
  rw [List.isSuffixOf_iff_suffix]
  rintro ⟨front, rfl⟩
  rw [List.getLast?_append] at hlast
  exact hc (Option.some.inj hlast).symm

theorem signOf_text (h : l.IsLegible) : signOf l.text = l.sign := by
  cases l with
  | clean path => exact if_pos (List.isSuffixOf_iff_suffix.mpr (List.suffix_append path cleanMark))
  | heading path =>
      have hdashes : " ---".toList.getLast? = some '-' ∧ "--- ".toList.head? = some '-' := by
        decide
      have hlast : (heading path).text.getLast? = some '-' := by
        change ("--- ".toList ++ path ++ " ---".toList).getLast? = _
        rw [List.getLast?_append, hdashes.1, Option.some_or]
      calc
        signOf (heading path).text = ("--- ".toList ++ path ++ " ---".toList).head? :=
          signOf_of_getLast? hlast (by decide)
        _ = some '-' := by
          rw [List.append_assoc, List.head?_append, hdashes.2, Option.some_or]
  | error e =>
      exact (signOf_of_getLast? e.getLast?_text (by decide)).trans e.head?_text
  | failure text =>
      have hhead : "failed: ".toList.head? = some 'f' := by decide
      calc
        signOf (failure text).text = ("failed: ".toList ++ text).head? :=
          if_neg (mt List.isSuffixOf_iff_suffix.mp h)
        _ = some 'f' := by rw [List.head?_append, hhead, Option.some_or]

theorem text_injective (hl : l.IsLegible) (hl' : l'.IsLegible) (h : l.text = l'.text) : l = l' := by
  have hsign : l.sign = l'.sign := by rw [← signOf_text hl, h, signOf_text hl']
  cases l with
  | clean path =>
      cases l' with
      | clean path' => rw [List.append_cancel_right h]
      | heading | error | failure => simp [sign] at hsign
  | heading path =>
      cases l' with
      | heading path' => rw [List.append_cancel_left (List.append_cancel_right h)]
      | clean | error | failure => simp [sign] at hsign
  | error e =>
      cases l' with
      | error e' => rw [ShownError.text_injective h]
      | clean | heading | failure => simp [sign] at hsign
  | failure text =>
      cases l' with
      | failure text' => rw [List.append_cancel_left h]
      | clean | heading | error => simp [sign] at hsign

theorem map_text_injective {ls ls' : List ReportLine} (h : ∀ l ∈ ls, l.IsLegible)
    (h' : ∀ l ∈ ls', l.IsLegible) (heq : ls.map text = ls'.map text) : ls = ls' := by
  induction ls generalizing ls' with
  | nil => exact (List.map_eq_nil_iff.mp heq.symm).symm
  | cons l ls ih =>
      cases ls' with
      | nil => cases heq
      | cons l' ls' =>
          obtain ⟨hl, hls⟩ := List.forall_mem_cons.mp h
          obtain ⟨hl', hls'⟩ := List.forall_mem_cons.mp h'
          obtain ⟨htext, hrest⟩ := List.cons.inj heq
          rw [text_injective hl hl' htext, ih hls hls' hrest]

theorem cleanMark_suffix_failed_iff {text : Text} :
    cleanMark <:+ "failed: ".toList ++ text ↔ cleanMark <:+ text ∨ text = "[OK]".toList := by
  constructor
  · rintro ⟨front, hfront⟩
    rcases List.append_eq_append_iff.mp hfront with ⟨middle, hfailed, hmark⟩ | ⟨more, _, rfl⟩
    · rcases middle with _ | ⟨a, _ | ⟨b, middle⟩⟩
      · left
        rw [hmark]
        exact List.suffix_refl _
      · right
        exact (List.cons.inj hmark).2.symm
      · obtain ⟨rfl, rfl, _⟩ : ' ' = a ∧ '[' = b ∧ _ := by simpa [cleanMark] using hmark
        have hmem : '[' ∈ "failed: ".toList := by
          rw [hfailed]
          simp
        exact absurd hmem (by decide)
    · exact Or.inl (List.suffix_append more cleanMark)
  · rintro (hsuffix | rfl)
    · exact hsuffix.trans (List.suffix_append _ _)
    · exact ⟨"failed:".toList, rfl⟩

end ReportLine

namespace ShownReport

def lines (r : ShownReport) : List ReportLine :=
  if r.failure = none ∧ r.errors = [] then [.clean r.path]
  else .heading r.path :: r.errors.map .error ++ (r.failure.map .failure).toList

/-- The errors and the failure that lines tell of before the first document, and the documents. -/
def gather : List ReportLine → List ShownError × Option Text × List ShownReport
  | [] => ([], none, [])
  | .clean path :: lines => ([], none, ⟨path, [], none⟩ :: (gather lines).2.2)
  | .heading path :: lines =>
      let (errors, failure, reports) := gather lines
      ([], none, ⟨path, errors, failure⟩ :: reports)
  | .error e :: lines =>
      let (errors, failure, reports) := gather lines
      (e :: errors, failure, reports)
  | .failure text :: lines =>
      let (errors, _, reports) := gather lines
      (errors, some text, reports)

variable {lines : List ReportLine} {reports : List ShownReport}

theorem gather_errors_append (h : gather lines = ([], none, reports)) (errors : List ShownError)
    (failure : Option Text) :
    gather (errors.map .error ++ (failure.map .failure).toList ++ lines) =
      (errors, failure, reports) := by
  induction errors with
  | nil => cases failure <;> simp [gather, h]
  | cons e errors ih =>
      rw [List.map_cons, List.cons_append, List.cons_append, gather, ih]

theorem gather_lines_append (r : ShownReport) (h : gather lines = ([], none, reports)) :
    gather (r.lines ++ lines) = ([], none, r :: reports) := by
  obtain ⟨path, errors, failure⟩ := r
  rw [ShownReport.lines]
  split
  next hclean =>
    obtain ⟨rfl, rfl⟩ : failure = none ∧ errors = [] := hclean
    rw [List.singleton_append, gather, h]
  next =>
    rw [List.cons_append, List.cons_append, gather, gather_errors_append h]

theorem gather_flatMap_lines (reports : List ShownReport) :
    gather (reports.flatMap ShownReport.lines) = ([], none, reports) := by
  induction reports with
  | nil => rfl
  | cons r reports ih =>
      rw [List.flatMap_cons]
      exact gather_lines_append r ih

theorem flatMap_lines_injective :
    Function.Injective fun reports : List ShownReport => reports.flatMap ShownReport.lines := by
  intro reports reports' h
  have hgather := congrArg gather h
  rw [gather_flatMap_lines, gather_flatMap_lines] at hgather
  exact (Prod.mk.inj (Prod.mk.inj hgather).2).2

end ShownReport

namespace DocumentReport

/-- No line feed in what the report passes on, and no failure whose line ends like that of a clean
document. -/
structure IsLegible (r : DocumentReport) : Prop where
  path : '\n' ∉ r.path.text
  hrefs : ∀ e ∈ r.errors, '\n' ∉ e.link.href
  failure : ∀ failure ∈ r.failure, '\n' ∉ failure ∧ ¬" [OK]".toList <:+ failure ∧
    failure ≠ "[OK]".toList

variable {r : DocumentReport}

theorem lines_eq_map_text (r : DocumentReport) : r.lines = r.shown.lines.map ReportLine.text := by
  have hshown : r.isClean = true ↔ r.shown.failure = none ∧ r.shown.errors = [] := by
    simp [isClean, shown]
  have herrors : r.errors.map LinkError.message =
      (r.shown.errors.map ReportLine.error).map ReportLine.text := by
    rw [shown, List.map_map, List.map_map]
    exact List.map_congr_left fun e _ => e.message_eq
  have hfailure : (r.failure.map fun failure => "failed: ".toList ++ failure).toList =
      (r.shown.failure.map ReportLine.failure).toList.map ReportLine.text := by
    rw [shown]
    cases r.failure <;> rfl
  cases hclean : r.isClean with
  | true =>
      have hlines : r.lines = [r.path.text ++ ReportLine.cleanMark] := if_pos hclean
      rw [hlines, ShownReport.lines, if_pos (hshown.mp hclean)]
      rfl
  | false =>
      have hnot : ¬r.isClean = true := by simp [hclean]
      rw [lines, if_neg hnot, ShownReport.lines, if_neg (mt hshown.mpr hnot), herrors, hfailure,
        List.map_append]
      rfl

theorem IsLegible.lineFeeds_eq_zero (h : r.IsLegible) : r.lineFeeds = 0 := by
  have herrors : (r.errors.map fun e => e.link.href.count '\n').sum = 0 := by
    rw [List.sum_eq_zero_iff, List.forall_mem_map]
    exact fun e he => List.count_eq_zero_of_not_mem (h.hrefs e he)
  rw [lineFeeds, List.count_eq_zero_of_not_mem h.path, herrors]
  cases hfailure : r.failure with
  | none => rfl
  | some failure => simpa [List.count_eq_zero] using (h.failure failure hfailure).1

theorem IsLegible.of_mem_lines (h : r.IsLegible) {l : ReportLine} (hl : l ∈ r.shown.lines) :
    l.IsLegible := by
  rw [ShownReport.lines] at hl
  split at hl
  next =>
    rw [List.mem_singleton.mp hl]
    trivial
  next =>
    rcases List.mem_append.mp hl with hl | hl
    · rcases List.mem_cons.mp hl with rfl | hl
      · trivial
      · obtain ⟨e, _, rfl⟩ := List.mem_map.mp hl
        trivial
    · obtain ⟨failure, hfailure, rfl⟩ :
          ∃ failure, r.failure = some failure ∧ .failure failure = l := by
        simpa [shown] using hl
      obtain ⟨_, hend, hwhole⟩ := h.failure failure hfailure
      rw [ReportLine.IsLegible, ReportLine.cleanMark_suffix_failed_iff]
      exact not_or.mpr ⟨hend, hwhole⟩

theorem heading_ne_nil (r : DocumentReport) : r.heading ≠ [] := by
  rw [heading]
  split <;> simp

theorem message_ne_nil (r : DocumentReport) : r.message ≠ [] := by
  rw [message, lines_eq]
  exact Text.join_cons_ne_nil _ _ r.heading_ne_nil

end DocumentReport

namespace BatchReport

variable {b b' : BatchReport}

theorem message_eq_nil_iff : b.message = [] ↔ b.reports = [] := by
  rw [message]
  cases b.reports with
  | nil => simp [Text.join]
  | cons r reports => simp [Text.join_cons_ne_nil _ _ r.message_ne_nil]

theorem message_eq_join_shown (b : BatchReport) :
    b.message = Text.join ['\n'] (b.shown.map fun r =>
      Text.join ['\n'] (r.lines.map ReportLine.text)) := by
  rw [message, shown, List.map_map]
  congr 1
  apply List.map_congr_left
  intro r _
  rw [DocumentReport.message, r.lines_eq_map_text]
  rfl

theorem splitAll_message_eq_map_text (hne : b.reports ≠ []) (h : ∀ r ∈ b.reports, r.IsLegible) :
    Text.splitAll '\n' b.message = (b.shown.flatMap ShownReport.lines).map ReportLine.text := by
  rw [(splitAll_message_eq_lines_iff hne).mpr fun r hr => (h r hr).lineFeeds_eq_zero, shown,
    List.flatMap_map, List.map_flatMap]
  exact List.flatMap_congr fun r _ => r.lines_eq_map_text

theorem isLegible_of_mem_flatMap_lines (h : ∀ r ∈ b.reports, r.IsLegible) :
    ∀ l ∈ b.shown.flatMap ShownReport.lines, l.IsLegible := by
  intro l hl
  rw [shown, List.flatMap_map] at hl
  obtain ⟨r, hr, hl⟩ := List.mem_flatMap.mp hl
  exact (h r hr).of_mem_lines hl

/-- Where no path, destination or failure holds a line feed and no failure makes its line end like
that of a clean document, the text of a report shows how many documents it is about and, document
by document, the path, the line, destination and verdict of each broken link, and the failure. -/
theorem message_eq_iff_shown_eq (h : ∀ r ∈ b.reports, r.IsLegible)
    (h' : ∀ r ∈ b'.reports, r.IsLegible) : b.message = b'.message ↔ b.shown = b'.shown := by
  constructor
  · intro hmessage
    have hnil : b.reports = [] ↔ b'.reports = [] := by
      rw [← message_eq_nil_iff, hmessage, message_eq_nil_iff]
    by_cases hempty : b.reports = []
    · rw [shown, shown, hempty, hnil.mp hempty]
    · apply ShownReport.flatMap_lines_injective
      apply ReportLine.map_text_injective (isLegible_of_mem_flatMap_lines h)
        (isLegible_of_mem_flatMap_lines h')
      rw [← splitAll_message_eq_map_text hempty h, hmessage,
        splitAll_message_eq_map_text (mt hnil.mpr hempty) h']
  · intro hshown
    rw [message_eq_join_shown, hshown, ← message_eq_join_shown]

theorem shown_eq_of_links_at_other_columns :
    let error (column : Nat) : LinkError :=
      ⟨.anchor .emptyAnchor, ⟨"x (file error FILE_NOT_EXISTS) [OK]".toList, none,
        some ⟨⟨3, column⟩, ⟨3, column⟩⟩⟩⟩
    let report (column : Nat) : BatchReport :=
      ⟨[⟨.ofString "--- a.md", [error column, error column], some "[OK] ".toList⟩,
        ⟨.ofString "failed: ", [], none⟩], ⟨2, 0, 1, 0, 1⟩⟩
    (∀ r ∈ (report 1).reports, r.IsLegible) ∧ (∀ r ∈ (report 8).reports, r.IsLegible) ∧
      (report 1).message = (report 8).message ∧ report 1 ≠ report 8 ∧
      (report 1).shown = (report 8).shown := by
  intro error report
  have hlegible (column : Nat) : ∀ r ∈ (report column).reports, r.IsLegible := by
    intro r hr
    rcases List.mem_cons.mp hr with rfl | hr
    · have hpath : '\n' ∉ (Path.ofString "--- a.md").text := by decide
      have hhref : '\n' ∉ "x (file error FILE_NOT_EXISTS) [OK]".toList := by decide
      refine ⟨hpath, ?_, ?_⟩
      · intro e he
        obtain rfl : e = error column := by simpa using he
        exact hhref
      · rintro _ ⟨⟩
        decide
    · obtain rfl := List.mem_singleton.mp hr
      exact ⟨by decide, by simp, by simp⟩
  have hmessage : (report 1).message = (report 8).message := by decide +kernel
  exact ⟨hlegible 1, hlegible 8, hmessage, by decide +kernel,
    (message_eq_iff_shown_eq (hlegible 1) (hlegible 8)).mp hmessage⟩

/-- A failure that is the mark of clean documents looks like a clean document with the path
`failed:`, though it does not end like one. -/
theorem failure_looks_like_clean_document :
    let error : LinkError := ⟨.file .fileNotExists, Link.relative ['x']⟩
    let b : BatchReport := ⟨[⟨.ofString "a.md", [error], some "[OK]".toList⟩], ⟨1, 0, 0, 0, 1⟩⟩
    let b' : BatchReport :=
      ⟨[⟨.ofString "a.md", [error], none⟩, ⟨.ofString "failed:", [], none⟩], ⟨2, 0, 1, 1, 0⟩⟩
    (∀ r ∈ b.reports ++ b'.reports,
      r.lineFeeds = 0 ∧ ∀ failure ∈ r.failure, ¬" [OK]".toList <:+ failure) ∧
      b.message = b'.message ∧ b.reports.length ≠ b'.reports.length := by
  decide +kernel

end BatchReport

end DocLinks
