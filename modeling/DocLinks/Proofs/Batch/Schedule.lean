import DocLinks.Proofs.Batch.Account
import Mathlib.Algebra.Order.Ring.Nat

/-!
Batches verified by several workers at the same time. A document is taken by a free worker,
verified, counted in a tally that all workers share, and reported in its own slot; the events of
different documents come in any order. Every run ends, none gets stuck, and all of them end with
the report of the documents verified one after the other.
-/

namespace DocLinks

structure BatchOptions where
  /-- How many workers there shall be at most; none leaves it to the machine. -/
  maxThreads : Option Nat := none
  deriving DecidableEq, Repr

/-- Where a batch runs: the workers that are there for everyone, and which numbers of workers can
be set up for one batch. -/
structure Machine where
  threads : Nat
  threads_pos : 0 < threads
  grants : Nat → Bool

/-- The number of workers of a batch. Zero asks for as many as there are for everyone; what cannot
be set up falls back to them. -/
def BatchOptions.workers (batch : BatchOptions) (machine : Machine) : Nat :=
  match batch.maxThreads with
  | some n => if machine.grants n ∧ n ≠ 0 then n else machine.threads
  | none => machine.threads

theorem BatchOptions.workers_pos (batch : BatchOptions) (machine : Machine) :
    0 < batch.workers machine := by
  rw [workers]
  split
  · split
    next h => exact Nat.pos_of_ne_zero h.2
    next => exact machine.threads_pos
  · exact machine.threads_pos

namespace Schedule

/-- How far a document has come. -/
inductive Stage where
  | waiting
  | running
  | verified (r : DocumentReport)
  | counted (r : DocumentReport)
  | reported (r : DocumentReport)
  deriving DecidableEq, Repr

namespace Stage

def found? : Stage → Option DocumentReport
  | .waiting | .running => none
  | .verified r | .counted r | .reported r => some r

def counted? : Stage → Option DocumentReport
  | .waiting | .running | .verified _ => none
  | .counted r | .reported r => some r

def reported? : Stage → Option DocumentReport
  | .waiting | .running | .verified _ | .counted _ => none
  | .reported r => some r

def isBusy : Stage → Bool
  | .running | .verified _ | .counted _ => true
  | .waiting | .reported _ => false

def remaining : Stage → Nat
  | .waiting => 4
  | .running => 3
  | .verified _ => 2
  | .counted _ => 1
  | .reported _ => 0

end Stage

structure Slot where
  path : Path
  stage : Stage
  deriving DecidableEq, Repr

/-- A batch under way: one slot for each document, in input order, and the shared tally. -/
structure State where
  slots : List Slot
  tally : Tally
  deriving DecidableEq, Repr

def start (documents : List Path) : State :=
  ⟨documents.map fun path => ⟨path, .waiting⟩, {}⟩

def busy (slots : List Slot) : Nat :=
  slots.countP fun slot => slot.stage.isBusy

theorem busy_middle (before after : List Slot) (slot : Slot) :
    busy (before ++ slot :: after) =
      busy (before ++ after) + if slot.stage.isBusy then 1 else 0 := by
  simp only [busy, List.countP_append, List.countP_cons]
  omega

def countedReports (slots : List Slot) : List DocumentReport :=
  slots.filterMap fun slot => slot.stage.counted?

theorem countedReports_middle (before after : List Slot) (slot : Slot) :
    countedReports (before ++ slot :: after) =
      countedReports before ++ (slot.stage.counted?.toList ++ countedReports after) := by
  rw [countedReports, List.filterMap_append, List.filterMap_cons]
  cases slot.stage.counted? <;> rfl

/-- One event of a batch: it concerns one document, and only the counting touches what is shared.
-/
inductive Step (verify : Path → DocumentReport) (workers : Nat) : State → State → Prop
  | take {before after : List Slot} {path : Path} {tally : Tally} :
      busy (before ++ after) < workers →
      Step verify workers ⟨before ++ ⟨path, .waiting⟩ :: after, tally⟩
        ⟨before ++ ⟨path, .running⟩ :: after, tally⟩
  | verify {before after : List Slot} {path : Path} {tally : Tally} :
      Step verify workers ⟨before ++ ⟨path, .running⟩ :: after, tally⟩
        ⟨before ++ ⟨path, .verified (verify path)⟩ :: after, tally⟩
  | count {before after : List Slot} {path : Path} {r : DocumentReport} {tally : Tally} :
      Step verify workers ⟨before ++ ⟨path, .verified r⟩ :: after, tally⟩
        ⟨before ++ ⟨path, .counted r⟩ :: after, tally.add r⟩
  | report {before after : List Slot} {path : Path} {r : DocumentReport} {tally : Tally} :
      Step verify workers ⟨before ++ ⟨path, .counted r⟩ :: after, tally⟩
        ⟨before ++ ⟨path, .reported r⟩ :: after, tally⟩

inductive Run (verify : Path → DocumentReport) (workers : Nat) (first : State) :
    Nat → State → Prop
  | start : Run verify workers first 0 first
  | step {n : Nat} {s next : State} : Run verify workers first n s →
      Step verify workers s next → Run verify workers first (n + 1) next

namespace State

def IsFinished (s : State) : Prop :=
  ∀ slot ∈ s.slots, ∃ r, slot.stage = .reported r

def remaining (s : State) : Nat :=
  (s.slots.map fun slot => slot.stage.remaining).sum

/-- The report on the paths that the batch was started with, read off the slots and the tally. -/
def result (s : State) (paths : List Path) : BatchReport :=
  ⟨s.slots.filterMap fun slot => slot.stage.reported?,
    { total := paths.length
      skipped := paths.length - s.slots.length
      clean := s.tally.clean
      withErrors := s.tally.withErrors
      failed := s.tally.failed }⟩

end State

/-- What holds of a batch at all times. -/
structure Invariant (verify : Path → DocumentReport) (workers : Nat) (documents : List Path)
    (s : State) : Prop where
  documents : s.slots.map Slot.path = documents
  found : ∀ slot ∈ s.slots, ∀ r ∈ slot.stage.found?, r = verify slot.path
  tally : s.tally = Tally.ofReports (countedReports s.slots)
  limit : busy s.slots ≤ workers

variable {verify : Path → DocumentReport} {workers : Nat} {documents : List Path} {s next : State}

theorem invariant_start (verify : Path → DocumentReport) (workers : Nat) (documents : List Path) :
    Invariant verify workers documents (start documents) := by
  refine ⟨?_, ?_, ?_, ?_⟩
  · simp [start, Function.comp_def]
  · simp [start, Stage.found?]
  · simp [start, countedReports, Stage.counted?, Tally.ofReports, List.filterMap_map]
  · simp [start, busy, Stage.isBusy, Function.comp_def]

theorem Invariant.replace {before after : List Slot} {path : Path} {stage stage' : Stage}
    {tally tally' : Tally}
    (h : Invariant verify workers documents ⟨before ++ ⟨path, stage⟩ :: after, tally⟩)
    (hfound : ∀ r ∈ stage'.found?, r = verify path)
    (htally : tally' = Tally.ofReports (countedReports (before ++ ⟨path, stage'⟩ :: after)))
    (hlimit : busy (before ++ ⟨path, stage'⟩ :: after) ≤ workers) :
    Invariant verify workers documents ⟨before ++ ⟨path, stage'⟩ :: after, tally'⟩ := by
  refine ⟨?_, ?_, htally, hlimit⟩
  · rw [← h.documents]
    simp
  · intro slot hslot r hr
    rcases List.mem_append.mp hslot with hslot | hslot
    · exact h.found slot (List.mem_append_left _ hslot) r hr
    · rcases List.mem_cons.mp hslot with rfl | hslot
      · exact hfound r hr
      · exact h.found slot (List.mem_append_right _ (List.mem_cons_of_mem _ hslot)) r hr

theorem Invariant.step (h : Invariant verify workers documents s)
    (hstep : Step verify workers s next) : Invariant verify workers documents next := by
  have htally := h.tally
  have hlimit := h.limit
  cases hstep with
  | take hfree =>
      refine h.replace (by simp [Stage.found?]) ?_ ?_
      · simp only [countedReports_middle] at htally ⊢
        exact htally
      · rw [busy_middle]
        exact hfree
  | verify =>
      refine h.replace (by simp [Stage.found?]) ?_ ?_
      · simp only [countedReports_middle] at htally ⊢
        exact htally
      · simp only [busy_middle] at hlimit ⊢
        exact hlimit
  | @count before after path r tally =>
      have hr : r = verify path := h.found ⟨path, .verified r⟩ (by simp) r rfl
      refine h.replace (by simpa [Stage.found?] using hr) ?_ ?_
      · simp only [countedReports_middle] at htally ⊢
        rw [htally]
        exact (Tally.ofReports_middle _ _ r).symm
      · simp only [busy_middle] at hlimit ⊢
        exact hlimit
  | @report before after path r tally =>
      have hr : r = verify path := h.found ⟨path, .counted r⟩ (by simp) r rfl
      refine h.replace (by simpa [Stage.found?] using hr) ?_ ?_
      · simp only [countedReports_middle] at htally ⊢
        exact htally
      · simp only [busy_middle] at hlimit ⊢
        exact Nat.le_trans (Nat.le_add_right _ _) hlimit

theorem Invariant.run {n : Nat} (h : Invariant verify workers documents s)
    (hrun : Run verify workers s n next) : Invariant verify workers documents next := by
  induction hrun with
  | start => exact h
  | step _ hstep ih => exact ih.step hstep

theorem remaining_step (hstep : Step verify workers s next) :
    next.remaining + 1 = s.remaining := by
  cases hstep <;> simp [State.remaining, Stage.remaining] <;> omega

theorem remaining_run {n : Nat} (hrun : Run verify workers s n next) :
    next.remaining + n = s.remaining := by
  induction hrun with
  | start => rfl
  | step _ hstep ih =>
      have := remaining_step hstep
      omega

theorem remaining_start (documents : List Path) :
    (start documents).remaining = 4 * documents.length := by
  simp [start, State.remaining, Stage.remaining, Function.comp_def, Nat.mul_comm]

theorem exists_step (hworkers : 0 < workers) (hunfinished : ¬ s.IsFinished) :
    ∃ next, Step verify workers s next := by
  rcases s with ⟨slots, tally⟩
  by_cases hbusy : ∃ slot ∈ slots, slot.stage.isBusy = true
  · obtain ⟨⟨path, stage⟩, hslot, hstage⟩ := hbusy
    obtain ⟨before, after, rfl⟩ := List.append_of_mem hslot
    cases stage with
    | waiting => simp [Stage.isBusy] at hstage
    | running => exact ⟨_, .verify⟩
    | verified r => exact ⟨_, .count⟩
    | counted r => exact ⟨_, .report⟩
    | reported r => simp [Stage.isBusy] at hstage
  · obtain ⟨⟨path, stage⟩, hslot, hstage⟩ : ∃ slot ∈ slots, ∀ r, slot.stage ≠ .reported r := by
      simpa [State.IsFinished] using hunfinished
    obtain ⟨before, after, rfl⟩ := List.append_of_mem hslot
    -- No slot is busy, so every worker is free, and what is not reported still waits.
    have hidle : busy (before ++ after) = 0 := by
      rw [busy, List.countP_eq_zero]
      intro slot hmem hslotBusy
      refine hbusy ⟨slot, ?_, hslotBusy⟩
      simp only [List.mem_append, List.mem_cons] at hmem ⊢
      exact hmem.imp_right Or.inr
    cases stage with
    | waiting => exact ⟨_, .take (hidle ▸ hworkers)⟩
    | reported r => exact absurd rfl (hstage r)
    | running => exact absurd ⟨_, hslot, rfl⟩ hbusy
    | verified r => exact absurd ⟨_, hslot, rfl⟩ hbusy
    | counted r => exact absurd ⟨_, hslot, rfl⟩ hbusy

theorem Invariant.finished (h : Invariant verify workers documents s) (hfinished : s.IsFinished) :
    (s.slots.filterMap fun slot => slot.stage.reported?) = documents.map verify ∧
      s.tally = Tally.ofReports (documents.map verify) := by
  have hslot : ∀ slot ∈ s.slots, slot.stage = .reported (verify slot.path) := by
    intro slot hmem
    obtain ⟨r, hr⟩ := hfinished slot hmem
    rw [hr, h.found slot hmem r (by rw [hr]; rfl)]
  have hall : ∀ f : Stage → Option DocumentReport, (∀ r, f (.reported r) = some r) →
      (s.slots.filterMap fun slot => f slot.stage) = documents.map verify := by
    intro f hf
    rw [← h.documents, List.map_map, ← List.filterMap_eq_map]
    apply List.filterMap_congr
    intro slot hmem
    rw [hslot slot hmem, hf]
    rfl
  refine ⟨hall Stage.reported? fun r => rfl, ?_⟩
  rw [h.tally, countedReports, hall Stage.counted? fun r => rfl]

theorem result_of_finished {fs : FileSystem} {base : Path} {options : VerifyOptions}
    {paths : List Path}
    (h : Invariant (verifyDocument fs base options) workers
      (paths.filter (isDocumentPath options)) s)
    (hfinished : s.IsFinished) : s.result paths = batchReport fs base options paths := by
  obtain ⟨hreports, htally⟩ := h.finished hfinished
  have hslots : s.slots.length = (paths.filter (isDocumentPath options)).length := by
    rw [← h.documents, List.length_map]
  rw [State.result, batchReport, hreports, htally, hslots, length_sub_documents]

/-- However the workers take turns, a batch comes to the same end: no run is longer than four
events for each document or busies more workers than there are, none stops before every report
stands in its slot, and then the report is that of the documents verified one after the other.
That report accounts for every path, and the report on two lists of paths is made of the reports
on each. -/
theorem every_run_ends_with_report (fs : FileSystem) {base : Path}
    (habsolute : base.isAbsolute = true) (options : VerifyOptions) (batch : BatchOptions)
    (machine : Machine) (paths : List Path) :
    let documents := paths.filter (isDocumentPath options)
    let verify := verifyDocument fs base.normalize options
    ∃ b, verifyDocuments fs base paths options = .ok b ∧
      b.Accounts fs base.normalize options paths ∧
      (∀ n s, Run verify (batch.workers machine) (start documents) n s →
        n ≤ 4 * documents.length ∧ busy s.slots ≤ batch.workers machine ∧
        (¬ s.IsFinished → ∃ next, Step verify (batch.workers machine) s next) ∧
        (s.IsFinished → s.result paths = b)) ∧
      ∀ more, ∃ c, verifyDocuments fs base more options = .ok c ∧
        verifyDocuments fs base (paths ++ more) options = .ok (b.append c) := by
  intro documents verify
  refine ⟨_, verifyDocuments_of_isAbsolute fs base options habsolute paths,
    batchReport_accounts fs base.normalize options paths, ?_, ?_⟩
  · intro n s hrun
    have hinvariant := (invariant_start verify (batch.workers machine) documents).run hrun
    have hremaining := remaining_run hrun
    rw [remaining_start] at hremaining
    exact ⟨by omega, hinvariant.limit, exists_step (batch.workers_pos machine),
      result_of_finished hinvariant⟩
  · intro more
    refine ⟨_, verifyDocuments_of_isAbsolute fs base options habsolute more, ?_⟩
    rw [verifyDocuments_of_isAbsolute fs base options habsolute, batchReport_append]

theorem every_run_counts_two_failures :
    let fs : FileSystem := ⟨fun _ => false, fun _ => false, fun _ => .error .noSuchFile⟩
    let base := Path.ofString "/b"
    let paths := [Path.ofString "a.md", .ofString "a.png", .ofString "a.md"]
    let batch : BatchOptions := ⟨some 2⟩
    let machine : Machine := ⟨1, Nat.one_pos, fun n => n ≤ 8⟩
    base.isAbsolute = true ∧
      ∀ n s, Run (verifyDocument fs base.normalize {}) (batch.workers machine)
          (start (paths.filter (isDocumentPath {}))) n s →
        n ≤ 8 ∧ (s.IsFinished → (s.result paths).stats = ⟨3, 1, 0, 0, 2⟩) := by
  intro fs base paths batch machine
  have habsolute : base.isAbsolute = true := by decide +kernel
  obtain ⟨b, hb, _, hruns, _⟩ := every_run_ends_with_report fs habsolute {} batch machine paths
  have hstats : (verifyDocuments fs base paths {}).map BatchReport.stats = .ok ⟨3, 1, 0, 0, 2⟩ := by
    decide +kernel
  rw [hb] at hstats
  refine ⟨habsolute, fun n s hrun => ?_⟩
  obtain ⟨hbound, _, _, hresult⟩ := hruns n s hrun
  refine ⟨hbound, fun hfinished => ?_⟩
  rw [hresult hfinished]
  exact Except.ok.inj hstats

end Schedule

end DocLinks
