import Conformance.Proofs.Layers
import Conformance.Proofs.Stages

namespace Conformance

namespace FileTree

variable {t : FileTree}

theorem follow_node {place names place' : List String} {n : Option FileNode}
    (h : t.follow place names = .ok (place', n)) : n = t.node? place' := by
  induction names generalizing place with
  | nil =>
    cases h
    rfl
  | cons name rest ih =>
    unfold follow at h
    split at h
    · exact ih h
    · split at h
      · cases h
      · simp only at h
        split at h
        · cases h
          rfl
        · cases h
        · cases h
        · exact ih h

theorem locate_node {path : String} {place : List String} {n : Option FileNode}
    (h : t.locate path = .ok (place, n)) : n = t.node? place := by
  unfold locate at h
  split at h
  · cases h
  · split at h
    · cases h
    · split at h
      · cases h
      · exact follow_node h

theorem isFile_of_directories (h : ∀ e ∈ t.entries, e.2 = .directory) (path : String) :
    t.isFile path = false := by
  unfold isFile
  split
  · next place content hl =>
    have hn := locate_node hl
    unfold node? at hn
    split at hn
    · cases hn
    · obtain ⟨before, after, he, -⟩ := List.lookup_eq_some_iff.1 hn.symm
      have hd := h (place, .file content) (by simp [he])
      cases hd
  · rfl

end FileTree

theorem RunReport.exitCode_eq_one_iff {outcomes : List Outcome} :
    (ofOutcomes outcomes).exitCode = 1 ↔ ∃ o ∈ outcomes, o.status = .failed := by
  have hs : (ofOutcomes outcomes).success = true ↔ ∀ o ∈ outcomes, o.status ≠ .failed := success_iff
  cases hx : (ofOutcomes outcomes).success with
  | true =>
    have hn := hs.1 hx
    simp only [exitCode, hx, if_true, Nat.zero_ne_one, false_iff]
    rintro ⟨o, ho, hf⟩
    exact hn o ho hf
  | false =>
    have hn : ¬ ∀ o ∈ outcomes, o.status ≠ .failed := by
      rw [← hs, hx]
      exact Bool.false_ne_true
    simp only [not_forall, not_not] at hn
    obtain ⟨o, ho, hf⟩ := hn
    simp only [exitCode, hx, Bool.false_eq_true, if_false, true_iff]
    exact ⟨o, ho, hf⟩

theorem RunReport.exitCode_lt_two (r : RunReport) : r.exitCode < 2 := by
  unfold exitCode
  split <;> decide

namespace CommandLine

variable {c : CommandLine} {h : Host} {s : Session} {r : RunReport} {j : Journal}
variable {result : CommandResult}

theorem settings_of_no_files (hf : ∀ path, h.files.isFile path = false) (he : h.env = [])
    (hd : h.directoryFault = none) (hc : c.config = none) (hp : c.profile = none) :
    c.settings h = .ok (c.applyTo {}, []) := by
  have hfile : (c.source h).file? h.files = none := by
    simp [ConfigSource.file?, source, hc, hf]
  have hprofile : (c.source h).profile? h.env = none := by
    simp only [ConfigSource.profile?, source, hp, he]
    rfl
  have hl : c.settings h = c.loadConfig h := by simp only [settings, hc, hd]
  rw [hl, loadConfig, Config.load_eq, hfile, hprofile, he]
  rfl

/-- The tests ran, and their report was printed and stored as the settings ask. -/
def Delivers (c : CommandLine) (h : Host) (r : RunReport) : Prop :=
  ∃ s j files, c.Reports h s r j ∧ (h.deliver s.config r).2 = .ok files

/-- The tests ran, and something kept their report from being printed or stored. -/
def Withholds (c : CommandLine) (h : Host) (r : RunReport) : Prop :=
  ∃ s j cause, c.Reports h s r j ∧ (h.deliver s.config r).2 = .error cause

theorem Reports.concludes (hr : c.Reports h s r j) (hrun : c.run h = .ok result) :
    Concludes h s r j result :=
  of_run (run_of_reports hr) hrun

theorem Reports.journal_tests (hr : c.Reports h s r j) : j.tests = r.total := by
  obtain ⟨selected, outcomes, j₁, -, hruns, rfl, rfl⟩ := Session.runFiltered_eq_ok_iff.1 hr.2.2
  have ht : j₁.tests = 0 + outcomes.length := hruns.journal_tests
  rw [Nat.zero_add] at ht
  exact ht

theorem Reports.exitCode_eq_one_iff (hr : c.Reports h s r j) :
    r.exitCode = 1 ↔ ∃ o ∈ r.outcomes, o.status = .failed := by
  obtain ⟨selected, outcomes, j₁, -, -, rfl, -⟩ := Session.runFiltered_eq_ok_iff.1 hr.2.2
  exact RunReport.exitCode_eq_one_iff

theorem run_exitCode_eq_one_iff (hrun : c.run h = .ok result) :
    result.exitCode = 1 ↔ ∃ r, c.Delivers h r ∧ ∃ o ∈ r.outcomes, o.status = .failed := by
  constructor
  · intro hone
    cases run_ends hrun with
    | hindered _ hh =>
      have htwo := hh.exitCode
      omega
    | listed _ hl =>
      have hzero := hl.exitCode
      omega
    | delivered hr hd hcode _ =>
      exact ⟨_, ⟨_, _, _, hr, hd⟩, hr.exitCode_eq_one_iff.1 (hcode.symm.trans hone)⟩
    | withheld _ _ hcode _ => omega
  · rintro ⟨r, ⟨s, j, files, hr, hd⟩, hf⟩
    exact ((hr.concludes hrun).delivered files hd).1.trans (hr.exitCode_eq_one_iff.2 hf)

theorem run_exitCode_eq_two_iff (hrun : c.run h = .ok result) :
    result.exitCode = 2 ↔ (∃ e, c.Hindered h e) ∨ ∃ r, c.Withholds h r := by
  constructor
  · intro htwo
    cases run_ends hrun with
    | hindered hh _ => exact .inl ⟨_, hh⟩
    | listed _ hl =>
      have hzero := hl.exitCode
      omega
    | @delivered s r j files _ _ hcode _ =>
      have hlt := r.exitCode_lt_two
      omega
    | withheld hr hd _ _ => exact .inr ⟨_, _, _, _, hr, hd⟩
  · rintro (⟨e, hh⟩ | ⟨r, s, j, cause, hr, hd⟩)
    · exact (of_run (run_of_hindered hh) hrun).exitCode
    · exact ((hr.concludes hrun).undelivered cause hd).1

theorem run_exitCode_cases (hrun : c.run h = .ok result) :
    result.exitCode = 0 ∨ result.exitCode = 1 ∨ result.exitCode = 2 := by
  cases run_ends hrun with
  | hindered _ hh => exact .inr (.inr hh.exitCode)
  | listed _ hl => exact .inl hl.exitCode
  | @delivered s r j files _ _ hcode _ =>
    have hlt := r.exitCode_lt_two
    omega
  | withheld _ _ hcode _ => exact .inr (.inr hcode)

/-- What the exit code of a command tells. A command that lists its tests, and one that something
hinders before any test runs, come to an end without having run a test. Where tests ran, the command
tells of all of them; its exit code is 1 if one of them failed and their report was delivered, but 2
if the report was not delivered, whatever the tests did. In every other case it is 0. -/
theorem exitCode_tells (c : CommandLine) (h : Host) :
    (c.list = true → ∃ result, c.run h = .ok result ∧ result.Idle h ∧ result.exitCode ≠ 1) ∧
    (∀ e, c.Hindered h e → ∃ result, c.run h = .ok result ∧ result.Idle h ∧
      result.error = some e) ∧
    (∀ s r j, c.Reports h s r j → ∃ result, c.run h = .ok result ∧
      result.report = some r ∧ result.journal = j ∧ j.tests = r.total) ∧
    ∀ result, c.run h = .ok result →
      (result.exitCode = 1 ↔ ∃ r, c.Delivers h r ∧ ∃ o ∈ r.outcomes, o.status = .failed) ∧
      (result.exitCode = 2 ↔ (∃ e, c.Hindered h e) ∨ ∃ r, c.Withholds h r) ∧
      (result.exitCode = 0 ∨ result.exitCode = 1 ∨ result.exitCode = 2) := by
  refine ⟨?_, ?_, ?_, ?_⟩
  · intro hl
    rcases stages c h with ⟨e, hh⟩ | hlists | ⟨s, r, j, -, hn, -⟩ | ⟨hn, -⟩
    · obtain ⟨result, hrun, hx⟩ := run_of_hindered hh
      have htwo := hx.exitCode
      exact ⟨result, hrun, hx.idle, by omega⟩
    · obtain ⟨result, hrun, hx⟩ := run_of_lists hlists
      have hzero := hx.exitCode
      exact ⟨result, hrun, hx.idle, by omega⟩
    · rw [hl] at hn
      cases hn
    · rw [hl] at hn
      cases hn
  · intro e hh
    obtain ⟨result, hrun, hx⟩ := run_of_hindered hh
    exact ⟨result, hrun, hx.idle, hx.error⟩
  · intro s r j hr
    obtain ⟨result, hrun, hc⟩ := run_of_reports hr
    exact ⟨result, hrun, hc.report, hc.journal, hr.journal_tests⟩
  · intro result hrun
    exact ⟨run_exitCode_eq_one_iff hrun, run_exitCode_eq_two_iff hrun, run_exitCode_cases hrun⟩

def sheltering : FileTree where
  entries := [(["out"], .directory)]

theorem sheltering_writeInto (text : String) :
    sheltering.writeInto "out" text = .error .isADirectory := by
  have hn : Path.names "out" = ["out"] := by cbv
  have h0 : "out".toList.contains '\x00' = false := by decide +kernel
  have hr : sheltering.relative "out" = "out" := by decide +kernel
  have hf : sheltering.follow (Path.start "out") ["out"] = .ok (["out"], some .directory) := rfl
  have hl : sheltering.locate "out" = .ok (["out"], some .directory) := by
    simp only [FileTree.locate, hr, hn, hf]
    rfl
  have hm : sheltering.makeDirectories (Path.start "out") [] = .ok sheltering := rfl
  simp only [FileTree.writeInto, hr, hn, h0, List.dropLast, hm, FileTree.writeText]
  simp [hl, bind, Except.bind]

def sheltered (t : TestCase) : Host where
  files := sheltering
  env := []
  tests := [t]

theorem sheltered_isFile (t : TestCase) (path : String) :
    (sheltered t).files.isFile path = false :=
  FileTree.isFile_of_directories (by simp [sheltered, sheltering]) path

theorem sheltered_registry (t : TestCase) : (sheltered t).registry = .ok (.single t) := by
  simp only [Host.registry, sheltered, Registry.ofAnnounced_singleton]
  rfl

def storing (json : Option String) : CommandLine where
  json := json

def shelteredSession (json : Option String) (t : TestCase) : Session :=
  { Session.onHost (.single t) none with config := (storing json).applyTo {} }

theorem storing_opens (json : Option String) (t : TestCase) :
    (storing json).Opens (sheltered t) (shelteredSession json t) := by
  have hc : (storing json).settings (sheltered t) = .ok ((storing json).applyTo {}, []) :=
    settings_of_no_files (sheltered_isFile t) rfl rfl rfl rfl
  refine ⟨_, _, hc, ?_⟩
  simp only [session, sheltered_registry]
  rfl

theorem sheltered_deliver_none (t : TestCase) (r : RunReport) :
    ((sheltered t).deliver ((storing none).applyTo {}) r).2 = .ok (sheltered t).files := rfl

theorem sheltered_deliver_out (t : TestCase) (r : RunReport) :
    ((sheltered t).deliver ((storing (some "out")).applyTo {}) r).2 = .error .isADirectory :=
  sheltering_writeInto r.stored

def fallingReport : RunReport := .ofOutcomes [
  .ofEvents Session.falling.descriptor [.skip "half way", .fail "panicked: enough" none] 0 false]

theorem storing_reports (json : Option String) : ∃ j,
    (storing json).Reports (sheltered Session.falling) (shelteredSession json Session.falling)
      fallingReport j :=
  ⟨_, storing_opens json Session.falling, rfl, rfl⟩

theorem exitCode_tells_falling :
    ∃ result, (storing none).run (sheltered Session.falling) = .ok result ∧
      result.exitCode = 1 ∧ result.report = some fallingReport := by
  obtain ⟨j, hr⟩ := storing_reports none
  obtain ⟨-, -, hreports, hcode⟩ := exitCode_tells (storing none) (sheltered Session.falling)
  obtain ⟨result, hrun, hrep, -⟩ := hreports _ _ _ hr
  have hd : (storing none).Delivers (sheltered Session.falling) fallingReport :=
    ⟨_, j, _, hr, sheltered_deliver_none _ _⟩
  exact ⟨result, hrun, (hcode result hrun).1.2 ⟨_, hd, _, .head _, rfl⟩, hrep⟩

/-- A directory stands where the report is to go, and the exit code does not tell of the failure. -/
theorem exitCode_of_unwritable_report :
    ∃ result, (storing (some "out")).run (sheltered Session.falling) = .ok result ∧
      result.report = some fallingReport ∧ result.journal.tests = 1 ∧
      (∃ o ∈ fallingReport.outcomes, o.status = .failed) ∧ result.exitCode = 2 := by
  obtain ⟨j, hr⟩ := storing_reports (some "out")
  obtain ⟨result, hrun, hc⟩ := run_of_reports hr
  have ht : result.journal.tests = 1 := by
    rw [hc.journal]
    exact hr.journal_tests
  exact ⟨result, hrun, hc.report, ht, ⟨_, .head _, rfl⟩,
    (hc.undelivered _ (sheltered_deliver_out _ _)).1⟩

end CommandLine

end Conformance
