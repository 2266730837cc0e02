import Conformance.Command.Running
import Conformance.Proofs.Listing

namespace Conformance

namespace CommandResult

variable {h : Host} {result : CommandResult}

structure Idle (h : Host) (result : CommandResult) : Prop where
  journal : result.journal = {}
  report : result.report = none
  files : result.files = h.files

def Tells (result : CommandResult) : Prop :=
  result.complaints = (result.error.map HarnessError.lines).getD []

end CommandResult

namespace Session

theorem runAll_of_prepare_error {s : Session} {e : HarnessError}
    (h : s.prepare s.filter = .error e) (j : Journal) : s.runAll j = .ok (.error e, j) := by
  simp only [runAll, runFiltered, h, Run.pure_apply]

end Session

namespace CommandLine

variable {c : CommandLine} {h : Host} {s : Session} {config : Config} {ns : List Notice}
variable {e : HarnessError} {r : RunReport} {j : Journal} {result : CommandResult}
variable {soFar : List Emission} {f : LogFilter}

def Opens (c : CommandLine) (h : Host) (s : Session) : Prop :=
  ∃ config ns, c.settings h = .ok (config, ns) ∧ session h config = .ok s

/-- What keeps a command from its work before any test runs. -/
inductive Hindered (c : CommandLine) (h : Host) : HarnessError → Prop
  | settings {e : HarnessError} : c.settings h = .error e → Hindered c h e
  | session {config : Config} {ns : List Notice} {e : HarnessError} :
      c.settings h = .ok (config, ns) → session h config = .error e → Hindered c h e
  | selection {s : Session} {e : HarnessError} :
      Opens c h s → c.list = true → s.list = .error e → Hindered c h e
  | output {s : Session} {tests : List Descriptor} {cause : IoError} :
      Opens c h s → c.list = true → s.list = .ok tests →
      (h.print (listingLines (tests.map Descriptor.name))).2 = some cause → Hindered c h (.io cause)
  /-- The device is unusable, or the filter asks for a test that is not there. -/
  | tests {s : Session} {e : HarnessError} :
      Opens c h s → c.list = false → s.prepare s.filter = .error e → Hindered c h e

def Reports (c : CommandLine) (h : Host) (s : Session) (r : RunReport) (j : Journal) : Prop :=
  Opens c h s ∧ c.list = false ∧ s.runAll {} = .ok (.ok r, j)

def Lists (c : CommandLine) (h : Host) : Prop :=
  ∃ s tests, Opens c h s ∧ c.list = true ∧ s.list = .ok tests ∧
    (h.print (listingLines (tests.map Descriptor.name))).2 = none

def Quiet (es : List Emission) : Prop := ∀ x ∈ es, ∃ n visible, x = .notice n visible

theorem quiet_nil : Quiet [] := fun _ h ↦ absurd h List.not_mem_nil

theorem quiet_shownBy (f : LogFilter) (ns : List Notice) : Quiet (shownBy f ns) := by
  intro x hx
  obtain ⟨n, -, rfl⟩ := List.mem_map.1 hx
  exact ⟨n, f.admits n, rfl⟩

theorem Quiet.append {es es' : List Emission} (hes : Quiet es) (hes' : Quiet es') :
    Quiet (es ++ es') :=
  List.forall_mem_append.2 ⟨hes, hes'⟩

def said (c : CommandLine) (h : Host) (config : Config) (ns : List Notice) : List Emission :=
  shownBy (h.env.logFilter c.verbose) ns ++ shownBy (c.logFilter h config)
    (if config.verbose then h.env.active.map Environment.overrideNotice else [])

theorem said_quiet (c : CommandLine) (h : Host) (config : Config) (ns : List Notice) :
    Quiet (c.said h config ns) :=
  (quiet_shownBy _ _).append (quiet_shownBy _ _)

theorem stopped_output (hq : Quiet soFar) : (stopped h soFar j none e).output = [] := by
  refine List.filterMap_eq_nil_iff.2 fun x hx ↦ ?_
  rcases List.mem_append.1 hx with hx | hx
  · obtain ⟨n, visible, rfl⟩ := hq x hx
    rfl
  · obtain ⟨line, -, rfl⟩ := List.mem_map.1 hx
    rfl

def Uncomplaining (es : List Emission) : Prop := ∀ x ∈ es, ∀ line, x ≠ .complaint line

theorem Quiet.uncomplaining {es : List Emission} (hq : Quiet es) : Uncomplaining es := by
  intro x hx line
  obtain ⟨n, visible, rfl⟩ := hq x hx
  nofun

theorem uncomplaining_print (h : Host) (lines : List String) :
    Uncomplaining (h.print lines).1 := by
  intro x hx line
  unfold Host.print at hx
  split at hx
  · obtain ⟨text, -, rfl⟩ := List.mem_map.1 hx
    nofun
  · obtain ⟨text, -, rfl⟩ := List.mem_map.1 hx
    nofun

theorem Uncomplaining.append {es es' : List Emission} (hes : Uncomplaining es)
    (hes' : Uncomplaining es') : Uncomplaining (es ++ es') :=
  List.forall_mem_append.2 ⟨hes, hes'⟩

theorem Uncomplaining.tells (hu : Uncomplaining result.emissions) (he : result.error = none) :
    result.Tells := by
  rw [CommandResult.Tells, he]
  refine List.filterMap_eq_nil_iff.2 fun x hx ↦ ?_
  cases x with
  | output line => rfl
  | complaint line => exact absurd rfl (hu _ hx line)
  | notice n visible => rfl

theorem stopped_tells (hu : Uncomplaining soFar) (report : Option RunReport) :
    (stopped h soFar j report e).Tells := by
  have hn : ({ exitCode := 0, emissions := soFar, files := h.files } : CommandResult).complaints =
      [] := hu.tells rfl
  unfold CommandResult.complaints at hn
  unfold CommandResult.Tells CommandResult.complaints
  simp only [stopped, List.filterMap_append, hn, List.nil_append, List.filterMap_map]
  exact List.filterMap_some

theorem stopped_idle (h : Host) (soFar : List Emission) (e : HarnessError) :
    (stopped h soFar {} none e).Idle h := ⟨rfl, rfl, rfl⟩

theorem run_of_opens (ho : c.Opens h s) : ∃ f soFar, Quiet soFar ∧
    c.run h = if c.list then .ok (listTests h s soFar) else runTests h f s soFar := by
  obtain ⟨config, ns, hc, hs⟩ := ho
  have hrun : c.run h = if c.list then .ok (listTests h s (c.said h config ns))
      else runTests h (c.logFilter h config) s (c.said h config ns) := by
    simp only [run, hc, hs]
    rfl
  exact ⟨_, _, c.said_quiet h config ns, hrun⟩

theorem Opens.reachable (ho : c.Opens h s) : s.registry.Reachable := by
  obtain ⟨config, ns, -, hs⟩ := ho
  obtain ⟨registry, hr, hb⟩ := bind_eq_ok_iff.1 hs
  have hg := (Setup.build_eq_ok_iff.1 hb).registry
  cases hg
  exact Registry.ofList_reachable (mapError_eq_ok_iff.1 hr)

theorem runTests_of_prepare_error (hp : s.prepare s.filter = .error e) :
    runTests h f s soFar = .ok (stopped h (soFar ++ shownBy f []) {} none e) := by
  have hr : s.runAll.run {} = .ok (.error e, {}) := Session.runAll_of_prepare_error hp {}
  simp only [runTests, hr]
  rfl

theorem runTests_of_report (hr : s.runAll {} = .ok (.ok r, j)) :
    runTests h f s soFar =
      .ok (conclude h s.config r (soFar ++ shownBy f j.notices.toList) j) := by
  have hr : s.runAll.run {} = .ok (.ok r, j) := hr
  simp only [runTests, hr]
  rfl

structure HinderedBy (h : Host) (e : HarnessError) (result : CommandResult) : Prop where
  idle : result.Idle h
  exitCode : result.exitCode = 2
  error : result.error = some e
  output : result.output = [] ∨ ∃ cause, e = .io cause

theorem run_of_hindered (hh : c.Hindered h e) :
    ∃ result, c.run h = .ok result ∧ HinderedBy h e result := by
  cases hh with
  | settings hc =>
    refine ⟨stopped h [] {} none e, ?_, stopped_idle h _ e, rfl, rfl, .inl ?_⟩
    · simp only [run, hc]
    · exact stopped_output quiet_nil
  | @session config ns e hc hs =>
    refine ⟨stopped h (c.said h config ns) {} none e, ?_, stopped_idle h _ e, rfl, rfl, .inl ?_⟩
    · simp only [run, hc, hs]
      rfl
    · exact stopped_output (c.said_quiet h config ns)
  | selection ho hl hs =>
    obtain ⟨f, soFar, hquiet, hrun⟩ := run_of_opens ho
    refine ⟨stopped h soFar {} none e, ?_, stopped_idle h _ e, rfl, rfl, .inl ?_⟩
    · simp only [hrun, hl, if_true, listTests, hs]
    · exact stopped_output hquiet
  | @output s tests cause ho hl hs hp =>
    obtain ⟨f, soFar, -, hrun⟩ := run_of_opens ho
    rw [hrun, if_pos hl, listTests, hs]
    simp only
    split
    · next heq =>
      rw [heq] at hp
      cases hp
      exact ⟨_, rfl, stopped_idle h _ _, rfl, rfl, .inr ⟨cause, rfl⟩⟩
    · next heq =>
      rw [heq] at hp
      cases hp
  | tests ho hl hp =>
    obtain ⟨f, soFar, hquiet, hrun⟩ := run_of_opens ho
    have hend : c.run h = .ok (stopped h (soFar ++ shownBy f []) {} none e) := by
      rw [hrun, hl, ← runTests_of_prepare_error hp]
      rfl
    exact ⟨_, hend, stopped_idle h _ e, rfl, rfl,
      .inl (stopped_output (hquiet.append (quiet_shownBy f [])))⟩

structure Listed (h : Host) (result : CommandResult) : Prop where
  idle : result.Idle h
  exitCode : result.exitCode = 0
  error : result.error = none

theorem run_of_lists (hl : c.Lists h) : ∃ result, c.run h = .ok result ∧ Listed h result := by
  obtain ⟨s, tests, ho, hl, hs, hp⟩ := hl
  obtain ⟨f, soFar, -, hrun⟩ := run_of_opens ho
  rw [hrun, if_pos hl, listTests, hs]
  simp only
  split
  · next heq =>
    rw [heq] at hp
    cases hp
  · exact ⟨_, rfl, ⟨rfl, rfl, rfl⟩, rfl, rfl⟩

structure Concludes (h : Host) (s : Session) (r : RunReport) (j : Journal)
    (result : CommandResult) : Prop where
  journal : result.journal = j
  report : result.report = some r
  delivered : ∀ files, (h.deliver s.config r).2 = .ok files →
    result.exitCode = r.exitCode ∧ result.error = none ∧ result.files = files
  undelivered : ∀ cause, (h.deliver s.config r).2 = .error cause →
    result.exitCode = 2 ∧ result.error = some (.io cause)

theorem conclude_concludes (h : Host) (s : Session) (r : RunReport) (soFar : List Emission)
    (j : Journal) : Concludes h s r j (conclude h s.config r soFar j) := by
  unfold conclude
  split
  · next heq =>
    refine ⟨rfl, rfl, ?_, ?_⟩
    · intro files hd
      rw [heq] at hd
      cases hd
    · intro cause hd
      rw [heq] at hd
      cases hd
      exact ⟨rfl, rfl⟩
  · next heq =>
    refine ⟨rfl, rfl, ?_, ?_⟩
    · intro files hd
      rw [heq] at hd
      cases hd
      exact ⟨rfl, rfl, rfl⟩
    · intro cause hd
      rw [heq] at hd
      cases hd

theorem run_of_reports (hr : c.Reports h s r j) :
    ∃ result, c.run h = .ok result ∧ Concludes h s r j result := by
  obtain ⟨ho, hl, hr⟩ := hr
  obtain ⟨f, soFar, -, hrun⟩ := run_of_opens ho
  rw [hl, runTests_of_report hr] at hrun
  exact ⟨_, hrun, conclude_concludes ..⟩

/-- A command is hindered, lists its tests, or runs them; then a test may take it down. -/
theorem stages (c : CommandLine) (h : Host) :
    (∃ e, c.Hindered h e) ∨ c.Lists h ∨ (∃ s r j, c.Reports h s r j) ∨
      (c.list = false ∧ ∃ abort, c.run h = .error abort) := by
  -- Each step either fails, which hinders the command, or leads on to the next one.
  cases hc : c.settings h with
  | error e => exact .inl ⟨e, .settings hc⟩
  | ok p =>
    obtain ⟨config, ns⟩ := p
    cases hs : session h config with
    | error e => exact .inl ⟨e, .session hc hs⟩
    | ok s =>
      have ho : c.Opens h s := ⟨config, ns, hc, hs⟩
      cases hl : c.list with
      | true =>
        cases ht : s.list with
        | error e => exact .inl ⟨e, .selection ho hl ht⟩
        | ok tests =>
          cases hp : (h.print (listingLines (tests.map Descriptor.name))).2 with
          | some cause => exact .inl ⟨_, .output ho hl ht hp⟩
          | none => exact .inr (.inl ⟨s, tests, ho, hl, ht, hp⟩)
      | false =>
        cases hp : s.prepare s.filter with
        | error e => exact .inl ⟨e, .tests ho hl hp⟩
        | ok selected =>
          cases hr : s.runTests selected {} with
          | error abort =>
            have hx : s.runAll.run {} = .error abort := by
              have hx := Session.runFiltered_of_prepare hp {}
              rw [hr] at hx
              exact hx
            obtain ⟨f, soFar, -, hrun⟩ := run_of_opens ho
            refine .inr (.inr (.inr ⟨rfl, abort, ?_⟩))
            rw [hrun, hl, runTests, hx]
            rfl
          | ok p =>
            have hx := Session.runFiltered_of_prepare hp {}
            rw [hr] at hx
            exact .inr (.inr (.inl ⟨s, p.1, p.2, ho, hl, hx⟩))

theorem of_run {P : CommandResult → Prop} (hx : ∃ result, c.run h = .ok result ∧ P result)
    (hrun : c.run h = .ok result) : P result := by
  obtain ⟨result', hrun', hp⟩ := hx
  rw [hrun] at hrun'
  cases hrun'
  exact hp

inductive Ends (c : CommandLine) (h : Host) (result : CommandResult) : Prop
  | hindered {e : HarnessError} : c.Hindered h e → HinderedBy h e result → Ends c h result
  | listed : c.Lists h → Listed h result → Ends c h result
  | delivered {s : Session} {r : RunReport} {j : Journal} {files : FileTree} :
      c.Reports h s r j → (h.deliver s.config r).2 = .ok files →
      result.exitCode = r.exitCode → result.error = none → Ends c h result
  | withheld {s : Session} {r : RunReport} {j : Journal} {cause : IoError} :
      c.Reports h s r j → (h.deliver s.config r).2 = .error cause →
      result.exitCode = 2 → result.error = some (.io cause) → Ends c h result

theorem run_ends (hrun : c.run h = .ok result) : c.Ends h result := by
  rcases stages c h with ⟨e, hh⟩ | hl | ⟨s, r, j, hr⟩ | ⟨-, abort, ha⟩
  · exact .hindered hh (of_run (run_of_hindered hh) hrun)
  · exact .listed hl (of_run (run_of_lists hl) hrun)
  · have hc := of_run (run_of_reports hr) hrun
    cases hd : (h.deliver s.config r).2 with
    | ok files =>
      obtain ⟨hcode, herror, -⟩ := hc.delivered files hd
      exact .delivered hr hd hcode herror
    | error cause =>
      obtain ⟨hcode, herror⟩ := hc.undelivered cause hd
      exact .withheld hr hd hcode herror
  · rw [hrun] at ha
    cases ha

theorem listTests_tells (hq : Quiet soFar) : (listTests h s soFar).Tells := by
  unfold listTests
  split
  · exact stopped_tells hq.uncomplaining none
  · next tests _ =>
    have hp := uncomplaining_print h (listingLines (tests.map Descriptor.name))
    split
    · next heq =>
      rw [heq] at hp
      exact stopped_tells (hq.uncomplaining.append hp) none
    · next heq =>
      rw [heq] at hp
      exact (hq.uncomplaining.append hp).tells rfl

theorem uncomplaining_deliver (h : Host) (config : Config) (r : RunReport) :
    Uncomplaining (h.deliver config r).1 := by
  have hp := uncomplaining_print h (r.lines config.report.showNotes)
  have hd : (h.deliver config r).1 = (h.print (r.lines config.report.showNotes)).1 := by
    unfold Host.deliver
    obtain ⟨printed, fault⟩ := h.print (r.lines config.report.showNotes)
    cases fault with
    | some e => rfl
    | none => cases config.report.json <;> rfl
  exact hd ▸ hp

theorem conclude_tells (hq : Quiet soFar) : (conclude h config r soFar j).Tells := by
  have hd := uncomplaining_deliver h config r
  unfold conclude
  split
  · next heq =>
    rw [heq] at hd
    exact stopped_tells (hq.uncomplaining.append hd) (some r)
  · next heq =>
    rw [heq] at hd
    exact (hq.uncomplaining.append hd).tells rfl

theorem runTests_tells (hq : Quiet soFar) (hrun : runTests h f s soFar = .ok result) :
    result.Tells := by
  obtain ⟨⟨x, j⟩, hx, hend⟩ := bind_eq_ok_iff.1 hrun
  have hq := hq.append (quiet_shownBy f j.notices.toList)
  cases x with
  | error e =>
    cases hend
    exact stopped_tells hq.uncomplaining none
  | ok r =>
    cases hend
    exact conclude_tells hq

theorem run_tells (hrun : c.run h = .ok result) : result.Tells := by
  cases hc : c.settings h with
  | error e =>
    simp only [run, hc] at hrun
    cases hrun
    exact stopped_tells quiet_nil.uncomplaining none
  | ok p =>
    obtain ⟨config, ns⟩ := p
    cases hs : session h config with
    | error e =>
      simp only [run, hc, hs] at hrun
      cases hrun
      exact stopped_tells (c.said_quiet h config ns).uncomplaining none
    | ok s =>
      obtain ⟨f, soFar, hq, hrun'⟩ := run_of_opens ⟨config, ns, hc, hs⟩
      rw [hrun'] at hrun
      split at hrun
      · cases hrun
        exact listTests_tells hq
      · exact runTests_tells hq hrun

end CommandLine

end Conformance
