import Conformance.Proofs.Hints
import Conformance.Proofs.LostItems
import Conformance.Proofs.SampleSums

namespace Conformance

open Coverage (TypePack Visit)

/-- How the launch of a kernel with such faults ends. What a failure of the kernel comes to is up to
the device, unless it crashes anyway. -/
def Launch.endingOn (l : Launch) (d : Device) (fault : WorkItem → Option String) : LaunchEnd :=
  match l.ending with
  | .crashed message => .crashed message
  | ending => ((l.items.findSome? fault).map d.kernelFault).getD ending

/-- The launch comes back with an error, its own or one that the device makes of a failing kernel.
-/
def Launch.Fails (l : Launch) (d : Device) (fault : WorkItem → Option String) (e : DeviceError) :
    Prop :=
  l.endingOn d fault = .refused e

theorem Launch.Fails.not_crashed {l : Launch} {d : Device} {fault : WorkItem → Option String}
    {e : DeviceError} (h : l.Fails d fault e) (message : String) : l.ending ≠ .crashed message := by
  intro hm
  rw [Launch.Fails, Launch.endingOn, hm] at h
  cases h

inductive Event.About (label : String) : Event → Prop
  | note (rest : String) : About label (.note (label ++ rest))
  | fail (rest : String) : About label (.fail (label ++ rest) (some .caller))

namespace Script

variable {α β σ : Type} {d : Device} {earlier : Array NdRange} {p : Script α} {f : α → Script β}
variable {deeds : List Deed} {ending : Except Interruption α} {r : NdRange}
variable {P : Event → Prop} {fault : WorkItem → Option String} {e : DeviceError} {l : Launch}
variable {k : Nat}

def caught : Script α → Script (Except DeviceError α)
  | done a => done (.ok a)
  | stop (.failed (.device e)) => done (.error e)
  | stop cause => stop cause
  | record e next => record e next.caught
  | notify n next => notify n next.caught
  | wait s next => wait s next.caught
  | launch r next => launch r fun l ↦ (next l).caught

def orLost (f : α → Script β) : Except DeviceError α → Script β
  | .ok a => f a
  | .error e => stop (.failed (.device e))

theorem caught_bind (p : Script α) (f : α → Script β) : p.caught >>= orLost f = p >>= f := by
  induction p with
  | done a => rfl
  | stop cause =>
    cases cause with
    | failed e => cases e <;> rfl
    | panicked _ | stuck => rfl
  | record e next ih => exact congrArg (record e) ih
  | notify n next ih => exact congrArg (notify n) ih
  | wait s next ih => exact congrArg (wait s) ih
  | launch r next ih => exact congrArg (launch r) (funext ih)

def answers (d : Device) : Array NdRange → List Deed → List Launch
  | _, [] => []
  | earlier, .launch r :: deeds => d.launch earlier r :: answers d (earlier.push r) deeds
  | earlier, .record _ :: deeds | earlier, .notify _ :: deeds | earlier, .wait _ :: deeds =>
    answers d earlier deeds

theorem seen_append (earlier : Array NdRange) (deeds deeds' : List Deed) :
    seen earlier (deeds ++ deeds') = seen (seen earlier deeds) deeds' := by
  induction deeds generalizing earlier with
  | nil => rfl
  | cons deed deeds ih => cases deed <;> exact ih _

theorem answers_append (d : Device) (earlier : Array NdRange) (deeds deeds' : List Deed) :
    answers d earlier (deeds ++ deeds') =
      answers d earlier deeds ++ answers d (seen earlier deeds) deeds' := by
  induction deeds generalizing earlier with
  | nil => rfl
  | cons deed deeds ih =>
    cases deed with
    | launch r => exact congrArg (d.launch earlier r :: ·) (ih _)
    | record _ | notify _ | wait _ => exact ih _

theorem answers_events (d : Device) (earlier : Array NdRange) (events : List Event) :
    answers d earlier (events.map .record) = [] := by
  induction events with
  | nil => rfl
  | cons e events ih => exact ih

theorem answers_notices (d : Device) (earlier : Array NdRange) (notices : List Notice) :
    answers d earlier (notices.map .notify) = [] := by
  induction notices with
  | nil => rfl
  | cons n notices ih => exact ih

/-- Neither the notices before them nor a last launch adds to what deeds have on record. -/
theorem filterMap_event_between (notices : List Notice) (deeds : List Deed) (r : NdRange) :
    (notices.map Deed.notify ++ (deeds ++ [Deed.launch r])).filterMap Deed.event? =
      deeds.filterMap Deed.event? := by
  simp [List.filterMap_map, Function.comp_def, Deed.event?, List.filterMap_cons]

theorem exists_launch_of_answer (h : (answers d earlier deeds)[k]? = some l) :
    ∃ r, .launch r ∈ deeds := by
  induction deeds generalizing earlier k with
  | nil => simp [answers] at h
  | cons deed deeds ih =>
    cases deed with
    | launch r => exact ⟨r, List.mem_cons_self⟩
    | record _ | notify _ | wait _ =>
      obtain ⟨r, hr⟩ := ih h
      exact ⟨r, List.mem_cons_of_mem _ hr⟩

def Records (P : Event → Prop) : Script α → Prop
  | done _ | stop _ => True
  | record e next => P e ∧ next.Records P
  | notify _ _ | wait _ _ | launch _ _ => False

namespace Records

theorem bind (h : p.Records P) (hf : ∀ a, (f a).Records P) : (p >>= f).Records P := by
  induction p with
  | done a => exact hf a
  | stop cause => trivial
  | record e next ih => exact ⟨h.1, ih h.2⟩
  | notify _ _ | wait _ _ | launch _ _ => exact h.elim

theorem check {message : String} (h : P (.fail message (some .caller))) (condition : Bool) :
    (Script.check condition message).Records P := by
  cases condition with
  | true => trivial
  | false => exact ⟨h, trivial⟩

theorem ofWord (x : Except Overflow α) : (Script.ofWord x).Records P := by
  cases x <;> trivial

end Records

theorem Course.records (h : Course d earlier p deeds ending) (hp : p.Records P) :
    ∃ events : List Event, deeds = events.map .record ∧ ∀ e ∈ events, P e := by
  induction h with
  | done | stop => exact ⟨[], rfl, List.forall_mem_nil _⟩
  | record _ ih =>
    obtain ⟨events, rfl, he⟩ := ih hp.2
    exact ⟨_ :: events, rfl, List.forall_mem_cons.2 ⟨hp.1, he⟩⟩
  | notify | wait | launch | crash => exact hp.elim

/-- The script records events of this kind. Before that it may launch the range once, and if this
fails the script comes to an end. -/
def Tries (d : Device) (P : Event → Prop) (r : NdRange) (fault : WorkItem → Option String)
    (p : Script α) : Prop :=
  p.Records P ∨ ∃ next, p = .launch r next ∧ ∀ l, (∀ message, l.ending ≠ .crashed message) →
    (next l).Records P ∧ ∀ e, l.Fails d fault e → next l = .stop (.failed (.device e))

theorem Course.tries (h : Course d earlier p deeds ending) (hp : p.Tries d P r fault) :
    (∀ event ∈ deeds.filterMap Deed.event?, P event) ∧
      (answers d earlier deeds = [] ∨ answers d earlier deeds = [d.launch earlier r] ∧
        ∀ e, (d.launch earlier r).Fails d fault e →
          deeds = [.launch r] ∧ ending = .error (.failed (.device e))) := by
  obtain hp | ⟨next, rfl, hnext⟩ := hp
  · obtain ⟨events, rfl, he⟩ := h.records hp
    refine ⟨?_, .inl (answers_events d earlier events)⟩
    simpa [List.filterMap_map, Function.comp_def, Deed.event?] using he
  · cases h with
    | crash hm =>
      refine ⟨List.forall_mem_nil _, .inr ⟨rfl, ?_⟩⟩
      intro e hf
      exact absurd hm (hf.not_crashed _)
    | launch hc h =>
      obtain ⟨hrecords, hfails⟩ := hnext (d.launch earlier r) hc
      obtain ⟨events, rfl, he⟩ := h.records hrecords
      refine ⟨?_, .inr ⟨?_, ?_⟩⟩
      · simpa [List.filterMap_cons, List.filterMap_map, Function.comp_def, Deed.event?] using he
      · rw [answers, answers_events]
      · intro e hf
        rw [hfails e hf] at h
        obtain ⟨hnil, hend⟩ := h.unique (.stop _ _)
        exact ⟨congrArg (_ :: ·) hnil, hend⟩

/-- A launch failed in one of the visits, after so many others. All that was done is what the visits
before it do, and that launch. -/
structure LostIn (d : Device) (earlier : Array NdRange) (r : NdRange) (visit : σ → Visit → Script σ)
    (b : σ) (e : DeviceError) (visited : List Visit) (v : Visit) (before : List Deed)
    (k : Nat) : Prop where
  course : ∃ a, Course d earlier (visited.foldlM visit b) before (.ok a) ∧
    Course d (seen earlier before) (visit a v) [.launch r] (.error (.failed (.device e)))
  answers : (answers d earlier before).length = k
  about : ∀ event ∈ before.filterMap Deed.event?, ∃ u ∈ visited, event.About u.label

theorem LostIn.cons {visit : σ → Visit → Script σ} {b a : σ} {v u : Visit} {visited : List Visit}
    {before : List Deed} (hc : Course d earlier (visit b v) deeds (.ok a))
    (habout : ∀ event ∈ deeds.filterMap Deed.event?, event.About v.label)
    (hl : LostIn d (seen earlier deeds) r visit a e visited u before k) :
    LostIn d earlier r visit b e (v :: visited) u (deeds ++ before)
      ((Script.answers d earlier deeds).length + k) where
  course := by
    obtain ⟨a', hvisited, hu⟩ := hl.course
    refine ⟨a', ?_, ?_⟩
    · rw [List.foldlM_cons]
      exact hc.append hvisited
    · rwa [seen_append]
  answers := by
    rw [answers_append, List.length_append, hl.answers]
  about := by
    intro event he
    rw [List.filterMap_append, List.mem_append] at he
    obtain he | he := he
    · exact ⟨v, List.mem_cons_self, habout event he⟩
    · obtain ⟨w, hw, ha⟩ := hl.about event he
      exact ⟨w, List.mem_cons_of_mem _ hw, ha⟩

theorem Course.lost {visit : σ → Visit → Script σ} {visits : List Visit}
    {ending : Except Interruption σ} {b : σ}
    (hv : ∀ v ∈ visits, ∀ b, (visit b v).Tries d (Event.About v.label) r fault)
    (h : Course d earlier (visits.foldlM visit b) deeds ending)
    (hk : (answers d earlier deeds)[k]? = some l) (hf : l.Fails d fault e) :
    ending = .error (.failed (.device e)) ∧ ∃ visited v later before,
      visits = visited ++ v :: later ∧ deeds = before ++ [.launch r] ∧
      LostIn d earlier r visit b e visited v before k := by
  -- Either the launch is the one of the first visit, or that visit is over and done with.
  induction visits generalizing earlier b deeds k with
  | nil =>
    cases h
    cases hk
  | cons v visits ih =>
    obtain ⟨hfirst, hv⟩ := List.forall_mem_cons.1 hv
    rw [List.foldlM_cons] at h
    obtain ⟨cause, hc, rfl⟩ | ⟨a, first, rest, hc, hrest, rfl⟩ := h.bind_cases
    · obtain ⟨-, hnone | ⟨hone, hlost⟩⟩ := hc.tries (hfirst b)
      · rw [hnone] at hk
        cases hk
      · rw [hone] at hk
        cases k with
        | succ k => cases hk
        | zero =>
          cases hk
          obtain ⟨rfl, hend⟩ := hlost e hf
          cases hend
          exact ⟨rfl, [], v, visits, [], rfl, rfl, ⟨⟨b, .done _ _, hc⟩, rfl,
            List.forall_mem_nil _⟩⟩
    · obtain ⟨habout, hanswers⟩ := hc.tries (hfirst b)
      have hlater : (answers d earlier first).length ≤ k := by
        obtain hnone | ⟨hone, hlost⟩ := hanswers
        · rw [hnone]
          exact Nat.zero_le k
        · rw [hone]
          cases k with
          | succ k => exact Nat.le_add_left 1 k
          | zero =>
            rw [answers_append, hone] at hk
            cases hk
            cases (hlost e hf).2
      rw [answers_append, List.getElem?_append_right hlater] at hk
      obtain ⟨hend, visited, u, later, before, rfl, rfl, hl⟩ := ih hv hrest hk
      have hcons := LostIn.cons hc habout hl
      rw [Nat.add_sub_cancel' hlater] at hcons
      exact ⟨hend, v :: visited, u, later, first ++ before, rfl,
        (List.append_assoc _ _ _).symm, hcons⟩

end Script

open Script (Course answers seen)

namespace TestEnv

variable {α : Type} {P : Event → Prop} {r : NdRange} {earlier : Array NdRange}

theorem exists_launch_eq (env : TestEnv) (r : NdRange) (fault : WorkItem → Option String) :
    ∃ next, env.launch r fault = .launch r next ∧
      ∀ l : Launch, (∀ message, l.ending ≠ .crashed message) →
        next l = match l.endingOn env.device fault with
          | .crashed message => .panic message
          | ending => .done { l with ending } := by
  refine ⟨_, rfl, ?_⟩
  rintro ⟨items, ending⟩ hc
  have hending : (⟨items, ending⟩ : Launch).endingOn env.device fault =
      ((items.findSome? fault).map env.device.kernelFault).getD ending := by
    cases ending with
    | crashed message => exact absurd rfl (hc message)
    | completed | refused e => rfl
  rw [hending]
  dsimp only
  cases items.findSome? fault with
  | some message => rfl
  | none =>
    cases ending with
    | crashed message => exact absurd rfl (hc message)
    | completed | refused e => rfl

theorem launchItems_tries (env : TestEnv) (fault : WorkItem → Option String)
    {next : List WorkItem → Script α} (hn : ∀ items, (next items).Records P) :
    (env.launchItems r fault >>= next).Tries env.device P r fault := by
  obtain ⟨next', hlaunch, hnext⟩ := env.exists_launch_eq r fault
  unfold launchItems
  rw [hlaunch]
  refine .inr ⟨_, rfl, fun l hc ↦ ?_⟩
  dsimp only
  rw [hnext l hc]
  constructor
  · cases l.endingOn env.device fault with
    | completed => exact hn l.items
    | refused e | crashed message => trivial
  · intro e hf
    rw [hf]
    rfl

end TestEnv

namespace Session

variable {s : Session} {t : TestCase} {j : Journal} {deeds : List Deed} {cause : CaseError}
variable {events : List Event}

/-- These events are all that the attempt at the test shows, and all that its outcome shows if it is
heard of. There is such an outcome unless the thread of an earlier test takes the program down. -/
structure FailsWith (s : Session) (t : TestCase) (j : Journal) (events : List Event) : Prop where
  attempt : (Attempt.ofTest s.env t j.launches).ending = .reported ∧
    (Attempt.ofTest s.env t j.launches).events = events
  outcome : ∀ o j', s.runTest t j = .ok (o, j') →
    o.status = .failed ∧ (s.Hears t j → o.events = events)
  reports : s.Hears t j → j.fuses = [] → ∃ o j', s.runTest t j = .ok (o, j')

theorem hears_of_no_limit (ht : s.timeout = none) : s.Hears t j := by
  intro limit hl
  cases ht.symm.trans hl

theorem failsWith_of_error
    (hc : Course s.env.device j.launches (t.body s.env) deeds (.error (.failed cause)))
    (hn : '\x00' ∉ t.name.toList) :
    s.FailsWith t j (deeds.filterMap Deed.event? ++
      [.fail ("unexpected error: " ++ cause.message) none]) := by
  have hb : s.bodyRun t j =
      (deeds.foldl (Script.Trace.after s.env.device) (.start j.launches),
        .error (.failed cause)) :=
    hc.run_eq rfl
  have he : (s.bodyRun t j).2 = .error (.failed cause) := by rw [hb]
  obtain ⟨hending, hevents, -⟩ := Attempt.ofTest_of_error hc (.failed cause)
  refine ⟨⟨hending, hevents⟩, ?_, ?_⟩
  · intro o j' ho
    obtain ⟨hstatus, hshown⟩ := runTest_of_leaves ho he (.failed cause)
    refine ⟨hstatus, fun hh ↦ ?_⟩
    rw [hshown hh, hb, Attempt.start_events]
  · intro hh hf
    cases hx : s.runTest t j with
    | ok p => exact ⟨p.1, p.2, rfl⟩
    | error abort =>
      have hsinks := runTest_error_iff.1 ⟨abort, hx⟩
      cases hsinks with
      | disposal _ h | endless _ h | remains _ _ _ h =>
        rw [he] at h
        cases h
      | name _ h => exact absurd h hn
      | late hm _ _ =>
        rw [hf] at hm
        cases hm

end Session

namespace Suite

variable {σ β : Type} {env : TestEnv} {r : NdRange} {earlier : Array NdRange} {deeds : List Deed}
variable {e : DeviceError} {k : Nat} {l : Launch}

/-- A test that tries to launch one range in each of its visits, one after another. -/
structure Sweep (σ : Type) where
  visits : List Visit
  visit : TestEnv → NdRange → σ → Visit → Script σ
  start : σ
  close : σ → Script Unit
  fault : NdRange → WorkItem → Option String
  tries : ∀ env r, ∀ v ∈ visits, ∀ b,
    (visit env r b v).Tries env.device (Event.About v.label) r (fault r)
  closes : ∀ b, (close b).Records fun _ ↦ True

namespace Sweep

def body (w : Sweep σ) (env : TestEnv) : Script Unit := do
  let r ← launchRange env
  w.close (← w.visits.foldlM (w.visit env r) w.start)

def keep (b : σ) : Except DeviceError σ → σ × Option DeviceError
  | .ok b' => (b', none)
  | .error e => (b, some e)

/-- A round of a loop that nothing can leave. Once an error is known, rounds do nothing. -/
def round (visit : σ → Visit → Script σ) :
    σ × Option DeviceError → Visit → Script (σ × Option DeviceError)
  | (b, some e), _ => .done (b, some e)
  | (b, none), v => do return keep b (← (visit b v).caught)

def finish (f : σ → Script β) : σ × Option DeviceError → Script β
  | (_, some e) => .stop (.failed (.device e))
  | (b, none) => f b

/-- The test as a loop that makes all visits, whatever happens in them. -/
def dispatched (w : Sweep σ) (env : TestEnv) : Script Unit := do
  let r ← launchRange env
  finish w.close (← w.visits.foldlM (round (w.visit env r)) (w.start, none))

theorem foldlM_round_lost (visit : σ → Visit → Script σ) (b : σ) (visits : List Visit) :
    visits.foldlM (round visit) (b, some e) = .done (b, some e) := by
  induction visits with
  | nil => rfl
  | cons v visits ih => exact ih

theorem foldlM_round (visit : σ → Visit → Script σ) (f : σ → Script β) (b : σ)
    (visits : List Visit) :
    visits.foldlM (round visit) (b, none) >>= finish f = visits.foldlM visit b >>= f := by
  induction visits generalizing b with
  | nil => rfl
  | cons v visits ih =>
    rw [List.foldlM_cons, List.foldlM_cons, bind_assoc, bind_assoc, round, bind_assoc,
      ← Script.caught_bind (visit b v)]
    congr 1
    funext x
    -- After an error the loop still has its other rounds to go through.
    cases x with
    | ok b' => exact ih b'
    | error e => exact congrArg (· >>= finish f) (foldlM_round_lost visit b visits)

theorem body_eq_dispatched (w : Sweep σ) (env : TestEnv) : w.body env = w.dispatched env := by
  unfold body dispatched
  congr 1
  funext r
  exact (foldlM_round (w.visit env r) w.close w.start w.visits).symm

/-- The test is over with launch number `k`, counted from zero, which failed in one of the visits.
What the visits before it recorded is shown with the error and nothing else. -/
structure EndsLost (w : Sweep σ) (t : TestCase) (s : Session) (j : Journal) (r : NdRange)
    (deeds : List Deed) (ending : Except Interruption Unit) (k : Nat) (e : DeviceError) : Prop where
  ending : ending = .error (.failed (.device e))
  answers : (answers s.env.device j.launches deeds).length = k + 1
  split : ∃ (notices : List Notice) (visited later : List Visit) (v : Visit) (before : List Deed),
    w.visits = visited ++ v :: later ∧ deeds = notices.map .notify ++ (before ++ [.launch r]) ∧
      Script.LostIn s.env.device j.launches r (w.visit s.env r) w.start e visited v before k ∧
      s.FailsWith t j (before.filterMap Deed.event? ++
        [.fail ("unexpected error: device error: " ++ e.message) none])

theorem lost_of_course {w : Sweep σ} {ending : Except Interruption Unit}
    (hr : rangeFor env = .ok r) (hc : Course env.device earlier (w.body env) deeds ending)
    (hk : (answers env.device earlier deeds)[k]? = some l) (hf : l.Fails env.device (w.fault r) e) :
    ending = .error (.failed (.device e)) ∧ ∃ (notices : List Notice) (visited : List Visit)
      (v : Visit) (later : List Visit) (before : List Deed), w.visits = visited ++ v :: later ∧
        deeds = notices.map .notify ++ (before ++ [.launch r]) ∧
        Script.LostIn env.device earlier r (w.visit env r) w.start e visited v before k := by
  obtain ⟨notices, hn⟩ := launchRange_course hr env.device earlier
  obtain ⟨cause, hstop, -⟩ | ⟨r', first, rest, hfirst, hc, rfl⟩ := hc.bind_cases
  · cases (hn.unique hstop).2
  · obtain ⟨rfl, hr'⟩ := hn.unique hfirst
    cases hr'
    rw [Script.answers_append, Script.answers_notices, List.nil_append, Script.seen_notices] at hk
    rw [Script.seen_notices] at hc
    obtain ⟨cause, hvisits, rfl⟩ | ⟨b, first, rest, hvisits, hclose, rfl⟩ := hc.bind_cases
    · obtain ⟨hend, visited, v, later, before, hv, rfl, hl⟩ :=
        hvisits.lost (w.tries env r) hk hf
      cases hend
      exact ⟨rfl, notices, visited, v, later, before, hv, rfl, hl⟩
    · obtain ⟨events, rfl, -⟩ := hclose.records (w.closes b)
      rw [Script.answers_append, Script.answers_events, List.append_nil] at hk
      cases (hvisits.lost (w.tries env r) hk hf).1

theorem endsLost {w : Sweep σ} {t : TestCase} {s : Session} {j : Journal}
    {ending : Except Interruption Unit} (ht : t.body s.env = w.body s.env)
    (hn : '\x00' ∉ t.name.toList) (hr : rangeFor s.env = .ok r)
    (hc : Course s.env.device j.launches (t.body s.env) deeds ending)
    (hk : (answers s.env.device j.launches deeds)[k]? = some l)
    (hf : l.Fails s.env.device (w.fault r) e) :
    w.EndsLost t s j r deeds ending k e := by
  obtain ⟨rfl, notices, visited, v, later, before, hv, rfl, hl⟩ := lost_of_course hr (ht ▸ hc) hk hf
  refine ⟨rfl, ?_, notices, visited, later, v, before, hv, rfl, hl, ?_⟩
  · rw [Script.answers_append, Script.answers_notices, Script.answers_append, List.nil_append,
      List.length_append, Script.seen_notices, hl.answers]
    rfl
  · have hmessage : "unexpected error: " ++ (CaseError.device e).message =
        "unexpected error: device error: " ++ e.message := by
      rw [CaseError.message, ← String.append_assoc]
      rfl
    have hfails := Session.failsWith_of_error hc hn
    rwa [hmessage, Script.filterMap_event_between] at hfails

end Sweep

variable {v : Visit}

theorem notChecked_about (label : String) (c : Capability) :
    Event.About label (.note (notChecked label c)) := by
  unfold notChecked
  rw [String.append_assoc]
  exact .note _

/-- A kernel that uses one slot for each index fails behind the last of the slots. -/
def faultBehind (slots index : Nat) : Option String :=
  if slots ≤ index then some (outOfBounds slots index) else none

namespace Copy

theorem fault_of_room (hv : v ∈ TypePack.scalars.visitsWithVectors) (hr : HasRoom r v.type) :
    fault v.type r.globalSize = fun item ↦ faultBehind r.globalSize item.globalId := by
  funext item
  have hreach := reach_lt_of_mem v hv
  have hlt := lt_of_room (le_refl 4) hr
  unfold faultBehind
  split
  · next h => rw [fault, if_pos h]
  · next h =>
    apply fault_eq_none (Nat.not_le.1 h)
    unfold wordLimit
    omega

theorem checkType_tries (env : TestEnv) (r : NdRange) (hv : v ∈ TypePack.scalars.visitsWithVectors)
    (checked : Nat) : (checkType env r checked v).Tries env.device (Event.About v.label) r
      fun item ↦ faultBehind r.globalSize item.globalId := by
  unfold checkType
  split
  · next c _ => exact .inl ⟨notChecked_about v.label c, trivial⟩
  · by_cases hr : HasRoom r v.type
    · rw [reserve_of_lt hr, fault_of_room hv hr]
      apply env.launchItems_tries
      intro items
      apply (Script.Records.ofWord _).bind
      intro expected
      apply (Script.Records.check ?_ _).bind
      · intro _
        apply (Script.Records.check ?_ _).bind
        · exact fun _ ↦ trivial
        · simp only [String.append_assoc]
          exact .fail _
      · simp only [String.append_assoc]
        exact .fail _
    · rw [reserve, if_pos (Nat.not_lt.1 hr)]
      exact .inl trivial

def sweep : Sweep Nat where
  visits := TypePack.scalars.visitsWithVectors
  visit := checkType
  start := 0
  close checked := .note ("checked " ++ shown checked ++ " types")
  fault r item := faultBehind r.globalSize item.globalId
  tries env r _ hv checked := checkType_tries env r hv checked
  closes _ := ⟨trivial, trivial⟩

theorem not_about_close (hv : v ∈ TypePack.scalars.visitsWithVectors) (checked : Nat) :
    ¬ Event.About v.label (.note ("checked " ++ shown checked ++ " types")) := by
  have hlabels : ∀ v ∈ TypePack.scalars.visitsWithVectors,
      v.label.toList.head?.any (· != 'c') = true := by decide +kernel
  -- So the note cannot begin with a label.
  have hlabel := hlabels v hv
  generalize hm : "checked " ++ shown checked ++ " types" = message
  intro h
  cases h with
  | note rest =>
    have hchars := congrArg String.toList hm
    simp only [String.append_assoc, String.toList_append] at hchars
    cases hl : v.label.toList with
    | nil => simp [hl] at hlabel
    | cons c cs =>
      rw [hl] at hchars hlabel
      obtain ⟨rfl, -⟩ := List.cons.inj hchars
      exact Bool.false_ne_true hlabel

end Copy

namespace Reduction

theorem fault_eq_faultBehind (hv : v ∈ TypePack.scalars.visits) (groups : Nat) :
    fault v.type groups = fun item ↦ faultBehind groups item.groupId := by
  obtain ⟨s, -, hs⟩ := List.mem_map.1 (scalar_of_mem v hv)
  funext item
  rw [fault, sample_of_scalar hs.symm]
  rfl

theorem checkType_tries (env : TestEnv) (r : NdRange) (hv : v ∈ TypePack.scalars.visits) :
    (checkType env r v).Tries env.device (Event.About v.label) r
      fun item ↦ faultBehind (r.globalSize / r.localSize) item.groupId := by
  unfold checkType
  split
  · next c _ => exact .inl ⟨notChecked_about v.label c, trivial⟩
  · dsimp only
    by_cases hr : HasRoom r v.type
    · rw [reserve_of_lt hr, fault_eq_faultBehind hv]
      apply env.launchItems_tries
      intro items
      apply (Script.Records.ofWord _).bind
      intro samples
      apply (Script.Records.check ?_ _).bind
      · exact fun _ ↦ trivial
      · simp only [TestLog.mismatch, String.append_assoc]
        exact .fail _
    · rw [reserve, if_pos (Nat.not_lt.1 hr)]
      exact .inl trivial

def sweep : Sweep Unit where
  visits := TypePack.scalars.visits
  visit env r _ := checkType env r
  start := ()
  close := .done
  fault r item := faultBehind (r.globalSize / r.localSize) item.groupId
  tries env r _ hv _ := checkType_tries env r hv
  closes _ := trivial

theorem forM_eq_foldlM (f : Visit → Script Unit) (visits : List Visit) :
    visits.forM f = visits.foldlM (fun _ ↦ f) () := by
  induction visits with
  | nil => rfl
  | cons v visits ih => exact congrArg (f v >>= ·) (funext fun _ ↦ ih)

theorem body_eq_sweep (env : TestEnv) : body env = sweep.body env := by
  unfold body Sweep.body
  congr 1
  funext r
  rw [forM_eq_foldlM]
  exact (bind_pure _).symm

end Reduction

def failing (items : List WorkItem) : Device where
  name := "failing"
  available := true
  has _ := false
  maxWorkGroupSize := 8
  subGroupSize := none
  launch earlier _ :=
    if earlier.size = 0 then ⟨items, .completed⟩ else ⟨[], .refused (.unavailable "lost")⟩

def losing (items : List WorkItem) : Session where
  config := {}
  registry := .empty
  env := ⟨failing items, [("global_size", "8")]⟩
  filter := .all
  exclude := []
  timeout := none
  threadFault _ := none

def incomplete : List WorkItem := (List.range 7).map fun i ↦ ⟨i, i, 0⟩

def cut : List Deed :=
  [.launch ⟨8, 8⟩, .record (.fail "bool: 1 of 8 slots hold the wrong value" (some .caller)),
    .launch ⟨8, 8⟩]

theorem cut_course : Course (failing incomplete) #[]
    (TypePack.scalars.visitsWithVectors.foldlM (Copy.checkType (losing incomplete).env ⟨8, 8⟩) 0)
    cut (.error (.failed (.device (.unavailable "lost")))) := by
  have hvisits : TypePack.scalars.visitsWithVectors = ⟨.scalar .bool, "bool"⟩ ::
      ⟨.vector (.scalar .bool) 1, "vec<bool, 1>"⟩ :: TypePack.scalars.visitsWithVectors.drop 2 := by
    decide +kernel
  have hcompleted : ((failing incomplete).launch #[] ⟨8, 8⟩).Completed ⟨8, 8⟩ := ⟨rfl, by decide⟩
  have hfirst : Course (losing incomplete).env.device #[]
      (Copy.checkType (losing incomplete).env ⟨8, 8⟩ 0 ⟨.scalar .bool, "bool"⟩)
      (.launch ⟨8, 8⟩ :: (Copy.findings "bool" 8
        ((losing incomplete).env.device.launch #[] ⟨8, 8⟩).items).map .record) (.ok 1) :=
    Copy.checkType_course (by decide) (by decide) rfl hcompleted 0
  have hfindings : Copy.findings "bool" 8 ((failing incomplete).launch #[] ⟨8, 8⟩).items =
      [.fail "bool: 1 of 8 slots hold the wrong value" (some .caller)] := by decide +kernel
  have hsecond : Course (failing incomplete) #[⟨8, 8⟩]
      (Copy.checkType (losing incomplete).env ⟨8, 8⟩ 1 ⟨.vector (.scalar .bool) 1, "vec<bool, 1>"⟩)
      [.launch ⟨8, 8⟩] (.error (.failed (.device (.unavailable "lost")))) :=
    .launch (by simp [failing]) (.stop _ _)
  have hcut : cut = (.launch ⟨8, 8⟩ :: (Copy.findings "bool" 8
      ((failing incomplete).launch #[] ⟨8, 8⟩).items).map .record) ++ [.launch ⟨8, 8⟩] := by
    rw [hfindings]
    rfl
  rw [hvisits, List.foldlM_cons, hcut]
  apply hfirst.append
  rw [Script.seen, Script.seen_events, List.foldlM_cons]
  exact hsecond.bind_of_error _

end Suite

end Conformance
