import Conformance.Proofs.Registration
import Mathlib.Data.List.Induction

namespace Conformance.Registry

variable {r r' : Registry} {t : TestCase} {e : DuplicateTest}

theorem register_eq_error_iff :
    r.register t = .error e ↔ ∃ earlier, r.find? t.name = some earlier ∧
      e = ⟨t.name, earlier.descriptor.source, t.descriptor.source⟩ := by
  unfold register
  cases r.find? t.name with
  | none => simp
  | some earlier => simp [eq_comm]

theorem run_get_bind (f : Registry → ExceptT DuplicateTest (StateM Registry) Unit)
    (r : Registry) : (get >>= f).run.run r = (f r).run.run r := rfl

theorem enter_run_of_ok (h : r.register t = .ok r') : (enter t).run.run r = (.ok (), r') := by
  obtain ⟨hf, rfl⟩ := register_eq_ok_iff.1 h
  rw [enter, run_get_bind, hf]
  rfl

theorem enter_run_of_error (h : r.register t = .error e) : (enter t).run.run r = (.error e, r) := by
  obtain ⟨earlier, hf, rfl⟩ := register_eq_error_iff.1 h
  rw [enter, run_get_bind, hf]
  rfl

def enterAll (tests : List TestCase) : StateM Registry (List (Except DuplicateTest Unit)) :=
  tests.mapM fun t ↦ (enter t).run

def answers (tests : List TestCase) : List (Except DuplicateTest Unit) :=
  ((enterAll tests).run empty).1

def left (tests : List TestCase) : Registry := ((enterAll tests).run empty).2

def accepted (tests : List TestCase) : List TestCase :=
  ((tests.zip (answers tests)).filter fun p ↦ p.2.isOk).map Prod.fst

theorem answers_append_singleton (tests : List TestCase) (t : TestCase) :
    answers (tests ++ [t]) = answers tests ++ [((enter t).run.run (left tests)).1] := by
  simp only [answers, enterAll, List.mapM_append, List.mapM_cons, List.mapM_nil]
  rfl

theorem left_append_singleton (tests : List TestCase) (t : TestCase) :
    left (tests ++ [t]) = ((enter t).run.run (left tests)).2 := by
  simp only [left, enterAll, List.mapM_append, List.mapM_cons, List.mapM_nil]
  rfl

theorem length_answers (tests : List TestCase) : (answers tests).length = tests.length := by
  induction tests using List.reverseRecOn with
  | nil => rfl
  | append_singleton tests t ih => simp [answers_append_singleton, ih]

theorem accepted_append_singleton (tests : List TestCase) (t : TestCase) :
    accepted (tests ++ [t]) = accepted tests ++
      if ((enter t).run.run (left tests)).1.isOk then [t] else [] := by
  have hz : (tests ++ [t]).zip (answers (tests ++ [t])) =
      tests.zip (answers tests) ++ [(t, ((enter t).run.run (left tests)).1)] := by
    rw [answers_append_singleton, List.zip_append (length_answers tests).symm]
    rfl
  rw [accepted, hz, List.filter_append, List.map_append, List.filter_singleton]
  congr 1
  cases ((enter t).run.run (left tests)).1.isOk <;> rfl

theorem getElem?_answers {tests : List TestCase} {i : Nat} (h : tests[i]? = some t) :
    (answers tests)[i]? = some ((enter t).run.run (left (tests.take i))).1 ∧
    left (tests.take (i + 1)) = ((enter t).run.run (left (tests.take i))).2 := by
  induction tests using List.reverseRecOn with
  | nil => cases h
  | append_singleton tests u ih =>
    by_cases hi : i < tests.length
    · rw [List.getElem?_append_left hi] at h
      rw [answers_append_singleton, List.getElem?_append_left (by rwa [length_answers]),
        List.take_append_of_le_length (Nat.le_of_lt hi), List.take_append_of_le_length hi]
      exact ih h
    · have hlt := (List.getElem?_eq_some_iff.1 h).1
      have he : i = tests.length := by
        rw [List.length_append, List.length_singleton] at hlt
        omega
      subst he
      rw [List.getElem?_concat_length] at h
      cases h
      rw [List.take_left, List.take_of_length_le (by simp), answers_append_singleton,
        ← length_answers, List.getElem?_concat_length, left_append_singleton]
      exact ⟨rfl, rfl⟩

structure Holds (r : Registry) (tests : List TestCase) : Prop where
  entries : r.entries.toList = tests
  nodup_names : (tests.map TestCase.name).Nodup
  index : ∀ name i, r.index[name]? = some i ↔ ∃ t : TestCase, tests[i]? = some t ∧ t.name = name
  find?_eq_some_iff : ∀ name t, r.find? name = some t ↔ t ∈ tests ∧ t.name = name
  find?_eq_none_iff : ∀ name, r.find? name = none ↔ ∀ t ∈ tests, t.name ≠ name
  size : r.size = tests.length

theorem Indexed.holds (h : r.Indexed) : r.Holds r.entries.toList where
  entries := rfl
  nodup_names := h.nodup_names
  index name i := by simpa only [Array.getElem?_toList] using h name i
  find?_eq_some_iff _ _ := h.find?_eq_some_iff
  find?_eq_none_iff _ := h.find?_eq_none_iff
  size := rfl

structure Answers (r : Registry) (t : TestCase) (answer : Except DuplicateTest Unit)
    (r' : Registry) : Prop where
  refuses_iff : (∃ e, answer = .error e) ↔ t.name ∈ r.entries.toList.map TestCase.name
  refused : ∀ e, answer = .error e → r' = r ∧ ∃ earlier ∈ r.entries.toList,
    earlier.name = t.name ∧ e = ⟨t.name, earlier.descriptor.source, t.descriptor.source⟩
  accepted : answer = .ok () → r'.entries.toList = r.entries.toList ++ [t]

theorem Indexed.enter (h : r.Indexed) (t : TestCase) : ((enter t).run.run r).2.Indexed ∧
    r.Answers t ((enter t).run.run r).1 ((enter t).run.run r).2 := by
  cases hr : r.register t with
  | ok r' =>
    rw [enter_run_of_ok hr]
    obtain ⟨hf, he⟩ := register_eq_ok_iff.1 hr
    have hn : t.name ∉ r.entries.toList.map TestCase.name := by
      simpa using h.find?_eq_none_iff.1 hf
    refine ⟨h.register hr, ?_, nofun, fun _ ↦ ?_⟩
    · exact iff_of_false nofun hn
    · simp [he]
  | error e =>
    rw [enter_run_of_error hr]
    obtain ⟨earlier, hf, rfl⟩ := register_eq_error_iff.1 hr
    obtain ⟨hm, hn⟩ := h.find?_eq_some_iff.1 hf
    refine ⟨h, ?_, ?_, nofun⟩
    · exact iff_of_true ⟨_, rfl⟩ (hn ▸ List.mem_map_of_mem hm)
    · rintro _ ⟨⟩
      exact ⟨rfl, earlier, hm, hn, rfl⟩

theorem left_indexed (tests : List TestCase) : (left tests).Indexed := by
  induction tests using List.reverseRecOn with
  | nil => exact empty_indexed
  | append_singleton tests t ih =>
    rw [left_append_singleton]
    exact (ih.enter t).1

theorem entries_left (tests : List TestCase) : (left tests).entries.toList = accepted tests := by
  induction tests using List.reverseRecOn with
  | nil => rfl
  | append_singleton tests t ih =>
    have ha := ((left_indexed tests).enter t).2
    rw [left_append_singleton, accepted_append_singleton, ← ih]
    cases hx : ((Registry.enter t).run.run (left tests)).1 with
    | ok =>
      rw [ha.accepted hx]
      rfl
    | error e =>
      rw [(ha.refused e hx).1]
      exact (List.append_nil _).symm

theorem length_accepted (tests : List TestCase) :
    (accepted tests).length = (answers tests).countP Except.isOk := by
  induction tests using List.reverseRecOn with
  | nil => rfl
  | append_singleton tests t ih =>
    rw [accepted_append_singleton, answers_append_singleton, List.length_append,
      List.countP_append, ih, List.countP_singleton]
    cases ((enter t).run.run (left tests)).1.isOk <;> rfl

/-- After any registrations the registry holds exactly the tests that were accepted, in order. Each
registration is refused if its name is among those that were accepted before it, and only then; the
answer then names the two sources, and the registry stays as it was. -/
theorem left_holds_accepted (tests : List TestCase) :
    (left tests).Holds (accepted tests) ∧
    (left tests).size = (answers tests).countP Except.isOk ∧
    ∀ i t, tests[i]? = some t → ∃ answer, (answers tests)[i]? = some answer ∧
      (left (tests.take i)).Answers t answer (left (tests.take (i + 1))) := by
  have hh : (left tests).Holds (accepted tests) := by
    rw [← entries_left]
    exact (left_indexed tests).holds
  refine ⟨hh, hh.size.trans (length_accepted tests), ?_⟩
  intro i t ht
  obtain ⟨ha, hl⟩ := getElem?_answers ht
  rw [hl]
  exact ⟨_, ha, ((left_indexed _).enter t).2⟩

end Conformance.Registry
