import Conformance.TestLog
import Mathlib.Data.List.Induction

namespace Conformance

namespace Status

theorem le_trans {a b c : Status} (h : a ≤ b) (h' : b ≤ c) : a ≤ c := Nat.le_trans h h'

theorem le_antisymm {a b : Status} (h : a ≤ b) (h' : b ≤ a) : a = b := by
  have hr : a.rank = b.rank := Nat.le_antisymm h h'
  cases a <;> cases b <;> first | rfl | cases hr

theorem le_max_left (a b : Status) : a ≤ max a b := by cases a <;> cases b <;> decide

theorem le_max_right (a b : Status) : b ≤ max a b := by cases a <;> cases b <;> decide

theorem max_eq (a b : Status) : max a b = a ∨ max a b = b := by
  cases a <;> cases b <;> decide

theorem max_assoc (a b c : Status) : max (max a b) c = max a (max b c) := by
  cases a <;> cases b <;> cases c <;> rfl

theorem passed_max (a : Status) : max .passed a = a := by cases a <;> rfl

theorem max_passed (a : Status) : max a .passed = a := by cases a <;> rfl

theorem passed_le (a : Status) : .passed ≤ a := Nat.zero_le a.rank

theorem le_failed (a : Status) : a ≤ .failed := by cases a <;> decide

structure IsWorst (s : Status) (events : List Event) : Prop where
  bound : ∀ e ∈ events, e.severity ≤ s
  attained : s = .passed ∨ ∃ e ∈ events, e.severity = s

theorem IsWorst.unique {s s' : Status} {events : List Event} (h : s.IsWorst events)
    (h' : s'.IsWorst events) : s = s' := by
  -- Each of the two is the best status or the severity of an event, which the other one bounds.
  have le {a b : Status} (ha : a.IsWorst events) (hb : b.IsWorst events) : a ≤ b := by
    rcases ha.attained with rfl | ⟨e, he, rfl⟩
    · exact passed_le b
    · exact hb.bound e he
  exact le_antisymm (le h h') (le h' h)

theorem IsWorst.append {s : Status} {events : List Event} (h : s.IsWorst events) (e : Event) :
    (max s e.severity).IsWorst (events ++ [e]) := by
  constructor
  · intro e' he'
    rcases List.mem_append.1 he' with he' | he'
    · exact le_trans (h.bound e' he') (le_max_left _ _)
    · rw [List.mem_singleton.1 he']
      exact le_max_right _ _
  · rcases max_eq s e.severity with hm | hm
    · rw [hm]
      exact h.attained.imp_right fun ⟨e', he', hs⟩ ↦ ⟨e', List.mem_append_left _ he', hs⟩
    · exact .inr ⟨e, by simp, hm.symm⟩

theorem ofEvents_append (events : List Event) (e : Event) :
    ofEvents (events ++ [e]) = max (ofEvents events) e.severity := by
  simp [ofEvents]

theorem ofEvents_append_events (events events' : List Event) :
    ofEvents (events ++ events') = max (ofEvents events) (ofEvents events') := by
  induction events' using List.reverseRecOn with
  | nil => rw [List.append_nil, show ofEvents [] = .passed from rfl, max_passed]
  | append_singleton events' e ih =>
    rw [← List.append_assoc, ofEvents_append, ofEvents_append, ih, max_assoc]

theorem ofEvents_isWorst (events : List Event) : (ofEvents events).IsWorst events := by
  induction events using List.reverseRecOn with
  | nil => exact ⟨by simp, .inl rfl⟩
  | append_singleton events e ih =>
    rw [ofEvents_append]
    exact ih.append e

theorem isWorst_iff {s : Status} {events : List Event} :
    s.IsWorst events ↔ s = ofEvents events := by
  constructor
  · intro h
    exact h.unique (ofEvents_isWorst events)
  · rintro rfl
    exact ofEvents_isWorst events

theorem ofEvents_eq_failed_iff {events : List Event} :
    ofEvents events = .failed ↔ ∃ message location, .fail message location ∈ events := by
  have h := ofEvents_isWorst events
  constructor
  · intro hf
    rw [hf] at h
    obtain ⟨e, he, hs⟩ := h.attained.resolve_left nofun
    cases e with
    | fail message location => exact ⟨message, location, he⟩
    | pass | skip _ | note _ => cases hs
  · rintro ⟨message, location, he⟩
    exact le_antisymm (le_failed _) (h.bound _ he)

end Status

namespace TestLog

/-- The status that a log keeps is that of its events. -/
def Consistent (log : TestLog) : Prop := log.status = .ofEvents log.events.toList

theorem empty_consistent : empty.Consistent := rfl

@[simp]
theorem record_events (log : TestLog) (e : Event) :
    (log.record e).events.toList = log.events.toList ++ [e] := by
  simp [record]

theorem Consistent.record {log : TestLog} (h : log.Consistent) (e : Event) :
    (log.record e).Consistent := by
  unfold Consistent
  rw [record_events, Status.ofEvents_append, ← h]
  rfl

end TestLog

end Conformance
