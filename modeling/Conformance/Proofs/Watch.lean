import Conformance.Proofs.Course
import Mathlib.Logic.Relation
import Mathlib.Order.Basic

namespace Conformance

instance : Preorder Duration where
  le_refl d := Nat.le_refl d.nanoseconds
  le_trans _ _ _ h h' := Nat.le_trans h h'

theorem Duration.le_add (d s : Duration) : d ≤ d + s := Nat.le_add_right d.nanoseconds s.nanoseconds

theorem Duration.zero_le (d : Duration) : 0 ≤ d := Nat.zero_le d.nanoseconds

namespace Script

variable {α : Type} {d : Device} {p p' : Script α} {t t' : Trace}

def advance (d : Device) : Script α → Trace → Option (Script α × Trace)
  | done _, _ | stop _, _ => none
  | record e next, t => some (next, { t with log := t.log.record e })
  | notify n next, t => some (next, { t with notices := t.notices.push n })
  | wait s next, t => some (next, { t with elapsed := t.elapsed + s })
  | launch r next, t =>
    let l := d.launch t.launches r
    let t := { t with
      launches := t.launches.push r
      elapsed := t.elapsed + d.launchTime t.launches r }
    match l.ending with
    | .crashed message => some (.stop (.panicked (.text message)), t)
    | _ => some (next l, t)

theorem run_of_advance (h : p.advance d t = some (p', t')) : p'.run d t' = p.run d t := by
  cases p with
  | done | stop => cases h
  | record | notify | wait =>
    cases h
    rfl
  | launch r next =>
    simp only [advance] at h
    simp only [run]
    cases hl : (d.launch t.launches r).ending with
    | crashed message | completed | refused e =>
      simp only [hl] at h ⊢
      cases h
      rfl

theorem run_of_advance_eq_none (h : p.advance d t = none) : (p.run d t).1 = t := by
  cases p with
  | done | stop => rfl
  | record | notify | wait => cases h
  | launch r next =>
    simp only [advance] at h
    split at h <;> cases h

theorem elapsed_le_run (p : Script α) (t : Trace) : t.elapsed ≤ (p.run d t).1.elapsed := by
  induction p generalizing t with
  | done | stop => exact le_refl _
  | record e next ih => exact ih { t with log := t.log.record e }
  | notify n next ih => exact ih { t with notices := t.notices.push n }
  | wait s next ih =>
    exact (Duration.le_add t.elapsed s).trans (ih { t with elapsed := t.elapsed + s })
  | launch r next ih =>
    have hl := Duration.le_add t.elapsed (d.launchTime t.launches r)
    simp only [run]
    split
    · exact hl
    · exact hl.trans (ih _ (t.after d (.launch r)))

def Advances (d : Device) : Script α × Trace → Script α × Trace → Prop :=
  Relation.ReflTransGen fun x y ↦ x.1.advance d x.2 = some y

theorem exists_advances (d : Device) (p : Script α) (t : Trace) :
    ∃ p' t', Advances d (p, t) (p', t') ∧ p'.advance d t' = none := by
  induction p generalizing t with
  | done | stop => exact ⟨_, _, .refl, rfl⟩
  | record e next ih | notify n next ih | wait s next ih =>
    obtain ⟨p', t', h, hp⟩ := ih _
    exact ⟨p', t', .head rfl h, hp⟩
  | launch r next ih =>
    by_cases hc : ∃ message, (d.launch t.launches r).ending = .crashed message
    · obtain ⟨message, hc⟩ := hc
      refine ⟨.stop (.panicked (.text message)), t.after d (.launch r), .single ?_, rfl⟩
      simp only [advance, hc]
      rfl
    · obtain ⟨p', t', h, hp⟩ := ih (d.launch t.launches r) (t.after d (.launch r))
      refine ⟨p', t', .head ?_ h, hp⟩
      simp only [advance]
      split
      · next hm => exact absurd ⟨_, hm⟩ hc
      · rfl

end Script

structure Watch where
  worker : Option (Script Unit × Script.Trace)
  sent : Option Reply
  heard : Option Reply
  now : Duration

/-- What a thread has to say once the body of its test is over. A payload that does not go quietly
takes the thread down before it says anything, and a body that never ends says nothing either. -/
inductive Says : Script.Trace × Except Interruption Unit → Reply → Prop
  | ended {t : Script.Trace} : Says (t, .ok ()) (.log t.log)
  | stopped {t : Script.Trace} {cause : Interruption} {failure : Event} : cause.Leaves failure →
      Says (t, .error cause) (.log (t.log.record failure))
  | gone {t : Script.Trace} {remains : Payload} :
      Says (t, .error (.panicked (.bomb remains))) (.gone remains)

variable {x : Script.Trace × Except Interruption Unit} {limit : Duration} {reply : Reply}

theorem exists_says_or_stuck :
    ∀ x : Script.Trace × Except Interruption Unit, (∃ reply, Says x reply) ∨ x.2 = .error .stuck
  | (_, .ok ()) => .inl ⟨_, .ended⟩
  | (_, .error (.failed e)) => .inl ⟨_, .stopped (.failed e)⟩
  | (_, .error (.panicked (.text message))) => .inl ⟨_, .stopped (.text message)⟩
  | (_, .error (.panicked .value)) => .inl ⟨_, .stopped .value⟩
  | (_, .error (.panicked (.bomb _))) => .inl ⟨_, .gone⟩
  | (_, .error .stuck) => .inr rfl

theorem not_says_overdue : ¬ Says x .overdue := nofun

namespace Attempt

theorem replyBy_of_says (h : Says x reply) (hl : x.1.elapsed ≤ limit) :
    (conclude x).replyBy limit = reply := by
  unfold replyBy
  rw [conclude_elapsed, if_pos hl]
  cases h with
  | ended | gone => rfl
  | @stopped t cause failure hf =>
    obtain ⟨he, hlog⟩ := conclude_of_leaves hf t
    rw [he, hlog]

theorem replyBy_of_overdue (h : x.2 = .error .stuck ∨ ¬ x.1.elapsed ≤ limit) :
    (conclude x).replyBy limit = .overdue := by
  unfold replyBy
  rw [conclude_elapsed]
  rcases h with h | h
  · rw [conclude_endless_iff.2 h, ite_self]
  · rw [if_neg h]

end Attempt

namespace Watch

open Script (Trace)
open Relation (ReflTransGen)

/-- The thread may work as slowly as it likes, but never faster than its waits allow. -/
inductive Step (d : Device) (limit : Duration) : Watch → Watch → Prop
  | work {p p' : Script Unit} {t t' : Trace} {sent heard : Option Reply} {now : Duration} :
      p.advance d t = some (p', t') → t'.elapsed ≤ now →
      Step d limit ⟨some (p, t), sent, heard, now⟩ ⟨some (p', t'), sent, heard, now⟩
  | finish {p : Script Unit} {t : Trace} {reply : Reply} {sent heard : Option Reply}
      {now : Duration} : p.advance d t = none → Says (p.run d t) reply →
      Step d limit ⟨some (p, t), sent, heard, now⟩ ⟨none, some reply, heard, now⟩
  | pass {worker : Option (Script Unit × Trace)} {sent heard : Option Reply}
      {now later : Duration} : now ≤ later →
      Step d limit ⟨worker, sent, heard, now⟩ ⟨worker, sent, heard, later⟩
  | hear {worker : Option (Script Unit × Trace)} {reply : Reply} {now : Duration} :
      Step d limit ⟨worker, some reply, none, now⟩ ⟨worker, some reply, some reply, now⟩
  | expire {worker : Option (Script Unit × Trace)} {now : Duration} : limit ≤ now →
      Step d limit ⟨worker, none, none, now⟩ ⟨worker, none, some .overdue, now⟩

abbrev Reaches (d : Device) (limit : Duration) : Watch → Watch → Prop :=
  ReflTransGen (Step d limit)

def start (p : Script Unit) (earlier : Array NdRange) : Watch where
  worker := some (p, .start earlier)
  sent := none
  heard := none
  now := 0

/-- The thread is on its way to the end of the body, and every reply is what the body comes to or is
due to the end of the time. -/
structure Sound (d : Device) (x : Trace × Except Interruption Unit) (limit : Duration)
    (w : Watch) : Prop where
  working : ∀ p t, w.worker = some (p, t) → p.run d t = x ∧ t.elapsed ≤ w.now ∧ w.sent = none
  sent : ∀ reply, w.sent = some reply → Says x reply ∧ x.1.elapsed ≤ w.now
  heard : ∀ reply, w.heard = some reply → w.sent = some reply ∨ reply = .overdue ∧ limit ≤ w.now

variable {d : Device} {w w' : Watch} {p : Script Unit} {t : Trace}

theorem start_sound (limit : Duration) (p : Script Unit) (earlier : Array NdRange) :
    (start p earlier).Sound d (p.run d (.start earlier)) limit where
  working := by
    rintro p t ⟨⟩
    exact ⟨rfl, le_refl _, rfl⟩
  sent := by rintro reply ⟨⟩
  heard := by rintro reply ⟨⟩

theorem Sound.step (hw : w.Sound d x limit) (h : Step d limit w w') : w'.Sound d x limit := by
  cases h with
  | work hp hn =>
    obtain ⟨hx, -, hs⟩ := hw.working _ _ rfl
    refine ⟨?_, hw.sent, hw.heard⟩
    rintro p t ⟨⟩
    exact ⟨(Script.run_of_advance hp).trans hx, hn, hs⟩
  | finish hp hr =>
    obtain ⟨rfl, ht, hs⟩ := hw.working _ _ rfl
    refine ⟨?_, ?_, ?_⟩
    · rintro p t ⟨⟩
    · rintro reply ⟨⟩
      refine ⟨hr, ?_⟩
      rw [Script.run_of_advance_eq_none hp]
      exact ht
    · intro reply' hh
      -- Nothing was sent before, so whatever was heard is the end of the time.
      refine .inr ((hw.heard reply' hh).resolve_left ?_)
      rw [hs]
      exact nofun
  | pass hn =>
    refine ⟨?_, ?_, ?_⟩
    · intro p t hp
      obtain ⟨ha, ht, hs⟩ := hw.working p t hp
      exact ⟨ha, ht.trans hn, hs⟩
    · intro reply hs
      exact (hw.sent reply hs).imp_right fun he ↦ he.trans hn
    · intro reply hh
      exact (hw.heard reply hh).imp_right (.imp_right fun hl ↦ hl.trans hn)
  | hear =>
    refine ⟨hw.working, hw.sent, ?_⟩
    rintro reply ⟨⟩
    exact .inl rfl
  | expire hl =>
    refine ⟨hw.working, hw.sent, ?_⟩
    rintro reply ⟨⟩
    exact .inr ⟨rfl, hl⟩

theorem Sound.reach (hw : w.Sound d x limit) (h : Reaches d limit w w') :
    w'.Sound d x limit := by
  induction h with
  | refl => exact hw
  | tail _ hs ih => exact ih.step hs

def Delivers (reply : Reply) (w : Watch) : Prop :=
  w.sent = some reply ∧ (w.heard = none ∨ w.heard = some reply)

theorem Delivers.step (hw : w.Sound d x limit) (hd : w.Delivers reply) (h : Step d limit w w') :
    w'.Delivers reply := by
  obtain ⟨hs, hh⟩ := hd
  cases h with
  | work hp hn => exact ⟨hs, hh⟩
  | finish hp hr =>
    obtain ⟨-, -, hn⟩ := hw.working _ _ rfl
    rw [hn] at hs
    cases hs
  | pass hn => exact ⟨hs, hh⟩
  | hear =>
    cases hs
    exact ⟨rfl, .inr rfl⟩
  | expire hl => cases hs

theorem Delivers.reach (hw : w.Sound d x limit) (hd : w.Delivers reply)
    (h : Reaches d limit w w') : w'.Delivers reply := by
  induction h with
  | refl => exact hd
  | tail hr hs ih => exact ih.step (hw.reach hr) hs

theorem exists_heard (d : Device) (limit : Duration) (w : Watch) :
    ∃ w', Reaches d limit w w' ∧ w'.heard.isSome := by
  obtain ⟨worker, sent, heard, now⟩ := w
  cases heard with
  | some reply => exact ⟨_, .refl, rfl⟩
  | none =>
    cases sent with
    | some reply => exact ⟨_, .single .hear, rfl⟩
    | none =>
      have hp : now ≤ now + limit := Duration.le_add now limit
      have hl : limit ≤ now + limit := Nat.le_add_left limit.nanoseconds now.nanoseconds
      exact ⟨_, .tail (.single (.pass hp)) (.expire hl), rfl⟩

theorem worked_of_advances (limit : Duration) {p' : Script Unit} {t' : Trace} {now : Duration}
    (h : Script.Advances d (p, t) (p', t')) (hn : (p.run d t).1.elapsed ≤ now) :
    p'.run d t' = p.run d t ∧ Reaches d limit ⟨some (p, t), none, none, now⟩
      ⟨some (p', t'), none, none, now⟩ := by
  generalize hx : (p, t) = x at h
  induction h using ReflTransGen.head_induction_on generalizing p t with
  | refl =>
    cases hx
    exact ⟨rfl, .refl⟩
  | @head x y ha _ ih =>
    obtain ⟨q, u⟩ := y
    subst hx
    have hr := Script.run_of_advance ha
    rw [← hr] at hn
    obtain ⟨he, hs⟩ := ih hn rfl
    exact ⟨he.trans hr, .head (.work ha ((Script.elapsed_le_run q u).trans hn)) hs⟩

theorem reaches_overdue (d : Device) (limit : Duration) (p : Script Unit)
    (earlier : Array NdRange) : Reaches d limit (start p earlier)
      ⟨some (p, .start earlier), none, some .overdue, limit⟩ :=
  .tail (.single (.pass limit.zero_le)) (.expire (le_refl limit))

theorem reaches_reply (limit : Duration) {earlier : Array NdRange}
    (hs : Says (p.run d (.start earlier)) reply) : Reaches d limit (start p earlier)
      ⟨none, some reply, some reply, (p.run d (.start earlier)).1.elapsed⟩ := by
  obtain ⟨p', t', hp, hn⟩ := Script.exists_advances d p (.start earlier)
  obtain ⟨he, hw⟩ := worked_of_advances limit hp (le_refl _)
  rw [← he] at hs
  have hf : Reaches d limit (start p earlier)
      ⟨none, some reply, none, (p.run d (.start earlier)).1.elapsed⟩ :=
    .tail (.trans (.single (.pass (Duration.zero_le _))) hw) (.finish hn hs)
  exact .tail hf .hear

/-- A session and a thread that lose no time come to what the body has led to by the limit. -/
theorem exists_punctual (d : Device) (p : Script Unit) (earlier : Array NdRange)
    (limit : Duration) : ∃ w, Reaches d limit (start p earlier) w ∧
      w.heard = some ((Attempt.conclude (p.run d (.start earlier))).replyBy limit) ∧
      w.now ≤ limit := by
  have hoverdue (h : (p.run d (.start earlier)).2 = .error .stuck ∨
      ¬ (p.run d (.start earlier)).1.elapsed ≤ limit) : ∃ w, Reaches d limit (start p earlier) w ∧
        w.heard = some ((Attempt.conclude (p.run d (.start earlier))).replyBy limit) ∧
        w.now ≤ limit := by
    rw [Attempt.replyBy_of_overdue h]
    exact ⟨_, reaches_overdue d limit p earlier, rfl, le_refl limit⟩
  by_cases hl : (p.run d (.start earlier)).1.elapsed ≤ limit
  · rcases exists_says_or_stuck (p.run d (.start earlier)) with ⟨reply, hs⟩ | hs
    · rw [Attempt.replyBy_of_says hs hl]
      exact ⟨_, reaches_reply limit hs, rfl, hl⟩
    · exact hoverdue (.inl hs)
  · exact hoverdue (.inr hl)

/-- A session that waits for the thread of a test hears what its body comes to, or hears nothing
until the limit is over. What was sent before is heard, and something is always heard in the end. -/
structure Serves (d : Device) (limit : Duration) (w₀ : Watch)
    (x : Trace × Except Interruption Unit) : Prop where
  honest : ∀ w reply, Reaches d limit w₀ w → w.heard = some reply →
    Says x reply ∧ x.1.elapsed ≤ w.now ∨ reply = .overdue ∧ limit ≤ w.now
  delivered : ∀ w w' reply reply', Reaches d limit w₀ w → Reaches d limit w w' →
    w.sent = some reply → w.heard = none → w'.heard = some reply' → reply' = reply
  answered : ∀ w, ∃ w', Reaches d limit w w' ∧ w'.heard.isSome
  punctual : ∃ w, Reaches d limit w₀ w ∧
    w.heard = some ((Attempt.conclude x).replyBy limit) ∧ w.now ≤ limit

theorem start_serves (d : Device) (limit : Duration) (p : Script Unit) (earlier : Array NdRange) :
    Serves d limit (start p earlier) (p.run d (.start earlier)) where
  honest w reply hr hh := by
    have hw := (start_sound limit p earlier).reach hr
    exact (hw.heard reply hh).imp_left (hw.sent reply)
  delivered w w' reply reply' hr hr' hs hh hh' := by
    have hw := (start_sound limit p earlier).reach hr
    obtain ⟨-, hd⟩ := Delivers.reach hw ⟨hs, .inl hh⟩ hr'
    rw [hh'] at hd
    rcases hd with hd | hd <;> cases hd
    rfl
  answered := exists_heard d limit
  punctual := exists_punctual d p earlier limit

end Watch

end Conformance
