import Conformance.Proofs.JsonText
import Conformance.Report.Stored
import Mathlib.Data.List.Forall2

namespace Conformance

open Json (Tree Piece)

def Event.Fits : Event → Prop
  | .fail _ (some l) => l.line < halfWordLimit
  | .pass | .fail _ none | .skip _ | .note _ => True

structure Outcome.Fits (o : Outcome) : Prop where
  events : ∀ e ∈ o.events, e.Fits
  duration : o.duration.seconds < wordLimit

/-- Lines are numbers of half a word, and seconds and counts are words. The counts need not be those
of the outcomes. -/
structure RunReport.Fits (r : RunReport) : Prop where
  outcomes : ∀ o ∈ r.outcomes, o.Fits
  passed : r.passed < wordLimit
  failed : r.failed < wordLimit
  skipped : r.skipped < wordLimit

/-- The value stored for an outcome, from which the member may be missing that says that the test
did not run out of time. -/
inductive Outcome.StoredAs (o : Outcome) : Json → Prop
  | whole : StoredAs o o.toJson
  | without {before after : List (String × Json)} :
      o.toJson = .obj (before ++ ("timed_out", .bool false) :: after) →
      StoredAs o (.obj (before ++ after))

inductive RunReport.StoredAs (r : RunReport) : Json → Prop
  | of {outcomes : List Json} : r.outcomes.Forall₂ Outcome.StoredAs outcomes →
      StoredAs r (.obj [("outcomes", .arr outcomes), ("passed", .nat r.passed),
        ("failed", .nat r.failed), ("skipped", .nat r.skipped)])

namespace Json

theorem NumberText.isNumber_of_value? {n : NumberText} {j : Json} (h : n.value? = some j) :
    (∃ k, j = .int k) ∨ ∃ x, j = .float x := by
  have hfloat : ∀ {j}, n.float? = some j → ∃ x, j = .float x := by
    intro j hj
    simp only [NumberText.float?, Option.bind_eq_bind, Option.bind_eq_some_iff] at hj
    obtain ⟨v, -, e, -, hj⟩ := hj
    split at hj
    · cases hj
    · cases hj
      exact ⟨_, rfl⟩
  simp only [NumberText.value?, Option.bind_eq_bind] at h
  split at h
  · exact .inr (hfloat h)
  · obtain ⟨w, -, h⟩ := Option.bind_eq_some_iff.1 h
    split at h <;> split at h
    · exact .inr (hfloat h)
    · cases h
      exact .inl ⟨_, rfl⟩
    · cases h
      exact .inl ⟨_, rfl⟩
    · exact .inr (hfloat h)

namespace Tree

variable {t : Tree}

theorem value?_eq_str {s : String} (h : t.value? = some (.str s)) :
    ∃ pieces, t = .string pieces ∧ (decodePieces pieces).map String.ofList = some s := by
  cases t with
  | string pieces =>
    refine ⟨pieces, rfl, ?_⟩
    rw [value?] at h
    cases hd : decodePieces pieces with
    | none => simp [hd] at h
    | some cs => simpa [hd] using h
  | number n =>
    rw [value?] at h
    rcases NumberText.isNumber_of_value? h with ⟨_, he⟩ | ⟨_, he⟩ <;> cases he
  | null | bool _ | array _ | object _ => simp [value?] at h

theorem value?_eq_bool {b : Bool} (h : t.value? = some (.bool b)) : t = .bool b := by
  cases t with
  | bool b' =>
    rw [value?] at h
    cases h
    rfl
  | number n =>
    rw [value?] at h
    rcases NumberText.isNumber_of_value? h with ⟨_, he⟩ | ⟨_, he⟩ <;> cases he
  | null | string _ | array _ | object _ => simp [value?] at h

theorem value?_eq_int {k : Int} (h : t.value? = some (.int k)) :
    ∃ n, t = .number n ∧ n.value? = some (.int k) := by
  cases t with
  | number n =>
    rw [value?] at h
    exact ⟨n, rfl, h⟩
  | null | bool _ | string _ | array _ | object _ => simp [value?] at h

theorem value?_eq_arr {es : List Json} (h : t.value? = some (.arr es)) :
    ∃ ts, t = .array ts ∧ elementValues ts = some es := by
  cases t with
  | array ts => exact ⟨ts, rfl, by simpa [value?] using h⟩
  | number n =>
    rw [value?] at h
    rcases NumberText.isNumber_of_value? h with ⟨_, he⟩ | ⟨_, he⟩ <;> cases he
  | null | bool _ | string _ | object _ => simp [value?] at h

theorem value?_eq_obj {ms : List (String × Json)} (h : t.value? = some (.obj ms)) :
    ∃ ts, t = .object ts ∧ memberValues ts = some ms := by
  cases t with
  | object ts => exact ⟨ts, rfl, by simpa [value?] using h⟩
  | number n =>
    rw [value?] at h
    rcases NumberText.isNumber_of_value? h with ⟨_, he⟩ | ⟨_, he⟩ <;> cases he
  | null | bool _ | string _ | array _ => simp [value?] at h

theorem asString?_of_value? {s : String} (h : t.value? = some (.str s)) : t.asString? = some s := by
  obtain ⟨pieces, rfl, hd⟩ := value?_eq_str h
  exact hd

theorem asBool?_of_value? {b : Bool} (h : t.value? = some (.bool b)) : t.asBool? = some b := by
  rw [value?_eq_bool h]
  rfl

theorem asNat?_of_value? {limit n : Nat} (h : t.value? = some (.nat n)) (hn : n < limit) :
    t.asNat? limit = some n := by
  obtain ⟨text, rfl, hv⟩ := value?_eq_int h
  rw [asNat?, hv]
  exact if_pos hn

theorem forall₂_of_elementValues {ts : List Tree} {es : List Json}
    (h : elementValues ts = some es) : ts.Forall₂ (fun t e ↦ t.value? = some e) es := by
  induction ts generalizing es with
  | nil =>
    cases h
    exact .nil
  | cons t ts ih =>
    simp only [elementValues, Option.bind_eq_bind, Option.bind_eq_some_iff] at h
    obtain ⟨e, he, es, hes, h⟩ := h
    cases h
    exact .cons he (ih hes)

theorem asList?_of_value? {α : Type} {f : Tree → Option α} {as : List α} {es : List Json}
    {r : α → Json → Prop} (h : t.value? = some (.arr es)) (ha : as.Forall₂ r es)
    (hf : ∀ a ∈ as, ∀ e t, r a e → t.value? = some e → f t = some a) : t.asList? f = some as := by
  obtain ⟨ts, rfl, hts⟩ := value?_eq_arr h
  replace hts := forall₂_of_elementValues hts
  rw [asList?]
  clear h
  induction ha generalizing ts with
  | nil =>
    cases hts
    rfl
  | cons hr _ ih =>
    cases hts with
    | cons ht hts =>
      have hrest := ih (fun a ha ↦ hf a (.tail _ ha)) _ hts
      simp [hf _ (.head _) _ _ hr ht, hrest]

end Tree

theorem plain_nat {n : Nat} (h : n < wordLimit) : (nat n).Plain :=
  ⟨Int.natCast_nonneg n, by exact_mod_cast h⟩

theorem plainElements_of_forall₂ {α : Type} {r : α → Json → Prop} {as : List α} {es : List Json}
    (h : as.Forall₂ r es) (hp : ∀ a ∈ as, ∀ e, r a e → e.Plain) : PlainElements es := by
  induction h with
  | nil => trivial
  | cons hr _ ih => exact ⟨hp _ (.head _) _ hr, ih fun a ha ↦ hp a (.tail _ ha)⟩

mutual

def depth : Json → Nat
  | arr es => elementDepth es + 1
  | obj ms => memberDepth ms + 1
  | null | bool _ | int _ | float _ | str _ => 0

def elementDepth : List Json → Nat
  | [] => 0
  | e :: es => max e.depth (elementDepth es)

def memberDepth : List (String × Json) → Nat
  | [] => 0
  | (_, v) :: ms => max v.depth (memberDepth ms)

end

mutual

theorem Tree.depth_of_value? : ∀ {t : Tree} {j : Json}, t.value? = some j → t.depth = j.depth
  | .null, _, h | .bool _, _, h => by
    cases h
    rfl
  | .number n, _, h => by
    rw [value?] at h
    rcases NumberText.isNumber_of_value? h with ⟨_, rfl⟩ | ⟨_, rfl⟩ <;> rfl
  | .string _, _, h => by
    simp only [value?, Option.map_eq_some_iff] at h
    obtain ⟨cs, -, rfl⟩ := h
    rfl
  | .array ts, _, h => by
    simp only [value?, Option.map_eq_some_iff] at h
    obtain ⟨es, hes, rfl⟩ := h
    rw [depth, Json.depth, elementDepth_of_elementValues hes]
  | .object ts, _, h => by
    simp only [value?, Option.map_eq_some_iff] at h
    obtain ⟨ms, hms, rfl⟩ := h
    rw [depth, Json.depth, memberDepth_of_memberValues hms]

theorem Tree.elementDepth_of_elementValues : ∀ {ts : List Tree} {es : List Json},
    elementValues ts = some es → elementDepth ts = Json.elementDepth es
  | [], _, h => by
    cases h
    rfl
  | t :: ts, _, h => by
    simp only [elementValues, Option.bind_eq_bind, Option.bind_eq_some_iff] at h
    obtain ⟨e, he, es, hes, h⟩ := h
    cases h
    rw [elementDepth, Json.elementDepth, Tree.depth_of_value? he, elementDepth_of_elementValues hes]

theorem Tree.memberDepth_of_memberValues : ∀ {ts : List (List Piece × Tree)}
    {ms : List (String × Json)}, memberValues ts = some ms → memberDepth ts = Json.memberDepth ms
  | [], _, h => by
    cases h
    rfl
  | (_, t) :: ts, _, h => by
    simp only [memberValues, Option.bind_eq_bind, Option.bind_eq_some_iff] at h
    obtain ⟨k, -, v, hv, ms, hms, h⟩ := h
    cases h
    rw [memberDepth, Json.memberDepth, Tree.depth_of_value? hv, memberDepth_of_memberValues hms]

end

abbrev Denote (ns : List (String × Tree)) (ms : List (String × Json)) : Prop :=
  ns.Forall₂ (fun n m ↦ n.1 = m.1 ∧ n.2.value? = some m.2) ms

theorem exists_denote_of_memberValues {ts : List (List Piece × Tree)} {ms : List (String × Json)}
    (h : Tree.memberValues ts = some ms) : ∃ ns, named ts = some ns ∧ Denote ns ms := by
  induction ts generalizing ms with
  | nil =>
    cases h
    exact ⟨[], rfl, .nil⟩
  | cons t ts ih =>
    obtain ⟨k, t⟩ := t
    simp only [Tree.memberValues, Option.bind_eq_bind, Option.bind_eq_some_iff] at h
    obtain ⟨k, hk, v, hv, ms, hms, h⟩ := h
    cases h
    obtain ⟨ns, hns, hvalues⟩ := ih hms
    rw [named] at hns
    exact ⟨(String.ofList k, t) :: ns, by simp [named, hk, hns], .cons ⟨rfl, hv⟩ hvalues⟩

theorem exists_denote {t : Tree} {ms : List (String × Json)} (h : t.value? = some (.obj ms)) :
    ∃ ts ns, t = .object ts ∧ named ts = some ns ∧ Denote ns ms := by
  obtain ⟨ts, rfl, hts⟩ := Tree.value?_eq_obj h
  obtain ⟨ns, hns, hvalues⟩ := exists_denote_of_memberValues hts
  exact ⟨ts, ns, rfl, hns, hvalues⟩

section

variable {ns : List (String × Tree)} {ms : List (String × Json)} {k : String} {v : Json}

theorem Denote.filter (h : Denote ns ms) (k : String) :
    Denote (ns.filter (·.1 == k)) (ms.filter (·.1 == k)) := by
  induction h with
  | nil => exact .nil
  | cons hm _ ih =>
    rw [List.filter_cons, List.filter_cons, hm.1]
    split
    · exact .cons hm ih
    · exact ih

theorem Denote.sole? (h : Denote ns ms) (hv : Json.sole? k ms = some v) :
    ∃ t, Json.sole? k ns = some t ∧ t.value? = some v := by
  have hf := h.filter k
  unfold Json.sole? at hv ⊢
  generalize ns.filter (·.1 == k) = found at hf ⊢
  generalize ms.filter (·.1 == k) = wanted at hf hv
  rcases hf with _ | ⟨hm, _ | _⟩
  · cases hv
  · cases hv
    exact ⟨_, rfl, hm.2⟩
  · cases hv

theorem Denote.atMostOne?_none (h : Denote ns ms) (hv : Json.atMostOne? k ms = some none) :
    Json.atMostOne? k ns = some none := by
  have hf := h.filter k
  unfold Json.atMostOne? at hv ⊢
  generalize ns.filter (·.1 == k) = found at hf ⊢
  generalize ms.filter (·.1 == k) = wanted at hf hv
  rcases hf with _ | ⟨hm, _ | _⟩
  · rfl
  · cases hv
  · cases hv

theorem Denote.atMostOne?_some (h : Denote ns ms) (hv : Json.atMostOne? k ms = some (some v)) :
    ∃ t, Json.atMostOne? k ns = some (some t) ∧ t.value? = some v := by
  have hf := h.filter k
  unfold Json.atMostOne? at hv ⊢
  generalize ns.filter (·.1 == k) = found at hf ⊢
  generalize ms.filter (·.1 == k) = wanted at hf hv
  rcases hf with _ | ⟨hm, _ | _⟩
  · cases hv
  · cases hv
    exact ⟨_, rfl, hm.2⟩
  · cases hv

end

end Json

open Json (Denote exists_denote)

variable {t : Tree}

theorem Descriptor.ofTree?_of_value? {d : Descriptor} (h : t.value? = some d.toJson) :
    ofTree? t = some d := by
  obtain ⟨ts, ns, rfl, hns, hd⟩ := exists_denote h
  obtain ⟨name, hname, hn⟩ := hd.sole? (k := "name") rfl
  obtain ⟨source, hsource, hs⟩ := hd.sole? (k := "source_location") rfl
  simp [ofTree?, hns, hname, hsource, Tree.asString?_of_value? hn, Tree.asString?_of_value? hs]

theorem Status.ofTree?_of_value? {s : Status} (h : t.value? = some (.str s.name)) :
    ofTree? t = some s := by
  obtain ⟨pieces, rfl, hd⟩ := Tree.value?_eq_str h
  obtain ⟨cs, hcs, hs⟩ := Option.map_eq_some_iff.1 hd
  rw [ofTree?, ofTree?.decodePieces, hcs]
  cases s <;> simp [hs, name, ofName?]

theorem Duration.ofParts?_eq {d : Duration} (hd : d.seconds < wordLimit) :
    ofParts? d.seconds d.subsecond = some d := by
  have hsub : d.subsecond < perSecond := Nat.mod_lt _ (by decide)
  have hcarry : d.subsecond / perSecond = 0 := Nat.div_eq_of_lt hsub
  have hsum : d.seconds * perSecond + d.subsecond = d.nanoseconds := Nat.div_add_mod' _ _
  simp [ofParts?, hcarry, hd, hsum]

theorem Duration.ofTree?_of_value? {d : Duration} (h : t.value? = some d.toJson)
    (hd : d.seconds < wordLimit) : ofTree? t = some d := by
  have hsub : d.subsecond < halfWordLimit :=
    Nat.lt_trans (Nat.mod_lt d.nanoseconds (by decide : 0 < perSecond)) (by decide)
  obtain ⟨ts, ns, rfl, hns, hv⟩ := exists_denote h
  obtain ⟨secs, hsecs, hs⟩ := hv.sole? (k := "secs") rfl
  obtain ⟨nanos, hnanos, hn⟩ := hv.sole? (k := "nanos") rfl
  have hlength : ns.length = 2 := hv.length_eq
  simp [ofTree?, hns, hlength, hsecs, hnanos, Tree.asNat?_of_value? hs hd,
    Tree.asNat?_of_value? hn hsub, ofParts?_eq hd]

theorem Location.ofJson?_toJson {l : Location} (h : l.line < halfWordLimit) :
    ofJson? l.toJson = some l := by
  have hline : (Json.nat l.line).asNat? halfWordLimit = some l.line := if_pos h
  simp [toJson, ofJson?, Json.sole?, Json.asString?, hline]

theorem Location.optionalOfJson?_toJson {l : Location} (h : l.line < halfWordLimit) :
    optionalOfJson? (some l.toJson) = some (some l) := by
  have hl := ofJson?_toJson h
  rw [toJson] at hl ⊢
  simp [optionalOfJson?, hl]

theorem Event.ofJson?_toJson {e : Event} (h : e.Fits) : ofJson? e.toJson = some e := by
  cases e with
  | fail message location =>
    cases location with
    | none => rfl
    | some l =>
      simp [toJson, ofJson?, ofMembers?, Json.sole?, Json.atMostOne?, Json.asString?,
        Json.optional, Location.optionalOfJson?_toJson h]
  | pass => rfl
  | skip reason => rfl
  | note message => rfl

theorem Event.depth_toJson_le (e : Event) : e.toJson.depth ≤ 2 := by
  cases e with
  | fail message location =>
    cases location <;> simp [toJson, Json.optional, Location.toJson, Json.nat, Json.depth,
      Json.memberDepth]
  | pass | skip _ | note _ => simp [toJson, Json.depth, Json.memberDepth]

theorem Event.ofTree?_of_value? {e : Event} (h : t.value? = some e.toJson) (he : e.Fits) :
    ofTree? t = some e := by
  have hd : t.depth ≤ depthLimit := by
    rw [Tree.depth_of_value? h]
    exact Nat.le_trans e.depth_toJson_le (by decide)
  simp [ofTree?, hd, h, ofJson?_toJson he]

theorem Outcome.forall₂_events (o : Outcome) :
    o.events.Forall₂ (fun e j ↦ j = e.toJson) (o.events.map Event.toJson) := by
  rw [List.forall₂_map_right_iff, List.forall₂_same]
  exact fun _ _ ↦ rfl

theorem Outcome.storedAs_iff {o : Outcome} {j : Json} :
    o.StoredAs j ↔ j = o.toJson ∨ (o.timedOut = false ∧
      j = .obj [("descriptor", o.descriptor.toJson), ("status", .str o.status.name),
        ("events", .arr (o.events.map Event.toJson)), ("duration", o.duration.toJson)]) := by
  constructor
  · rintro (_ | @⟨before, after, h⟩)
    · exact .inl rfl
    · -- Of the five members only the last has the name of the one that is missing.
      rw [toJson] at h
      right
      rcases before with _ | ⟨m₁, _ | ⟨m₂, _ | ⟨m₃, _ | ⟨m₄, _ | ⟨m₅, before⟩⟩⟩⟩⟩ <;>
        simp only [List.nil_append, List.cons_append, Json.obj.injEq, List.cons.injEq,
          Prod.mk.injEq, String.reduceEq, false_and, and_false, List.nil_eq_append_iff,
          reduceCtorEq] at h
      obtain ⟨rfl, rfl, rfl, rfl, ⟨-, ht⟩, rfl⟩ := h
      exact ⟨Json.bool.inj ht, rfl⟩
  · rintro (rfl | ⟨ht, rfl⟩)
    · exact .whole
    · refine @StoredAs.without o [_, _, _, _] [] ?_
      rw [toJson, ht]
      rfl

/-- An outcome is read where its first four members stand, whatever is said or not said of its time
as long as that is right. -/
theorem Outcome.ofTree?_of_denote {o : Outcome} {ts : List (List Piece × Tree)}
    {ns : List (String × Tree)} {ms : List (String × Json)} (ho : o.Fits)
    (hns : Json.named ts = some ns) (hd : Denote ns ms)
    (hdescriptor : Json.sole? "descriptor" ms = some o.descriptor.toJson)
    (hstatus : Json.sole? "status" ms = some (.str o.status.name))
    (hevents : Json.sole? "events" ms = some (.arr (o.events.map Event.toJson)))
    (hduration : Json.sole? "duration" ms = some o.duration.toJson)
    (htime : Json.atMostOne? "timed_out" ms = some (some (.bool o.timedOut)) ∨
      Json.atMostOne? "timed_out" ms = some none ∧ o.timedOut = false) :
    ofTree? (.object ts) = some o := by
  obtain ⟨descriptor, hdescriptor, h₁⟩ := hd.sole? hdescriptor
  obtain ⟨status, hstatus, h₂⟩ := hd.sole? hstatus
  obtain ⟨events, hevents, h₃⟩ := hd.sole? hevents
  obtain ⟨duration, hduration, h₄⟩ := hd.sole? hduration
  have hlist : events.asList? Event.ofTree? = some o.events := by
    refine Tree.asList?_of_value? h₃ o.forall₂_events ?_
    rintro e he _ t rfl ht
    exact Event.ofTree?_of_value? ht (ho.events e he)
  have hsome : ∀ t, t.asBool? = some o.timedOut →
      ofParts? descriptor status events duration (some t) = some o := by
    intro t ht
    simp [ofParts?, Descriptor.ofTree?_of_value? h₁, Status.ofTree?_of_value? h₂, hlist,
      Duration.ofTree?_of_value? h₄ ho.duration, ht]
  have hnone : o.timedOut = false →
      ofParts? descriptor status events duration none = some o := by
    intro hf
    cases o
    cases hf
    simp [ofParts?, Descriptor.ofTree?_of_value? h₁, Status.ofTree?_of_value? h₂, hlist,
      Duration.ofTree?_of_value? h₄ ho.duration]
  rcases htime with ht | ⟨ht, hf⟩
  · obtain ⟨timedOut, ht, h₅⟩ := hd.atMostOne?_some ht
    have hp := hsome timedOut (Tree.asBool?_of_value? h₅)
    simp [ofTree?, hns, hdescriptor, hstatus, hevents, hduration, ht, hp]
  · have hp := hnone hf
    simp [ofTree?, hns, hdescriptor, hstatus, hevents, hduration, hd.atMostOne?_none ht, hp]

theorem Outcome.ofTree?_of_value? {o : Outcome} {j : Json} (ho : o.Fits) (hj : o.StoredAs j)
    (h : t.value? = some j) : ofTree? t = some o := by
  rcases storedAs_iff.1 hj with rfl | ⟨ht, rfl⟩
  · obtain ⟨ts, ns, rfl, hns, hd⟩ := exists_denote h
    exact ofTree?_of_denote ho hns hd rfl rfl rfl rfl (.inl rfl)
  · obtain ⟨ts, ns, rfl, hns, hd⟩ := exists_denote h
    exact ofTree?_of_denote ho hns hd rfl rfl rfl rfl (.inr ⟨rfl, ht⟩)

theorem Event.plain_toJson {e : Event} (h : e.Fits) : e.toJson.Plain := by
  cases e with
  | fail message location =>
    cases location with
    | none => exact ⟨trivial, trivial, trivial, trivial⟩
    | some l =>
      have hline : l.line < wordLimit := Nat.lt_trans h (by decide)
      exact ⟨trivial, trivial, ⟨trivial, Json.plain_nat hline, trivial⟩, trivial⟩
  | pass => exact ⟨trivial, trivial⟩
  | skip _ | note _ => exact ⟨trivial, trivial, trivial⟩

theorem Duration.plain_toJson {d : Duration} (h : d.seconds < wordLimit) : d.toJson.Plain := by
  have hsub : d.subsecond < wordLimit :=
    Nat.lt_trans (Nat.mod_lt d.nanoseconds (by decide : 0 < perSecond)) (by decide)
  exact ⟨Json.plain_nat h, Json.plain_nat hsub, trivial⟩

theorem Outcome.StoredAs.plain {o : Outcome} {j : Json} (ho : o.Fits) (hj : o.StoredAs j) :
    j.Plain := by
  have hd : o.descriptor.toJson.Plain := ⟨trivial, trivial, trivial⟩
  have he : (Json.arr (o.events.map Event.toJson)).Plain := by
    refine Json.plainElements_of_forall₂ o.forall₂_events ?_
    rintro e he _ rfl
    exact Event.plain_toJson (ho.events e he)
  have ht := Duration.plain_toJson ho.duration
  rcases storedAs_iff.1 hj with rfl | ⟨-, rfl⟩
  · exact ⟨hd, trivial, he, ht, trivial, trivial⟩
  · exact ⟨hd, trivial, he, ht, trivial⟩

namespace RunReport

variable {r : RunReport}

theorem ofTree?_of_value? {j : Json} (hr : r.Fits) (hj : r.StoredAs j) (h : t.value? = some j) :
    ofTree? t = some r := by
  obtain ⟨hos⟩ := hj
  obtain ⟨ts, ns, rfl, hns, hd⟩ := exists_denote h
  obtain ⟨outcomes, houtcomes, h₁⟩ := hd.sole? (k := "outcomes") rfl
  obtain ⟨passed, hpassed, h₂⟩ := hd.sole? (k := "passed") rfl
  obtain ⟨failed, hfailed, h₃⟩ := hd.sole? (k := "failed") rfl
  obtain ⟨skipped, hskipped, h₄⟩ := hd.sole? (k := "skipped") rfl
  have hlist : outcomes.asList? Outcome.ofTree? = some r.outcomes :=
    Tree.asList?_of_value? h₁ hos fun o ho _ _ hs ht ↦
      Outcome.ofTree?_of_value? (hr.outcomes o ho) hs ht
  simp [ofTree?, hns, houtcomes, hpassed, hfailed, hskipped, ofParts?, hlist,
    Tree.asNat?_of_value? h₂ hr.passed, Tree.asNat?_of_value? h₃ hr.failed,
    Tree.asNat?_of_value? h₄ hr.skipped]

theorem storedAs_toJson (r : RunReport) : r.StoredAs r.toJson := by
  refine .of ?_
  rw [List.forall₂_map_right_iff, List.forall₂_same]
  exact fun o _ ↦ .whole

theorem StoredAs.plain {j : Json} (hr : r.Fits) (hj : r.StoredAs j) : j.Plain := by
  obtain ⟨hos⟩ := hj
  have hplain := Json.plainElements_of_forall₂ hos fun o ho _ hs ↦ hs.plain (hr.outcomes o ho)
  exact ⟨hplain, Json.plain_nat hr.passed, Json.plain_nat hr.failed, Json.plain_nat hr.skipped,
    trivial⟩

/-- A report is read back from what was written for it, whether or not members are missing that say
that a test did not run out of time, and from any other text for the same values; so no two reports
are written alike. -/
theorem ofStored?_stored (hr : r.Fits) :
    ofStored? r.stored = some r ∧
    (∀ j, r.StoredAs j → ofStored? j.pretty = some r) ∧
    (∀ j text, r.StoredAs j → Json.ofText? text = some j → ofStored? text = some r) ∧
    (∀ r' : RunReport, r'.Fits → r'.stored = r.stored → r' = r) := by
  have hread : ∀ {r : RunReport} {j text}, r.Fits → r.StoredAs j → Json.ofText? text = some j →
      ofStored? text = some r := by
    intro r j text hr hj h
    obtain ⟨t, ht, hv⟩ := Option.bind_eq_some_iff.1 h
    simp [ofStored?, ht, ofTree?_of_value? hr hj hv]
  have hwritten : ∀ {r : RunReport} {j}, r.Fits → r.StoredAs j → ofStored? j.pretty = some r :=
    fun hr hj ↦ hread hr hj (Json.ofText?_pretty (hj.plain hr))
  refine ⟨hwritten hr r.storedAs_toJson, fun j ↦ hwritten hr, fun j text ↦ hread hr, ?_⟩
  intro r' hr' he
  have h := hwritten hr' r'.storedAs_toJson
  rw [← stored, he, stored, hwritten hr r.storedAs_toJson] at h
  exact (Option.some.inj h).symm

def uneven : RunReport where
  outcomes := [
    ⟨⟨"copy", "copy.rs"⟩, .passed, [.fail "lost" (some ⟨"copy.rs", 4294967295⟩), .fail "" none],
      ⟨1999999999⟩, false⟩,
    ⟨⟨"a\t\"b\\\x01é", ""⟩, .skipped, [.pass, .note "n", .skip "s"], ⟨0⟩, true⟩]
  passed := 7
  failed := 0
  skipped := 18446744073709551615

theorem uneven_fits : uneven.Fits := by
  refine ⟨?_, by decide, by decide, by decide⟩
  simp only [uneven, List.forall_mem_cons, List.not_mem_nil, false_imp_iff, implies_true, and_true]
  refine ⟨⟨?_, by decide⟩, ⟨?_, by decide⟩⟩
  · simp [Event.Fits, halfWordLimit]
  · simp [Event.Fits]

def unevenShortened : Json :=
  .obj [("outcomes", .arr [
      .obj [("descriptor", .obj [("name", .str "copy"), ("source_location", .str "copy.rs")]),
        ("status", .str "passed"),
        ("events", .arr [
          (Event.fail "lost" (some ⟨"copy.rs", 4294967295⟩)).toJson, (Event.fail "" none).toJson]),
        ("duration", .obj [("secs", .nat 1), ("nanos", .nat 999999999)])],
      (uneven.outcomes[1]).toJson]),
    ("passed", .nat 7), ("failed", .nat 0), ("skipped", .nat 18446744073709551615)]

theorem unevenShortened_storedAs : uneven.StoredAs unevenShortened :=
  .of (.cons (Outcome.storedAs_iff.2 (.inr ⟨rfl, rfl⟩)) (.cons .whole .nil))

theorem ofStored?_stored_uneven :
    uneven.Fits ∧ uneven.StoredAs unevenShortened ∧ ofStored? uneven.stored = some uneven ∧
      ofStored? unevenShortened.pretty = some uneven := by
  have h := ofStored?_stored uneven_fits
  exact ⟨uneven_fits, unevenShortened_storedAs, h.1, h.2.1 _ unevenShortened_storedAs⟩

end RunReport

end Conformance
