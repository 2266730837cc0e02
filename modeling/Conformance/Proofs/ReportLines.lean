import Conformance.Proofs.Numerals
import Conformance.Proofs.Summary
import Conformance.Report.Text
import Mathlib.Data.List.Forall2

namespace Conformance

def linesOf : List Char → List (List Char)
  | [] => []
  | c :: cs =>
    if c = '\n' then [] :: linesOf cs
    else match linesOf cs with
      | [] => [[c]]
      | line :: lines => (c :: line) :: lines

def textLines (text : String) : List String := (linesOf text.toList).map .ofList

def printedLines (line : String) : List String := textLines (line ++ "\n")

section Lines

variable {cs ds : List Char} {line : String} {lines : List String}

theorem linesOf_break_ne_nil (cs ds : List Char) : linesOf (cs ++ '\n' :: ds) ≠ [] := by
  cases cs with
  | nil => simp [linesOf]
  | cons c cs =>
    rw [List.cons_append, linesOf]
    split
    · simp
    · split <;> simp

theorem linesOf_append (cs ds : List Char) :
    linesOf (cs ++ '\n' :: ds) = linesOf (cs ++ ['\n']) ++ linesOf ds := by
  induction cs with
  | nil => simp [linesOf]
  | cons c cs ih =>
    rw [List.cons_append, List.cons_append, linesOf, linesOf, ih]
    split
    · rfl
    · -- The first line of the rest, which `c` comes before, does not reach into `ds`.
      cases hl : linesOf (cs ++ ['\n']) with
      | nil => exact absurd hl (linesOf_break_ne_nil cs [])
      | cons line lines => rfl

theorem linesOf_line (h : '\n' ∉ cs) : linesOf (cs ++ ['\n']) = [cs] := by
  induction cs with
  | nil => simp [linesOf]
  | cons c cs ih =>
    obtain ⟨hc, hcs⟩ := not_or.1 (mt List.mem_cons.2 h)
    rw [List.cons_append, linesOf, if_neg (Ne.symm hc), ih hcs]

theorem textLines_linesText (lines : List String) :
    textLines (linesText lines) = lines.flatMap printedLines := by
  induction lines with
  | nil => rfl
  | cons line lines ih =>
    have ht : (linesText (line :: lines)).toList =
        line.toList ++ '\n' :: (linesText lines).toList := by
      simp [linesText]
    rw [List.flatMap_cons, ← ih, textLines, ht, linesOf_append, List.map_append, printedLines,
      textLines, String.toList_append]
    rfl

theorem printedLines_of_not_mem (h : '\n' ∉ line.toList) : printedLines line = [line] := by
  rw [printedLines, textLines, String.toList_append]
  change (linesOf (line.toList ++ ['\n'])).map _ = _
  simp [linesOf_line h]

theorem flatMap_printedLines (h : ∀ line ∈ lines, '\n' ∉ line.toList) :
    lines.flatMap printedLines = lines := by
  induction lines with
  | nil => rfl
  | cons line lines ih =>
    obtain ⟨hline, hlines⟩ := List.forall_mem_cons.1 h
    rw [List.flatMap_cons, printedLines_of_not_mem hline, ih hlines, List.singleton_append]

end Lines

/-- The third list consists of the other two, each in its order. -/
inductive Merges {α : Type} : List α → List α → List α → Prop
  | nil : Merges [] [] []
  | left {a : α} {as bs cs : List α} : Merges as bs cs → Merges (a :: as) bs (a :: cs)
  | right {b : α} {as bs cs : List α} : Merges as bs cs → Merges as (b :: bs) (b :: cs)

namespace Merges

variable {α β : Type} {as bs cs as' bs' cs' : List α}

theorem sublist (h : Merges as bs cs) : as.Sublist cs := by
  induction h with
  | nil => exact .slnil
  | left _ ih => exact ih.cons_cons _
  | right _ ih => exact ih.cons _

theorem all_left (as : List α) : Merges as [] as := by
  induction as with
  | nil => exact .nil
  | cons a as ih => exact .left ih

theorem all_right (bs : List α) : Merges [] bs bs := by
  induction bs with
  | nil => exact .nil
  | cons b bs ih => exact .right ih

theorem append (h : Merges as bs cs) (h' : Merges as' bs' cs') :
    Merges (as ++ as') (bs ++ bs') (cs ++ cs') := by
  induction h with
  | nil => exact h'
  | left _ ih => exact .left ih
  | right _ ih => exact .right ih

theorem flatMap (h : Merges as bs cs) (f : α → List β) :
    Merges (as.flatMap f) (bs.flatMap f) (cs.flatMap f) := by
  induction h with
  | nil => exact .nil
  | left _ ih => exact (all_left _).append ih
  | right _ ih => exact (all_right _).append ih

theorem flatMap_of_forall {f g k : α → List β} (h : ∀ a, Merges (f a) (g a) (k a)) (as : List α) :
    Merges (as.flatMap f) (as.flatMap g) (as.flatMap k) := by
  induction as with
  | nil => exact .nil
  | cons a as ih => exact (h a).append ih

end Merges

namespace Outcome

def noteLines (o : Outcome) : List String :=
  o.events.filterMap fun
    | .note message => some ("    note: " ++ message)
    | _ => none

theorem mem_noteLines_iff {o : Outcome} {line : String} :
    line ∈ o.noteLines ↔ ∃ message, .note message ∈ o.events ∧ "    note: " ++ message = line := by
  rw [noteLines, List.mem_filterMap]
  constructor
  · rintro ⟨e, he, hl⟩
    cases e with
    | note message => exact ⟨message, he, Option.some.inj hl⟩
    | pass | fail _ _ | skip _ => cases hl
  · rintro ⟨message, he, rfl⟩
    exact ⟨.note message, he, rfl⟩

theorem mem_skipReasons {o : Outcome} {reason : String} (h : reason ∈ o.skipReasons) :
    .skip reason ∈ o.events := by
  obtain ⟨e, he, hr⟩ := List.mem_filterMap.1 h
  cases e <;> cases hr
  exact he

theorem lines_eq (policy : NotesPolicy) (o : Outcome) :
    o.lines policy = o.headline :: if policy.shows o.status then o.noteLines else [] := by
  have hnotes : o.notes.map ("    note: " ++ ·) = o.noteLines := by
    rw [notes, noteLines, List.map_filterMap]
    congr 1
    funext e
    cases e <;> rfl
  rw [lines, hnotes]

theorem merges_onFailure (o : Outcome) :
    Merges (o.lines .never) (if o.status == .failed then o.noteLines else [])
      (o.lines .onFailure) := by
  rw [lines_eq, lines_eq]
  exact .left (.all_right _)

theorem merges_always (o : Outcome) :
    Merges (o.lines .onFailure) (if o.status != .failed then o.noteLines else [])
      (o.lines .always) := by
  rw [lines_eq, lines_eq]
  change Merges (o.headline :: if o.status == .failed then o.noteLines else []) _
    (o.headline :: o.noteLines)
  cases hs : o.status == .failed with
  | true => simpa [bne, hs] using Merges.all_left (o.headline :: o.noteLines)
  | false => simpa [bne, hs] using Merges.left (Merges.all_right o.noteLines)

end Outcome

theorem flatMap_ite {α β : Type} (p : α → Bool) (f : α → List β) (as : List α) :
    (as.flatMap fun a ↦ if p a then f a else []) = (as.filter p).flatMap f := by
  induction as with
  | nil => rfl
  | cons a as ih =>
    rw [List.flatMap_cons, ih]
    cases hp : p a <;> simp [hp]

namespace RunReport

variable {r : RunReport}

theorem textLines_text (policy : NotesPolicy) (r : RunReport) :
    textLines (r.text policy) = ((r.outcomes.flatMap (Outcome.lines policy)) ++
      (r.failureSections ++ r.summaryLines)).flatMap printedLines := by
  rw [text, textLines_linesText, lines, List.append_assoc]

theorem merges_of_outcomes {few many : NotesPolicy} {p : Status → Bool}
    (h : ∀ o : Outcome, Merges (o.lines few) (if p o.status then o.noteLines else [])
      (o.lines many)) (r : RunReport) :
    Merges (textLines (r.text few))
      ((r.outcomes.filter fun o ↦ p o.status).flatMap fun o ↦ o.noteLines.flatMap printedLines)
      (textLines (r.text many)) := by
  have hcases := Merges.flatMap_of_forall h r.outcomes
  rw [flatMap_ite] at hcases
  have hrest : Merges _ _ _ := .all_left (r.failureSections ++ r.summaryLines)
  have hall := (hcases.append hrest).flatMap printedLines
  rw [List.append_nil, List.flatMap_assoc] at hall
  rw [textLines_text, textLines_text]
  exact hall

end RunReport

def beginsWith (start line : String) : Bool := start.toList.isPrefixOf line.toList

theorem beginsWith_append (start rest : String) : beginsWith start (start ++ rest) = true := by
  simp [beginsWith]

namespace Outcome

variable {o : Outcome} {policy : NotesPolicy}

/-- No line break is in the name, the notes and the reasons for skipping. -/
structure OnOneLine (o : Outcome) : Prop where
  name : '\n' ∉ o.name.toList
  notes : ∀ message, .note message ∈ o.events → '\n' ∉ message.toList
  reasons : ∀ reason, .skip reason ∈ o.events → '\n' ∉ reason.toList

theorem headline_eq (o : Outcome) :
    o.headline = "[" ++ o.status.marker ++ "] " ++ o.name ++ o.remark := rfl

theorem beginsWith_headline (o : Outcome) :
    beginsWith ("[" ++ o.status.marker ++ "] " ++ o.name) o.headline = true :=
  beginsWith_append _ _

theorem beginsWith_bracket (o : Outcome) : beginsWith "[" o.headline = true := by
  rw [headline_eq, String.append_assoc, String.append_assoc, String.append_assoc]
  exact beginsWith_append _ _

theorem beginsWith_marker (s : Status) (o : Outcome) :
    beginsWith ("[" ++ s.marker ++ "]") o.headline = (o.status == s) := by
  rw [headline_eq, beginsWith]
  cases s <;> cases o.status <;> simp [Status.marker] <;> rfl

theorem OnOneLine.headline (h : o.OnOneLine) : '\n' ∉ o.headline.toList := by
  have hmarker : '\n' ∉ o.status.marker.toList := by
    cases o.status <;> decide
  have hremark : '\n' ∉ o.remark.toList := by
    unfold remark
    split
    · next reason _ _ hr =>
      have hreason := h.reasons reason (mem_skipReasons (by simp [hr]))
      simp [hreason]
    · split <;> decide
  simp [headline_eq, hmarker, hremark, h.name]

theorem OnOneLine.noteLines (h : o.OnOneLine) : ∀ line ∈ o.noteLines, '\n' ∉ line.toList := by
  intro line hl
  obtain ⟨message, hm, rfl⟩ := mem_noteLines_iff.1 hl
  simp [h.notes message hm]

theorem OnOneLine.lines (h : o.OnOneLine) (policy : NotesPolicy) :
    ∀ line ∈ o.lines policy, '\n' ∉ line.toList := by
  rw [lines_eq, List.forall_mem_cons]
  refine ⟨h.headline, ?_⟩
  split
  · exact h.noteLines
  · simp

theorem mem_lines_ne_empty {line : String} (h : line ∈ o.lines policy) : line ≠ "" := by
  rintro rfl
  rw [lines_eq, List.mem_cons] at h
  obtain h | h := h
  · simp [headline_eq] at h
  · split at h
    · simp [mem_noteLines_iff] at h
    · cases h

theorem filter_lines (policy : NotesPolicy) (o : Outcome) :
    (o.lines policy).filter (beginsWith "[") = [o.headline] := by
  have hnotes : o.noteLines.filter (beginsWith "[") = [] := by
    rw [List.filter_eq_nil_iff]
    intro line hl
    obtain ⟨message, -, rfl⟩ := mem_noteLines_iff.1 hl
    simp [beginsWith]
  rw [lines_eq, List.filter_cons_of_pos (beginsWith_bracket o)]
  split
  · rw [hnotes]
  · rfl

end Outcome

namespace RunReport

variable {outcomes : List Outcome}

/-- The lines of a report up to the first empty one, as far as they begin with a bracket. -/
def headLines (report : List String) : List String :=
  (report.takeWhile (· ≠ "")).filter (beginsWith "[")

theorem exists_tail (r : RunReport) :
    ∃ tail, r.failureSections ++ r.summaryLines = "" :: tail := by
  unfold failureSections
  split
  · exact ⟨_, rfl⟩
  · exact ⟨_, rfl⟩

theorem headLines_eq (h : ∀ o ∈ outcomes, o.OnOneLine) (policy : NotesPolicy) :
    headLines (textLines ((ofOutcomes outcomes).text policy)) = outcomes.map Outcome.headline := by
  have hcases : (outcomes.flatMap (Outcome.lines policy)).flatMap printedLines =
      outcomes.flatMap (Outcome.lines policy) := by
    apply flatMap_printedLines
    intro line hl
    obtain ⟨o, ho, hl⟩ := List.mem_flatMap.1 hl
    exact (h o ho).lines policy line hl
  have hfull : ∀ line ∈ outcomes.flatMap (Outcome.lines policy), decide (line ≠ "") = true := by
    intro line hl
    obtain ⟨o, -, hl⟩ := List.mem_flatMap.1 hl
    exact decide_eq_true (Outcome.mem_lines_ne_empty hl)
  have hempty : printedLines "" = [""] := printedLines_of_not_mem (by simp)
  obtain ⟨tail, htail⟩ := exists_tail (ofOutcomes outcomes)
  have houtcomes : (ofOutcomes outcomes).outcomes = outcomes := rfl
  rw [headLines, textLines_text, htail, houtcomes, List.flatMap_append, hcases,
    List.flatMap_cons, hempty, List.takeWhile_append_of_pos hfull]
  simp [List.filter_flatMap, Outcome.filter_lines, List.map_eq_flatMap]

theorem countP_marker (s : Status) (outcomes : List Outcome) :
    (outcomes.map Outcome.headline).countP (beginsWith ("[" ++ s.marker ++ "]")) =
      (outcomes.filter fun o ↦ o.status == s).length := by
  rw [List.countP_map, ← List.countP_eq_length_filter]
  apply List.countP_congr
  simp [Outcome.beginsWith_marker]

def summaryOf (passed failed skipped : Nat) : String :=
  "test result: " ++ (if failed = 0 then "ok" else "FAILED") ++ ". " ++ shown passed ++
    " passed, " ++ shown failed ++ " failed, " ++ shown skipped ++ " skipped"

theorem summaryLines_eq (r : RunReport) :
    r.summaryLines = ["", summaryOf r.passed r.failed r.skipped] := by
  have hword : (if r.success then "ok" else "FAILED") =
      if r.failed = 0 then "ok" else "FAILED" := by
    simp [success]
  rw [summaryLines, hword]
  rfl

theorem newline_not_mem_shown (n : Nat) : '\n' ∉ (shown n).toList := by
  have hn : (shown n).toList = Numeral.digits n := String.toList_ofList
  rw [hn]
  intro h
  have hd : Numeral.isDigit '\n' = true := Numeral.isDigit_of_mem_digits h
  exact absurd hd (by decide)

theorem newline_not_mem_summaryOf (passed failed skipped : Nat) :
    '\n' ∉ (summaryOf passed failed skipped).toList := by
  have hword : '\n' ∉ (if failed = 0 then "ok" else "FAILED" : String).toList := by
    split <;> decide
  unfold summaryOf
  simp [newline_not_mem_shown, hword]

theorem getLast?_textLines (policy : NotesPolicy) (r : RunReport) :
    (textLines (r.text policy)).getLast? = some (summaryOf r.passed r.failed r.skipped) := by
  have hlast : printedLines (summaryOf r.passed r.failed r.skipped) =
      [summaryOf r.passed r.failed r.skipped] :=
    printedLines_of_not_mem (newline_not_mem_summaryOf _ _ _)
  rw [textLines_text, summaryLines_eq]
  simp [hlast]

/-- What a report says of the tests can be read off its lines: those that begin with a bracket
before the first empty line are one per test, in order, with its status and its name, and the
figures of the last line count them. The policies print the lines of one another, and more notes: of
the failed tests first, and then of the others. -/
theorem report_reads_back (h : ∀ o ∈ outcomes, o.OnOneLine) (policy : NotesPolicy) :
    let printed := textLines ((ofOutcomes outcomes).text policy)
    let heads := headLines printed
    List.Forall₂ (fun line o ↦
      beginsWith ("[" ++ o.status.marker ++ "] " ++ o.name) line = true) heads outcomes ∧
    printed.getLast? = some (summaryOf (heads.countP (beginsWith "[PASS]"))
      (heads.countP (beginsWith "[FAIL]")) (heads.countP (beginsWith "[SKIP]"))) ∧
    ∀ r : RunReport,
      (textLines (r.text .never)).Sublist (textLines (r.text .onFailure)) ∧
      (textLines (r.text .onFailure)).Sublist (textLines (r.text .always)) ∧
      Merges (textLines (r.text .never))
        ((r.outcomes.filter fun o ↦ o.status == .failed).flatMap fun o ↦
          o.noteLines.flatMap printedLines)
        (textLines (r.text .onFailure)) ∧
      Merges (textLines (r.text .onFailure))
        ((r.outcomes.filter fun o ↦ o.status != .failed).flatMap fun o ↦
          o.noteLines.flatMap printedLines)
        (textLines (r.text .always)) := by
  intro printed heads
  have hheads : heads = outcomes.map Outcome.headline := headLines_eq h policy
  refine ⟨?_, ?_, fun r ↦ ?_⟩
  · rw [hheads, List.forall₂_map_left_iff, List.forall₂_same]
    exact fun o _ ↦ o.beginsWith_headline
  · have hpassed := countP_marker .passed outcomes
    have hfailed := countP_marker .failed outcomes
    have hskipped := countP_marker .skipped outcomes
    rw [getLast?_textLines, hheads]
    exact congrArg some (congr (congr (congrArg summaryOf hpassed) hfailed) hskipped).symm
  · have hfailure := merges_of_outcomes (p := (· == .failed)) Outcome.merges_onFailure r
    have halways := merges_of_outcomes (p := (· != .failed)) Outcome.merges_always r
    exact ⟨hfailure.sublist, halways.sublist, hfailure, halways⟩

def misleading : List Outcome :=
  [.ofEvents ⟨"[FAIL] copy", "copy.rs"⟩ [.note "[SKIP] none"] 0 false,
    .ofEvents ⟨"sum", "sum.rs"⟩ [.fail "3\n\n[PASS] sum" none] 0 true,
    .ofEvents ⟨"groups", "groups.rs"⟩ [.skip "(timed out)"] 0 false]

theorem report_reads_back_misleading : (∀ o ∈ misleading, o.OnOneLine) ∧
    let printed := textLines ((ofOutcomes misleading).text .always)
    List.Forall₂ (fun line start ↦ beginsWith start line = true) (headLines printed)
      ["[PASS] [FAIL] copy", "[FAIL] sum", "[SKIP] groups"] ∧
    printed.getLast? = some (summaryOf ((headLines printed).countP (beginsWith "[PASS]"))
      ((headLines printed).countP (beginsWith "[FAIL]"))
      ((headLines printed).countP (beginsWith "[SKIP]"))) := by
  have h : ∀ o ∈ misleading, o.OnOneLine := by
    intro o ho
    simp only [misleading, List.mem_cons, List.not_mem_nil, or_false] at ho
    obtain rfl | rfl | rfl := ho <;> constructor <;> simp [Outcome.name, Outcome.ofEvents]
  obtain ⟨hheads, hlast, -⟩ := report_reads_back h .always
  have hstarts : misleading.map (fun o ↦ "[" ++ o.status.marker ++ "] " ++ o.name) =
      ["[PASS] [FAIL] copy", "[FAIL] sum", "[SKIP] groups"] := by
    decide
  refine ⟨h, ?_, hlast⟩
  rw [← hstarts, List.forall₂_map_right_iff]
  exact hheads

end RunReport

end Conformance
