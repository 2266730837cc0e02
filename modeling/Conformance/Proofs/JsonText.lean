import Conformance.Json.Printer
import Conformance.Json.Tree
import Conformance.Proofs.Numerals

namespace Conformance.Json

open Numeral (digits)

mutual

def Plain : Json → Prop
  | null | bool _ | str _ => True
  | int n => 0 ≤ n ∧ n < wordLimit
  | float _ => False
  | arr es => PlainElements es
  | obj ms => PlainMembers ms

def PlainElements : List Json → Prop
  | [] => True
  | e :: es => e.Plain ∧ PlainElements es

def PlainMembers : List (String × Json) → Prop
  | [] => True
  | (_, v) :: ms => v.Plain ∧ PlainMembers ms

end

def ofText? (text : String) : Option Json := (Tree.ofChars text.toList).bind Tree.value?

def Piece.ofChar (c : Char) : Piece :=
  if c.toNat < 32 ∧ c ∉ ['\n', '\r', '\t', '\x08', '\x0c'] then .unit c.toNat else .char c

theorem readPieces_char {c : Char} (h : 32 ≤ c.toNat) (hq : c ≠ '"') (hb : c ≠ '\\')
    (rest : List Char) :
    readPieces (c :: rest) = (readPieces rest).map fun p ↦ (.char c :: p.1, p.2) := by
  rw [readPieces.eq_def]
  split
  · rename_i he
    cases he
  · rename_i he
    cases he
    exact absurd rfl hq
  · rename_i he
    cases he
    exact absurd rfl hb
  · rename_i he
    cases he
    exact absurd rfl hb
  · rename_i he
    cases he
    have hn : ¬ c.toNat < 32 := by omega
    simp only [hn, hb, decide_false, Bool.or_self, Bool.false_eq_true, if_false]
    cases readPieces rest <;> rfl

theorem readPieces_unit {n : Nat} (h : n < 32) (rest : List Char) :
    readPieces ('\\' :: 'u' :: '0' :: '0' :: Numeral.hexDigitChar (n / 16) ::
        Numeral.hexDigitChar (n % 16) :: rest) =
      (readPieces rest).map fun p ↦ (.unit n :: p.1, p.2) := by
  have hall : ∀ n < 32,
      let ds := ['0', '0', Numeral.hexDigitChar (n / 16), Numeral.hexDigitChar (n % 16)]
      ds.all (fun h ↦ (Numeral.digitValue? 16 h).isSome) = true ∧
        Numeral.radixValue? 16 ds = some n := by decide
  obtain ⟨hd, hv⟩ := hall n h
  rw [readPieces]
  simp only [hd, hv, if_true]
  cases readPieces rest <;> rfl

theorem readPieces_named {c e : Char} (h : named? c = some e) (hu : c ≠ 'u') (rest : List Char) :
    readPieces ('\\' :: c :: rest) = (readPieces rest).map fun p ↦ (.char e :: p.1, p.2) := by
  rw [readPieces]
  · simp only [h]
    cases readPieces rest <;> rfl
  · rintro _ _ _ _ _ rfl
    exact absurd rfl hu

theorem readPieces_escape (c : Char) (rest : List Char) :
    readPieces (escape c ++ rest) =
      (readPieces rest).map fun p ↦ (.ofChar c :: p.1, p.2) := by
  by_cases hn : c ∈ ['"', '\\', '\n', '\r', '\t', '\x08', '\x0c']
  · -- Each of these characters has an escape of its own.
    simp only [List.mem_cons, List.not_mem_nil, or_false] at hn
    rcases hn with rfl | rfl | rfl | rfl | rfl | rfl | rfl <;>
      exact readPieces_named rfl (by decide) rest
  · simp only [List.mem_cons, List.not_mem_nil, or_false, not_or] at hn
    by_cases hc : c.toNat < 32
    · have hp : Piece.ofChar c = .unit c.toNat := by simp [Piece.ofChar, hc, hn]
      rw [hp]
      simpa [escape, hn, hc] using readPieces_unit hc rest
    · have hp : Piece.ofChar c = .char c := by simp [Piece.ofChar, hc]
      rw [hp]
      simpa [escape, hn, hc] using readPieces_char (by omega) hn.1 hn.2.1 rest

theorem readPieces_stringChars (cs rest : List Char) :
    readPieces (cs.flatMap escape ++ '"' :: rest) = some (cs.map Piece.ofChar, rest) := by
  induction cs with
  | nil => rfl
  | cons c cs ih =>
    rw [List.flatMap_cons, List.append_assoc, readPieces_escape, ih]
    rfl

theorem decodePieces_ofChar (cs : List Char) : decodePieces (cs.map Piece.ofChar) = some cs := by
  induction cs with
  | nil => rfl
  | cons c cs ih =>
    rw [List.map_cons, Piece.ofChar]
    split
    · rename_i hc
      have hn : c.toNat < 0xd800 := by omega
      rw [decodePieces.eq_def]
      simp [ih, hn]
    · rw [decodePieces, ih]
      rfl

/-- What may follow a number: nothing that would belong to it. -/
def Stops (rest : List Char) : Prop :=
  ∀ c ∈ rest.head?, Numeral.isDigit c = false ∧ c ≠ '.' ∧ c ≠ 'e' ∧ c ≠ 'E'

theorem stops_cons {c : Char} {rest : List Char} (h : c = ',' ∨ c = '\n') : Stops (c :: rest) := by
  rintro _ ⟨⟩
  rcases h with rfl | rfl <;> decide

theorem readDigits_digits {rest : List Char} (n : Nat) (h : Stops rest) :
    readDigits (digits n ++ rest) = some (digits n, rest) := by
  have hall : ∀ c ∈ digits n, Numeral.isDigit c = true := fun c ↦ Numeral.isDigit_of_mem_digits
  have hstop : rest.takeWhile Numeral.isDigit = [] ∧ rest.dropWhile Numeral.isDigit = rest := by
    cases rest with
    | nil => exact ⟨rfl, rfl⟩
    | cons c rest => simp [(h c rfl).1]
  simp [readDigits, List.takeWhile_append_of_pos hall, List.dropWhile_append_of_pos hall, hstop,
    Numeral.digits_ne_nil]

theorem isSpace_of_isDigit {c : Char} (h : Numeral.isDigit c = true) : isSpace c = false := by
  simp only [isSpace, Bool.or_eq_false_iff, decide_eq_false_iff_not]
  refine ⟨⟨⟨?_, ?_⟩, ?_⟩, ?_⟩ <;>
  · rintro rfl
    exact absurd h (by decide)

theorem digits_eq_cons (n : Nat) : ∃ c cs, digits n = c :: cs ∧ Numeral.isDigit c = true := by
  cases hd : digits n with
  | nil => exact absurd hd (Numeral.digits_ne_nil n)
  | cons c cs =>
    have hc : c ∈ digits n := by simp [hd]
    exact ⟨c, cs, rfl, Numeral.isDigit_of_mem_digits hc⟩

theorem readNumber_digits {rest : List Char} (n : Nat) (h : Stops rest) :
    readNumber (digits n ++ rest) = some (⟨false, digits n, none, none⟩, rest) := by
  have hzero : ((digits n).head? == some '0' && (digits n).length ≠ 1) = false := by
    rw [Bool.and_eq_false_iff]
    by_cases hn : n = 0
    · right
      simp [hn, Numeral.digits_of_lt]
    · left
      simpa using fun he ↦ hn (Numeral.digits_head?_eq_zero_iff.1 he)
  have hfraction : readFraction rest = some (none, rest) := by
    cases rest with
    | nil => rfl
    | cons c rest =>
      rw [readFraction]
      rintro _ ⟨⟩
      exact (h _ rfl).2.1 rfl
  have hexponent : readExponent rest = some (none, rest) := by
    cases rest with
    | nil => rfl
    | cons c rest => simp [readExponent, h c rfl]
  have hminus : ∀ cs, digits n ++ rest ≠ '-' :: cs := by
    obtain ⟨c, cs, hd, hc⟩ := digits_eq_cons n
    rw [hd]
    rintro _ ⟨⟩
    exact absurd hc (by decide)
  rw [readNumber]
  · simp only [readDigits_digits n h, hfraction, hexponent, hzero, Option.bind_eq_bind,
      Option.bind_some]
    rfl
  · exact hminus

theorem value?_ofDigits {n : Nat} (h : n < wordLimit) :
    NumberText.value? ⟨false, digits n, none, none⟩ = some (.int n) := by
  simp [NumberText.value?, h]

theorem dropWhile_lineBreak (level : Nat) (cs : List Char) :
    (lineBreak level ++ cs).dropWhile isSpace = cs.dropWhile isSpace := by
  refine List.dropWhile_append_of_pos fun c hc ↦ ?_
  rcases List.mem_cons.1 hc with rfl | hc
  · rfl
  · rw [List.eq_of_mem_replicate hc]
    rfl

theorem readTree_lineBreak (fuel level : Nat) (cs : List Char) :
    readTree fuel (lineBreak level ++ cs) = readTree fuel cs := by
  cases fuel with
  | zero => rfl
  | succ fuel => rw [readTree, readTree, dropWhile_lineBreak]

theorem readElements_lineBreak (fuel level : Nat) (cs : List Char) :
    readElements fuel (lineBreak level ++ cs) = readElements fuel cs := by
  cases fuel with
  | zero => rfl
  | succ fuel => rw [readElements, readElements, readTree_lineBreak]

theorem readMembers_lineBreak (fuel level : Nat) (cs : List Char) :
    readMembers fuel (lineBreak level ++ cs) = readMembers fuel cs := by
  cases fuel with
  | zero => rfl
  | succ fuel => rw [readMembers, readMembers, dropWhile_lineBreak]

/-- A printed value starts with something that the reader neither passes over nor takes for the end
of an array. -/
theorem exists_prettyChars_eq_cons (level : Nat) (j : Json) (h : j.Plain) :
    ∃ c cs, prettyChars level j = c :: cs ∧ isSpace c = false ∧ c ≠ ']' := by
  cases j with
  | null => exact ⟨_, _, rfl, by decide, by decide⟩
  | bool b => cases b <;> exact ⟨_, _, rfl, by decide, by decide⟩
  | int n =>
    obtain ⟨n, rfl⟩ := Int.eq_ofNat_of_zero_le h.1
    obtain ⟨c, cs, hd, hc⟩ := digits_eq_cons n
    refine ⟨c, cs, by simp [prettyChars, Numeral.intText, Numeral.text, hd], ?_, ?_⟩
    · exact isSpace_of_isDigit hc
    · rintro rfl
      exact absurd hc (by decide)
  | float x => exact absurd h id
  | str s => exact ⟨_, _, rfl, by decide, by decide⟩
  | arr es => cases es <;> exact ⟨_, _, rfl, by decide, by decide⟩
  | obj ms => rcases ms with _ | ⟨⟨k, v⟩, ms⟩ <;> exact ⟨_, _, rfl, by decide, by decide⟩

/-- With this much fuel the reader reads every printed value of no greater length. -/
def ReadsValues (fuel : Nat) : Prop :=
  ∀ level (j : Json) rest, j.Plain → (prettyChars level j).length ≤ fuel → Stops rest →
    ∃ t, readTree fuel (prettyChars level j ++ rest) = some (t, rest) ∧ t.value? = some j

def ReadsElements (fuel : Nat) : Prop :=
  ∀ level outer (e : Json) es rest, e.Plain → PlainElements es →
    (prettyChars level e ++ prettyElements level es).length < fuel →
    ∃ ts, readElements fuel
        (prettyChars level e ++ prettyElements level es ++ lineBreak outer ++ ']' :: rest) =
          some (ts, rest) ∧ Tree.elementValues ts = some (e :: es)

def ReadsMembers (fuel : Nat) : Prop :=
  ∀ level outer k (v : Json) ms rest, v.Plain → PlainMembers ms →
    (stringChars k ++ ':' :: ' ' :: prettyChars level v ++ prettyMembers level ms).length < fuel →
    ∃ ts, readMembers fuel
        (stringChars k ++ ':' :: ' ' :: prettyChars level v ++ prettyMembers level ms ++
          lineBreak outer ++ '\x7d' :: rest) = some (ts, rest) ∧
      Tree.memberValues ts = some ((k, v) :: ms)

theorem ReadsElements.succ {fuel : Nat} (hv : ReadsValues fuel) (he : ReadsElements fuel) :
    ReadsElements (fuel + 1) := by
  intro level outer e es rest hp hps hf
  rw [List.length_append] at hf
  cases es with
  | nil =>
    obtain ⟨t, ht, hval⟩ := hv level e (lineBreak outer ++ ']' :: rest) hp (by omega)
      (stops_cons (.inr rfl))
    refine ⟨[t], ?_, by simp [Tree.elementValues, hval]⟩
    rw [readElements]
    simp only [prettyElements, List.append_nil, List.append_assoc, ht, Option.bind_eq_bind,
      Option.bind_some, dropWhile_lineBreak]
    rfl
  | cons e' es =>
    obtain ⟨t, ht, hval⟩ := hv level e
      (prettyElements level (e' :: es) ++ lineBreak outer ++ ']' :: rest) hp (by omega)
      (stops_cons (.inl rfl))
    simp only [prettyElements, lineBreak, List.length_cons, List.length_append] at hf
    obtain ⟨ts, hts, hvals⟩ := he level outer e' es rest hps.1 hps.2
      (by rw [List.length_append]; omega)
    refine ⟨t :: ts, ?_, by simp [Tree.elementValues, hval, hvals]⟩
    have hcomma : (prettyElements level (e' :: es) ++ lineBreak outer ++ ']' :: rest).dropWhile
        isSpace = ',' :: (lineBreak level ++ (prettyChars level e' ++ prettyElements level es ++
          lineBreak outer ++ ']' :: rest)) := by
      simp [prettyElements, isSpace]
    rw [readElements, List.append_assoc, List.append_assoc, ← List.append_assoc _ _ (']' :: rest),
      ht]
    simp only [Option.bind_eq_bind, Option.bind_some, hcomma, readElements_lineBreak, hts]
    rfl

section

variable {fuel : Nat} {cs rest rest' : List Char} {t : Tree}

theorem readTree_space (fuel : Nat) (cs : List Char) :
    readTree fuel (' ' :: cs) = readTree fuel cs := by
  cases fuel with
  | zero => rfl
  | succ fuel =>
    rw [readTree, readTree]
    rfl

theorem dropWhile_member (k : String) (cs : List Char) :
    (stringChars k ++ ':' :: ' ' :: cs).dropWhile isSpace =
      '"' :: (k.toList.flatMap escape ++ '"' :: ':' :: ' ' :: cs) := by
  simp [stringChars, isSpace]

theorem dropWhile_colon (cs : List Char) :
    (':' :: ' ' :: cs).dropWhile isSpace = ':' :: ' ' :: cs := rfl

theorem readMembers_of_comma (k : String) (h : readTree fuel cs = some (t, rest))
    (hr : rest.dropWhile isSpace = ',' :: rest') :
    readMembers (fuel + 1) (stringChars k ++ ':' :: ' ' :: cs) =
      (readMembers fuel rest').map fun p ↦ ((k.toList.map Piece.ofChar, t) :: p.1, p.2) := by
  rw [readMembers]
  simp only [dropWhile_member, readPieces_stringChars, dropWhile_colon, readTree_space, h, hr,
    Option.bind_eq_bind, Option.bind_some]
  cases readMembers fuel rest' <;> rfl

theorem readMembers_of_brace (k : String) (h : readTree fuel cs = some (t, rest))
    (hr : rest.dropWhile isSpace = '\x7d' :: rest') :
    readMembers (fuel + 1) (stringChars k ++ ':' :: ' ' :: cs) =
      some ([(k.toList.map Piece.ofChar, t)], rest') := by
  rw [readMembers]
  simp only [dropWhile_member, readPieces_stringChars, dropWhile_colon, readTree_space, h, hr,
    Option.bind_eq_bind, Option.bind_some]
  rfl

end

theorem ReadsMembers.succ {fuel : Nat} (hv : ReadsValues fuel) (hm : ReadsMembers fuel) :
    ReadsMembers (fuel + 1) := by
  intro level outer k v ms rest hp hps hf
  have hk : decodePieces (k.toList.map Piece.ofChar) = some k.toList := decodePieces_ofChar _
  simp only [List.length_append, List.length_cons] at hf
  cases ms with
  | nil =>
    obtain ⟨t, ht, hval⟩ := hv level v (lineBreak outer ++ '\x7d' :: rest) hp (by omega)
      (stops_cons (.inr rfl))
    refine ⟨[(k.toList.map Piece.ofChar, t)], ?_, by simp [Tree.memberValues, hval, hk]⟩
    simp only [prettyMembers, List.append_nil, List.append_assoc, List.cons_append]
    exact readMembers_of_brace k ht (dropWhile_lineBreak outer _)
  | cons m ms =>
    obtain ⟨k', v'⟩ := m
    obtain ⟨t, ht, hval⟩ := hv level v
      (prettyMembers level ((k', v') :: ms) ++ lineBreak outer ++ '\x7d' :: rest) hp (by omega)
      (stops_cons (.inl rfl))
    simp only [prettyMembers, lineBreak, List.length_cons, List.length_append] at hf
    obtain ⟨ts, hts, hvals⟩ := hm level outer k' v' ms rest hps.1 hps.2
      (by simp only [List.length_append, List.length_cons]; simp at hf; omega)
    refine ⟨(k.toList.map Piece.ofChar, t) :: ts, ?_, by simp [Tree.memberValues, hval, hvals, hk]⟩
    have hcomma : (prettyMembers level ((k', v') :: ms) ++ lineBreak outer ++
        '\x7d' :: rest).dropWhile isSpace = ',' :: (lineBreak level ++ (stringChars k' ++
          ':' :: ' ' :: prettyChars level v' ++ prettyMembers level ms ++ lineBreak outer ++
          '\x7d' :: rest)) := by
      simp [prettyMembers, isSpace]
    have hread := readMembers_of_comma k ht hcomma
    rw [readMembers_lineBreak, hts] at hread
    simpa using hread

theorem readTree_digits {rest : List Char} (fuel n : Nat) (h : Stops rest) :
    readTree (fuel + 1) (digits n ++ rest) =
      some (.number ⟨false, digits n, none, none⟩, rest) := by
  obtain ⟨c, cs, hd, hc⟩ := digits_eq_cons n
  have hdrop : (digits n ++ rest).dropWhile isSpace = digits n ++ rest := by
    simp [hd, isSpace_of_isDigit hc]
  -- No other kind of value starts with a digit.
  have hother : ∀ c' ∈ ['n', 't', 'f', '"', '[', '\x7b'], ∀ cs', digits n ++ rest ≠ c' :: cs' := by
    have hall : ∀ c' ∈ ['n', 't', 'f', '"', '[', '\x7b'], Numeral.isDigit c' = false := by
      simp [Numeral.isDigit]
    intro c' hc' cs' he
    rw [hd] at he
    cases he
    rw [hall _ hc'] at hc
    cases hc
  rw [readTree, hdrop]
  split
  case h_7 =>
    rw [readNumber_digits n h]
    rfl
  all_goals
    rename_i he
    exact absurd he (hother _ (by decide) _)

theorem readTree_bracket (fuel : Nat) {cs text : List Char} (h : cs.dropWhile isSpace = text)
    (hc : text.head? ≠ some ']') :
    readTree (fuel + 1) ('[' :: cs) =
      (readElements fuel text).map fun p ↦ (.array p.1, p.2) := by
  have hdrop : ('[' :: cs).dropWhile isSpace = '[' :: cs := rfl
  rw [readTree]
  simp only [hdrop, h]
  split
  · exact absurd rfl hc
  · rfl

theorem readTree_brace (fuel : Nat) {cs text : List Char} (h : cs.dropWhile isSpace = text)
    (hc : text.head? ≠ some '\x7d') :
    readTree (fuel + 1) ('\x7b' :: cs) =
      (readMembers fuel text).map fun p ↦ (.object p.1, p.2) := by
  have hdrop : ('\x7b' :: cs).dropWhile isSpace = '\x7b' :: cs := rfl
  rw [readTree]
  simp only [hdrop, h]
  split
  · exact absurd rfl hc
  · rfl

theorem ReadsValues.succ {fuel : Nat} (he : ReadsElements fuel) (hm : ReadsMembers fuel) :
    ReadsValues (fuel + 1) := by
  intro level j rest hp hf hr
  cases j with
  | null => exact ⟨.null, rfl, rfl⟩
  | bool b => exact ⟨.bool b, by cases b <;> rfl, rfl⟩
  | float x => exact absurd hp id
  | int n =>
    obtain ⟨n, rfl⟩ := Int.eq_ofNat_of_zero_le hp.1
    have hn : n < wordLimit := by exact_mod_cast hp.2
    have htext : prettyChars level (.int n) = digits n := by
      simp [prettyChars, Numeral.intText, Numeral.text]
    refine ⟨.number ⟨false, digits n, none, none⟩, ?_, ?_⟩
    · rw [htext]
      exact readTree_digits fuel n hr
    · rw [Tree.value?]
      exact value?_ofDigits hn
  | str s =>
    refine ⟨.string (s.toList.map Piece.ofChar), ?_, by simp [Tree.value?, decodePieces_ofChar]⟩
    have hread := readPieces_stringChars s.toList rest
    simp [prettyChars, stringChars, readTree, isSpace, hread]
  | arr es =>
    cases es with
    | nil => exact ⟨.array [], rfl, rfl⟩
    | cons e es =>
      simp only [prettyChars, lineBreak, List.length_cons, List.length_append] at hf
      obtain ⟨ts, hts, hvals⟩ := he (level + 1) level e es rest hp.1 hp.2
        (by rw [List.length_append]; omega)
      refine ⟨.array ts, ?_, by simp [Tree.value?, hvals]⟩
      obtain ⟨c, cs, hc, hspace, hend⟩ := exists_prettyChars_eq_cons (level + 1) e hp.1
      have hdrop : (lineBreak (level + 1) ++ (prettyChars (level + 1) e ++
          prettyElements (level + 1) es ++ lineBreak level ++ ']' :: rest)).dropWhile isSpace =
          prettyChars (level + 1) e ++ prettyElements (level + 1) es ++ lineBreak level ++
            ']' :: rest := by
        simp [dropWhile_lineBreak, hc, hspace]
      have hread := readTree_bracket fuel hdrop (by simpa [hc] using hend)
      rw [hts] at hread
      simpa [prettyChars] using hread
  | obj ms =>
    rcases ms with _ | ⟨⟨k, v⟩, ms⟩
    · exact ⟨.object [], rfl, rfl⟩
    · simp only [prettyChars, lineBreak, List.length_cons, List.length_append] at hf
      obtain ⟨ts, hts, hvals⟩ := hm (level + 1) level k v ms rest hp.1 hp.2
        (by simp only [List.length_append, List.length_cons]; simp at hf; omega)
      refine ⟨.object ts, ?_, by simp [Tree.value?, hvals]⟩
      have hdrop : (lineBreak (level + 1) ++ (stringChars k ++ ':' :: ' ' ::
          prettyChars (level + 1) v ++ prettyMembers (level + 1) ms ++ lineBreak level ++
          '\x7d' :: rest)).dropWhile isSpace =
          stringChars k ++ ':' :: ' ' :: prettyChars (level + 1) v ++
          prettyMembers (level + 1) ms ++ lineBreak level ++ '\x7d' :: rest := by
        simp [dropWhile_lineBreak, stringChars, isSpace]
      have hread := readTree_brace fuel hdrop (by simp [stringChars])
      rw [hts] at hread
      simpa [prettyChars] using hread

theorem reads (fuel : Nat) : ReadsValues fuel ∧ ReadsElements fuel ∧ ReadsMembers fuel := by
  induction fuel with
  | zero =>
    refine ⟨?_, ?_, ?_⟩
    · intro level j rest hp hf
      obtain ⟨c, cs, hc, -⟩ := exists_prettyChars_eq_cons level j hp
      simp [hc] at hf
    · intro level outer e es rest hp hps hf
      cases hf
    · intro level outer k v ms rest hp hps hf
      cases hf
  | succ fuel ih =>
    obtain ⟨hv, he, hm⟩ := ih
    exact ⟨.succ he hm, .succ hv he, .succ hv hm⟩

theorem ofText?_pretty {j : Json} (h : j.Plain) : ofText? j.pretty = some j := by
  have hlength : (prettyChars 0 j).length ≤ 2 * (prettyChars 0 j).length + 2 := by omega
  obtain ⟨t, ht, hval⟩ := (reads _).1 0 j [] h hlength (by simp [Stops])
  rw [List.append_nil] at ht
  simp [ofText?, pretty, Tree.ofChars, ht, hval]

end Conformance.Json
