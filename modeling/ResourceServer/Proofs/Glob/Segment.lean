/-
What the scan of a segment decides: whether its elements accept the text.

`Scan.Sound` is the invariant of the scan. While no run was met, what is left of the elements has to accept what is left
of the text. Afterwards the last run may take any number of characters more than it was tried with, and going back to an
earlier run would gain nothing: what is left of the text for the later run only gets shorter.
- `scanMatches_iff`: the scan comes to an end within its bound and decides the language of the elements.
- `segmentMatches_literal_iff`: a segment pattern without wildcards and variables matches itself only.
-/
import Mathlib.Tactic
import ResourceServer.Glob.Path

namespace ResourceServer.Glob

open Element (Accepts)

/-! ## The language, element by element -/

section

variable {es : List Element} {t : Text} {c : Char}

theorem accepts_nil_iff : Accepts [] t ↔ t = [] := by
  constructor
  · intro h; cases h; rfl
  · rintro rfl; exact .nil

theorem accepts_char_iff {e : Char} : Accepts (.char e :: es) (c :: t) ↔ e = c ∧ Accepts es t := by
  constructor
  · intro h; cases h with
    | char h => exact ⟨rfl, h⟩
  · rintro ⟨rfl, h⟩; exact .char h

theorem accepts_anyOne_iff : Accepts (.anyOne :: es) (c :: t) ↔ Accepts es t := by
  constructor
  · intro h; cases h with
    | anyOne h => exact h
  · intro h; exact .anyOne h

/-- a run leaves some end of the text -/
theorem accepts_anyRun_iff : Accepts (.anyRun :: es) t ↔ ∃ k, Accepts es (t.drop k) := by
  constructor
  · intro h; cases h with
    | @anyRun _ run rest h => exact ⟨run.length, by rwa [List.drop_left]⟩
  · rintro ⟨k, h⟩
    rw [← List.take_append_drop k t]
    exact .anyRun h

/-- at the end of the text only runs may be left -/
theorem accepts_empty_iff : Accepts es [] ↔ es.all (· == .anyRun) = true := by
  induction es with
  | nil => simp [accepts_nil_iff]
  | cons e es ih =>
    cases e with
    | char e => simp only [List.all_cons]; constructor <;> intro h <;> cases h
    | anyOne => simp only [List.all_cons]; constructor <;> intro h <;> cases h
    | anyRun => rw [accepts_anyRun_iff]; simp [ih]

end

/-! ## From positions on -/

section

variable {es : List Element} {cs : Text} {e i k t : ℕ} {c : Char}

/-- the elements from one position on accept the text from another one on -/
def AcceptsFrom (es : List Element) (cs : Text) (e t : ℕ) : Prop := Accepts (es.drop e) (cs.drop t)

theorem drop_of_getElem? {α : Type} {l : List α} {n : ℕ} {a : α} (h : l[n]? = some a) :
    l.drop n = a :: l.drop (n + 1) := by
  rw [List.drop_eq_getElem?_toList_append, h]
  rfl

theorem acceptsFrom_char_iff {d : Char} (he : es[e]? = some (.char d)) (ht : cs[t]? = some c) :
    AcceptsFrom es cs e t ↔ d = c ∧ AcceptsFrom es cs (e + 1) (t + 1) := by
  rw [AcceptsFrom, drop_of_getElem? he, drop_of_getElem? ht]
  exact accepts_char_iff

theorem acceptsFrom_anyOne_iff (he : es[e]? = some .anyOne) (ht : cs[t]? = some c) :
    AcceptsFrom es cs e t ↔ AcceptsFrom es cs (e + 1) (t + 1) := by
  rw [AcceptsFrom, drop_of_getElem? he, drop_of_getElem? ht]
  exact accepts_anyOne_iff

theorem acceptsFrom_anyRun_iff (he : es[e]? = some .anyRun) :
    AcceptsFrom es cs e t ↔ ∃ j, t ≤ j ∧ AcceptsFrom es cs (e + 1) j := by
  rw [AcceptsFrom, drop_of_getElem? he, accepts_anyRun_iff]
  constructor
  · rintro ⟨n, h⟩
    rw [List.drop_drop] at h
    exact ⟨t + n, Nat.le_add_right t n, h⟩
  · rintro ⟨j, hj, h⟩
    refine ⟨j - t, ?_⟩
    rw [List.drop_drop, Nat.add_sub_cancel' hj]
    exact h

theorem not_acceptsFrom_of_stuck (he : es[e]? = none) (ht : cs[t]? = some c) : ¬ AcceptsFrom es cs e t := by
  rw [AcceptsFrom, List.drop_eq_nil_of_le (List.getElem?_eq_none_iff.1 he), drop_of_getElem? ht, accepts_nil_iff]
  exact List.cons_ne_nil _ _

theorem acceptsFrom_end_iff (ht : cs[t]? = none) : AcceptsFrom es cs e t ↔ (es.drop e).all (· == .anyRun) = true := by
  rw [AcceptsFrom, List.drop_eq_nil_of_le (List.getElem?_eq_none_iff.1 ht), accepts_empty_iff]

/-- elements that are no runs take one character each -/
theorem acceptsFrom_add {m : ℕ} (hm : e + m ≤ es.length) (hno : ∀ n < m, es[e + n]? ≠ some .anyRun)
    (h : AcceptsFrom es cs e t) : AcceptsFrom es cs (e + m) (t + m) := by
  induction m with
  | zero => exact h
  | succ m ih =>
    have h := ih (by omega) fun n hn => hno n (by omega)
    have hlt : e + m < es.length := by omega
    have he : es[e + m]? = some es[e + m] := List.getElem?_eq_getElem hlt
    cases ht : cs[t + m]? with
    | none =>
      rw [acceptsFrom_end_iff ht, drop_of_getElem? he, List.all_cons, Bool.and_eq_true, beq_iff_eq] at h
      exact absurd (h.1 ▸ he) (hno m (Nat.lt_succ_self m))
    | some c =>
      cases helement : es[e + m] with
      | char d => exact ((acceptsFrom_char_iff (helement ▸ he) ht).1 h).2
      | anyOne => exact (acceptsFrom_anyOne_iff (helement ▸ he) ht).1 h
      | anyRun => exact absurd (helement ▸ he) (hno m (Nat.lt_succ_self m))

end

/-! ## The invariant of the scan -/

namespace Scan

/-- what the scan knows of its last run, at an element position and a text position -/
structure Tried (es : List Element) (cs : Text) (s : Scan) (run text : ℕ) : Prop where
  isRun : es[run]? = some .anyRun
  behind : run < s.element
  single : ∀ n, run < n → n < s.element → es[n]? ≠ some .anyRun
  moved : s.text = text + (s.element - (run + 1))
  here_iff : AcceptsFrom es cs (run + 1) text ↔ AcceptsFrom es cs s.element s.text
  accepts_iff : Accepts es cs ↔ AcceptsFrom es cs run text

/-- the invariant -/
structure Sound (es : List Element) (cs : Text) (s : Scan) : Prop where
  element_le : s.element ≤ es.length
  text_le : s.text ≤ cs.length
  untried : s.lastRun = none → (Accepts es cs ↔ AcceptsFrom es cs s.element s.text)
  tried : ∀ run text, s.lastRun = some (run, text) → s.Tried es cs run text

variable {es : List Element} {cs : Text} {s s' : Scan} {run text : ℕ} {c : Char}

theorem sound_start (es : List Element) (cs : Text) : Sound es cs ⟨0, 0, none⟩ :=
  ⟨Nat.zero_le _, Nat.zero_le _, fun _ => Iff.rfl, fun _ _ h => by cases h⟩

theorem Sound.accepts_of_here (h : s.Sound es cs) (hs : AcceptsFrom es cs s.element s.text) : Accepts es cs := by
  cases hrun : s.lastRun with
  | none => exact (h.untried hrun).2 hs
  | some pair =>
    have htried := h.tried pair.1 pair.2 hrun
    refine htried.accepts_iff.2 ((acceptsFrom_anyRun_iff htried.isRun).2 ⟨pair.2, le_rfl, ?_⟩)
    exact htried.here_iff.2 hs

/-- what is accepted at all is accepted here or further on in the text -/
theorem Sound.ahead (h : s.Sound es cs) (ha : Accepts es cs) : ∃ j, s.text ≤ j ∧ AcceptsFrom es cs s.element j := by
  cases hrun : s.lastRun with
  | none => exact ⟨s.text, le_rfl, (h.untried hrun).1 ha⟩
  | some pair =>
    obtain ⟨hisRun, hbehind, hsingle, hmoved, -, hiff⟩ := h.tried pair.1 pair.2 hrun
    obtain ⟨j, hj, hacc⟩ := (acceptsFrom_anyRun_iff hisRun).1 (hiff.1 ha)
    have he : pair.1 + 1 + (s.element - (pair.1 + 1)) = s.element := by omega
    have hle := h.element_le
    have hfar := acceptsFrom_add (m := s.element - (pair.1 + 1)) (by omega)
      (fun n hn => hsingle _ (by omega) (by omega)) hacc
    rw [he] at hfar
    exact ⟨j + (s.element - (pair.1 + 1)), by omega, hfar⟩

/-- at the end of the text the elements that are left decide -/
theorem Sound.accepts_iff_of_end (h : s.Sound es cs) (ht : cs[s.text]? = none) :
    Accepts es cs ↔ (es.drop s.element).all (· == .anyRun) = true := by
  rw [← acceptsFrom_end_iff ht]
  refine ⟨fun ha => ?_, h.accepts_of_here⟩
  obtain ⟨j, hj, hacc⟩ := h.ahead ha
  have hend : cs[j]? = none := List.getElem?_eq_none ((List.getElem?_eq_none_iff.1 ht).trans hj)
  rw [acceptsFrom_end_iff hend] at hacc
  exact (acceptsFrom_end_iff ht).2 hacc

/-- an element that takes one character keeps the last run -/
theorem Sound.next (h : s.Sound es cs) (he : s.element < es.length) (ht : s.text < cs.length)
    (hno : es[s.element]? ≠ some .anyRun)
    (hiff : AcceptsFrom es cs s.element s.text ↔ AcceptsFrom es cs (s.element + 1) (s.text + 1)) :
    Sound es cs ⟨s.element + 1, s.text + 1, s.lastRun⟩ := by
  refine ⟨he, ht, fun hrun => (h.untried hrun).trans hiff, fun run text hrun => ?_⟩
  obtain ⟨hisRun, hbehind, hsingle, hmoved, hhere, hall⟩ := h.tried run text hrun
  refine ⟨hisRun, by dsimp only; omega, fun n hn hlt => ?_, by dsimp only; omega, hhere.trans hiff, hall⟩
  rcases Nat.lt_succ_iff_lt_or_eq.1 hlt with hlt | rfl
  · exact hsingle n hn hlt
  · exact hno

/-- a new run takes the place of the last one, which could not do more -/
theorem Sound.newRun (h : s.Sound es cs) (he : es[s.element]? = some .anyRun) :
    Sound es cs ⟨s.element + 1, s.text, some (s.element, s.text)⟩ := by
  obtain ⟨hlt, -⟩ := List.getElem?_eq_some_iff.1 he
  refine ⟨hlt, h.text_le, fun hrun => absurd hrun (by simp), fun run text hrun => ?_⟩
  cases hrun
  refine ⟨he, Nat.lt_succ_self _, fun n hn hn' => by dsimp only at hn'; omega, by simp, Iff.rfl, fun ha => ?_,
    h.accepts_of_here⟩
  obtain ⟨j, hj, hacc⟩ := h.ahead ha
  obtain ⟨j', hj', hacc'⟩ := (acceptsFrom_anyRun_iff he).1 hacc
  exact (acceptsFrom_anyRun_iff he).2 ⟨j', hj.trans hj', hacc'⟩

/-- stuck without a run, nothing is accepted -/
theorem Sound.not_accepts (h : s.Sound es cs) (hrun : s.lastRun = none)
    (hstuck : ¬ AcceptsFrom es cs s.element s.text) : ¬ Accepts es cs :=
  fun ha => hstuck ((h.untried hrun).1 ha)

/-- stuck behind a run, the run takes one character more -/
theorem Sound.retry (h : s.Sound es cs) (hrun : s.lastRun = some (run, text)) (ht : s.text < cs.length)
    (hstuck : ¬ AcceptsFrom es cs s.element s.text) : Sound es cs ⟨run + 1, text + 1, some (run, text + 1)⟩ := by
  obtain ⟨hisRun, hbehind, -, hmoved, hhere, hall⟩ := h.tried run text hrun
  have hle := h.element_le
  refine ⟨by dsimp only; omega, by dsimp only; omega, fun hr => absurd hr (by simp), fun r k hr => ?_⟩
  cases hr
  refine ⟨hisRun, Nat.lt_succ_self _, fun n hn hn' => by dsimp only at hn'; omega, by simp, Iff.rfl, hall.trans ?_⟩
  rw [acceptsFrom_anyRun_iff hisRun, acceptsFrom_anyRun_iff hisRun]
  constructor
  · rintro ⟨j, hj, hacc⟩
    rcases Nat.lt_or_eq_of_le hj with hlt | rfl
    · exact ⟨j, hlt, hacc⟩
    · exact absurd (hhere.1 hacc) hstuck
  · rintro ⟨j, hj, hacc⟩
    exact ⟨j, by omega, hacc⟩

/-! ## The run of the scan -/

/-- how far the scan has come: in the runs first, then in the text, then in the elements -/
def spent (elements text : ℕ) (s : Scan) : ℕ :=
  match s.lastRun with
  | none => s.element
  | some (run, tried) => (run + 1) * ((text + 2) * (elements + 2)) + tried * (elements + 2) + s.element

theorem spent_of_none (hrun : s.lastRun = none) (n m : ℕ) : s.spent n m = s.element := by
  rw [spent, hrun]

theorem spent_of_some (hrun : s.lastRun = some (run, text)) (n m : ℕ) :
    s.spent n m = (run + 1) * ((m + 2) * (n + 2)) + text * (n + 2) + s.element := by
  rw [spent, hrun]

theorem Sound.spent_lt (h : s.Sound es cs) :
    s.spent es.length cs.length < (es.length + 2) * (cs.length + 2) * (es.length + 2) := by
  have hle := h.element_le
  have hbound : (es.length + 2) * (cs.length + 2) * (es.length + 2) =
      es.length * ((cs.length + 2) * (es.length + 2)) + 2 * (cs.length * (es.length + 2)) + 4 * (es.length + 2) := by
    ring
  rw [hbound]
  cases hrun : s.lastRun with
  | none => rw [spent_of_none hrun]; omega
  | some pair =>
    obtain ⟨-, hbehind, -, hmoved, -, -⟩ := h.tried pair.1 pair.2 hrun
    have htext := h.text_le
    have h₁ : (pair.1 + 1) * ((cs.length + 2) * (es.length + 2)) ≤ es.length * ((cs.length + 2) * (es.length + 2)) :=
      Nat.mul_le_mul_right _ (by omega)
    have h₂ : pair.2 * (es.length + 2) ≤ cs.length * (es.length + 2) := Nat.mul_le_mul_right _ (by omega)
    rw [spent_of_some hrun]
    omega

theorem spent_next (n m : ℕ) (s : Scan) :
    s.spent n m < spent n m ⟨s.element + 1, s.text + 1, s.lastRun⟩ := by
  rw [spent, spent]
  cases s.lastRun <;> simp

theorem Sound.spent_newRun (h : s.Sound es cs) (n m : ℕ) :
    s.spent n m < spent n m ⟨s.element + 1, s.text, some (s.element, s.text)⟩ := by
  rw [spent_of_some (s := ⟨s.element + 1, s.text, some (s.element, s.text)⟩) rfl]
  cases hrun : s.lastRun with
  | none =>
    rw [spent_of_none hrun]
    dsimp only
    omega
  | some pair =>
    obtain ⟨-, hbehind, -, hmoved, -, -⟩ := h.tried pair.1 pair.2 hrun
    have h₁ : (pair.1 + 1) * ((m + 2) * (n + 2)) ≤ (s.element + 1) * ((m + 2) * (n + 2)) :=
      Nat.mul_le_mul_right _ (by omega)
    have h₂ : pair.2 * (n + 2) ≤ s.text * (n + 2) := Nat.mul_le_mul_right _ (by omega)
    rw [spent_of_some hrun]
    dsimp only
    omega

theorem Sound.spent_retry (h : s.Sound es cs) (hrun : s.lastRun = some (run, text)) (m : ℕ) :
    s.spent es.length m < spent es.length m ⟨run + 1, text + 1, some (run, text + 1)⟩ := by
  have hle := h.element_le
  have hmul : (text + 1) * (es.length + 2) = text * (es.length + 2) + (es.length + 2) := by ring
  rw [spent_of_some hrun, spent_of_some (s := ⟨run + 1, text + 1, some (run, text + 1)⟩) rfl, hmul]
  dsimp only
  omega

/-- what a step of the scan may come to: the invariant further on, or the answer -/
def Advances (es : List Element) (cs : Text) (s : Scan) : Scan ⊕ Option ℕ → Prop
  | .inl s' => s'.Sound es cs ∧ s.spent es.length cs.length < s'.spent es.length cs.length
  | .inr r => Accepts es cs ↔ ∃ position, r = some position ∧ (es.drop position).all (· == .anyRun) = true

theorem Sound.back_advances (h : s.Sound es cs) (ht : cs[s.text]? = some c)
    (hstuck : ¬ AcceptsFrom es cs s.element s.text) : s.Advances es cs s.back := by
  obtain ⟨hlt, -⟩ := List.getElem?_eq_some_iff.1 ht
  rw [back]
  cases hrun : s.lastRun with
  | none => exact iff_of_false (h.not_accepts hrun hstuck) (by simp)
  | some pair => exact ⟨h.retry hrun hlt hstuck, h.spent_retry hrun cs.length⟩

theorem Sound.next_advances (h : s.Sound es cs) {e : Element} (he : es[s.element]? = some e)
    (ht : cs[s.text]? = some c) (hno : e ≠ .anyRun)
    (hiff : AcceptsFrom es cs s.element s.text ↔ AcceptsFrom es cs (s.element + 1) (s.text + 1)) :
    s.Advances es cs (.inl ⟨s.element + 1, s.text + 1, s.lastRun⟩) := by
  obtain ⟨hlt, -⟩ := List.getElem?_eq_some_iff.1 he
  obtain ⟨hlt', -⟩ := List.getElem?_eq_some_iff.1 ht
  exact ⟨h.next hlt hlt' (by rw [he]; simpa using hno) hiff, spent_next es.length cs.length s⟩

/-- **One step of the scan** keeps the invariant and comes further, or gives the answer -/
theorem Sound.step_advances (h : s.Sound es cs) : s.Advances es cs (step es.toArray cs.toArray s) := by
  simp only [step, List.getElem?_toArray]
  cases ht : cs[s.text]? with
  | none =>
    dsimp only
    rw [Advances, h.accepts_iff_of_end ht]
    simp
  | some c =>
    cases he : es[s.element]? with
    | none => exact h.back_advances ht (not_acceptsFrom_of_stuck he ht)
    | some e =>
      cases e with
      | char d =>
        dsimp only
        split_ifs with hd
        · refine h.next_advances he ht (by simp) ?_
          rw [acceptsFrom_char_iff he ht, and_iff_right hd]
        · exact h.back_advances ht fun ha => hd ((acceptsFrom_char_iff he ht).1 ha).1
      | anyOne => exact h.next_advances he ht (by simp) (acceptsFrom_anyOne_iff he ht)
      | anyRun => exact ⟨h.newRun he, h.spent_newRun es.length cs.length⟩

theorem Sound.step_sound (h : s.Sound es cs) (hs : step es.toArray cs.toArray s = .inl s') : s'.Sound es cs := by
  have hadv := h.step_advances
  rw [hs] at hadv
  exact hadv.1

/-- **The scan comes to an end** within its bound, at a state that keeps the invariant -/
theorem scanRun (es : List Element) (cs : Text) :
    ∃ t r, t.Sound es cs ∧ step es.toArray cs.toArray t = .inr r ∧
      Loop.run (step es.toArray cs.toArray) (bound es.toArray cs.toArray) ⟨0, 0, none⟩ = some r := by
  have hbound : bound es.toArray cs.toArray = (es.length + 2) * (cs.length + 2) * (es.length + 2) := by
    rw [bound, List.size_toArray, List.size_toArray]
  have hstep : ∀ s t : Scan, s.Sound es cs → step es.toArray cs.toArray s = .inl t →
      t.Sound es cs ∧ bound es.toArray cs.toArray - 1 - t.spent es.length cs.length <
        bound es.toArray cs.toArray - 1 - s.spent es.length cs.length := by
    intro s t hs ht
    have hadv := hs.step_advances
    rw [ht] at hadv
    obtain ⟨hsound, hspent⟩ := hadv
    have hlt := hsound.spent_lt
    rw [hbound]
    exact ⟨hsound, by omega⟩
  have hstart := sound_start es cs
  have hfuel := hstart.spent_lt
  rw [← hbound] at hfuel
  exact Loop.run_of_measure (Sound es cs) _ hstep (bound es.toArray cs.toArray) ⟨0, 0, none⟩ hstart (by omega)

end Scan

/-- **The scan decides the language of its elements.** One remembered run is enough to go back to. -/
theorem scanMatches_iff (elements : List Element) (text : Text) :
    scanMatches elements text = true ↔ Accepts elements text := by
  obtain ⟨t, r, ht, hr, hrun⟩ := Scan.scanRun elements text
  have hadv := ht.step_advances
  rw [hr] at hadv
  have hanswer : Accepts elements text ↔
      ∃ position, r = some position ∧ (elements.drop position).all (· == .anyRun) = true := hadv
  rw [hanswer, scanMatches, hrun]
  cases r <;> simp

/-- the second run tries two places, the first one only one -/
example : scanMatches (Element.compile "*ab*bc".toList) "xababxbc".toList = true := by decide +kernel

/-! ## Segment patterns without wildcards and variables -/

/-- the text stands for itself in a pattern -/
def Literal (t : Text) : Prop := isPattern t = false

instance (t : Text) : Decidable (Literal t) := inferInstanceAs (Decidable (isPattern t = false))

theorem literal_iff {t : Text} : Literal t ↔ '*' ∉ t ∧ '?' ∉ t ∧ '\x7b' ∉ t := by
  rw [Literal, isPattern, Bool.or_eq_false_iff, Bool.or_eq_false_iff]
  simp [and_assoc]

theorem compileFrom_literal {p : Text} (h : Literal p) (behindRun : Bool) :
    Element.compileFrom behindRun false p = p.map .char := by
  induction p generalizing behindRun with
  | nil => rfl
  | cons c p ih =>
    rw [literal_iff] at h
    simp only [List.mem_cons, not_or] at h
    obtain ⟨⟨h₁, h₁'⟩, ⟨h₂, h₂'⟩, h₃, h₃'⟩ := h
    rw [Element.compileFrom, if_neg (by simp [Ne.symm h₁, Ne.symm h₃]), if_neg (Ne.symm h₂), List.map_cons,
      ih (literal_iff.2 ⟨h₁', h₂', h₃'⟩)]

theorem accepts_chars_iff {p t : Text} : Accepts (p.map .char) t ↔ p = t := by
  induction p generalizing t with
  | nil => rw [List.map_nil, accepts_nil_iff, eq_comm]
  | cons c p ih =>
    rw [List.map_cons]
    cases t with
    | nil => exact iff_of_false (fun h => by cases h) (List.cons_ne_nil _ _)
    | cons d t => rw [accepts_char_iff, ih, List.cons.injEq]

theorem segmentMatches_literal_iff {p t : Text} (h : Literal p) : segmentMatches p t = true ↔ p = t := by
  rw [segmentMatches, Bool.or_eq_true, scanMatches_iff, Element.compile, compileFrom_literal h, accepts_chars_iff]
  simp

theorem segmentMatches_self (t : Text) : segmentMatches t t = true := by
  rw [segmentMatches, beq_self_eq_true, Bool.true_or]

end ResourceServer.Glob
