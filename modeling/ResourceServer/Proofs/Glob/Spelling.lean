/-
What a segment pattern spells, and that matching a segment decides just this.

`Element.Spells` reads a segment pattern declaratively: each star and each variable is a run of its own, and a variable
that is not closed takes the rest of the pattern. Compiling a segment leaves out a run behind a run, the scan goes back
to the last run only, and a segment that is the pattern itself matches without a scan. None of the three shows in the
answer.
- `Element.Spells.accepts_self`: what a pattern spells accepts the pattern.
- `Element.Spells.accepts_compileFrom_iff`: the compiled elements accept what the spelled ones accept.
- `segmentMatches_iff_accepts`: a segment matches just if the compiled elements accept it, which is what the scan alone
  and what the spelled elements say.
-/
import ResourceServer.Proofs.Glob.Segment

namespace ResourceServer.Glob

open Element (Accepts)

/-- the elements that a segment pattern spells -/
inductive Element.Spells : Text → List Element → Prop where
  | nil : Spells [] []
  | char {c : Char} {p : Text} {es : List Element} :
    c ≠ '*' → c ≠ '?' → c ≠ '\x7b' → Spells p es → Spells (c :: p) (.char c :: es)
  | anyOne {p : Text} {es : List Element} : Spells p es → Spells ('?' :: p) (.anyOne :: es)
  | star {p : Text} {es : List Element} : Spells p es → Spells ('*' :: p) (.anyRun :: es)
  /-- a variable ends at the first closing brace -/
  | closed {name p : Text} {es : List Element} :
    '\x7d' ∉ name → Spells p es → Spells ('\x7b' :: (name ++ '\x7d' :: p)) (.anyRun :: es)
  /-- one without a closing brace takes the rest -/
  | unclosed {name : Text} : '\x7d' ∉ name → Spells ('\x7b' :: name) [.anyRun]

open Element (Spells)

/-- every text spells some elements -/
theorem exists_spells (p : Text) : ∃ es, Spells p es := by
  -- behind a variable the reading goes on at a suffix further back
  suffices h : ∀ s, s <:+ p → ∃ es, Spells s es from h p List.suffix_rfl
  induction p with
  | nil =>
    intro s hs
    rw [List.suffix_nil.1 hs]
    exact ⟨[], .nil⟩
  | cons c p ih =>
    intro s hs
    rcases List.suffix_cons_iff.1 hs with rfl | hs
    · obtain ⟨es, hes⟩ := ih p List.suffix_rfl
      by_cases hstar : c = '*'
      · subst hstar; exact ⟨_, .star hes⟩
      by_cases hone : c = '?'
      · subst hone; exact ⟨_, .anyOne hes⟩
      by_cases hopen : c = '\x7b'
      · subst hopen
        by_cases hclosed : '\x7d' ∈ p
        · obtain ⟨name, rest, rfl, hname⟩ := List.eq_append_cons_of_mem hclosed
          obtain ⟨es', hes'⟩ := ih rest ((List.suffix_cons _ _).trans (List.suffix_append _ _))
          exact ⟨_, .closed hname hes'⟩
        · exact ⟨_, .unclosed hclosed⟩
      · exact ⟨_, .char hstar hone hopen hes⟩
    · exact ih s hs

/-- what a pattern spells accepts the pattern: a star and a variable take their own spelling -/
theorem Element.Spells.accepts_self {p : Text} {es : List Element} (h : Spells p es) : Accepts es p := by
  induction h with
  | nil => exact .nil
  | char _ _ _ _ ih => exact .char ih
  | anyOne _ ih => exact .anyOne ih
  | @star p es _ ih =>
    have hrun : Accepts (.anyRun :: es) (['*'] ++ p) := .anyRun ih
    exact hrun
  | @closed name p es _ _ ih =>
    have hrun : Accepts (.anyRun :: es) (('\x7b' :: name ++ ['\x7d']) ++ p) := .anyRun ih
    rwa [List.append_assoc] at hrun
  | @unclosed name _ =>
    have hrun : Accepts [.anyRun] (('\x7b' :: name) ++ []) := .anyRun .nil
    rwa [List.append_nil] at hrun

/-! ## Runs behind runs -/

variable {es es' : List Element} {t : Text}

/-- the language of a list depends on its first element and on the language of the others -/
theorem accepts_cons_congr (e : Element) (h : ∀ t, Accepts es t ↔ Accepts es' t) :
    Accepts (e :: es) t ↔ Accepts (e :: es') t := by
  cases e with
  | anyRun => simp only [accepts_anyRun_iff, h]
  | char d =>
    cases t with
    | nil => rw [accepts_empty_iff, accepts_empty_iff]; simp
    | cons c t => rw [accepts_char_iff, accepts_char_iff, h]
  | anyOne =>
    cases t with
    | nil => rw [accepts_empty_iff, accepts_empty_iff]; simp
    | cons c t => rw [accepts_anyOne_iff, accepts_anyOne_iff, h]

/-- two runs next to each other take what one takes -/
theorem accepts_anyRun_anyRun_iff : Accepts (.anyRun :: .anyRun :: es) t ↔ Accepts (.anyRun :: es) t := by
  rw [accepts_anyRun_iff]
  constructor
  · rintro ⟨k, h⟩
    obtain ⟨j, h⟩ := accepts_anyRun_iff.1 h
    rw [List.drop_drop] at h
    exact accepts_anyRun_iff.2 ⟨k + j, h⟩
  · intro h
    exact ⟨0, h⟩

/-- the run that stands in front of elements compiled behind a run -/
def runInFront (behindRun : Bool) : List Element := if behindRun then [.anyRun] else []

theorem accepts_runInFront_anyRun_iff (behindRun : Bool) :
    Accepts (runInFront behindRun ++ .anyRun :: es) t ↔ Accepts (.anyRun :: es) t := by
  cases behindRun with
  | true => exact accepts_anyRun_anyRun_iff
  | false => exact Iff.rfl

theorem accepts_runInFront_congr (behindRun : Bool) (h : ∀ t, Accepts es t ↔ Accepts es' t) :
    Accepts (runInFront behindRun ++ es) t ↔ Accepts (runInFront behindRun ++ es') t := by
  cases behindRun with
  | true => exact accepts_cons_congr .anyRun h
  | false => exact h t

/-! ## Compilation -/

/-- inside a variable nothing counts up to the closing brace -/
theorem compileFrom_closed (behindRun : Bool) {name p : Text} (hname : '\x7d' ∉ name) :
    Element.compileFrom behindRun true (name ++ '\x7d' :: p) = Element.compileFrom behindRun false p := by
  induction name with
  | nil => rfl
  | cons c name ih =>
    rw [List.mem_cons, not_or] at hname
    have hc : (c != '\x7d') = true := bne_iff_ne.2 (Ne.symm hname.1)
    rw [List.cons_append, Element.compileFrom, hc]
    exact ih hname.2

theorem compileFrom_unclosed (behindRun : Bool) {name : Text} (hname : '\x7d' ∉ name) :
    Element.compileFrom behindRun true name = [] := by
  induction name with
  | nil => rfl
  | cons c name ih =>
    rw [List.mem_cons, not_or] at hname
    have hc : (c != '\x7d') = true := bne_iff_ne.2 (Ne.symm hname.1)
    rw [Element.compileFrom, hc]
    exact ih hname.2

/-- a star or a variable begins a run, unless one was begun just before -/
theorem compileFrom_run (behindRun : Bool) {c : Char} (hc : c = '*' ∨ c = '\x7b') (p : Text) :
    runInFront behindRun ++ Element.compileFrom behindRun false (c :: p) =
      .anyRun :: Element.compileFrom true (c == '\x7b') p := by
  rw [Element.compileFrom, if_pos hc]
  cases behindRun <;> rfl

/-- **Compiling keeps the language** of what is spelled, behind a run as well as elsewhere -/
theorem Element.Spells.accepts_compileFrom_iff {p : Text} (h : Spells p es) (behindRun : Bool) :
    Accepts (runInFront behindRun ++ Element.compileFrom behindRun false p) t ↔
      Accepts (runInFront behindRun ++ es) t := by
  induction h generalizing behindRun t with
  | nil => rw [Element.compileFrom]
  | @char c p es hstar hone hopen _ ih =>
    rw [Element.compileFrom, if_neg (by simp [hstar, hopen]), if_neg hone]
    exact accepts_runInFront_congr behindRun fun t => accepts_cons_congr (.char c) fun t => ih false
  | @anyOne p es _ ih =>
    rw [Element.compileFrom, if_neg (by decide), if_pos rfl]
    exact accepts_runInFront_congr behindRun fun t => accepts_cons_congr .anyOne fun t => ih false
  | @star p es _ ih =>
    rw [compileFrom_run behindRun (.inl rfl), accepts_runInFront_anyRun_iff]
    exact ih true
  | @closed name p es hname _ ih =>
    rw [compileFrom_run behindRun (.inr rfl), accepts_runInFront_anyRun_iff, beq_self_eq_true,
      compileFrom_closed true hname]
    exact ih true
  | @unclosed name hname =>
    rw [compileFrom_run behindRun (.inr rfl), accepts_runInFront_anyRun_iff, beq_self_eq_true,
      compileFrom_unclosed true hname]

theorem Element.Spells.accepts_compile_iff {p : Text} (h : Spells p es) : Accepts (Element.compile p) t ↔ Accepts es t :=
  h.accepts_compileFrom_iff false

/-! ## Segments -/

/-- a pattern is one of the segments that its elements accept, so looking for it first changes nothing -/
theorem segmentMatches_eq_scanMatches (pattern text : Text) :
    segmentMatches pattern text = scanMatches (Element.compile pattern) text := by
  rw [segmentMatches, Bool.or_eq_right_iff_imp, beq_iff_eq]
  rintro rfl
  obtain ⟨es, hes⟩ := exists_spells pattern
  exact (scanMatches_iff _ _).2 (hes.accepts_compile_iff.2 hes.accepts_self)

/-- **Matching a segment is sound and complete.** A segment matches just if the compiled elements accept it. The scan
alone says the same without a look at the pattern itself, and so it would with the elements as they are spelled, no two
runs of them taken together. -/
theorem segmentMatches_iff_accepts (pattern text : Text) :
    (segmentMatches pattern text = true ↔ Accepts (Element.compile pattern) text) ∧
    segmentMatches pattern text = scanMatches (Element.compile pattern) text ∧
    ∃ es, Spells pattern es ∧ (segmentMatches pattern text = true ↔ Accepts es text) ∧
      segmentMatches pattern text = scanMatches es text := by
  have hscan := segmentMatches_eq_scanMatches pattern text
  have hcompiled : segmentMatches pattern text = true ↔ Accepts (Element.compile pattern) text := by
    rw [hscan, scanMatches_iff]
  obtain ⟨es, hes⟩ := exists_spells pattern
  have hspelled : segmentMatches pattern text = true ↔ Accepts es text := hcompiled.trans hes.accepts_compile_iff
  refine ⟨hcompiled, hscan, es, hes, hspelled, ?_⟩
  rw [Bool.eq_iff_iff, hspelled, scanMatches_iff]

/-- a variable that is not closed takes the rest, and the pattern matches itself -/
example : segmentMatches "a\x7bb*?c".toList "axyz".toList = true ∧
    segmentMatches "a\x7bb*?c".toList "a\x7bb*?c".toList = true := by decide +kernel

end ResourceServer.Glob
