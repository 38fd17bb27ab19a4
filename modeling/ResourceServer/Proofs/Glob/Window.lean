/-
The segments that a comparison has left, and what one step of each loop does to them.

A window is four positions; `Window.patternLeft` and `Window.pathLeft` are the lists between them. Each step of a loop
has an inversion lemma on these lists:
- `frontStep_inl`, `backStep_inl`: a step that goes on takes one aligned segment off at its end;
- `frontStep_inr`, `backStep_inr`: a step that stops has met two segments that do not match, a `**`, or an end;
- `runStep_cases`: a step between two `**` stops with nothing to do, takes a part off where it fits first, or has found
  that it fits nowhere. `RunInv` is what these steps keep.
-/
import ResourceServer.Proofs.Glob.Covers

namespace ResourceServer.Glob

/-! ## The segments in a window -/

/-- the elements from one position up to and without another -/
def between (l : List Text) (start stop : ℕ) : List Text := (l.take stop).drop start

section

variable {l : List Text} {a b c : ℕ} {x : Text}

theorem between_eq_nil (h : b ≤ a) : between l a b = [] := by
  rw [between, List.drop_eq_nil_iff, List.length_take]; omega

theorem between_whole : between l 0 l.length = l := by simp [between]

theorem length_between : (between l a b).length = min b l.length - a := by simp [between]

theorem between_cons (hlt : a < b) (hx : l[a]? = some x) : between l a b = x :: between l (a + 1) b := by
  obtain ⟨ha, rfl⟩ := List.getElem?_eq_some_iff.1 hx
  have hlen : a < (l.take b).length := by rw [List.length_take]; omega
  rw [between, List.drop_eq_getElem_cons hlen, List.getElem_take]
  rfl

theorem between_append (h₁ : a ≤ c) (h₂ : c ≤ b) : between l a c ++ between l c b = between l a b := by
  have htake : (l.take b).take c = l.take c := by rw [List.take_take, min_eq_left h₂]
  have hdrop : (l.take b).drop c = ((l.take b).drop a).drop (c - a) := by
    rw [List.drop_drop]; congr 1; omega
  have hfront : (l.take c).drop a = ((l.take b).drop a).take (c - a) := by
    rw [← htake, List.drop_take]
  rw [between, between, between, hfront, hdrop, List.take_append_drop]

theorem between_concat (hlt : a < b) (hx : l[b - 1]? = some x) :
    between l a b = between l a (b - 1) ++ [x] := by
  have hlast : between l (b - 1) b = [x] := by
    rw [between_cons (by omega) hx, between_eq_nil (by omega)]
  rw [← hlast, between_append (by omega) (by omega)]

theorem getElem?_of_between_cons {more : List Text} (h : between l a b = x :: more) : l[a]? = some x := by
  have h0 : (between l a b)[0]? = some x := by rw [h]; rfl
  rw [between, List.getElem?_drop, List.getElem?_take] at h0
  split_ifs at h0
  exact h0

end

/-- the window's stops are positions of the segments -/
def Window.Within (pattern path : List Text) (w : Window) : Prop :=
  w.patternStop ≤ pattern.length ∧ w.pathStop ≤ path.length

/-- the segment patterns still to be compared -/
def Window.patternLeft (pattern : List Text) (w : Window) : List Text := between pattern w.patternStart w.patternStop

/-- the segments still to be compared -/
def Window.pathLeft (path : List Text) (w : Window) : List Text := between path w.pathStart w.pathStop

section

variable {pattern path : List Text} {w w' : Window}

theorem patternLeft_eq_nil_iff (hw : w.Within pattern path) :
    w.patternLeft pattern = [] ↔ w.patternStop ≤ w.patternStart := by
  rw [← List.length_eq_zero_iff, Window.patternLeft, length_between]
  have := hw.1; omega

theorem pathLeft_eq_nil_iff (hw : w.Within pattern path) : w.pathLeft path = [] ↔ w.pathStop ≤ w.pathStart := by
  rw [← List.length_eq_zero_iff, Window.pathLeft, length_between]
  have := hw.2; omega

theorem onlyDouble_eq (hw : w.Within pattern path) :
    onlyDouble pattern w = .decided ((w.patternLeft pattern).all (· == doubleStar)) := by
  rw [onlyDouble, if_pos hw.1]; rfl

theorem all_double_iff : pattern.all (· == doubleStar) = true ↔ Covers pattern [] := by
  rw [covers_empty_iff]; simp

/-! ## One step from the front -/

theorem bothLeft_iff : w.bothLeft = true ↔ w.patternStart < w.patternStop ∧ w.pathStart < w.pathStop := by
  simp [Window.bothLeft]

theorem frontStep_inl (h : frontStep pattern path w = .inl w') :
    ∃ p s, p ≠ doubleStar ∧ segmentMatches p s = true ∧ w.patternLeft pattern = p :: w'.patternLeft pattern ∧
      w.pathLeft path = s :: w'.pathLeft path ∧ w.bothLeft = true ∧
      w' = { w with patternStart := w.patternStart + 1, pathStart := w.pathStart + 1 } := by
  unfold frontStep at h
  split_ifs at h with hb
  obtain ⟨hp, hs⟩ := bothLeft_iff.1 hb
  split at h
  · rename_i p s hp' hs'
    split_ifs at h with hd hm
    cases h
    exact ⟨p, s, hd, hm, between_cons hp hp', between_cons hs hs', hb, rfl⟩
  · cases h

theorem frontStep_inr {r : Pause} (hw : w.Within pattern path) (h : frontStep pattern path w = .inr r) :
    (r = .inl (.decided false) ∧ ∃ p s ps ss, p ≠ doubleStar ∧ segmentMatches p s = false ∧
      w.patternLeft pattern = p :: ps ∧ w.pathLeft path = s :: ss) ∨
    (r = .inr w ∧ (w.patternLeft pattern = [] ∨ w.pathLeft path = [] ∨
      ∃ ps, w.patternLeft pattern = doubleStar :: ps)) := by
  unfold frontStep at h
  split_ifs at h with hb
  · obtain ⟨hp, hs⟩ := bothLeft_iff.1 hb
    split at h
    · rename_i p s hp' hs'
      split_ifs at h with hd hm
      · cases h; subst hd
        exact .inr ⟨rfl, .inr (.inr ⟨_, between_cons hp hp'⟩)⟩
      · cases h
        exact .inl ⟨rfl, p, s, _, _, hd, by simpa using hm, between_cons hp hp', between_cons hs hs'⟩
    · -- both positions are inside, so both look-ups succeed
      rename_i hno
      have hp' : w.patternStart < pattern.length := by have := hw.1; omega
      have hs' : w.pathStart < path.length := by have := hw.2; omega
      exact absurd (List.getElem?_eq_getElem hs') (hno _ _ (List.getElem?_eq_getElem hp'))
  · cases h
    rw [bothLeft_iff, not_and_or] at hb
    rw [patternLeft_eq_nil_iff hw, pathLeft_eq_nil_iff hw]
    exact .inr ⟨rfl, by omega⟩

/-! ## One step from the back -/

theorem backStep_inl (h : backStep pattern path w = .inl w') :
    ∃ p s, p ≠ doubleStar ∧ segmentMatches p s = true ∧ w.patternLeft pattern = w'.patternLeft pattern ++ [p] ∧
      w.pathLeft path = w'.pathLeft path ++ [s] ∧ w.bothLeft = true ∧
      w' = { w with patternStop := w.patternStop - 1, pathStop := w.pathStop - 1 } := by
  unfold backStep at h
  split_ifs at h with hb
  obtain ⟨hp, hs⟩ := bothLeft_iff.1 hb
  split at h
  · rename_i p s hp' hs'
    split_ifs at h with hd hm
    cases h
    exact ⟨p, s, hd, hm, between_concat hp hp', between_concat hs hs', hb, rfl⟩
  · cases h

theorem backStep_inr {r : Pause} (hw : w.Within pattern path) (h : backStep pattern path w = .inr r) :
    (r = .inl (.decided false) ∧ ∃ p s ps ss, p ≠ doubleStar ∧ segmentMatches p s = false ∧
      w.patternLeft pattern = ps ++ [p] ∧ w.pathLeft path = ss ++ [s]) ∨
    (r = .inr w ∧ (w.patternLeft pattern = [] ∨ w.pathLeft path = [] ∨
      pattern[w.patternStop - 1]? = some doubleStar)) := by
  unfold backStep at h
  split_ifs at h with hb
  · obtain ⟨hp, hs⟩ := bothLeft_iff.1 hb
    split at h
    · rename_i p s hp' hs'
      split_ifs at h with hd hm
      · cases h; subst hd
        exact .inr ⟨rfl, .inr (.inr hp')⟩
      · cases h
        exact .inl ⟨rfl, p, s, _, _, hd, by simpa using hm, between_concat hp hp', between_concat hs hs'⟩
    · rename_i hno
      have hp' : w.patternStop - 1 < pattern.length := by have := hw.1; omega
      have hs' : w.pathStop - 1 < path.length := by have := hw.2; omega
      exact absurd (List.getElem?_eq_getElem hs') (hno _ _ (List.getElem?_eq_getElem hp'))
  · cases h
    rw [bothLeft_iff, not_and_or] at hb
    rw [patternLeft_eq_nil_iff hw, pathLeft_eq_nil_iff hw]
    exact .inr ⟨rfl, by omega⟩

/-! ## One step between two `**` -/

theorem nextDouble?_eq_some (hlt : w.patternStart + 1 < w.patternStop)
    (hlast : pattern[w.patternStop - 1]? = some doubleStar) :
    ∃ next, nextDouble? pattern w = some next ∧ w.patternStart + 1 ≤ next ∧ next < w.patternStop ∧
      pattern[next]? = some doubleStar ∧ doubleStar ∉ between pattern (w.patternStart + 1) next := by
  cases h : nextDouble? pattern w with
  | none =>
    rw [nextDouble?, List.find?_range'_eq_none] at h
    have := h (w.patternStop - 1) (by omega) (by omega)
    simp [hlast] at this
  | some next =>
    rw [nextDouble?, List.find?_range'_eq_some] at h
    obtain ⟨hd, hmem, hbefore⟩ := h
    rw [List.mem_range'_1] at hmem
    refine ⟨next, rfl, hmem.1, by omega, by simpa using hd, fun hin => ?_⟩
    obtain ⟨i, hi, hget⟩ := List.getElem_of_mem hin
    rw [length_between] at hi
    have hat : pattern[w.patternStart + 1 + i]? = some doubleStar := by
      rw [← hget, ← List.getElem?_eq_getElem, between, List.getElem?_drop, List.getElem?_take, if_pos (by omega)]
    have := hbefore (w.patternStart + 1 + i) (by omega) (by omega)
    simp [hat] at this

theorem runFits?_eq_some (n patternAt pathAt : ℕ) (hp : patternAt + n ≤ pattern.length)
    (hs : pathAt + n ≤ path.length) (hd : doubleStar ∉ between pattern patternAt (patternAt + n)) :
    ∃ fits, runFits? pattern path patternAt pathAt n = some fits ∧
      (fits = true ↔ Aligned (between pattern patternAt (patternAt + n)) (between path pathAt (pathAt + n))) := by
  induction n generalizing patternAt pathAt with
  | zero =>
    refine ⟨true, rfl, ?_⟩
    rw [between_eq_nil (by omega), between_eq_nil (by omega)]
    simp [Aligned]
  | succ n ih =>
    have hp' := List.getElem?_eq_getElem (show patternAt < pattern.length by omega)
    have hs' := List.getElem?_eq_getElem (show pathAt < path.length by omega)
    have hpattern : between pattern patternAt (patternAt + (n + 1)) =
        pattern[patternAt] :: between pattern (patternAt + 1) (patternAt + 1 + n) := by
      rw [between_cons (by omega) hp', show patternAt + (n + 1) = patternAt + 1 + n by omega]
    have hpath : between path pathAt (pathAt + (n + 1)) =
        path[pathAt] :: between path (pathAt + 1) (pathAt + 1 + n) := by
      rw [between_cons (by omega) hs', show pathAt + (n + 1) = pathAt + 1 + n by omega]
    rw [hpattern, List.mem_cons, not_or] at hd
    obtain ⟨fits, hfits, hiff⟩ := ih (patternAt + 1) (pathAt + 1) (by omega) (by omega) hd.2
    rw [hpattern, hpath, Aligned, List.forall₂_cons]
    simp only [runFits?, hp', hs']
    split_ifs with hm
    · refine ⟨fits, hfits, ?_⟩
      rw [hiff]
      exact ⟨fun h => ⟨⟨fun e => hd.1 e.symm, hm⟩, h⟩, fun h => h.2⟩
    · exact ⟨false, rfl, by simp [hm]⟩

/-- the search stops at the first position where the part fits -/
theorem firstFit?_eq_some (n patternAt start count : ℕ) (hp : patternAt + n ≤ pattern.length)
    (hd : doubleStar ∉ between pattern patternAt (patternAt + n))
    (hs : ∀ k, start ≤ k → k < start + count → k + n ≤ path.length) :
    ∃ found, firstFit? pattern path patternAt n (List.range' start count) = some found ∧
      match found with
      | none => ∀ k, start ≤ k → k < start + count →
          ¬ Aligned (between pattern patternAt (patternAt + n)) (between path k (k + n))
      | some k => start ≤ k ∧ k < start + count ∧
          Aligned (between pattern patternAt (patternAt + n)) (between path k (k + n)) ∧
          ∀ j, start ≤ j → j < k →
            ¬ Aligned (between pattern patternAt (patternAt + n)) (between path j (j + n)) := by
  induction count generalizing start with
  | zero => exact ⟨none, rfl, fun k h1 h2 => by omega⟩
  | succ count ih =>
    obtain ⟨fits, hfits, hiff⟩ := runFits?_eq_some n patternAt start hp (hs start le_rfl (by omega)) hd
    rw [List.range'_succ]
    simp only [firstFit?, hfits]
    cases fits with
    | true => exact ⟨some start, rfl, le_rfl, by omega, hiff.1 rfl, fun j h1 h2 => by omega⟩
    | false =>
      have hno : ¬ Aligned (between pattern patternAt (patternAt + n)) (between path start (start + n)) :=
        fun h => absurd (hiff.2 h) (by decide)
      obtain ⟨found, hfound, hspec⟩ := ih (start + 1) fun k h1 h2 => hs k (by omega) (by omega)
      refine ⟨found, hfound, ?_⟩
      cases found with
      | none =>
        intro k h1 h2
        rcases Nat.eq_or_lt_of_le h1 with rfl | h1
        · exact hno
        · exact hspec k h1 (by omega)
      | some k =>
        obtain ⟨h1, h2, hk, hbefore⟩ := hspec
        refine ⟨by omega, by omega, hk, fun j hj1 hj2 => ?_⟩
        rcases Nat.eq_or_lt_of_le hj1 with rfl | hj1
        · exact hno
        · exact hbefore j hj1 hj2

/-- between two `**`: the window begins and ends with `**`, and what is left of the pattern covers what is left of the
path just if `goal` holds -/
structure RunInv (goal : Prop) (pattern path : List Text) (w : Window) : Prop where
  within : w.Within pattern path
  pattern_lt : w.patternStart < w.patternStop
  path_le : w.pathStart ≤ w.pathStop
  first : pattern[w.patternStart]? = some doubleStar
  last : pattern[w.patternStop - 1]? = some doubleStar
  covers : goal ↔ Covers (w.patternLeft pattern) (w.pathLeft path)

/-- a part fits what is left of the path where it is aligned with the segments from that position on -/
theorem fitsAt_pathLeft_iff {run : List Text} {k : ℕ} (hle : w.pathStart ≤ w.pathStop)
    (hk : k + run.length ≤ w.pathStop - w.pathStart) :
    FitsAt run (w.pathLeft path) k ↔
      Aligned run (between path (w.pathStart + k) (w.pathStart + k + run.length)) := by
  have hslice : ((w.pathLeft path).drop k).take run.length =
      between path (w.pathStart + k) (w.pathStart + k + run.length) := by
    rw [Window.pathLeft, between, between, List.drop_drop, List.take_drop, List.take_take, min_eq_left (by omega)]
  rw [FitsAt, hslice]

theorem not_fitsAt_of_short {run left : List Text} {k : ℕ} (hk : left.length < k + run.length)
    (hrun : 0 < run.length) : ¬ FitsAt run left k := by
  intro h
  have := h.length_eq
  rw [List.length_take, List.length_drop] at this
  omega

section

variable {goal : Prop} {next : ℕ} (h : RunInv goal pattern path w) (hge : w.patternStart + 1 ≤ next)
  (hstop : next < w.patternStop) (hd : pattern[next]? = some doubleStar)

include h hge hstop hd

/-- the window's pattern up to and from the next `**` -/
theorem RunInv.patternLeft_eq :
    w.patternLeft pattern = doubleStar :: (between pattern (w.patternStart + 1) next ++
      doubleStar :: between pattern (next + 1) w.patternStop) := by
  rw [← between_cons hstop hd, between_append hge (by omega)]
  exact between_cons h.pattern_lt h.first

/-- two `**` in a row are one -/
theorem RunInv.skip (hnext : next = w.patternStart + 1) :
    RunInv goal pattern path { w with patternStart := next } := by
  refine ⟨h.within, hstop, h.path_le, hd, h.last, ?_⟩
  subst hnext
  rw [h.covers, h.patternLeft_eq hge hstop hd, between_eq_nil le_rfl, List.nil_append, covers_double_double_iff,
    ← between_cons hstop hd]
  rfl

/-- the part up to the next `**` is taken off where it fits first -/
theorem RunInv.take {n found : ℕ} (hn : w.patternStart + 1 + n = next) (hfrom : w.pathStart ≤ found)
    (hto : found + n ≤ w.pathStop)
    (hfit : Aligned (between pattern (w.patternStart + 1) next) (between path found (found + n)))
    (hfirst : ∀ j, w.pathStart ≤ j → j < found →
      ¬ Aligned (between pattern (w.patternStart + 1) next) (between path j (j + n))) :
    RunInv goal pattern path { w with patternStart := next, pathStart := found + n } := by
  refine ⟨h.within, hstop, hto, hd, h.last, ?_⟩
  set run := between pattern (w.patternStart + 1) next with hrun
  have hlen : run.length = n := by
    have := h.within.1
    rw [hrun, length_between]; omega
  have hle : w.pathStart ≤ w.pathStop := h.path_le
  have hfit' : FitsAt run (w.pathLeft path) (found - w.pathStart) := by
    rw [fitsAt_pathLeft_iff hle (by omega), hlen, show w.pathStart + (found - w.pathStart) = found by omega]
    exact hfit
  have hfirst' : ∀ j < found - w.pathStart, ¬ FitsAt run (w.pathLeft path) j := by
    intro j hj hfits
    rw [fitsAt_pathLeft_iff hle (by omega), hlen] at hfits
    exact hfirst (w.pathStart + j) (by omega) (by omega) hfits
  have hrest : (w.pathLeft path).drop (found - w.pathStart + run.length) = between path (found + n) w.pathStop := by
    rw [Window.pathLeft, between, between, List.drop_drop]; congr 1; omega
  rw [h.covers, h.patternLeft_eq hge hstop hd, ← hrun, covers_run hfit' hfirst', hrest, ← between_cons hstop hd]
  rfl

/-- the part up to the next `**` fits nowhere -/
theorem RunInv.unfit {n : ℕ} (hn : w.patternStart + 1 + n = next) (hpos : 0 < n)
    (hplain : doubleStar ∉ between pattern (w.patternStart + 1) next)
    (hno : ∀ k, w.pathStart ≤ k → k + n ≤ w.pathStop →
      ¬ Aligned (between pattern (w.patternStart + 1) next) (between path k (k + n))) : ¬ goal := by
  rw [h.covers, h.patternLeft_eq hge hstop hd]
  set run := between pattern (w.patternStart + 1) next with hrun
  have hlen : run.length = n := by
    have := h.within.1
    rw [hrun, length_between]; omega
  refine not_covers_of_no_fit hplain fun k hk => ?_
  by_cases hin : k + n ≤ w.pathStop - w.pathStart
  · have hle : w.pathStart ≤ w.pathStop := h.path_le
    rw [fitsAt_pathLeft_iff hle (by omega), hlen] at hk
    exact hno (w.pathStart + k) (by omega) (by omega) hk
  · have hshort : (w.pathLeft path).length < k + run.length := by
      rw [Window.pathLeft, length_between]; omega
    exact not_fitsAt_of_short hshort (by omega) hk

end

/-- **What one step between two `**` does.** It has nothing left to do; or it has gone on, closer to the last `**`; or
the part after the first `**` fits nowhere and the goal is out of reach. -/
theorem runStep_cases {goal : Prop} (h : RunInv goal pattern path w) :
    (runStep pattern path w = .inr (.inr w) ∧ (w.patternLeft pattern = [doubleStar] ∨ w.pathLeft path = [])) ∨
    (∃ w', runStep pattern path w = .inl w' ∧ RunInv goal pattern path w' ∧ w'.patternStop = w.patternStop ∧
      w.patternStart < w'.patternStart) ∨
    (runStep pattern path w = .inr (.inl (.decided false)) ∧ ¬ goal) := by
  by_cases hgo : w.patternStart + 1 ≠ w.patternStop ∧ w.pathStart < w.pathStop
  · right
    have hlt : w.patternStart + 1 < w.patternStop := by have := h.pattern_lt; omega
    obtain ⟨next, hnext, hge, hstop, hd, hplain⟩ := nextDouble?_eq_some hlt h.last
    unfold runStep
    rw [if_pos hgo, hnext, Option.getD_some]
    by_cases hrow : next = w.patternStart + 1
    · left
      rw [if_pos hrow, ← hrow]
      exact ⟨_, rfl, h.skip hge hstop hd hrow, rfl, hge⟩
    · obtain ⟨n, hn⟩ : ∃ n, w.patternStart + 1 + n = next := ⟨next - (w.patternStart + 1), by omega⟩
      have hn' : next - w.patternStart - 1 = n := by omega
      have hpattern : w.patternStart + 1 + n ≤ pattern.length := by have := h.within.1; omega
      have hpath : ∀ k, w.pathStart ≤ k → k < w.pathStart + (w.pathStop - w.pathStart + 1 - n) →
          k + n ≤ path.length := by
        intro k h1 h2; have := h.within.2; omega
      obtain ⟨found, hfound, hspec⟩ := firstFit?_eq_some n (w.patternStart + 1) w.pathStart _ hpattern
        (by rw [hn]; exact hplain) hpath
      rw [hn] at hspec
      rw [if_neg hrow]
      simp only [hn', hfound]
      cases found with
      | none =>
        right
        refine ⟨rfl, h.unfit hge hstop hd hn (by omega) hplain fun k h1 h2 => ?_⟩
        exact hspec k h1 (by omega)
      | some found =>
        left
        obtain ⟨h1, h2, hfit, hbefore⟩ := hspec
        exact ⟨_, rfl, h.take hge hstop hd hn h1 (by omega) hfit hbefore, rfl, hge⟩
  · left
    refine ⟨by rw [runStep, if_neg hgo], ?_⟩
    rcases not_and_or.1 hgo with hp | hs
    · left
      rw [Window.patternLeft, between_cons h.pattern_lt h.first, between_eq_nil (by omega)]
    · right
      rw [pathLeft_eq_nil_iff h.within]; omega

/-- a step that goes on between two `**` keeps the invariant and comes closer to the last `**` -/
theorem runStep_inl {goal : Prop} (h : RunInv goal pattern path w) (hs : runStep pattern path w = .inl w') :
    RunInv goal pattern path w' ∧ w'.patternStop = w.patternStop ∧ w.patternStart < w'.patternStart := by
  rcases runStep_cases h with ⟨he, -⟩ | ⟨u, he, hu⟩ | ⟨he, -⟩
  · rw [he] at hs; cases hs
  · rw [he] at hs; cases hs
    exact hu
  · rw [he] at hs; cases hs

end

end ResourceServer.Glob
