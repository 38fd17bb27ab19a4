/-
Where matching looks, and that it comes to an end.

A comparison looks segments up by position in three loops, one after the other, and the scan of a segment does so with
elements. Positions move from both ends and, in the last loop, to where a part was found; the scan also goes back. They
stay inside because each loop keeps its invariant on every window that it passes, and begins where the one before has
stopped: the front at a first `**`, the back at a last one.
- `PassedFront`, `PassedBack`, `PassedBetween`: the windows that the loops of a comparison pass.
- `PassedBetween.round`: whenever the body of the loop between two `**` is entered, both are there, the search for the
  next `**` finds one, a part that is looked for is not empty, and the rest of the pattern gets shorter.
- `scansInside`: the scan of a segment stays inside of elements and text, and it ends.
- `comparePath_inside`: a comparison comes to a decision, and all of this holds on the way.
-/
import ResourceServer.Proofs.Glob.Path
import ResourceServer.Proofs.Glob.Segment

namespace ResourceServer.Glob

/-! ## The windows of the three loops -/

/-- the loop from the front passes the window -/
def PassedFront (pattern path : List Text) (w : Window) : Prop :=
  Loop.Reaches (frontStep pattern path) (Window.whole pattern path) w

/-- the loop from the back begins with the window: the front has stopped at it, with segments left on both sides -/
structure BeginsBack (pattern path : List Text) (w : Window) : Prop where
  stopped : Loop.run (frontStep pattern path) (pattern.length + 1) (Window.whole pattern path) = some (.inr w)
  left : w.patternStart < w.patternStop ∧ w.pathStart < w.pathStop

/-- the loop from the back passes the window -/
def PassedBack (pattern path : List Text) (w : Window) : Prop :=
  ∃ v, BeginsBack pattern path v ∧ Loop.Reaches (backStep pattern path) v w

/-- the loop between two `**` begins with the window: the back has stopped at it, with segments of the path left -/
structure BeginsBetween (pattern path : List Text) (w : Window) : Prop where
  stopped : ∃ v, BeginsBack pattern path v ∧
    Loop.run (backStep pattern path) (pattern.length + 1) v = some (.inr w)
  left : w.pathStart < w.pathStop

/-- the loop between two `**` passes the window -/
def PassedBetween (pattern path : List Text) (w : Window) : Prop :=
  ∃ v, BeginsBetween pattern path v ∧ Loop.Reaches (runStep pattern path) v w

section

variable {pattern path : List Text} {w : Window}

theorem PassedFront.inv (h : PassedFront pattern path w) : FrontInv pattern path w :=
  h.keeps (FrontInv pattern path) (fun _ _ => frontStep_frontInv) (frontInv_whole pattern path)

theorem BeginsBack.inv (h : BeginsBack pattern path w) :
    BackInv (Covers (w.patternLeft pattern) (w.pathLeft path)) pattern path w := by
  obtain ⟨t, ht, hs⟩ := Loop.exists_reaches_of_run h.stopped
  have hfront : FrontInv pattern path t := PassedFront.inv ht
  exact hfront.backInv hs h.left

theorem PassedBack.inv (h : PassedBack pattern path w) : ∃ goal, BackInv goal pattern path w := by
  obtain ⟨v, hv, hw⟩ := h
  exact ⟨_, hw.keeps (BackInv _ pattern path) (fun _ _ => backStep_backInv) hv.inv⟩

theorem BeginsBetween.inv (h : BeginsBetween pattern path w) : ∃ goal, RunInv goal pattern path w := by
  obtain ⟨v, hv, hrun⟩ := h.stopped
  obtain ⟨t, ht, hs⟩ := Loop.exists_reaches_of_run hrun
  obtain ⟨goal, hback⟩ := PassedBack.inv ⟨v, hv, ht⟩
  exact ⟨goal, hback.runInv hs h.left⟩

theorem PassedBetween.inv (h : PassedBetween pattern path w) : ∃ goal, RunInv goal pattern path w := by
  obtain ⟨v, hv, hw⟩ := h
  obtain ⟨goal, hrun⟩ := hv.inv
  exact ⟨goal, hw.keeps (RunInv goal pattern path) (fun _ _ ht hs => (runStep_inl ht hs).1) hrun⟩

/-! ## A round between two `**` -/

/-- the body of the loop between two `**` at a window, where `next` is the position of the next `**` -/
structure Round (pattern path : List Text) (w : Window) (next : ℕ) : Prop where
  first : pattern[w.patternStart]? = some doubleStar
  last : pattern[w.patternStop - 1]? = some doubleStar
  /-- the search for the next `**` stays inside -/
  searched : ∀ i ∈ List.range' (w.patternStart + 1) (w.patternStop - (w.patternStart + 1)), i < pattern.length
  /-- it finds one, so the last position is never taken instead of it -/
  found : nextDouble? pattern w = some next
  ahead : w.patternStart < next ∧ next < w.patternStop
  /-- a part that is looked for has a segment pattern at least -/
  part : next ≠ w.patternStart + 1 → 1 ≤ next - w.patternStart - 1
  /-- wherever it is looked for, it is compared inside of the pattern and of the path -/
  places : ∀ pathAt ∈ List.range' w.pathStart (w.pathStop - w.pathStart + 1 - (next - w.patternStart - 1)),
    ∀ j < next - w.patternStart - 1, w.patternStart + 1 + j < pattern.length ∧ pathAt + j < path.length
  inside : runStep pattern path w ≠ .inr (.inl .outside)
  /-- what is left of the pattern gets shorter -/
  shorter : ∀ w', runStep pattern path w = .inl w' →
    w'.patternStop - w'.patternStart < w.patternStop - w.patternStart

theorem runStep_ne_outside {goal : Prop} (h : RunInv goal pattern path w) :
    runStep pattern path w ≠ .inr (.inl .outside) := by
  rcases runStep_cases h with ⟨he, -⟩ | ⟨u, he, -⟩ | ⟨he, -⟩
  · rw [he]; simp
  · rw [he]; simp
  · rw [he]; simp

/-- **Entering the body between two `**`** finds what the body relies on -/
theorem PassedBetween.round (h : PassedBetween pattern path w) (hgo : w.patternStart + 1 ≠ w.patternStop) :
    ∃ next, Round pattern path w next := by
  obtain ⟨goal, hrun⟩ := h.inv
  have hlt : w.patternStart + 1 < w.patternStop := by have := hrun.pattern_lt; omega
  obtain ⟨next, hnext, hge, hstop, -, -⟩ := nextDouble?_eq_some hlt hrun.last
  obtain ⟨hpattern, hpath⟩ := hrun.within
  refine ⟨next, hrun.first, hrun.last, ?_, hnext, ⟨hge, hstop⟩, by omega, ?_, runStep_ne_outside hrun, ?_⟩
  · intro i hi
    rw [List.mem_range'_1] at hi
    omega
  · intro pathAt hat j hj
    rw [List.mem_range'_1] at hat
    omega
  · intro w' hs
    obtain ⟨hrun', hstop', hcloser⟩ := runStep_inl hrun hs
    have := hrun'.pattern_lt
    omega

/-! ## The scan of a segment -/

/-- the scan stops at the end of the text with the position it has come to -/
theorem Scan.eq_element_of_stopped {es : Array Element} {cs : Array Char} {s : Scan} {position : ℕ}
    (h : step es cs s = .inr (some position)) : position = s.element := by
  have hback : s.back ≠ .inr (some position) := by
    rw [back]
    cases s.lastRun <;> simp
  rw [step] at h
  split at h
  · exact (Option.some.inj (Sum.inr.inj h)).symm
  · split at h
    · split_ifs at h
      exact absurd h hback
    · cases h
    · cases h
    · exact absurd h hback

/-- the scan of a text never passes a position behind the end, and it ends where the elements can be cut -/
structure ScansInside (elements : List Element) (text : Text) : Prop where
  passed : ∀ s, Loop.Reaches (Scan.step elements.toArray text.toArray) ⟨0, 0, none⟩ s →
    s.element ≤ elements.length ∧ s.text ≤ text.length
  ends : ∃ r, Loop.run (Scan.step elements.toArray text.toArray) (Scan.bound elements.toArray text.toArray)
    ⟨0, 0, none⟩ = some r ∧ ∀ position ∈ r, position ≤ elements.length

theorem scansInside (elements : List Element) (text : Text) : ScansInside elements text where
  passed s hs := by
    have hsound : s.Sound elements text :=
      hs.keeps (Scan.Sound elements text) (fun _ _ => Scan.Sound.step_sound) (Scan.sound_start elements text)
    exact ⟨hsound.element_le, hsound.text_le⟩
  ends := by
    obtain ⟨t, r, ht, hr, hrun⟩ := Scan.scanRun elements text
    refine ⟨r, hrun, fun position hposition => ?_⟩
    rw [Option.mem_def] at hposition
    rw [hposition] at hr
    rw [Scan.eq_element_of_stopped hr]
    exact ht.element_le

/-! ## The comparison -/

/-- the loops of a comparison look up positions inside only -/
structure LooksInside (pattern path : List Text) : Prop where
  front : ∀ w, PassedFront pattern path w → w.bothLeft = true →
    w.patternStart < pattern.length ∧ w.pathStart < path.length
  back : ∀ w, PassedBack pattern path w → w.bothLeft = true →
    w.patternStop - 1 < pattern.length ∧ w.pathStop - 1 < path.length
  between : ∀ w, PassedBetween pattern path w → w.patternStart + 1 ≠ w.patternStop ∧ w.pathStart < w.pathStop →
    ∃ next, Round pattern path w next

theorem looksInside (pattern path : List Text) : LooksInside pattern path where
  front w hw hleft := by
    have hstops := hw.inv
    obtain ⟨hpattern, hpath⟩ := bothLeft_iff.1 hleft
    rw [hstops.patternStop] at hpattern
    rw [hstops.pathStop] at hpath
    exact ⟨hpattern, hpath⟩
  back w hw hleft := by
    obtain ⟨goal, hback⟩ := hw.inv
    obtain ⟨hpattern, hpath⟩ := bothLeft_iff.1 hleft
    obtain ⟨hpattern', hpath'⟩ := hback.within
    exact ⟨by omega, by omega⟩
  between w hw hgo := hw.round hgo.1

/-- a comparison of texts comes to a decision, and not to a look-up outside -/
theorem comparePath_decided (pattern path : Text) : ∃ answer, comparePath pattern path = some (.decided answer) := by
  rw [comparePath]
  split_ifs
  · exact ⟨false, rfl⟩
  · obtain ⟨answer, hanswer, -⟩ :=
      compareFront_decides pattern path (Text.segments pattern) (Text.segments path)
    exact ⟨answer, hanswer⟩

/-- **Matching stays inside and ends.** For every pattern and path, the comparison comes to a decision: no loop runs on,
and no look-up fails, those behind the loops included. On every window that the loops from the front and from the back
pass, the positions that they look up are inside. Whenever the loop between two `**` is entered, the first and the last
segment pattern of its window are `**`, the search finds the next one, a part that is looked for is not empty and is
compared inside only, and the rest of the pattern gets shorter. The scan of a segment stays within its elements and
ends. -/
theorem comparePath_inside (pattern path : Text) :
    (∃ answer, comparePath pattern path = some (.decided answer)) ∧
    LooksInside (Text.segments pattern) (Text.segments path) ∧
    ∀ elements text, ScansInside elements text :=
  ⟨comparePath_decided pattern path, looksInside _ _, scansInside⟩

/-- a round that takes a part off, and one that takes two `**` in a row for one -/
theorem comparePath_inside_rounds :
    PassedBetween (Text.segments "/x/**/b?/**/**/c".toList) (Text.segments "/x/y/bz/w/c".toList) ⟨1, 5, 1, 4⟩ ∧
    Round (Text.segments "/x/**/b?/**/**/c".toList) (Text.segments "/x/y/bz/w/c".toList) ⟨1, 5, 1, 4⟩ 3 ∧
    PassedBetween (Text.segments "/x/**/b?/**/**/c".toList) (Text.segments "/x/y/bz/w/c".toList) ⟨3, 5, 3, 4⟩ ∧
    Round (Text.segments "/x/**/b?/**/**/c".toList) (Text.segments "/x/y/bz/w/c".toList) ⟨3, 5, 3, 4⟩ 4 := by
  obtain ⟨-, hinside, -⟩ := comparePath_inside "/x/**/b?/**/**/c".toList "/x/y/bz/w/c".toList
  set pattern := Text.segments "/x/**/b?/**/**/c".toList with hpattern
  set path := Text.segments "/x/y/bz/w/c".toList with hpath
  have hback : BeginsBack pattern path ⟨1, 6, 1, 5⟩ := ⟨by decide +kernel, by decide⟩
  have hbegin : BeginsBetween pattern path ⟨1, 5, 1, 4⟩ := ⟨⟨_, hback, by decide +kernel⟩, by decide⟩
  have hfirst : PassedBetween pattern path ⟨1, 5, 1, 4⟩ := ⟨_, hbegin, .start⟩
  have hsecond : PassedBetween pattern path ⟨3, 5, 3, 4⟩ := ⟨_, hbegin, .next .start (by decide +kernel)⟩
  obtain ⟨next, hround⟩ := hinside.between _ hfirst (by decide)
  obtain ⟨next', hround'⟩ := hinside.between _ hsecond (by decide)
  have hnext : nextDouble? pattern ⟨1, 5, 1, 4⟩ = some 3 := by decide +kernel
  have hnext' : nextDouble? pattern ⟨3, 5, 3, 4⟩ = some 4 := by decide +kernel
  rw [Option.some.inj (hround.found.symm.trans hnext)] at hround
  rw [Option.some.inj (hround'.found.symm.trans hnext')] at hround'
  exact ⟨hfirst, hround, hsecond, hround'⟩

end

end ResourceServer.Glob
