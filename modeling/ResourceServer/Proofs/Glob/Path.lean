/-
What `pathMatches` decides.

Each loop of the comparison is run to its end by its own invariant: `FrontInv` from the front, `BackInv` from the back,
`RunInv` between two `**`. `Accords` is the rule for the segments and the slashes at the end.
- `compareFront_decides`: on all segments, the comparison comes to a decision, and it is the one of `Accords`.
- `pathMatches_iff`: a pattern matches a path just if both or neither begin with a slash and, with `**`, the segments
  are covered; without `**`, the slashes at the end agree too, or a last `*` stands for the slash of the path.
-/
import ResourceServer.Proofs.Glob.Window

namespace ResourceServer.Glob

/-- the rule for the segments of a pattern and a path, given whether each text ends with a slash -/
def Accords (patternClosed pathClosed : Bool) (pattern path : List Text) : Prop :=
  (doubleStar ∈ pattern → Covers pattern path) ∧
  (doubleStar ∉ pattern → (Covers pattern path ∧ patternClosed = pathClosed) ∨
    ∃ front, pattern = front ++ [['*']] ∧ Covers front path ∧ pathClosed = true)

section

variable {pattern path : List Text} {w w' : Window} {c d : Bool}

/-! ## The rule on what is left -/

/-- the rule does not change when aligned segments are taken off at the front -/
theorem accords_aligned_front {front a : List Text} (h : Aligned front a) :
    Accords c d (front ++ pattern) (a ++ path) ↔ Accords c d pattern path := by
  have hmem : doubleStar ∈ front ++ pattern ↔ doubleStar ∈ pattern := by
    rw [List.mem_append, or_iff_right h.not_double]
  have hstar : (∃ f, front ++ pattern = f ++ [['*']] ∧ Covers f (a ++ path) ∧ d = true) ↔
      ∃ f, pattern = f ++ [['*']] ∧ Covers f path ∧ d = true := by
    constructor
    · rintro ⟨f, hf, hc, hd⟩
      rcases List.eq_nil_or_concat pattern with rfl | ⟨rest, p, rfl⟩
      · -- then the last `*` would belong to the aligned front, which is too short for the path
        exfalso
        have hplain : doubleStar ∉ f := fun hin => h.not_double (by
          rw [List.append_nil] at hf; rw [hf]; exact List.mem_append_left _ hin)
        have h1 := ((covers_iff_aligned hplain).1 hc).length_eq
        have h2 := h.length_eq
        have h3 := congrArg List.length hf
        simp only [List.length_append, List.length_nil, List.length_singleton] at h1 h3
        omega
      · rw [List.concat_eq_append, ← List.append_assoc] at hf
        obtain ⟨rfl, he⟩ := List.append_inj' hf rfl
        exact ⟨rest, by rw [List.concat_eq_append, he], (covers_aligned_front h).1 hc, hd⟩
    · rintro ⟨f, rfl, hc, hd⟩
      exact ⟨front ++ f, by simp, (covers_aligned_front h).2 hc, hd⟩
  rw [Accords, Accords, hmem, covers_aligned_front h, hstar]

theorem not_accords_of_mismatch {p s : Text} (hp : p ≠ doubleStar) (hm : segmentMatches p s = false) :
    ¬ Accords c d (p :: pattern) (s :: path) := by
  have hno : ∀ rest, ¬ Covers (p :: rest) (s :: path) := by
    intro rest hc
    obtain ⟨_, _, he, hm', -⟩ := (covers_one_iff hp).1 hc
    cases he
    rw [hm] at hm'
    exact Bool.false_ne_true hm'
  intro h
  by_cases hd : doubleStar ∈ p :: pattern
  · exact hno _ (h.1 hd)
  · rcases h.2 hd with ⟨hc, -⟩ | ⟨front, hf, hc, -⟩
    · exact hno _ hc
    · cases front with
      | nil => cases covers_nil_iff.1 hc
      | cons q front =>
        obtain ⟨rfl, -⟩ := List.cons.inj hf
        exact hno _ hc

theorem accords_double_iff (h : doubleStar ∈ pattern) : Accords c d pattern path ↔ Covers pattern path :=
  ⟨fun ha => ha.1 h, fun hc => ⟨fun _ => hc, fun hn => absurd h hn⟩⟩

theorem accords_single_iff (h : doubleStar ∉ pattern) :
    Accords c d pattern path ↔
      (Covers pattern path ∧ c = d) ∨ ∃ front, pattern = front ++ [['*']] ∧ Covers front path ∧ d = true :=
  ⟨fun ha => ha.2 h, fun ha => ⟨fun hin => absurd hin h, fun _ => ha⟩⟩

theorem accords_nil_iff : Accords c d [] path ↔ path = [] ∧ c = d := by
  simp [Accords, covers_nil_iff]

/-- the path is used up and something is left of the pattern -/
theorem accords_empty_iff (hne : pattern ≠ []) :
    Accords c d pattern [] ↔ pattern = [['*']] ∧ d = true ∨ Covers pattern [] := by
  by_cases hd : doubleStar ∈ pattern
  · rw [accords_double_iff hd]
    refine ⟨.inr, fun h => ?_⟩
    rcases h with ⟨rfl, -⟩ | hc
    · exact absurd hd (by decide)
    · exact hc
  · have hno : ¬ Covers pattern [] := by
      rw [covers_empty_iff]
      intro hall
      obtain ⟨p, hp⟩ := List.exists_mem_of_ne_nil pattern hne
      exact hd (hall p hp ▸ hp)
    constructor
    · intro h
      rcases h.2 hd with ⟨hc, -⟩ | ⟨front, rfl, hc, ht⟩
      · exact absurd hc hno
      · have hplain : doubleStar ∉ front := fun hin => hd (List.mem_append_left _ hin)
        have hnil : front = [] := List.length_eq_zero_iff.1 ((covers_iff_aligned hplain).1 hc).length_eq
        subst hnil
        exact .inl ⟨rfl, ht⟩
    · rintro (⟨rfl, ht⟩ | hc)
      · exact ⟨fun hin => absurd hin hd, fun _ => .inr ⟨[], rfl, .nil, ht⟩⟩
      · exact absurd hc hno

/-! ## From the front -/

/-- the segments passed are aligned, and the stops have not moved -/
structure FrontInv (pattern path : List Text) (w : Window) : Prop where
  patternStop : w.patternStop = pattern.length
  pathStop : w.pathStop = path.length
  passed : ∃ front a, Aligned front a ∧ pattern = front ++ w.patternLeft pattern ∧ path = a ++ w.pathLeft path

theorem frontInv_whole (pattern path : List Text) : FrontInv pattern path (Window.whole pattern path) := by
  refine ⟨rfl, rfl, [], [], .nil, ?_, ?_⟩
  · rw [List.nil_append]; exact between_whole.symm
  · rw [List.nil_append]; exact between_whole.symm

theorem FrontInv.within (h : FrontInv pattern path w) : w.Within pattern path :=
  ⟨h.patternStop.le, h.pathStop.le⟩

theorem FrontInv.accords_iff (h : FrontInv pattern path w) :
    Accords c d pattern path ↔ Accords c d (w.patternLeft pattern) (w.pathLeft path) := by
  obtain ⟨front, a, hf, hpattern, hpath⟩ := h.passed
  conv_lhs => rw [hpattern, hpath]
  exact accords_aligned_front hf

theorem frontStep_frontInv (h : FrontInv pattern path w) (hs : frontStep pattern path w = .inl w') :
    FrontInv pattern path w' := by
  obtain ⟨p, s, hp, hm, hpattern, hpath, -, rfl⟩ := frontStep_inl hs
  obtain ⟨front, a, hf, hpattern', hpath'⟩ := h.passed
  refine ⟨h.patternStop, h.pathStop, front ++ [p], a ++ [s], hf.concat hp hm, ?_, ?_⟩
  · rw [List.append_assoc, List.singleton_append, ← hpattern]; exact hpattern'
  · rw [List.append_assoc, List.singleton_append, ← hpath]; exact hpath'

theorem frontRun (h : FrontInv pattern path w) :
    ∃ t r, FrontInv pattern path t ∧ frontStep pattern path t = .inr r ∧
      Loop.run (frontStep pattern path) (pattern.length + 1) w = some r := by
  refine Loop.run_of_measure (FrontInv pattern path) (fun t => t.patternStop - t.patternStart) ?_ _ w h ?_
  · intro t t' ht hs
    obtain ⟨-, -, -, -, -, -, hb, rfl⟩ := frontStep_inl hs
    refine ⟨frontStep_frontInv ht hs, ?_⟩
    have := (bothLeft_iff.1 hb).1
    dsimp only; omega
  · have := h.patternStop
    omega

/-! ## From the back -/

/-- the window begins with `**`, and what is left of the pattern covers what is left of the path just if `goal` holds -/
structure BackInv (goal : Prop) (pattern path : List Text) (w : Window) : Prop where
  within : w.Within pattern path
  pattern_lt : w.patternStart < w.patternStop
  path_le : w.pathStart ≤ w.pathStop
  first : pattern[w.patternStart]? = some doubleStar
  covers : goal ↔ Covers (w.patternLeft pattern) (w.pathLeft path)

variable {goal : Prop}

/-- where the front stops with segments left on both sides, what is left of the pattern begins with `**` -/
theorem FrontInv.backInv (h : FrontInv pattern path w) (hs : frontStep pattern path w = .inr (.inr w'))
    (hleft : w'.patternStart < w'.patternStop ∧ w'.pathStart < w'.pathStop) :
    BackInv (Covers (w'.patternLeft pattern) (w'.pathLeft path)) pattern path w' := by
  obtain ⟨hdecided, -⟩ | ⟨hstopped, hstop⟩ := frontStep_inr h.within hs
  · cases hdecided
  · cases hstopped
    rw [patternLeft_eq_nil_iff h.within, pathLeft_eq_nil_iff h.within] at hstop
    obtain ⟨ps, hps⟩ := (hstop.resolve_left (by omega)).resolve_left (by omega)
    exact ⟨h.within, hleft.1, hleft.2.le, getElem?_of_between_cons hps, Iff.rfl⟩

theorem backStep_backInv (h : BackInv goal pattern path w) (hs : backStep pattern path w = .inl w') :
    BackInv goal pattern path w' := by
  obtain ⟨p, s, hp, hm, hpattern, hpath, hb, rfl⟩ := backStep_inl hs
  have hlt := bothLeft_iff.1 hb
  have hcovers : goal ↔ Covers (between pattern w.patternStart (w.patternStop - 1))
      (between path w.pathStart (w.pathStop - 1)) := by
    rw [h.covers, hpattern, hpath]
    exact covers_aligned_back (.cons ⟨hp, hm⟩ .nil)
  -- the step took off a segment pattern other than `**`, so it was not the first one
  have hmore : w.patternStart ≠ w.patternStop - 1 := by
    intro he
    have hone : w.patternLeft pattern = [doubleStar] := by
      rw [Window.patternLeft, between_cons h.pattern_lt h.first, between_eq_nil (by omega)]
    rw [hone, Window.patternLeft, between_eq_nil (by dsimp only; omega)] at hpattern
    exact hp (List.singleton_inj.1 hpattern).symm
  refine ⟨⟨?_, ?_⟩, ?_, ?_, h.first, hcovers⟩
  · have := h.within.1; dsimp only; omega
  · have := h.within.2; dsimp only; omega
  · have := h.pattern_lt; dsimp only; omega
  · dsimp only; omega

theorem backRun (h : BackInv goal pattern path w) :
    ∃ t r, BackInv goal pattern path t ∧ backStep pattern path t = .inr r ∧
      Loop.run (backStep pattern path) (pattern.length + 1) w = some r := by
  refine Loop.run_of_measure (BackInv goal pattern path) (fun t => t.patternStop - t.patternStart) ?_ _ w h ?_
  · intro t t' ht hs
    obtain ⟨-, -, -, -, -, -, hb, rfl⟩ := backStep_inl hs
    refine ⟨backStep_backInv ht hs, ?_⟩
    have := (bothLeft_iff.1 hb).1
    dsimp only; omega
  · have := h.within.1
    omega

/-! ## Between two `**` -/

/-- where the back stops with segments of the path left, what is left of the pattern also ends with `**` -/
theorem BackInv.runInv (h : BackInv goal pattern path w) (hs : backStep pattern path w = .inr (.inr w'))
    (hleft : w'.pathStart < w'.pathStop) : RunInv goal pattern path w' := by
  obtain ⟨hdecided, -⟩ | ⟨hstopped, hstop⟩ := backStep_inr h.within hs
  · cases hdecided
  · cases hstopped
    have hlt := h.pattern_lt
    rw [patternLeft_eq_nil_iff h.within, pathLeft_eq_nil_iff h.within] at hstop
    have hlast := (hstop.resolve_left (by omega)).resolve_left (by omega)
    exact ⟨h.within, hlt, hleft.le, h.first, hlast, h.covers⟩

theorem runRun (h : RunInv goal pattern path w) :
    ∃ t r, RunInv goal pattern path t ∧ runStep pattern path t = .inr r ∧
      Loop.run (runStep pattern path) (pattern.length + 1) w = some r := by
  refine Loop.run_of_measure (RunInv goal pattern path) (fun t => t.patternStop - t.patternStart) ?_ _ w h ?_
  · intro t t' ht hs
    obtain ⟨ht', hstop, hlt⟩ := runStep_inl ht hs
    refine ⟨ht', ?_⟩
    have := ht'.pattern_lt
    omega
  · have := h.within.1
    omega

/-! ## The decision -/

/-- a comparison comes to a decision, and it is yes just if the rule holds -/
def Decides (result : Option Verdict) (rule : Prop) : Prop :=
  ∃ answer, result = some (.decided answer) ∧ (answer = true ↔ rule)

theorem onlyDouble_decides (hw : w.Within pattern path) (h : goal ↔ Covers (w.patternLeft pattern) []) :
    Decides (some (onlyDouble pattern w)) goal :=
  ⟨_, by rw [onlyDouble_eq hw], by rw [h, all_double_iff]⟩

theorem compareRuns_decides (h : RunInv goal pattern path w) : Decides (compareRuns pattern path w) goal := by
  obtain ⟨t, r, ht, hs, hr⟩ := runRun h
  rw [compareRuns, hr]
  rcases runStep_cases ht with ⟨he, hleft⟩ | ⟨u, he, -⟩ | ⟨he, hno⟩
  · rw [he] at hs; cases hs
    refine onlyDouble_decides ht.within ?_
    rw [ht.covers]
    rcases hleft with hp | hs
    · rw [hp]
      exact iff_of_true (covers_double_iff.2 ⟨t.pathLeft path, [], by simp, .nil⟩)
        (covers_double_iff.2 ⟨[], [], rfl, .nil⟩)
    · rw [hs]
  · rw [he] at hs; cases hs
  · rw [he] at hs; cases hs
    exact ⟨false, rfl, by simp [hno]⟩

theorem compareBack_decides (h : BackInv goal pattern path w) : Decides (compareBack pattern path w) goal := by
  obtain ⟨t, r, ht, hs, hr⟩ := backRun h
  rw [compareBack, hr]
  rcases backStep_inr ht.within hs with ⟨rfl, p, s, ps, ss, hp, hm, hpattern, hpath⟩ | ⟨rfl, -⟩
  · refine ⟨false, rfl, ?_⟩
    rw [ht.covers, hpattern, hpath, covers_append]
    simp only [Bool.false_eq_true, false_iff]
    rintro ⟨a, b, hab, -, hb⟩
    obtain ⟨s', rest, rfl, hm', hrest⟩ := (covers_one_iff hp).1 hb
    obtain rfl := covers_nil_iff.1 hrest
    obtain ⟨-, he⟩ := List.append_inj' hab rfl
    cases he
    rw [hm] at hm'
    exact Bool.false_ne_true hm'
  · dsimp only
    split_ifs with hend
    · refine onlyDouble_decides ht.within ?_
      rw [ht.covers, (pathLeft_eq_nil_iff ht.within).2 hend]
    · exact compareRuns_decides (ht.runInv hs (by omega))

variable {patternText pathText : Text}

/-- the path is used up from the front -/
theorem exhausted_decides (hw : w.Within pattern path) (hpath : w.pathLeft path = []) :
    Decides (some (exhausted patternText pathText pattern w))
      (Accords (Text.closed patternText) (Text.closed pathText) (w.patternLeft pattern) (w.pathLeft path)) := by
  rw [hpath, exhausted]
  split_ifs with hend
  · rw [(patternLeft_eq_nil_iff hw).2 hend, accords_nil_iff]
    exact ⟨_, rfl, by simp⟩
  · have hlt : w.patternStart < pattern.length := by have := hw.1; omega
    have hget := List.getElem?_eq_getElem hlt
    have hleft : w.patternLeft pattern = pattern[w.patternStart] ::
        between pattern (w.patternStart + 1) w.patternStop := between_cons (by omega) hget
    rw [hget]
    dsimp only
    have hone : w.patternLeft pattern = [['*']] ↔
        w.patternStart + 1 = w.patternStop ∧ pattern[w.patternStart] = ['*'] := by
      rw [hleft, List.cons_eq_cons, and_comm, ← List.length_eq_zero_iff, length_between]
      have := hw.1
      exact and_congr_left fun _ => by omega
    have hne : w.patternLeft pattern ≠ [] := by rw [hleft]; exact List.cons_ne_nil _ _
    split_ifs with hstar
    · exact ⟨true, rfl, iff_of_true rfl ((accords_empty_iff hne).2 (.inl ⟨hone.2 ⟨hstar.1, hstar.2.1⟩, hstar.2.2⟩))⟩
    · refine onlyDouble_decides hw ?_
      rw [accords_empty_iff hne, or_iff_right]
      rintro ⟨h1, h2⟩
      exact hstar ⟨(hone.1 h1).1, (hone.1 h1).2, h2⟩

/-- **The comparison decides.** On all segments it comes to an answer, inside of the segments, and the answer is the
rule's. -/
theorem compareFront_decides (patternText pathText : Text) (pattern path : List Text) :
    Decides (compareFront patternText pathText pattern path (Window.whole pattern path))
      (Accords (Text.closed patternText) (Text.closed pathText) pattern path) := by
  obtain ⟨t, r, ht, hs, hr⟩ := frontRun (frontInv_whole pattern path)
  rw [compareFront, hr, ht.accords_iff]
  rcases frontStep_inr ht.within hs with ⟨rfl, p, s, ps, ss, hp, hm, hpattern, hpath⟩ | ⟨rfl, -⟩
  · rw [hpattern, hpath]
    exact ⟨false, rfl, by simp [not_accords_of_mismatch hp hm]⟩
  · dsimp only
    split_ifs with hpath hpattern
    · exact exhausted_decides ht.within ((pathLeft_eq_nil_iff ht.within).2 hpath)
    · rw [(patternLeft_eq_nil_iff ht.within).2 hpattern, accords_nil_iff, pathLeft_eq_nil_iff ht.within]
      exact ⟨false, rfl, by simp [hpath]⟩
    · have hback := ht.backInv hs (by omega)
      have hin : doubleStar ∈ t.patternLeft pattern := by
        rw [Window.patternLeft, between_cons hback.pattern_lt hback.first]
        exact List.mem_cons_self
      rw [accords_double_iff hin]
      exact compareBack_decides hback

end

theorem pathMatches_iff_accords (pattern path : Text) :
    pathMatches pattern path = true ↔
      Text.rooted pattern = Text.rooted path ∧
      Accords (Text.closed pattern) (Text.closed path) (Text.segments pattern) (Text.segments path) := by
  obtain ⟨answer, hresult, hanswer⟩ :=
    compareFront_decides pattern path (Text.segments pattern) (Text.segments path)
  rw [pathMatches, comparePath]
  by_cases he : Text.rooted pattern = Text.rooted path
  · rw [if_neg (by simp [he])]
    dsimp only
    rw [hresult, ← hanswer]
    simp [he]
  · rw [if_pos (bne_iff_ne.2 (Ne.symm he))]
    simp [he]

/-- **What a path pattern matches.** Both or neither of pattern and path begin with a slash. With a `**`, the pattern's
segments cover the path's segments. Without one, they do so and both or neither text ends with a slash, or the pattern's
last segment is a `*` that stands for the slash at the end of the path. -/
theorem pathMatches_iff (pattern path : Text) :
    pathMatches pattern path = true ↔
      Text.rooted pattern = Text.rooted path ∧
      (doubleStar ∈ Text.segments pattern → Covers (Text.segments pattern) (Text.segments path)) ∧
      (doubleStar ∉ Text.segments pattern →
        (Covers (Text.segments pattern) (Text.segments path) ∧ Text.closed pattern = Text.closed path) ∨
        ∃ front, Text.segments pattern = front ++ [['*']] ∧ Covers front (Text.segments path) ∧
          Text.closed path = true) := by
  rw [pathMatches_iff_accords, Accords]

end ResourceServer.Glob
