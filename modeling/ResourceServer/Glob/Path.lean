/-
Path patterns: segment patterns and `**`, which stands for any number of segments.

`Covers` says what a list of segment patterns matches. `pathMatches` decides it with a window of segments still to be
compared, of the pattern and of the path: `frontStep` narrows both from the front up to the first `**`, `backStep` from
the back down to the last `**`, and `runStep` takes, from the front, the segments between two `**` where they first fit.
Every position is looked up with its bounds checked, and `Verdict.outside` is the answer of a look-up that failed.

A pattern without `**` also has to agree with the path on the slash at the end; a last `*` is excused by a path's slash.
-/
import ResourceServer.Glob.Segment

namespace ResourceServer.Glob

/-- the segment pattern for any number of segments -/
def doubleStar : Text := ['*', '*']

/-- the segment patterns match the segments -/
inductive Covers : List Text → List Text → Prop where
  | nil : Covers [] []
  | double {pattern skipped path : List Text} : Covers pattern path → Covers (doubleStar :: pattern) (skipped ++ path)
  | one {p s : Text} {pattern path : List Text} : p ≠ doubleStar → segmentMatches p s = true → Covers pattern path →
      Covers (p :: pattern) (s :: path)

/-- the segments still to be compared: positions from `start` up to and without `stop` -/
structure Window where
  patternStart : Nat
  patternStop : Nat
  pathStart : Nat
  pathStop : Nat
  deriving DecidableEq, Repr

/-- how comparing ends -/
inductive Verdict where
  /-- the path matches or not -/
  | decided (answer : Bool)
  /-- a position outside of the segments was looked up -/
  | outside
  deriving DecidableEq, Repr

/-- what a loop over windows stops with: a verdict, or the window that the next one starts from -/
abbrev Pause := Verdict ⊕ Window

/-- whether nothing but `**` is left of the pattern -/
def onlyDouble (pattern : List Text) (w : Window) : Verdict :=
  if w.patternStop ≤ pattern.length then
    .decided (((pattern.take w.patternStop).drop w.patternStart).all (· == doubleStar))
  else .outside

/-- whether both the pattern and the path have segments left -/
def Window.bothLeft (w : Window) : Bool := w.patternStart < w.patternStop && w.pathStart < w.pathStop

/-! ## From the front, up to the first `**` -/

/-- compares the first segments and drops them -/
def frontStep (pattern path : List Text) (w : Window) : Window ⊕ Pause :=
  if w.bothLeft then
    match pattern[w.patternStart]?, path[w.pathStart]? with
    | some p, some s =>
      if p = doubleStar then .inr (.inr w)
      else if segmentMatches p s then .inl { w with patternStart := w.patternStart + 1, pathStart := w.pathStart + 1 }
      else .inr (.inl (.decided false))
    | _, _ => .inr (.inl .outside)
  else .inr (.inr w)

/-! ## From the back, down to the last `**` -/

/-- compares the last segments and drops them -/
def backStep (pattern path : List Text) (w : Window) : Window ⊕ Pause :=
  if w.bothLeft then
    match pattern[w.patternStop - 1]?, path[w.pathStop - 1]? with
    | some p, some s =>
      if p = doubleStar then .inr (.inr w)
      else if segmentMatches p s then .inl { w with patternStop := w.patternStop - 1, pathStop := w.pathStop - 1 }
      else .inr (.inl (.decided false))
    | _, _ => .inr (.inl .outside)
  else .inr (.inr w)

/-! ## The segments between two `**` -/

/-- the position of the first `**` behind the window's first segment, if there is one -/
def nextDouble? (pattern : List Text) (w : Window) : Option Nat :=
  (List.range' (w.patternStart + 1) (w.patternStop - (w.patternStart + 1))).find? fun i =>
    pattern[i]? == some doubleStar

/-- whether `length` segment patterns from one position match the segments from another; none outside of either -/
def runFits? (pattern path : List Text) (patternAt pathAt : Nat) : Nat → Option Bool
  | 0 => some true
  | length + 1 =>
    match pattern[patternAt]?, path[pathAt]? with
    | some p, some s =>
      if segmentMatches p s then runFits? pattern path (patternAt + 1) (pathAt + 1) length else some false
    | _, _ => none

/-- the first of the path positions where the run fits -/
def firstFit? (pattern path : List Text) (patternAt length : Nat) : List Nat → Option (Option Nat)
  | [] => some none
  | pathAt :: more =>
    match runFits? pattern path patternAt pathAt length with
    | none => none
    | some true => some (some pathAt)
    | some false => firstFit? pattern path patternAt length more

/-- takes the segments between the window's first `**` and the next one from the path -/
def runStep (pattern path : List Text) (w : Window) : Window ⊕ Pause :=
  if w.patternStart + 1 ≠ w.patternStop ∧ w.pathStart < w.pathStop then
    let next := (nextDouble? pattern w).getD (w.patternStop - 1)
    if next = w.patternStart + 1 then .inl { w with patternStart := w.patternStart + 1 }
    else
      let length := next - w.patternStart - 1
      let left := w.pathStop - w.pathStart
      match firstFit? pattern path (w.patternStart + 1) length (List.range' w.pathStart (left + 1 - length)) with
      | none => .inr (.inl .outside)
      | some none => .inr (.inl (.decided false))
      | some (some found) => .inl { w with patternStart := next, pathStart := found + length }
  else .inr (.inr w)

/-! ## The whole path -/

/-- the verdict once the front is compared and the path is used up -/
def exhausted (patternText pathText : Text) (pattern : List Text) (w : Window) : Verdict :=
  if w.patternStop ≤ w.patternStart then .decided (Text.closed patternText == Text.closed pathText)
  else
    match pattern[w.patternStart]? with
    | none => .outside
    | some p =>
      if w.patternStart + 1 = w.patternStop ∧ p = ['*'] ∧ Text.closed pathText then .decided true
      else onlyDouble pattern w

/-- goes through the segments between the `**` and decides -/
def compareRuns (pattern path : List Text) (w : Window) : Option Verdict :=
  match Loop.run (runStep pattern path) (pattern.length + 1) w with
  | none => none
  | some (.inl v) => some v
  | some (.inr w) => some (onlyDouble pattern w)

/-- goes on from the back and decides -/
def compareBack (pattern path : List Text) (w : Window) : Option Verdict :=
  match Loop.run (backStep pattern path) (pattern.length + 1) w with
  | none => none
  | some (.inl v) => some v
  | some (.inr w) => if w.pathStop ≤ w.pathStart then some (onlyDouble pattern w) else compareRuns pattern path w

/-- goes on from the front and decides; none if a loop does not come to an end -/
def compareFront (patternText pathText : Text) (pattern path : List Text) (w : Window) : Option Verdict :=
  match Loop.run (frontStep pattern path) (pattern.length + 1) w with
  | none => none
  | some (.inl v) => some v
  | some (.inr w) =>
    if w.pathStop ≤ w.pathStart then some (exhausted patternText pathText pattern w)
    else if w.patternStop ≤ w.patternStart then some (.decided false)
    else compareBack pattern path w

/-- the window over all segments -/
def Window.whole (pattern path : List Text) : Window := ⟨0, pattern.length, 0, path.length⟩

/-- compares a path pattern with a path -/
def comparePath (pattern path : Text) : Option Verdict :=
  if Text.rooted path != Text.rooted pattern then some (.decided false)
  else
    let ps := Text.segments pattern
    let ss := Text.segments path
    compareFront pattern path ps ss (Window.whole ps ss)

/-- whether the path pattern matches the path -/
def pathMatches (pattern path : Text) : Bool := comparePath pattern path == some (.decided true)

/-! ## Patterns and the part of a path they leave open -/

/-- whether the text has wildcards or variables -/
def isPattern (t : Text) : Bool := t.contains '*' || t.contains '?' || t.contains '\x7b'

/-- whether a segment pattern has a wildcard; variables do not count -/
def hasWildcard (p : Text) : Bool := p.contains '*' || p.contains '?'

/-- the segments of the path from the pattern's first wildcard segment on, joined by slashes; a pattern that is not
rooted keeps the slash in front of the first segment. Empty for a pattern without a wildcard segment. -/
def pathWithin (pattern path : Text) : Text :=
  let ps := Text.segments pattern
  match ps.findIdx? hasWildcard with
  | none => []
  | some start =>
    let rest := Text.join ['/'] ((Text.segments path).drop start)
    if start = 0 && !Text.rooted pattern && !(Text.segments path).isEmpty then '/' :: rest else rest

end ResourceServer.Glob
