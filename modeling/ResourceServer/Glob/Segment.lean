/-
One segment of a path pattern.

A segment pattern is compiled to elements: a character stands for itself, `?` for any one character, `*` and a variable
`{name}` for any run of characters; neighbouring runs are one run. `Element.Accepts` is the language of a list of
elements. `segmentMatches` decides it by scanning the text once, going back to the last run only when it gets stuck; the
scan is the loop `Scan.step` over positions in the elements and in the text.
-/
import ResourceServer.Text
import ResourceServer.Loop

namespace ResourceServer.Glob

/-- an element of a segment pattern -/
inductive Element where
  /-- the character itself -/
  | char (c : Char)
  /-- any one character -/
  | anyOne
  /-- any run of characters, also the empty one -/
  | anyRun
  deriving DecidableEq, Repr

/-- the elements accept the text -/
inductive Element.Accepts : List Element → Text → Prop where
  | nil : Accepts [] []
  | char {c : Char} {es : List Element} {t : Text} : Accepts es t → Accepts (.char c :: es) (c :: t)
  | anyOne {c : Char} {es : List Element} {t : Text} : Accepts es t → Accepts (.anyOne :: es) (c :: t)
  | anyRun {es : List Element} {run t : Text} : Accepts es t → Accepts (.anyRun :: es) (run ++ t)

/-! ## Compilation -/

/-- the elements of the rest of a segment. Behind a run no second one is added; inside a variable, up to its closing
brace, nothing counts. -/
def Element.compileFrom : (behindRun inside : Bool) → Text → List Element
  | _, _, [] => []
  | behindRun, true, c :: rest => compileFrom behindRun (c != '}') rest
  | behindRun, false, c :: rest =>
    if c = '*' ∨ c = '\x7b' then (if behindRun then [] else [.anyRun]) ++ compileFrom true (c == '\x7b') rest
    else if c = '?' then .anyOne :: compileFrom false false rest
    else .char c :: compileFrom false false rest

/-- the elements of a segment pattern -/
def Element.compile (pattern : Text) : List Element := compileFrom false false pattern

/-! ## Scanning -/

/-- a position in the elements and one in the text, and the last run with the text position it was last tried from -/
structure Scan where
  element : Nat
  text : Nat
  lastRun : Option (Nat × Nat)
  deriving DecidableEq, Repr

/-- goes back to the last run and lets it take one more character; stuck without one -/
def Scan.back (s : Scan) : Scan ⊕ Option Nat :=
  match s.lastRun with
  | some (element, text) => .inl ⟨element + 1, text + 1, some (element, text + 1)⟩
  | none => .inr none

/-- one step of the scan; it stops with the element position at the end of the text, or with none when stuck -/
def Scan.step (elements : Array Element) (text : Array Char) (s : Scan) : Scan ⊕ Option Nat :=
  match text[s.text]? with
  | none => .inr (some s.element)
  | some c =>
    match elements[s.element]? with
    | some (.char e) => if e = c then .inl ⟨s.element + 1, s.text + 1, s.lastRun⟩ else s.back
    | some .anyOne => .inl ⟨s.element + 1, s.text + 1, s.lastRun⟩
    | some .anyRun => .inl ⟨s.element + 1, s.text, some (s.element, s.text)⟩
    | none => s.back

/-- more steps than a scan takes: each run is tried from each text position, and then passes each element -/
def Scan.bound (elements : Array Element) (text : Array Char) : Nat :=
  (elements.size + 2) * (text.size + 2) * (elements.size + 2)

/-- whether the elements accept the text, by scanning -/
def scanMatches (elements : List Element) (text : Text) : Bool :=
  let (es, cs) := (elements.toArray, text.toArray)
  match Loop.run (Scan.step es cs) (Scan.bound es cs) ⟨0, 0, none⟩ with
  | some (some position) => (elements.drop position).all (· == .anyRun)
  | _ => false

/-- whether a segment pattern matches a segment; a segment always matches itself -/
def segmentMatches (pattern segment : Text) : Bool :=
  pattern == segment || scanMatches (Element.compile pattern) segment

end ResourceServer.Glob
