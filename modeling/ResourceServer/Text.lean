/-
Text as the server sees it: a list of characters, cut at separators, trimmed, searched and ordered.

Paths are `/`-separated. `pieces` keeps empty pieces, `segments` drops them, so `/a//b/` has the segments `a` and `b`.
White space is the Unicode property `White_Space`: the ASCII blanks and separators and the fixed-width spaces of all
scripts. Texts are ordered by character codes, which is the order of their UTF-8 bytes.
- `trimmed_trim`, `trim_of_trimmed`: `trim` gives just the texts without white space at their ends.
- `order_eq_iff`, `order_gt_iff`, `order_lt_trans`: the order is a strict linear one; the instances say so to the laws
  of comparisons.
- `lookup_cons`, `mem_of_lookup`, `lookup_eq_none_iff`: in a list of named values the first entry of a name counts.
-/
namespace ResourceServer

/-- a text is its list of characters -/
abbrev Text := List Char

namespace Text

/-! ## Cutting and joining -/

/-- the pieces between the characters that satisfy `cut`; empty pieces are kept, so there is always one -/
def piecesBy (cut : Char → Bool) : Text → List Text
  | [] => [[]]
  | c :: rest =>
    if cut c then [] :: piecesBy cut rest
    else match piecesBy cut rest with
      | [] => [[c]]
      | piece :: more => (c :: piece) :: more

/-- the pieces between the slashes -/
def pieces (t : Text) : List Text := piecesBy (· == '/') t

/-- the non-empty pieces between the slashes -/
def segments (t : Text) : List Text := (pieces t).filter (fun s => !s.isEmpty)

/-- the texts one after the other, `glue` between any two of them -/
def join (glue : Text) : List Text → Text
  | [] => []
  | [t] => t
  | t :: more => t ++ glue ++ join glue more

/-- whether the text begins with a slash -/
def rooted : Text → Bool
  | '/' :: _ => true
  | _ => false

/-- whether the text ends with a slash -/
def closed (t : Text) : Bool := t.getLast? == some '/'

/-- the text without the slashes at its front -/
def trimSlashes (t : Text) : Text := t.dropWhile (· == '/')

/-- the text with a slash put in front unless it has one -/
def rootedForm (t : Text) : Text := if rooted t then t else '/' :: t

theorem rooted_rootedForm (t : Text) : rooted (rootedForm t) = true := by
  rw [rootedForm]
  split
  · assumption
  · rfl

theorem rootedForm_of_rooted {t : Text} (h : rooted t = true) : rootedForm t = t := if_pos h

/-! ## White space -/

/-- the ranges of the property `White_Space`, ends included -/
def blankRanges : List (Nat × Nat) :=
  [(0x09, 0x0D), (0x20, 0x20), (0x85, 0x85), (0xA0, 0xA0), (0x1680, 0x1680), (0x2000, 0x200A),
   (0x2028, 0x2029), (0x202F, 0x202F), (0x205F, 0x205F), (0x3000, 0x3000)]

/-- whether the character is white space -/
def isBlank (c : Char) : Bool := blankRanges.any fun (low, high) => low ≤ c.toNat && c.toNat ≤ high

/-- the text without white space at either end -/
def trim (t : Text) : Text := ((t.dropWhile isBlank).reverse.dropWhile isBlank).reverse

/-- there is no white space at either end -/
structure Trimmed (t : Text) : Prop where
  front : ∀ c, t.head? = some c → isBlank c = false
  back : ∀ c, t.getLast? = some c → isBlank c = false

theorem dropWhile_of_head? {p : Char → Bool} {t : Text} (h : ∀ c, t.head? = some c → p c = false) :
    t.dropWhile p = t := by
  cases t with
  | nil => rfl
  | cons c t => simp [h c rfl]

theorem head?_dropWhile {p : Char → Bool} {t : Text} {c : Char} (h : (t.dropWhile p).head? = some c) : p c = false := by
  have hfirst := List.head?_dropWhile_not p t
  rwa [h] at hfirst

theorem trim_of_trimmed {t : Text} (h : Trimmed t) : trim t = t := by
  have hback : ∀ c, t.reverse.head? = some c → isBlank c = false := by simpa using h.back
  rw [trim, dropWhile_of_head? h.front, dropWhile_of_head? hback, List.reverse_reverse]

theorem trimmed_trim (t : Text) : Trimmed (trim t) where
  front c hc := by
    -- what is cut off at the back leaves the first character as it is
    have hprefix : trim t <+: t.dropWhile isBlank := by
      rw [trim, ← List.reverse_suffix, List.reverse_reverse]
      exact List.dropWhile_suffix isBlank
    obtain ⟨rest, hrest⟩ := hprefix
    refine head?_dropWhile (t := t) ?_
    rw [← hrest, List.head?_append, hc, Option.some_or]
  back c hc := by
    rw [trim, List.getLast?_reverse] at hc
    exact head?_dropWhile hc

theorem Trimmed.rootedForm {t : Text} (h : Trimmed t) : Trimmed (rootedForm t) := by
  rw [Text.rootedForm]
  split
  · exact h
  · constructor
    · rintro c ⟨⟩
      rfl
    · cases t with
      | nil => rintro c ⟨⟩; rfl
      | cons d t => exact h.back

/-! ## Searching -/

/-- what follows `front` at the front of the text -/
def afterFront? (front t : Text) : Option Text := front.isPrefixOf? t

/-- what precedes `back` at the end of the text -/
def beforeBack? (back t : Text) : Option Text := back.isSuffixOf? t

/-- what precedes the first occurrence of `needle` -/
def beforeFirst? (needle : Text) : Text → Option Text
  | [] => if needle.isEmpty then some [] else none
  | c :: rest =>
    if needle.isPrefixOf (c :: rest) then some []
    else (beforeFirst? needle rest).map (c :: ·)

/-! ## Numbers -/

/-- the digits of a number -/
def ofNat (n : Nat) : Text := Nat.toDigits 10 n

/-- the number that decimal digits stand for -/
def digitsValue (digits : Text) : Nat := digits.foldl (fun n c => n * 10 + (c.toNat - '0'.toNat)) 0

/-- the number that a text stands for: digits, with at most a plus sign before them; none where it is not below a
limit -/
def natBelow? (limit : Nat) (t : Text) : Option Nat :=
  let digits := (afterFront? ['+'] t).getD t
  if digits.isEmpty || !digits.all Char.isDigit then none
  else if digitsValue digits < limit then some (digitsValue digits)
  else none

/-! ## Order -/

/-- order by character codes, from the front -/
def order : Text → Text → Ordering
  | [], [] => .eq
  | [], _ :: _ => .lt
  | _ :: _, [] => .gt
  | a :: s, b :: t => (compare a.toNat b.toNat).then (order s t)

/-- whether one text may stand before the other -/
def atMost (s t : Text) : Bool := (order s t).isLE

theorem order_eq_swap (s t : Text) : order s t = (order t s).swap := by
  induction s generalizing t with
  | nil => cases t <;> rfl
  | cons a s ih =>
    cases t with
    | nil => rfl
    | cons b t => rw [order, order, Ordering.swap_then, ← ih, Std.OrientedOrd.eq_swap]

theorem order_eq_iff {s t : Text} : order s t = .eq ↔ s = t := by
  induction s generalizing t with
  | nil => cases t <;> simp [order]
  | cons a s ih =>
    cases t with
    | nil => simp [order]
    | cons b t => rw [order, Ordering.then_eq_eq, Nat.compare_eq_eq, Char.toNat_inj, ih, List.cons.injEq]

theorem order_self (s : Text) : order s s = .eq := order_eq_iff.2 rfl

theorem order_gt_iff {s t : Text} : order s t = .gt ↔ order t s = .lt := by
  rw [order_eq_swap, Ordering.swap_eq_gt]

theorem order_lt_trans {s t u : Text} (h₁ : order s t = .lt) (h₂ : order t u = .lt) : order s u = .lt := by
  induction s generalizing t u with
  | nil =>
    cases u with
    | nil => cases t <;> cases h₂
    | cons c u => rfl
  | cons a s ih =>
    cases t with
    | nil => cases h₁
    | cons b t =>
      cases u with
      | nil => cases h₂
      | cons c u =>
        rw [order, Ordering.then_eq_lt, Nat.compare_eq_lt, Nat.compare_eq_eq] at h₁ h₂ ⊢
        rcases h₁ with h₁ | ⟨e₁, h₁⟩ <;> rcases h₂ with h₂ | ⟨e₂, h₂⟩
        · exact .inl (Nat.lt_trans h₁ h₂)
        · exact .inl (e₂ ▸ h₁)
        · exact .inl (e₁ ▸ h₂)
        · exact .inr ⟨e₁.trans e₂, ih h₁ h₂⟩

instance : Std.TransCmp order where
  eq_swap := order_eq_swap _ _
  isLE_trans {s t u} h₁ h₂ := by
    rw [Ordering.isLE_iff_eq_lt_or_eq_eq, order_eq_iff] at h₁ h₂ ⊢
    rcases h₁ with h₁ | rfl
    · rcases h₂ with h₂ | rfl
      · exact .inl (order_lt_trans h₁ h₂)
      · exact .inl h₁
    · exact h₂

instance : Std.LawfulEqCmp order where
  compare_self := order_self _
  eq_of_compare := order_eq_iff.1

/-! ## Values by name -/

section

variable {κ α : Type} [BEq κ] [LawfulBEq κ] {entries : List (κ × α)} {name : κ}

theorem lookup_cons [DecidableEq κ] (x : κ × α) (entries : List (κ × α)) (name : κ) :
    (x :: entries).lookup name = if name = x.1 then some x.2 else entries.lookup name := by
  rw [List.lookup_cons]
  by_cases h : name = x.1
  · rw [if_pos h, beq_iff_eq.2 h]
  · rw [if_neg h, beq_eq_false_iff_ne.2 h]

theorem mem_of_lookup {x : α} (h : entries.lookup name = some x) : (name, x) ∈ entries := by
  obtain ⟨before, after, rfl, -⟩ := List.lookup_eq_some_iff.1 h
  exact List.mem_append_right _ List.mem_cons_self

theorem lookup_eq_none_iff : entries.lookup name = none ↔ ∀ e ∈ entries, e.1 ≠ name := by
  rw [List.lookup_eq_none_iff]
  refine forall₂_congr fun e _ => ?_
  rw [bne_iff_ne, ne_comm]

theorem lookup_concat [DecidableEq κ] (entries : List (κ × α)) (x : κ × α) (name : κ) :
    (entries ++ [x]).lookup name = (entries.lookup name).or (if name = x.1 then some x.2 else none) := by
  rw [List.lookup_append, lookup_cons, List.lookup_nil]

end

end Text

end ResourceServer
