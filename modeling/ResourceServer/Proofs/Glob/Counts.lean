/-
What the counts of a pattern are, read off the parts it is written of.

Counting is one scan that looks one character ahead at a star and is inside of a variable or not. Parts fall into rows
of stars with other parts between them. A row is counted two stars at a time, and what follows it takes no part in
this, since it does not begin with a star. So the rows are counted one by one, each by its own length.
- `rowsInduction`: induction on the rows.
- `count_stars`, `count_text`: what a row and what another part add to the counts of the rest.
- `count_spelling`: the scan gives the tally of the parts.
- `of_spelling`: a variable counts once and as one character, and a row of `n` stars is `n / 2` double ones and `n % 2`
  single ones, whatever the names of the variables hold.
-/
import Mathlib.Tactic
import ResourceServer.Glob.Specificity

namespace ResourceServer.Glob.Specificity

/-! ## Patterns in parts -/

/-- a part of a pattern -/
inductive Part where
  /-- a variable in braces; its name has none -/
  | var (name : Text) (braceless : '\x7b' ∉ name ∧ '\x7d' ∉ name)
  | star
  /-- any other character that does not begin a variable -/
  | plain (c : Char) (other : c ≠ '*' ∧ c ≠ '\x7b')
  deriving DecidableEq

/-- whether the part is a variable -/
def Part.isVar : Part → Bool
  | .var _ _ => true
  | _ => false

/-- the part as it is written -/
def Part.text : Part → Text
  | .var name _ => '\x7b' :: (name ++ ['\x7d'])
  | .star => ['*']
  | .plain c _ => [c]

/-- the parts as they are written, one after the other -/
def spelling (parts : List Part) : Text := parts.flatMap Part.text

/-- the lengths of the rows of stars, each as long as it can be -/
def starRows (parts : List Part) : List ℕ := ((parts.splitOnP (· ≠ .star)).filter (· ≠ [])).map List.length

/-- the counts of the parts: a variable is one character, and a row of stars is doubled up from its front -/
def tally (parts : List Part) : Counts where
  variableCount := parts.countP Part.isVar
  singleStars := ((starRows parts).map (· % 2)).sum
  doubleStars := ((starRows parts).map (· / 2)).sum
  length := parts.length

section

variable {p : Part}

/-! ## Rows -/

/-- parts are a row of stars, or a row, a part that is no star, and more parts -/
@[elab_as_elim]
theorem rowsInduction {motive : List Part → Prop} (row : ∀ n, motive (List.replicate n .star))
    (behind : ∀ n p rest, p ≠ .star → motive rest → motive (List.replicate n .star ++ p :: rest))
    (parts : List Part) : motive parts := by
  -- with the stars in front that are not counted yet
  suffices h : ∀ n, motive (List.replicate n .star ++ parts) from h 0
  induction parts with
  | nil =>
    intro n
    rw [List.append_nil]
    exact row n
  | cons p rest ih =>
    intro n
    by_cases hp : p = .star
    · subst hp
      have hmore : List.replicate n Part.star ++ .star :: rest = List.replicate (n + 1) .star ++ rest := by
        rw [List.replicate_succ', List.append_assoc, List.singleton_append]
      rw [hmore]
      exact ih (n + 1)
    · exact behind n p rest hp (ih 0)

/-- a row of no stars is none -/
def rowOf (n : ℕ) : List ℕ := [n].filter (· ≠ 0)

theorem sum_map_rowOf (f : ℕ → ℕ) (hf : f 0 = 0) (n : ℕ) : ((rowOf n).map f).sum = f n := by
  cases n with
  | zero => exact hf.symm
  | succ n => exact Nat.add_zero _

theorem stars_unsplit (n : ℕ) : ∀ q ∈ List.replicate n Part.star, decide (q ≠ .star) = false :=
  List.forall_mem_replicate.2 (.inr rfl)

theorem starRows_replicate (n : ℕ) : starRows (List.replicate n .star) = rowOf n := by
  rw [starRows, List.splitOnP_eq_singleton (stars_unsplit n)]
  cases n <;> simp [rowOf]

theorem starRows_append (hp : p ≠ .star) (n : ℕ) (rest : List Part) :
    starRows (List.replicate n .star ++ p :: rest) = rowOf n ++ starRows rest := by
  rw [starRows, List.splitOnP_append_cons_of_forall_mem (stars_unsplit n) p (decide_eq_true hp)]
  cases n <;> simp [starRows, rowOf]

/-- every star is in one row -/
theorem sum_starRows (parts : List Part) : (starRows parts).sum = parts.count .star := by
  have hrow : ∀ n, (rowOf n).sum = n := fun n => by simpa using sum_map_rowOf id rfl n
  induction parts using rowsInduction with
  | row n => rw [starRows_replicate, hrow, List.count_replicate_self]
  | behind n p rest hp ih =>
    rw [starRows_append hp, List.sum_append, hrow, ih, List.count_append, List.count_replicate_self,
      List.count_cons_of_ne hp]

/-! ## The tally, row by row -/

theorem Counts.add_assoc (a b c : Counts) : (a.add b).add c = a.add (b.add c) := by
  simp [Counts.add, Nat.add_assoc]

/-- what a row of `n` stars counts -/
def rowCounts (n : ℕ) : Counts := ⟨0, n % 2, n / 2, n⟩

/-- what a part that is no star counts -/
def Part.counts (p : Part) : Counts := ⟨if p.isVar then 1 else 0, 0, 0, 1⟩

theorem countP_isVar_replicate (n : ℕ) : (List.replicate n Part.star).countP Part.isVar = 0 := by
  rw [List.countP_replicate]
  rfl

theorem tally_replicate (n : ℕ) : tally (List.replicate n .star) = rowCounts n := by
  rw [tally, starRows_replicate, sum_map_rowOf _ rfl, sum_map_rowOf _ rfl, countP_isVar_replicate,
    List.length_replicate]
  rfl

theorem tally_append (hp : p ≠ .star) (n : ℕ) (rest : List Part) :
    tally (List.replicate n .star ++ p :: rest) = (rowCounts n).add (p.counts.add (tally rest)) := by
  rw [tally, starRows_append hp, List.map_append, List.map_append, List.sum_append, List.sum_append,
    sum_map_rowOf _ rfl, sum_map_rowOf _ rfl, List.countP_append, countP_isVar_replicate, List.countP_cons,
    List.length_append, List.length_replicate, List.length_cons]
  simp [Counts.add, rowCounts, Part.counts, tally, Nat.add_comm]

end

/-! ## The scan, row by row -/

section

variable {t name : Text} {c : Char} {p : Part}

/-- a character that begins neither a variable nor a row of stars counts as one -/
theorem count_plain (hstar : c ≠ '*') (hopen : c ≠ '\x7b') (t : Text) :
    count false (c :: t) = Counts.add ⟨0, 0, 0, 1⟩ (count false t) := by
  rw [count]
  · exact hopen
  · exact fun _ e => absurd e hstar
  · exact hstar

/-- inside of a variable nothing counts up to the closing brace -/
theorem count_name (hname : '\x7b' ∉ name ∧ '\x7d' ∉ name) (t : Text) :
    count true (name ++ '\x7d' :: t) = Counts.add ⟨0, 0, 0, 1⟩ (count false t) := by
  induction name with
  | nil => rw [List.nil_append, count]
  | cons c name ih =>
    obtain ⟨hopen, hclose⟩ := hname
    rw [List.mem_cons, not_or] at hopen hclose
    rw [List.cons_append, count, ih ⟨hopen.2, hclose.2⟩]
    · exact fun e => hopen.1 e.symm
    · exact fun e => hclose.1 e.symm

/-- a part that is no star is counted by itself -/
theorem count_text (hp : p ≠ .star) (t : Text) : count false (p.text ++ t) = p.counts.add (count false t) := by
  cases p with
  | var name hname =>
    rw [Part.text, List.cons_append, List.append_assoc, List.singleton_append, count, count_name hname,
      ← Counts.add_assoc]
    rfl
  | star => exact absurd rfl hp
  | plain c hc => exact count_plain hc.1 hc.2 t

theorem head?_text (hp : p ≠ .star) (t : Text) : (p.text ++ t).head? ≠ some '*' := by
  cases p with
  | var name hname => simp [Part.text]
  | star => exact absurd rfl hp
  | plain c hc => simpa [Part.text] using hc.1

/-- a row of stars is counted by itself if no star follows it -/
theorem count_stars (ht : t.head? ≠ some '*') (n : ℕ) :
    count false (List.replicate n '*' ++ t) = (rowCounts n).add (count false t) := by
  induction n using Nat.twoStepInduction with
  | zero => simp [rowCounts, Counts.add]
  | one =>
    rw [List.replicate_one, List.singleton_append, count]
    · rfl
    · rintro rest rfl
      exact ht rfl
  | more n ih _ =>
    have hmore : rowCounts (n + 2) = Counts.add ⟨0, 0, 1, 2⟩ (rowCounts n) := by
      simp only [rowCounts, Counts.add, Counts.mk.injEq]
      refine ⟨trivial, ?_, ?_, ?_⟩ <;> omega
    rw [List.replicate_succ, List.replicate_succ, List.cons_append, List.cons_append, count, ih, hmore,
      Counts.add_assoc]

theorem spelling_replicate (n : ℕ) : spelling (List.replicate n .star) = List.replicate n '*' := by
  induction n with
  | zero => rfl
  | succ n ih => rw [List.replicate_succ, List.replicate_succ, ← ih]; rfl

/-- **Counting follows the parts**: the scan gives their tally -/
theorem count_spelling (parts : List Part) : count false (spelling parts) = tally parts := by
  induction parts using rowsInduction with
  | row n =>
    rw [tally_replicate, spelling_replicate, ← List.append_nil (List.replicate n '*'), count_stars (by simp)]
    rfl
  | behind n p rest hp ih =>
    have hspelling : spelling (List.replicate n .star ++ p :: rest) =
        List.replicate n '*' ++ (p.text ++ spelling rest) := by
      rw [spelling, List.flatMap_append, List.flatMap_cons]
      exact congrArg (· ++ _) (spelling_replicate n)
    rw [hspelling, count_stars (head?_text hp _), count_text hp, ih, tally_append hp]

end

/-- **The counts of a pattern in parts.** There are as many variables as are written, the length is the number of parts,
and each longest row of `n` stars counts as `n / 2` double stars and, where one is left, a single one. So the stars that
are counted are those between the other parts; what the names of variables hold makes no difference. -/
theorem of_spelling (parts : List Part) :
    (of (spelling parts)).variableCount = parts.countP Part.isVar ∧
    (of (spelling parts)).length = parts.length ∧
    (of (spelling parts)).doubleStars = ((starRows parts).map (· / 2)).sum ∧
    (of (spelling parts)).singleStars = ((starRows parts).map (· % 2)).sum ∧
    2 * (of (spelling parts)).doubleStars + (of (spelling parts)).singleStars = parts.count .star := by
  have hcounts := count_spelling parts
  have htotal : 2 * ((starRows parts).map (· / 2)).sum + ((starRows parts).map (· % 2)).sum = parts.count .star := by
    rw [← sum_starRows, ← List.sum_map_mul_left, ← List.sum_map_add]
    simp only [Nat.div_add_mod, List.map_id']
  simp only [of, hcounts]
  exact ⟨rfl, rfl, rfl, rfl, htotal⟩

/-- three stars behind a variable that has stars in its name -/
example : spelling [.plain '/' (by decide), .var "a**".toList (by decide), .star, .star, .star] =
      "/\x7ba**\x7d***".toList ∧
    count false "/\x7ba**\x7d***".toList = ⟨1, 1, 1, 5⟩ := by decide

end ResourceServer.Glob.Specificity
