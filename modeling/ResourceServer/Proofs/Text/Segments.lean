/-
Rooted paths and their segments.

`Neat` paths begin with one slash, never have two in a row and do not end with one. `Neat.eq_join`: such a path is given
by its segments, and its end from any segment on is a text of it. Slashes at the end of a text add no segment, and
nothing else adds none (`segments_append_slashes`, `eq_slashes_of_segments_append`).
-/
import ResourceServer.Proofs.Text.Pieces
import ResourceServer.Text

namespace ResourceServer.Text

/-- two slashes in a row occur -/
def Doubled (t : Text) : Prop := ['/', '/'] <:+: t

instance (t : Text) : Decidable (Doubled t) := inferInstanceAs (Decidable (['/', '/'] <:+: t))

/-- paths that begin with a slash, have no two in a row and do not end with one -/
structure Neat (t : Text) : Prop where
  rooted : rooted t = true
  single : ¬ Doubled t
  not_closed : closed t = false

instance (t : Text) : Decidable (Neat t) :=
  decidable_of_iff (Text.rooted t = true ∧ ¬ Doubled t ∧ closed t = false)
    ⟨fun h => ⟨h.1, h.2.1, h.2.2⟩, fun h => ⟨h.rooted, h.single, h.not_closed⟩⟩

variable {t u : Text} {c : Char}

theorem rooted_iff : rooted t = true ↔ ∃ rest, t = '/' :: rest := by
  cases t with
  | nil => simp [rooted]
  | cons c rest =>
    by_cases hc : c = '/'
    · subst hc; simp [rooted]
    · have : rooted (c :: rest) = false := by
        rw [rooted]
        rintro rest' he
        exact hc (List.cons.inj he).1
      simp [this, hc]

theorem rooted_cons (c : Char) (t : Text) : rooted (c :: t) = (c == '/') := by
  rw [Bool.eq_iff_iff, rooted_iff, beq_iff_eq]
  simp

theorem doubled_cons_iff : Doubled (c :: t) ↔ (c = '/' ∧ rooted t = true) ∨ Doubled t := by
  have hslash : ['/'] <+: t ↔ rooted t = true := by
    rw [rooted_iff]
    exact exists_congr fun rest => eq_comm
  rw [Doubled, List.infix_cons_iff, List.cons_prefix_cons, hslash, eq_comm]
  rfl

theorem Doubled.of_suffix (h : Doubled t) (htu : t <:+ u) : Doubled u := h.trans htu.isInfix

theorem Doubled.cons (c : Char) (h : Doubled t) : Doubled (c :: t) := h.of_suffix (List.suffix_cons c t)

theorem closed_cons (h : t ≠ []) (c : Char) : closed (c :: t) = closed t := by
  rw [closed, closed, List.getLast?_cons_of_ne_nil h]

/-! ## Pieces between slashes -/

theorem pieces_slash (t : Text) : pieces ('/' :: t) = [] :: pieces t := piecesBy_cons_cut rfl t

theorem exists_pieces (t : Text) : ∃ piece more, pieces t = piece :: more :=
  List.exists_cons_of_ne_nil (piecesBy_ne_nil _ t)

theorem pieces_cons {piece : Text} {more : List Text} (hc : c ≠ '/') (ht : pieces t = piece :: more) :
    pieces (c :: t) = (c :: piece) :: more := piecesBy_cons (by simpa using hc) ht

/-- a slash between two texts parts their pieces -/
theorem pieces_glue (t u : Text) : pieces (t ++ '/' :: u) = pieces t ++ pieces u := by
  induction t with
  | nil => exact pieces_slash u
  | cons c t ih =>
    obtain ⟨piece, more, ht⟩ := exists_pieces t
    rw [List.cons_append]
    by_cases hc : c = '/'
    · subst hc
      rw [pieces_slash, pieces_slash, ih, List.cons_append]
    · rw [ht, List.cons_append] at ih
      rw [pieces_cons hc ih, pieces_cons hc ht, List.cons_append]

theorem pieces_of_not_slash {s : Text} (hs : '/' ∉ s) : pieces s = [s] := by
  induction s with
  | nil => rfl
  | cons c s ih =>
    rw [List.mem_cons, not_or] at hs
    exact pieces_cons (Ne.symm hs.1) (ih hs.2)

theorem pieces_append_slash {s : Text} (hs : '/' ∉ s) (t : Text) : pieces (s ++ '/' :: t) = s :: pieces t := by
  rw [pieces_glue, pieces_of_not_slash hs, List.singleton_append]

theorem segments_slash (t : Text) : segments ('/' :: t) = segments t := by
  rw [segments, pieces_slash, List.filter_cons_of_neg (by simp), ← segments]

theorem segments_append_slash {s : Text} (hs : s ≠ [] ∧ '/' ∉ s) (t : Text) :
    segments (s ++ '/' :: t) = s :: segments t := by
  rw [segments, pieces_append_slash hs.2, List.filter_cons_of_pos (by simpa using hs.1), ← segments]

theorem proper_of_mem_segments {s : Text} (h : s ∈ segments t) : s ≠ [] ∧ '/' ∉ s := by
  obtain ⟨hs, hne⟩ := List.mem_filter.1 h
  exact ⟨by simpa using hne, not_slash_of_mem_pieces hs⟩

/-! ## Joining -/

theorem join_cons_of_ne_nil {glue : Text} {ts : List Text} (h : ts ≠ []) (t : Text) :
    join glue (t :: ts) = t ++ glue ++ join glue ts := by
  cases ts with
  | nil => exact absurd rfl h
  | cons _ _ => rfl

theorem join_cons_cons (glue piece : Text) (c : Char) (more : List Text) :
    join glue ((c :: piece) :: more) = c :: join glue (piece :: more) := by
  cases more <;> rfl

theorem join_pieces (t : Text) : join ['/'] (pieces t) = t := by
  induction t with
  | nil => rfl
  | cons c t ih =>
    obtain ⟨piece, more, ht⟩ := exists_pieces t
    rw [ht] at ih
    by_cases hc : c = '/'
    · subst hc
      rw [pieces_slash, ht, join_cons_of_ne_nil (List.cons_ne_nil _ _), ih]
      rfl
    · rw [pieces_cons hc ht, join_cons_cons, ih]

theorem join_drop_suffix (glue : Text) (ts : List Text) (n : ℕ) : join glue (ts.drop n) <:+ join glue ts := by
  induction ts generalizing n with
  | nil => simp
  | cons t ts ih =>
    cases n with
    | zero => exact List.suffix_refl _
    | succ n =>
      rw [List.drop_succ_cons]
      by_cases h : ts = []
      · subst h
        simp [join]
      · rw [join_cons_of_ne_nil h]
        exact (ih n).trans (List.suffix_append _ _)

theorem trimSlashes_join {ts : List Text} (h : ∀ s ∈ ts, s ≠ [] ∧ '/' ∉ s) :
    trimSlashes (join ['/'] ts) = join ['/'] ts := by
  cases ts with
  | nil => rfl
  | cons s more =>
    obtain ⟨hne, hslash⟩ := h s List.mem_cons_self
    obtain ⟨c, s, rfl⟩ := List.exists_cons_of_ne_nil hne
    have hc : c ≠ '/' := fun e => hslash (e ▸ List.mem_cons_self)
    rw [join_cons_cons, trimSlashes, List.dropWhile_cons_of_neg (by simpa using hc)]

theorem rooted_of_trimSlashes_eq (h : trimSlashes t = t) : rooted t = false := by
  rw [Bool.eq_false_iff]
  intro hrooted
  obtain ⟨rest, rfl⟩ := rooted_iff.1 hrooted
  have hdrop : trimSlashes ('/' :: rest) = trimSlashes rest := rfl
  have hle : (trimSlashes rest).length ≤ rest.length := (List.dropWhile_suffix _).length_le
  have hlength := congrArg List.length h
  rw [hdrop, List.length_cons] at hlength
  omega

/-! ## Neat paths -/

/-- behind the first piece, an empty one comes of two slashes in a row or of one at the end -/
theorem nonempty_of_mem_tail (hsingle : ¬ Doubled t) (hclosed : closed t = false) :
    ∀ piece ∈ (pieces t).tail, piece ≠ [] := by
  induction t with
  | nil => simp [pieces, piecesBy]
  | cons c t ih =>
    obtain ⟨first, more, ht⟩ := exists_pieces t
    have htail : ∀ piece ∈ more, piece ≠ [] := by
      have hclosed' : closed t = false := by
        by_cases hnil : t = []
        · rw [hnil]; rfl
        · rwa [closed_cons hnil] at hclosed
      have := ih (fun h => hsingle (h.cons c)) hclosed'
      rwa [ht] at this
    by_cases hc : c = '/'
    · subst hc
      cases t with
      | nil => cases hclosed
      | cons d t =>
        have hd : d ≠ '/' := by
          rintro rfl
          exact hsingle ⟨[], t, rfl⟩
        obtain ⟨piece, more', ht'⟩ := exists_pieces t
        rw [pieces_cons hd ht', List.cons.injEq] at ht
        rw [pieces_slash, pieces_cons hd ht', List.tail_cons]
        intro p hp
        rcases List.mem_cons.1 hp with rfl | hp
        · exact List.cons_ne_nil _ _
        · exact htail p (ht.2 ▸ hp)
    · rw [pieces_cons hc ht]
      exact htail

theorem Neat.pieces_eq (h : Neat t) : pieces t = [] :: segments t := by
  obtain ⟨rest, rfl⟩ := rooted_iff.1 h.rooted
  have htail := nonempty_of_mem_tail h.single h.not_closed
  rw [pieces_slash, List.tail_cons] at htail
  have hall : (pieces rest).filter (fun s => !s.isEmpty) = pieces rest :=
    List.filter_eq_self.2 fun s hs => by simpa using htail s hs
  rw [segments, pieces_slash, List.filter_cons_of_neg (by simp), hall]

theorem Neat.segments_ne_nil (h : Neat t) : segments t ≠ [] := by
  obtain ⟨rest, rfl⟩ := rooted_iff.1 h.rooted
  intro hnil
  have := h.pieces_eq
  rw [pieces_slash, hnil, List.cons.injEq] at this
  exact piecesBy_ne_nil _ rest this.2

/-- a neat path is given by its segments -/
theorem Neat.eq_join (h : Neat t) : t = '/' :: join ['/'] (segments t) := by
  have hjoin := join_pieces t
  rw [h.pieces_eq, join_cons_of_ne_nil h.segments_ne_nil] at hjoin
  exact hjoin.symm

theorem Neat.eq_cons_trimSlashes (h : Neat t) : t = '/' :: trimSlashes t := by
  have htrim : trimSlashes ('/' :: join ['/'] (segments t)) = join ['/'] (segments t) :=
    trimSlashes_join fun s hs => proper_of_mem_segments hs
  rw [← h.eq_join] at htrim
  rw [htrim]
  exact h.eq_join

theorem Neat.eq_of_segments_eq (ht : Neat t) (hu : Neat u) (h : segments t = segments u) : t = u := by
  rw [ht.eq_join, hu.eq_join, h]

/-- the path from any of its segments on is an end of it -/
theorem Neat.join_drop_suffix (h : Neat t) (n : ℕ) : join ['/'] ((segments t).drop n) <:+ t := by
  have := (Text.join_drop_suffix ['/'] (segments t) n).trans (List.suffix_cons '/' _)
  rwa [← h.eq_join] at this

/-! ## Slashes at the end -/

theorem pieces_concat_slash (t : Text) : pieces (t ++ ['/']) = pieces t ++ [[]] := pieces_glue t []

theorem segments_append_slashes (t : Text) (n : ℕ) : segments (t ++ List.replicate n '/') = segments t := by
  induction n with
  | zero => rw [List.replicate_zero, List.append_nil]
  | succ n ih =>
    have hone : segments ((t ++ List.replicate n '/') ++ ['/']) = segments (t ++ List.replicate n '/') := by
      rw [segments, pieces_concat_slash, List.filter_append, ← segments]
      exact List.append_nil _
    rw [List.replicate_succ', ← List.append_assoc, hone, ih]

theorem closed_concat (t : Text) (c : Char) : closed (t ++ [c]) = (c == '/') := by
  rw [closed, List.getLast?_concat]
  rfl

theorem rooted_append (h : t ≠ []) (u : Text) : rooted (t ++ u) = rooted t := by
  cases t with
  | nil => exact absurd rfl h
  | cons c t =>
    by_cases hc : c = '/'
    · subst hc
      rfl
    · simp [rooted, hc]

/-- a text without the slashes at its end -/
theorem exists_eq_append_slashes (t : Text) : ∃ front n, t = front ++ List.replicate n '/' ∧ closed front = false := by
  induction t using List.reverseRecOn with
  | nil => exact ⟨[], 0, rfl, rfl⟩
  | append_singleton t c ih =>
    by_cases hc : c = '/'
    · subst hc
      obtain ⟨front, n, rfl, hopen⟩ := ih
      exact ⟨front, n + 1, by rw [List.replicate_succ', List.append_assoc], hopen⟩
    · exact ⟨t ++ [c], 0, (List.append_nil _).symm, by rw [closed_concat]; simpa using hc⟩

theorem flatten_pieces (t : Text) : (pieces t).flatten = t.filter (· != '/') := by
  induction t with
  | nil => rfl
  | cons c t ih =>
    obtain ⟨piece, more, ht⟩ := exists_pieces t
    by_cases hc : c = '/'
    · subst hc
      rw [pieces_slash, List.flatten_cons, ih, List.filter_cons_of_neg (by decide), List.nil_append]
    · rw [pieces_cons hc ht, List.filter_cons_of_pos (by simpa using hc), ← ih, ht]
      rfl

/-- the segments of a text hold all of it but the slashes -/
theorem flatten_segments (t : Text) : (segments t).flatten = t.filter (· != '/') := by
  rw [segments, List.flatten_filter_not_isEmpty, flatten_pieces]

/-- a front with all the segments of a text leaves slashes only -/
theorem eq_slashes_of_segments_append {rest : Text} (h : segments (t ++ rest) = segments t) :
    ∃ n, rest = List.replicate n '/' := by
  have hflat : (t ++ rest).filter (· != '/') = t.filter (· != '/') := by
    rw [← flatten_segments, h, flatten_segments]
  have hnone : rest.filter (· != '/') = [] := by
    rw [List.filter_append] at hflat
    exact List.append_right_eq_self.1 hflat
  refine ⟨rest.length, List.eq_replicate_iff.2 ⟨rfl, fun c hc => ?_⟩⟩
  have hslash := List.filter_eq_nil_iff.1 hnone c hc
  simpa using hslash

/-! ## Segments of what was joined -/

theorem segments_of_proper {s : Text} (hs : s ≠ [] ∧ '/' ∉ s) : segments s = [s] := by
  have hslash : segments (s ++ ['/']) = [s] := segments_append_slash hs []
  rwa [show ['/'] = List.replicate 1 '/' from rfl, segments_append_slashes] at hslash

/-- segments that are joined are found again -/
theorem segments_join {ss : List Text} (h : ∀ s ∈ ss, s ≠ [] ∧ '/' ∉ s) : segments (join ['/'] ss) = ss := by
  induction ss with
  | nil => rfl
  | cons s ss ih =>
    obtain ⟨hs, hss⟩ := List.forall_mem_cons.1 h
    by_cases hne : ss = []
    · subst hne
      exact segments_of_proper hs
    · rw [join_cons_of_ne_nil hne, List.append_assoc, List.singleton_append, segments_append_slash hs, ih hss]

/-- a character that is no slash stands in one of the segments -/
theorem exists_segment_of_mem (hc : c ≠ '/') : (∃ s ∈ segments t, c ∈ s) ↔ c ∈ t := by
  rw [← List.mem_flatten, flatten_segments, List.mem_filter, bne_iff_ne, and_iff_left hc]

/-! ## Patterns as they are kept -/

theorem trim_infix (t : Text) : trim t <:+: t := by
  have h₁ : t.dropWhile isBlank <:+ t := List.dropWhile_suffix _
  have h₂ : ((t.dropWhile isBlank).reverse.dropWhile isBlank).reverse <+: t.dropWhile isBlank := by
    rw [← List.reverse_suffix, List.reverse_reverse]
    exact List.dropWhile_suffix _
  exact h₂.isInfix.trans h₁.isInfix

theorem not_doubled_rootedForm (h : ¬ Doubled t) : ¬ Doubled (rootedForm t) := by
  rw [rootedForm]
  split_ifs with hr
  · exact h
  · intro hd
    rcases List.infix_cons_iff.1 hd with hprefix | hinfix
    · obtain ⟨rest, hrest⟩ := hprefix
      refine hr (rooted_iff.2 ⟨rest, ?_⟩)
      simpa using hrest.symm
    · exact h hinfix

end ResourceServer.Text
