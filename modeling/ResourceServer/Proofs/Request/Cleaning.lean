/-
What cleaning does to the segments of a path.

Parameters are dropped from each piece of a path by itself, and slashes are collapsed between the segments, which are
kept with what the text begins and ends with. A text without doubled slashes is what collapsing leaves alone, and parts
of it have none either, so that no path of a request has one, escaped slashes included.
- `dropParameters_eq_join`: each piece is cut at its first semicolon.
- `segments_collapseSlashes`, `rooted_collapseSlashes`, `closed_collapseSlashes`: what collapsing keeps.
- `collapseSlashes_eq_self_iff`: the texts that it leaves alone.
- `not_doubled_lookupPath`: the paths of a request have no doubled slash.
- `cleaning_segmentwise`: all of this, and that cleaning is done once and for all where escapes are not read.
-/
import ResourceServer.Proofs.Text.Segments
import ResourceServer.Request.LookupPath

namespace ResourceServer.Request

open Text

variable {t : Text} {c : Char}

/-! ## Parameters -/

/-- a piece of a path without its parameters -/
def bare (piece : Text) : Text := piece.takeWhile (· != ';')

/-- the first piece is dropped where the text starts inside of a parameter -/
theorem dropParametersFrom_eq_join (inside : Bool) {piece : Text} {more : List Text} (ht : pieces t = piece :: more) :
    dropParametersFrom inside t = join ['/'] ((if inside then [] else bare piece) :: more.map bare) := by
  induction t generalizing inside piece more with
  | nil =>
    cases ht
    cases inside <;> rfl
  | cons c t ih =>
    obtain ⟨first, rest, hfirst⟩ := exists_pieces t
    rw [dropParametersFrom]
    by_cases hc : c = '/'
    · subst hc
      rw [pieces_slash, List.cons.injEq] at ht
      obtain ⟨rfl, rfl⟩ := ht
      have hpiece : (if inside then [] else bare []) = [] := by cases inside <;> rfl
      rw [if_pos rfl, ih false hfirst, hfirst, hpiece, List.map_cons, join_cons_of_ne_nil (List.cons_ne_nil _ _)]
      rfl
    · rw [pieces_cons hc hfirst, List.cons.injEq] at ht
      obtain ⟨rfl, rfl⟩ := ht
      rw [if_neg hc]
      cases inside with
      | true =>
        have hrest := ih true hfirst
        exact hrest
      | false =>
        by_cases hsemicolon : c = ';'
        · subst hsemicolon
          have hrest := ih true hfirst
          exact hrest
        · have hbare : bare (c :: first) = c :: bare first := List.takeWhile_cons_of_pos (by simpa using hsemicolon)
          rw [if_neg (by simpa using hsemicolon), ih false hfirst, if_neg Bool.false_ne_true, if_neg Bool.false_ne_true,
            hbare, join_cons_cons]

/-- **Parameters are dropped piece by piece** -/
theorem dropParameters_eq_join (t : Text) : dropParameters t = join ['/'] ((pieces t).map bare) := by
  obtain ⟨piece, more, ht⟩ := exists_pieces t
  rw [dropParameters, dropParametersFrom_eq_join false ht, ht]
  rfl

theorem semicolon_not_mem_dropParametersFrom (inside : Bool) (t : Text) : ';' ∉ dropParametersFrom inside t := by
  induction t generalizing inside with
  | nil => simp [dropParametersFrom]
  | cons c t ih =>
    rw [dropParametersFrom]
    split_ifs with hslash hparameter
    · rw [List.mem_cons, not_or]
      exact ⟨by simp [hslash], ih false⟩
    · exact ih true
    · rw [Bool.or_eq_true, not_or, decide_eq_true_iff] at hparameter
      rw [List.mem_cons, not_or]
      exact ⟨Ne.symm hparameter.2, ih false⟩

/-- a text without semicolons in front is kept -/
theorem dropParameters_append {front : Text} (h : ';' ∉ front) (t : Text) :
    dropParameters (front ++ t) = front ++ dropParameters t := by
  induction front with
  | nil => rfl
  | cons c front ih =>
    rw [List.mem_cons, not_or] at h
    have hrest := ih h.2
    rw [dropParameters] at hrest ⊢
    rw [List.cons_append, dropParametersFrom, hrest]
    by_cases hc : c = '/'
    · rw [if_pos hc]; rfl
    · rw [if_neg hc, if_neg (by simpa using Ne.symm h.1)]; rfl

/-! ## Slashes -/

/-- a slash is dropped behind a slash, and any other character decides about the next one -/
theorem collapseFrom_cons (behind : Bool) (c : Char) (t : Text) :
    collapseFrom behind (c :: t) =
      if behind = true ∧ c = '/' then collapseFrom true t else c :: collapseFrom (c == '/') t := by
  rw [collapseFrom]
  by_cases hc : c = '/'
  · subst hc
    cases behind <;> rfl
  · have hbeq : (c == '/') = false := by simpa using hc
    rw [if_neg hc, if_neg fun h => hc h.2, hbeq]

theorem collapseSlashes_cons (c : Char) (t : Text) : collapseSlashes (c :: t) = c :: collapseFrom (c == '/') t := by
  rw [collapseSlashes, collapseFrom_cons, if_neg (by simp)]

theorem collapseFrom_sublist (behind : Bool) (t : Text) : (collapseFrom behind t).Sublist t := by
  induction t generalizing behind with
  | nil => exact List.Sublist.refl _
  | cons c t ih =>
    rw [collapseFrom_cons]
    split_ifs
    · exact (ih true).cons c
    · exact (ih _).cons_cons c

/-- the first piece is kept, and the segments behind it; behind a slash, all segments are -/
theorem pieces_collapseFrom (t : Text) :
    (∀ piece more, pieces t = piece :: more →
      ∃ more', pieces (collapseSlashes t) = piece :: more' ∧
        more'.filter (fun s => !s.isEmpty) = more.filter (fun s => !s.isEmpty)) ∧
    segments (collapseFrom true t) = segments t := by
  induction t with
  | nil => exact ⟨fun piece more ht => ⟨more, ht, rfl⟩, rfl⟩
  | cons c t ih =>
    obtain ⟨hfront, hbehind⟩ := ih
    by_cases hc : c = '/'
    · subst hc
      refine ⟨fun piece more ht => ?_, ?_⟩
      · rw [pieces_slash, List.cons.injEq] at ht
        obtain ⟨rfl, rfl⟩ := ht
        exact ⟨pieces (collapseFrom true t), pieces_slash _, hbehind⟩
      · rw [segments_slash, ← hbehind]
        rfl
    · obtain ⟨first, rest, hfirst⟩ := exists_pieces t
      obtain ⟨rest', hpieces, hrest⟩ := hfront first rest hfirst
      have hcollapse : ∀ behind, collapseFrom behind (c :: t) = c :: collapseSlashes t := fun behind => by
        rw [collapseFrom, if_neg hc, collapseSlashes]
      have hcollapsed : pieces (c :: collapseSlashes t) = (c :: first) :: rest' := pieces_cons hc hpieces
      have hwhole : pieces (c :: t) = (c :: first) :: rest := pieces_cons hc hfirst
      refine ⟨fun piece more ht => ?_, ?_⟩
      · rw [hwhole, List.cons.injEq] at ht
        obtain ⟨rfl, rfl⟩ := ht
        exact ⟨rest', by rw [collapseSlashes, hcollapse, hcollapsed], hrest⟩
      · rw [hcollapse, segments, segments, hcollapsed, hwhole, List.filter_cons, List.filter_cons, hrest]

theorem segments_collapseSlashes (t : Text) : segments (collapseSlashes t) = segments t := by
  obtain ⟨piece, more, ht⟩ := exists_pieces t
  obtain ⟨more', hmore', hfilter⟩ := (pieces_collapseFrom t).1 piece more ht
  rw [segments, segments, hmore', ht, List.filter_cons, List.filter_cons, hfilter]

theorem rooted_collapseSlashes (t : Text) : rooted (collapseSlashes t) = rooted t := by
  cases t with
  | nil => rfl
  | cons c t => rw [collapseSlashes_cons, rooted_cons, rooted_cons]

theorem closed_behind (c : Char) (t : Text) : closed (c :: collapseFrom (c == '/') t) = closed (c :: t) := by
  induction t generalizing c with
  | nil => rfl
  | cons d t ih =>
    rw [collapseFrom_cons, closed_cons (List.cons_ne_nil d t)]
    split_ifs with hslashes
    · obtain ⟨hc, rfl⟩ := hslashes
      rw [beq_iff_eq.1 hc, ← ih]
      rfl
    · rw [closed_cons (List.cons_ne_nil _ _), ih]

theorem closed_collapseSlashes (t : Text) : closed (collapseSlashes t) = closed t := by
  cases t with
  | nil => rfl
  | cons c t => rw [collapseSlashes_cons, closed_behind]

/-! ## Doubled slashes -/

theorem not_doubled_behind (c : Char) (t : Text) : ¬ Doubled (c :: collapseFrom (c == '/') t) := by
  induction t generalizing c with
  | nil =>
    change ¬ Doubled [c]
    rw [doubled_cons_iff]
    rintro (⟨-, hrooted⟩ | hdoubled)
    · cases hrooted
    · exact absurd hdoubled (by decide)
  | cons d t ih =>
    rw [collapseFrom_cons]
    split_ifs with hslashes
    · rw [beq_iff_eq.1 hslashes.1]
      exact ih '/'
    · rw [doubled_cons_iff]
      rintro (⟨rfl, hrooted⟩ | hdoubled)
      · rw [rooted_cons] at hrooted
        exact hslashes ⟨rfl, beq_iff_eq.1 hrooted⟩
      · exact ih d hdoubled

theorem not_doubled_collapseSlashes (t : Text) : ¬ Doubled (collapseSlashes t) := by
  cases t with
  | nil => decide
  | cons c t =>
    rw [collapseSlashes_cons]
    exact not_doubled_behind c t

theorem collapseFrom_of_single (h : ¬ Doubled (c :: t)) : collapseFrom (c == '/') t = t := by
  induction t generalizing c with
  | nil => rfl
  | cons d t ih =>
    rw [doubled_cons_iff, not_or] at h
    have hslashes : ¬ ((c == '/') = true ∧ d = '/') := by
      rintro ⟨hc, rfl⟩
      exact h.1 ⟨beq_iff_eq.1 hc, rfl⟩
    rw [collapseFrom_cons, if_neg hslashes, ih h.2]

/-- a text without doubled slashes in front is kept, unless its first slash follows another one -/
theorem collapseFrom_append {behind : Bool} {front : Text} (hsingle : ¬ Doubled front) (hclosed : closed front = false)
    (hbehind : behind = true → front ≠ [] ∧ rooted front = false) (t : Text) :
    collapseFrom behind (front ++ t) = front ++ collapseSlashes t := by
  induction front generalizing behind with
  | nil =>
    cases behind with
    | true => exact absurd rfl (hbehind rfl).1
    | false => rfl
  | cons c front ih =>
    have hfirst : ¬ (behind = true ∧ c = '/') := by
      rintro ⟨hb, rfl⟩
      cases (hbehind hb).2
    -- a slash is neither the last character nor followed by another slash
    have hnext : (c == '/') = true → front ≠ [] ∧ rooted front = false := by
      intro hc
      rw [doubled_cons_iff, not_or, not_and, beq_iff_eq.1 hc] at hsingle
      refine ⟨?_, Bool.eq_false_iff.2 (hsingle.1 rfl)⟩
      rintro rfl
      rw [beq_iff_eq.1 hc] at hclosed
      cases hclosed
    have hclosed' : closed front = false := by
      by_cases hnil : front = []
      · rw [hnil]; rfl
      · rwa [closed_cons hnil] at hclosed
    rw [List.cons_append, List.cons_append, collapseFrom_cons, if_neg hfirst,
      ih (fun h => hsingle (h.cons c)) hclosed' hnext]

/-- **Collapsing leaves alone** just the texts without doubled slashes -/
theorem collapseSlashes_eq_self_iff : collapseSlashes t = t ↔ ¬ Doubled t := by
  constructor
  · intro h
    rw [← h]
    exact not_doubled_collapseSlashes t
  · intro h
    cases t with
    | nil => rfl
    | cons c t => rw [collapseSlashes_cons, collapseFrom_of_single h]

namespace PathOptions

variable (o : PathOptions)

theorem not_doubled_clean (t : Text) : ¬ Doubled (o.clean t) := not_doubled_collapseSlashes _

theorem not_doubled_withinApplication (r : ResourceRequest) : ¬ Doubled (o.withinApplication r) := by
  have huri : ¬ Doubled (o.requestUri r) := o.not_doubled_clean r.uri
  rw [withinApplication]
  split
  · decide
  · rename_i rest _ hrest
    obtain hsuffix : o.contextPath r ++ rest = o.requestUri r := List.isPrefixOf?_eq_some_iff_append_eq.1 hrest
    exact fun h => huri (h.of_suffix ⟨_, hsuffix⟩)
  · exact huri

theorem not_doubled_withinServlet (r : ResourceRequest) : ¬ Doubled (o.withinServlet r) := by
  rw [withinServlet]
  cases hrest : Text.afterFront? (o.clean r.servletPath) (o.withinApplication r) with
  | none => exact o.not_doubled_clean r.servletPath
  | some rest =>
    have hsuffix : o.clean r.servletPath ++ rest = o.withinApplication r :=
      List.isPrefixOf?_eq_some_iff_append_eq.1 hrest
    exact fun h => o.not_doubled_withinApplication r (h.of_suffix ⟨_, hsuffix⟩)

/-- the path by which a request is looked up is one of the paths that have no doubled slash -/
theorem not_doubled_lookupPath (r : ResourceRequest) : ¬ Doubled (o.lookupPath r) := by
  rw [lookupPath]
  split_ifs
  · exact o.not_doubled_withinApplication r
  · exact o.not_doubled_withinApplication r
  · exact o.not_doubled_withinServlet r

/-! ## Cleaning again -/

theorem clean_of_kept (hdecode : o.decodeEscapes = false) (hparameters : o.removeParameters = true → ';' ∉ t)
    (hsingle : ¬ Doubled t) : o.clean t = t := by
  have hdropped : (if o.removeParameters = true then dropParameters t else t) = t := by
    split_ifs with hremove
    · simpa [dropParameters, dropParametersFrom] using dropParameters_append (hparameters hremove) []
    · rfl
  rw [clean, hdropped, hdecode]
  exact collapseSlashes_eq_self_iff.2 hsingle

theorem semicolon_not_mem_clean (hdecode : o.decodeEscapes = false) (hremove : o.removeParameters = true) (t : Text) :
    ';' ∉ o.clean t := by
  rw [clean, hdecode, hremove]
  exact fun h => semicolon_not_mem_dropParametersFrom false t ((collapseFrom_sublist _ _).subset h)

/-- **Cleaning works on segments.**
- Dropping the parameters is cutting each piece between slashes at its first semicolon.
- Collapsing slashes keeps the segments, and what the text begins and ends with.
- Neither the path of a request nor the path by which it is looked up has a doubled slash, whatever the options, the
  context path and the servlet path are.
- Where escapes are not read, cleaning the cleaned path of a request changes nothing, and where parameters are dropped,
  no semicolon is left in it. -/
theorem cleaning_segmentwise :
    (∀ t, dropParameters t = join ['/'] ((pieces t).map fun piece => piece.takeWhile (· != ';'))) ∧
    (∀ t, segments (collapseSlashes t) = segments t ∧ rooted (collapseSlashes t) = rooted t ∧
      closed (collapseSlashes t) = closed t) ∧
    (∀ r, ¬ Doubled (o.requestUri r) ∧ ¬ Doubled (o.lookupPath r)) ∧
    (o.decodeEscapes = false → ∀ r : ResourceRequest,
      o.requestUri { r with uri := o.requestUri r } = o.requestUri r ∧
      (o.removeParameters = true → ';' ∉ o.requestUri r)) := by
  refine ⟨dropParameters_eq_join,
    fun t => ⟨segments_collapseSlashes t, rooted_collapseSlashes t, closed_collapseSlashes t⟩,
    fun r => ⟨o.not_doubled_clean r.uri, o.not_doubled_lookupPath r⟩, fun hdecode r => ?_⟩
  have hparameters : o.removeParameters = true → ';' ∉ o.requestUri r :=
    fun hremove => o.semicolon_not_mem_clean hdecode hremove r.uri
  exact ⟨o.clean_of_kept hdecode hparameters (o.not_doubled_clean r.uri), hparameters⟩

/-- parameters in a row, empty ones, one that is a whole piece and one at the end, between doubled slashes -/
theorem cleaning_segmentwise_raw :
    let raw : PathOptions := ⟨false, false, true⟩
    let r : ResourceRequest := ⟨"//a;x;y//;b/c;/d;".toList, "/a".toList, [], none⟩
    raw.decodeEscapes = false ∧ raw.removeParameters = true ∧ raw.requestUri r = "/a/c/d".toList ∧
      raw.requestUri { r with uri := "/a/c/d".toList } = "/a/c/d".toList ∧ ';' ∉ "/a/c/d".toList := by
  intro raw r
  have huri : raw.requestUri r = "/a/c/d".toList := by decide
  obtain ⟨hagain, hfree⟩ := raw.cleaning_segmentwise.2.2.2 rfl r
  rw [huri] at hagain hfree
  exact ⟨rfl, rfl, huri, hagain, hfree rfl⟩

/-- where escapes are read, cleaning again may read one that the first time has left -/
example : standard.clean "/%2541".toList = "/%41".toList ∧ standard.clean "/%41".toList = "/A".toList := by
  decide +kernel

end PathOptions

end ResourceServer.Request
