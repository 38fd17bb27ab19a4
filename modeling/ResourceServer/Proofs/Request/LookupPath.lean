/-
Cleaning a request path that begins with its context path.

`Settled` texts are left alone by cleaning, whatever follows them: they hold no escape, no parameter and no doubled
slash, and do not end with a slash.
- `clean_append`: the text behind a settled one is cleaned as if it stood alone.
- `lookupPath_under`: the lookup path of a request below a settled context path is the cleaned rest of its path.
- `lookupPath_servlet`: below a servlet path too, it is the rest behind both, or the servlet path where there is no
  rest; the full path keeps the servlet path.
-/
import ResourceServer.Proofs.Request.Cleaning
import ResourceServer.Proofs.Text.Utf8

namespace ResourceServer.Request

variable {c q : Text}

/-! ## Escapes -/

namespace Percent

theorem not_percent_of_mem_encodeChar {c : Char} (hc : c ≠ '%') : ∀ b ∈ Text.encodeChar c, b ≠ 0x25 := by
  have hcode : c.toNat ≠ 0x25 := fun h => hc (Char.toNat_inj.1 h)
  rw [Text.encodeChar]
  split_ifs <;> simp <;> omega

theorem unescapeFrom_cons {b : ℕ} (hb : b ≠ 0x25) (bytes : List ℕ) :
    unescapeFrom 0 (b :: bytes) = b :: unescapeFrom 0 bytes := by
  rw [unescapeFrom, if_neg hb]

theorem unescape_append {front : List ℕ} (h : ∀ b ∈ front, b ≠ 0x25) (bytes : List ℕ) :
    unescape (front ++ bytes) = front ++ unescape bytes := by
  induction front with
  | nil => rfl
  | cons b front ih =>
    rw [List.forall_mem_cons] at h
    rw [List.cons_append, unescape, unescapeFrom_cons h.1, ← unescape, ih h.2, List.cons_append]

/-- a text without escapes in front plays no part in reading those behind it -/
theorem decode?_append (h : '%' ∉ c) (q : Text) : decode? (c ++ q) = (decode? q).map (c ++ ·) := by
  have hbytes : ∀ b ∈ Text.encode c, b ≠ 0x25 := by
    intro b hb
    obtain ⟨d, hd, hb⟩ := List.mem_flatMap.1 hb
    exact not_percent_of_mem_encodeChar (fun e => h (e ▸ hd)) b hb
  rw [decode?, Text.encode_append, unescape_append hbytes, Text.decode?_encode_append, decode?]

end Percent

theorem decodeOrKeep_append (h : '%' ∉ c) (q : Text) : decodeOrKeep (c ++ q) = c ++ decodeOrKeep q := by
  rw [decodeOrKeep, Percent.decode?_append h, decodeOrKeep]
  cases Percent.decode? q <;> rfl

/-! ## Cleaning -/

/-- texts that cleaning leaves alone, whatever follows them -/
structure Settled (t : Text) : Prop where
  no_escape : '%' ∉ t
  no_parameter : ';' ∉ t
  single : ¬ Text.Doubled t
  not_closed : Text.closed t = false

instance (t : Text) : Decidable (Settled t) :=
  decidable_of_iff ('%' ∉ t ∧ ';' ∉ t ∧ ¬ Text.Doubled t ∧ Text.closed t = false)
    ⟨fun h => ⟨h.1, h.2.1, h.2.2.1, h.2.2.2⟩, fun h => ⟨h.no_escape, h.no_parameter, h.single, h.not_closed⟩⟩

namespace PathOptions

variable (o : PathOptions)

/-- what stands behind a settled text is cleaned as if it stood alone -/
theorem clean_append (hc : Settled c) (q : Text) : o.clean (c ++ q) = c ++ o.clean q := by
  have hparameters : (if o.removeParameters then dropParameters (c ++ q) else c ++ q) =
      c ++ if o.removeParameters then dropParameters q else q := by
    split_ifs
    · exact dropParameters_append hc.no_parameter q
    · rfl
  have hescapes : ∀ t, (if o.decodeEscapes then decodeOrKeep (c ++ t) else c ++ t) =
      c ++ if o.decodeEscapes then decodeOrKeep t else t := by
    intro t
    split_ifs
    · exact decodeOrKeep_append hc.no_escape t
    · rfl
  rw [clean, hparameters, hescapes]
  exact collapseFrom_append hc.single hc.not_closed (by simp) _

theorem clean_nil : o.clean [] = [] := by
  rw [clean, show dropParameters [] = [] from rfl, ite_self, show decodeOrKeep [] = [] from rfl, ite_self]
  rfl

theorem clean_settled (hc : Settled c) : o.clean c = c := by
  have h := o.clean_append hc []
  rwa [List.append_nil, o.clean_nil, List.append_nil] at h

/-- a rooted path stays rooted -/
theorem exists_clean_rooted (hq : Text.rooted q = true) : ∃ rest, o.clean q = '/' :: rest := by
  obtain ⟨rest, rfl⟩ := Text.rooted_iff.1 hq
  have hparameters : dropParameters ('/' :: rest) = '/' :: dropParameters rest :=
    dropParameters_append (show ';' ∉ ['/'] by decide) rest
  have hescapes : ∀ t, decodeOrKeep ('/' :: t) = '/' :: decodeOrKeep t :=
    fun t => decodeOrKeep_append (c := ['/']) (by decide) t
  have hslash : ∀ t, collapseSlashes ('/' :: t) = '/' :: collapseFrom true t := fun t => rfl
  rw [clean, hparameters]
  split_ifs <;> simp [hescapes, hslash]

theorem clean_slash : o.clean ['/'] = ['/'] := by
  rcases o with ⟨full, escapes, parameters⟩
  cases escapes <;> cases parameters <;> rfl

/-- nothing is left of the empty path, and a slash at least of a rooted one -/
theorem clean_eq_nil_iff (hq : q = [] ∨ Text.rooted q = true) : o.clean q = [] ↔ q = [] := by
  rcases hq with rfl | hq
  · exact iff_of_true o.clean_nil rfl
  · obtain ⟨rest, hrest⟩ := o.exists_clean_rooted hq
    rw [hrest]
    refine iff_of_false (List.cons_ne_nil _ _) ?_
    rintro rfl
    cases hq

/-! ## Requests -/

theorem requestUri_under (hc : Settled c) (q : Text) :
    o.requestUri (.under c (c ++ q)) = c ++ o.clean q := o.clean_append hc q

/-- behind a settled context path stands the cleaned rest, and a slash where nothing is left of it -/
theorem withinApplication_settled (hc : Settled c) (q s : Text) (attached : Option Text) :
    o.withinApplication ⟨c ++ q, c, s, attached⟩ = if o.clean q = [] then ['/'] else o.clean q := by
  have hcontext : o.contextPath ⟨c ++ q, c, s, attached⟩ = c := by
    have hroot : c ≠ ['/'] := by
      rintro rfl
      exact absurd hc.not_closed (by decide)
    rw [contextPath, if_neg hroot, o.clean_settled hc]
  rw [withinApplication, hcontext, requestUri, o.clean_append hc, Text.afterFront?,
    List.isPrefixOf?_eq_some_iff_append_eq.2 rfl]
  cases o.clean q <;> rfl

/-- without a servlet path, a request is looked up by its path within the application -/
theorem lookupPath_of_no_servlet (uri c : Text) (attached : Option Text) :
    o.lookupPath ⟨uri, c, [], attached⟩ = o.withinApplication ⟨uri, c, [], attached⟩ := by
  have hservlet : o.withinServlet ⟨uri, c, [], attached⟩ = o.withinApplication ⟨uri, c, [], attached⟩ := by
    rw [withinServlet, o.clean_nil]
    rfl
  rw [lookupPath, hservlet, ite_self, ite_self]

/-- **The lookup path below a context path** is the cleaned path behind it -/
theorem lookupPath_under (hc : Settled c) (hq : Text.rooted q = true) :
    o.lookupPath (.under c (c ++ q)) = o.clean q := by
  obtain ⟨rest, hrest⟩ := o.exists_clean_rooted hq
  rw [ResourceRequest.under, lookupPath_of_no_servlet, o.withinApplication_settled hc, hrest,
    if_neg (List.cons_ne_nil _ _)]

/-- behind a settled servlet path stands the cleaned rest, which may be empty -/
theorem withinServlet_settled {s : Text} (hc : Settled c) (hs : Settled s) (hne : s ≠ []) (r : Text)
    (attached : Option Text) : o.withinServlet ⟨c ++ (s ++ r), c, s, attached⟩ = o.clean r := by
  have happlication : o.withinApplication ⟨c ++ (s ++ r), c, s, attached⟩ = s ++ o.clean r := by
    rw [o.withinApplication_settled hc, o.clean_append hs, if_neg (by simp [hne])]
  rw [withinServlet, happlication, o.clean_settled hs, Text.afterFront?, List.isPrefixOf?_eq_some_iff_append_eq.2 rfl]
  rfl

/-- **The lookup path below a context path and a servlet path**, both of them settled. A request is looked up by the
cleaned rest of its path, by the servlet path where there is no rest, and by a slash where there is no servlet path
either. Where the full path is asked for, it is the servlet path with the cleaned rest behind it, or a slash. -/
theorem lookupPath_servlet {s r : Text} (hc : Settled c) (hs : Settled s) (hr : r = [] ∨ Text.rooted r = true)
    (attached : Option Text) :
    (o.alwaysUseFullPath = false → o.lookupPath ⟨c ++ s ++ r, c, s, attached⟩ =
      if r ≠ [] then o.clean r else if s ≠ [] then s else ['/']) ∧
    (o.alwaysUseFullPath = true → o.lookupPath ⟨c ++ s ++ r, c, s, attached⟩ =
      if s = [] ∧ r = [] then ['/'] else s ++ o.clean r) := by
  have hrest : o.clean r = [] ↔ r = [] := o.clean_eq_nil_iff hr
  have happlication : o.withinApplication ⟨c ++ (s ++ r), c, s, attached⟩ =
      if s = [] ∧ r = [] then ['/'] else s ++ o.clean r := by
    simp only [o.withinApplication_settled hc, o.clean_append hs, List.append_eq_nil_iff, hrest]
  rw [List.append_assoc]
  refine ⟨fun hservlet => ?_, fun hfull => ?_⟩
  · by_cases hne : s = []
    · subst hne
      rw [o.lookupPath_of_no_servlet, happlication]
      simp
    · have hwithin := o.withinServlet_settled hc hs hne r attached
      rw [lookupPath, hservlet, hwithin, happlication]
      -- the servlet path stands for itself where nothing is left behind it
      by_cases hnil : r = []
      · subst hnil
        simp [o.clean_nil, hne]
      · simp [hrest, hnil]
  · rw [lookupPath, if_pos hfull, happlication]

/-- a context path beyond ASCII, and behind the servlet path a doubled slash, an escape that does not decode and a
parameter -/
theorem lookupPath_servlet_sample :
    Settled "/größe".toList ∧ Settled "/s".toList ∧ Text.rooted "//r/%FF;v=1".toList = true ∧
      standard.lookupPath ⟨"/größe/s//r/%FF;v=1".toList, "/größe".toList, "/s".toList, none⟩ = "/r/%FF".toList ∧
      (⟨true, true, true⟩ : PathOptions).lookupPath
        ⟨"/größe/s//r/%FF;v=1".toList, "/größe".toList, "/s".toList, none⟩ = "/s/r/%FF".toList := by
  have hc : Settled "/größe".toList := by decide
  have hs : Settled "/s".toList := by decide
  have hr : Text.rooted "//r/%FF;v=1".toList = true := rfl
  have hrest : standard.clean "//r/%FF;v=1".toList = "/r/%FF".toList := by decide +kernel
  have hservlet := (standard.lookupPath_servlet hc hs (.inr hr) none).1 rfl
  have hfull := ((⟨true, true, true⟩ : PathOptions).lookupPath_servlet hc hs (.inr hr) none).2 rfl
  have hclean : (⟨true, true, true⟩ : PathOptions).clean "//r/%FF;v=1".toList = "/r/%FF".toList := hrest
  rw [hrest] at hservlet
  rw [hclean] at hfull
  exact ⟨hc, hs, hr, hservlet, hfull⟩

end PathOptions

end ResourceServer.Request
