/-
Records read from the entries of a table.

- `ofEntries_eq_ok_iff`: a record is read just if no entry is faulty and its fields can be built.
- `Fields.Keeps`: a look-up under which the fields say what they said under another one; kept field by field.
- `Fields.Agrees`: defaults for what an absent name means; with them added a record reads the same.
- `missing_of_entries`: a record that misses something lacks a needed name, or one of its entries misses something.
-/
import ResourceServer.Proofs.Toml.Data
import ResourceServer.Toml.Decoder

namespace ResourceServer.Toml

/-! ## Faults -/

/-- the fault says that something is missing -/
def DecodeFault.Missing : DecodeFault → Prop
  | .missingField _ => True
  | .tooFewItems _ _ => True
  | .invalidType _ _ => False
  | .invalidValue _ _ => False

namespace Decoder

variable {α : Type} {d : Data} {fault : DecodeFault}

/-- decoders of values that have no parts which could be missing -/
def Plain (dec : Decoder α) : Prop := ∀ d fault, dec d = .error fault → ¬ fault.Missing

theorem plain_text : Plain text := by
  intro d fault h
  cases d <;> cases h <;> exact not_false

theorem plain_flag : Plain flag := by
  intro d fault h
  cases d <;> cases h <;> exact not_false

theorem plain_natural (limit : ℕ) (name : Text) : Plain (natural limit name) := by
  intro d fault h
  cases d with
  | integer n =>
    rw [natural] at h
    split_ifs at h
    cases h
    exact not_false
  | _ => cases h; exact not_false

theorem plain_map {β : Type} {dec : Decoder α} (h : Plain dec) (g : α → β) : Plain fun d => (dec d).map g := by
  intro d fault hd
  dsimp only at hd
  cases hdec : dec d with
  | ok a => rw [hdec] at hd; cases hd
  | error e =>
    rw [hdec] at hd
    cases hd
    exact h d _ hdec

theorem mapM_eq_error {dec : Decoder α} {items : List Data} (h : items.mapM dec = .error fault) :
    ∃ item ∈ items, dec item = .error fault := by
  induction items with
  | nil => cases h
  | cons item items ih =>
    rw [List.mapM_cons] at h
    cases hitem : dec item with
    | error e =>
      rw [hitem] at h
      cases h
      exact ⟨item, List.mem_cons_self, hitem⟩
    | ok a =>
      rw [hitem] at h
      cases hitems : items.mapM dec with
      | error e =>
        rw [hitems] at h
        cases h
        obtain ⟨other, hin, hother⟩ := ih hitems
        exact ⟨other, List.mem_cons_of_mem _ hin, hother⟩
      | ok as =>
        rw [hitems] at h
        cases h

/-- a list fails for its kind, or as one of its items does -/
theorem list_eq_error {dec : Decoder α} (h : list dec d = .error fault) (hm : fault.Missing) :
    ∃ items item, d = .array items ∧ item ∈ items ∧ dec item = .error fault := by
  cases d with
  | array items =>
    obtain ⟨item, hin, hitem⟩ := mapM_eq_error h
    exact ⟨items, item, rfl, hin, hitem⟩
  | _ => cases h; exact hm.elim

theorem plain_list {dec : Decoder α} (h : Plain dec) : Plain (list dec) := by
  intro d fault hd hm
  obtain ⟨_, item, -, -, hitem⟩ := list_eq_error hd hm
  exact h item fault hitem hm

/-- items that change but say the same leave the list as it was -/
theorem mapM_map_of_keeps {ι : Type} {dec : Decoder α} {f g : ι → Data} {xs : List ι} {as : List α}
    (hkeeps : ∀ x ∈ xs, ∀ a, dec (f x) = .ok a → dec (g x) = .ok a) (h : (xs.map f).mapM dec = .ok as) :
    (xs.map g).mapM dec = .ok as := by
  induction xs generalizing as with
  | nil => exact h
  | cons x xs ih =>
    rw [List.forall_mem_cons] at hkeeps
    rw [List.map_cons, List.mapM_cons] at h ⊢
    cases hx : dec (f x) with
    | error e => rw [hx] at h; cases h
    | ok a =>
      rw [hx] at h
      rw [hkeeps.1 a hx]
      cases hxs : (xs.map f).mapM dec with
      | error e => rw [hxs] at h; cases h
      | ok as =>
        rw [hxs] at h
        rw [ih hkeeps.2 hxs]
        exact h

end Decoder

/-! ## Entries without faults -/

namespace Fields

variable {α β ρ : Type} {f : Fields ρ} {absent : Text → DecodeFault} {entries : List (Text × Data)} {r : ρ}
  {fault : DecodeFault}

/-- no check of the fields finds fault with the entry -/
def Accepts (f : Fields ρ) (e : Text × Data) : Prop := ∀ check, f.checks.lookup e.1 = some check → check e.2 = none

instance (f : Fields ρ) (e : Text × Data) : Decidable (f.Accepts e) :=
  decidable_of_iff ((f.checks.lookup e.1).all (fun check => (check e.2).isNone) = true) <| by
    rw [Accepts]
    cases f.checks.lookup e.1 <;> simp

/-- with two fields of different names, each checks the entries of its own name -/
theorem accepts_iff_of_two {n m : Text} {p q : Data → Option DecodeFault} (h : f.checks = [(n, p), (m, q)])
    (hne : m ≠ n) {e : Text × Data} : f.Accepts e ↔ (e.1 = n → p e.2 = none) ∧ (e.1 = m → q e.2 = none) := by
  rw [Accepts, h, Text.lookup_cons, Text.lookup_cons, List.lookup_nil]
  by_cases hn : e.1 = n
  · rw [if_pos hn]
    simp [hn, hne.symm]
  · by_cases hm : e.1 = m
    · simp [hm, hne]
    · simp [hn, hm]

theorem fault?_eq_none_iff {d : Decoder α} {data : Data} : fault? d data = none ↔ ∃ a, d data = .ok a := by
  rw [fault?]
  cases d data <;> simp

theorem fault?_eq_some_iff {d : Decoder α} {data : Data} : fault? d data = some fault ↔ d data = .error fault := by
  rw [fault?]
  cases d data <;> simp

/-- an entry that still means the same to the decoder of its name is still accepted -/
theorem Accepts.of_keeps {d : Decoder α} {name : Text} {old new : Data} (h : f.Accepts (name, old))
    (hcheck : f.checks.lookup name = some (fault? d)) (hkeeps : ∀ a, d old = .ok a → d new = .ok a) :
    f.Accepts (name, new) := by
  intro check hlookup
  rw [hcheck, Option.some.injEq] at hlookup
  subst hlookup
  obtain ⟨a, ha⟩ := fault?_eq_none_iff.1 (h _ hcheck)
  exact fault?_eq_none_iff.2 ⟨a, hkeeps a ha⟩

theorem firstFault?_eq_none_iff : f.firstFault? entries = none ↔ ∀ e ∈ entries, f.Accepts e := by
  rw [firstFault?, List.findSome?_eq_none_iff]
  refine forall₂_congr fun e _ => ?_
  rw [Accepts]
  cases f.checks.lookup e.1 <;> simp

/-- **A record is read** just if its entries pass their checks and its fields can be built -/
theorem ofEntries_eq_ok_iff :
    f.ofEntries absent entries = .ok r ↔
      (∀ e ∈ entries, f.Accepts e) ∧ f.build absent (fun name => entries.lookup name) = .ok r := by
  rw [ofEntries, ← firstFault?_eq_none_iff]
  cases f.firstFault? entries <;> simp

/-- a record that is not read has a faulty entry, or cannot be built from its entries -/
theorem ofEntries_eq_error (h : f.ofEntries absent entries = .error fault) :
    (∃ c ∈ f.checks, ∃ data, (c.1, data) ∈ entries ∧ c.2 data = some fault) ∨
      f.build absent (fun name => entries.lookup name) = .error fault := by
  rw [ofEntries] at h
  cases hfirst : f.firstFault? entries with
  | none =>
    rw [hfirst] at h
    exact .inr h
  | some e =>
    rw [hfirst] at h
    cases h
    obtain ⟨⟨name, data⟩, hin, hfault⟩ := List.exists_of_findSome?_eq_some hfirst
    obtain ⟨check, hcheck, hdata⟩ := Option.bind_eq_some_iff.1 hfault
    exact .inl ⟨(name, check), Text.mem_of_lookup hcheck, data, hin, hdata⟩

/-! ## Fields that keep what they say -/

/-- what is built from the first look-up is built from the second one as well -/
def Keeps (f : Fields ρ) (get get' : Text → Option Data) : Prop :=
  ∀ absent r, f.build absent get = .ok r → f.build absent get' = .ok r

section Keeps

variable {get get' : Text → Option Data} {name : Text} {d : Decoder α} {usual : α}

theorem keeps_value (a : α) : (value a).Keeps get get' := fun _ _ h => h

theorem keeps_required (h : ∀ data a, get name = some data → d data = .ok a → ∃ data', get' name = some data' ∧
    d data' = .ok a) : (required name d).Keeps get get' := by
  intro absent r hr
  simp only [required] at hr ⊢
  cases hget : get name with
  | none => rw [hget] at hr; cases hr
  | some data =>
    rw [hget] at hr
    obtain ⟨data', hget', hdata'⟩ := h data r hget hr
    rw [hget']
    exact hdata'

theorem keeps_optional (h : ∀ data a, get name = some data → d data = .ok a → ∃ data', get' name = some data' ∧
    d data' = .ok a) (hnone : get name = none → ∀ data', get' name = some data' → d data' = .ok usual) :
    (optional name d usual).Keeps get get' := by
  intro absent r hr
  simp only [optional] at hr ⊢
  cases hget : get name with
  | none =>
    rw [hget] at hr
    cases hr
    cases hget' : get' name with
    | none => rfl
    | some data' => exact hnone hget data' hget'
  | some data =>
    rw [hget] at hr
    obtain ⟨data', hget', hdata'⟩ := h data r hget hr
    rw [hget']
    exact hdata'

theorem keeps_optional_of_eq (h : get' name = get name) : (optional name d usual).Keeps get get' := by
  intro absent r hr
  simp only [optional] at hr ⊢
  rw [h]
  exact hr

theorem Keeps.apply {f : Fields (α → β)} {x : Fields α} (hf : f.Keeps get get') (hx : x.Keeps get get') :
    (f.apply x).Keeps get get' := by
  intro absent r hr
  simp only [Fields.apply] at hr ⊢
  cases hg : f.build absent get with
  | error e => rw [hg] at hr; cases hr
  | ok g =>
    rw [hg] at hr
    cases ha : x.build absent get with
    | error e => rw [ha] at hr; cases hr
    | ok a =>
      rw [ha] at hr
      rw [hf absent g hg, hx absent a ha]
      exact hr

end Keeps

/-! ## Defaults -/

/-- a look-up that falls back on some defaults -/
def withDefaults (get : Text → Option Data) (defaults : List (Text × Data)) : Text → Option Data :=
  fun name => (get name).or (defaults.lookup name)

/-- the fields take the defaults for what they mean by an absent name -/
structure Agrees (f : Fields ρ) (defaults : List (Text × Data)) : Prop where
  accepts : ∀ e ∈ defaults, f.Accepts e
  keeps : ∀ get, f.Keeps get (withDefaults get defaults)

section Defaults

variable {get : Text → Option Data} {defaults : List (Text × Data)} {name : Text} {d : Decoder α} {usual : α}

theorem withDefaults_of_some {data : Data} (h : get name = some data) : withDefaults get defaults name = some data := by
  rw [withDefaults, h, Option.some_or]

theorem withDefaults_of_none (h : get name = none) : withDefaults get defaults name = defaults.lookup name := by
  rw [withDefaults, h, Option.none_or]

theorem keeps_required_default : (required name d).Keeps get (withDefaults get defaults) :=
  keeps_required fun data _ hget hdata => ⟨data, withDefaults_of_some hget, hdata⟩

theorem keeps_optional_default {data : Data} (hdefault : defaults.lookup name = some data)
    (hdata : d data = .ok usual) : (optional name d usual).Keeps get (withDefaults get defaults) := by
  refine keeps_optional (fun data _ hget hdata => ⟨data, withDefaults_of_some hget, hdata⟩) fun hget data' hdata' => ?_
  rw [withDefaults_of_none hget, hdefault, Option.some.injEq] at hdata'
  rw [← hdata', hdata]

theorem keeps_optional_no_default (hdefault : defaults.lookup name = none) :
    (optional name d usual).Keeps get (withDefaults get defaults) := by
  refine keeps_optional (fun data _ hget hdata => ⟨data, withDefaults_of_some hget, hdata⟩) fun hget data' hdata' => ?_
  rw [withDefaults_of_none hget, hdefault] at hdata'
  cases hdata'

/-- **Defaults that agree change nothing** in a record that is read -/
theorem Agrees.decode_filled (h : f.Agrees defaults) (hr : f.decode name (.table entries) = .ok r) :
    f.decode name (.table (filled defaults entries)) = .ok r := by
  obtain ⟨haccepts, hbuild⟩ := ofEntries_eq_ok_iff.1 hr
  refine ofEntries_eq_ok_iff.2 ⟨fun e he => ?_, ?_⟩
  · rcases mem_filled he with hin | hin
    · exact haccepts e hin
    · exact h.accepts e hin
  · have hlookup : (fun n => (filled defaults entries).lookup n) = withDefaults (fun n => entries.lookup n) defaults :=
      funext fun n => lookup_filled defaults entries n
    rw [hlookup]
    exact h.keeps _ _ _ hbuild

end Defaults

/-! ## Fields that are needed -/

/-- a fault in building the fields is that of a needed name which is absent, or of a field that is there -/
def Needs (f : Fields ρ) (needed : List Text) : Prop :=
  ∀ absent get fault, f.build absent get = .error fault →
    (∃ name ∈ needed, get name = none ∧ fault = absent name) ∨
      ∃ c ∈ f.checks, ∃ data, get c.1 = some data ∧ c.2 data = some fault

theorem needs_value (a : α) : (value a).Needs [] := by
  intro absent get fault h
  cases h

theorem needs_required (name : Text) (d : Decoder α) : (required name d).Needs [name] := by
  intro absent get fault h
  simp only [required] at h
  cases hget : get name with
  | none =>
    rw [hget] at h
    cases h
    exact .inl ⟨name, List.mem_singleton_self _, hget, rfl⟩
  | some data =>
    rw [hget] at h
    exact .inr ⟨_, List.mem_singleton_self _, data, hget, fault?_eq_some_iff.2 h⟩

theorem needs_optional (name : Text) (d : Decoder α) (usual : α) : (optional name d usual).Needs [] := by
  intro absent get fault h
  simp only [optional] at h
  cases hget : get name with
  | none => rw [hget] at h; cases h
  | some data =>
    rw [hget] at h
    exact .inr ⟨_, List.mem_singleton_self _, data, hget, fault?_eq_some_iff.2 h⟩

theorem Needs.apply {f : Fields (α → β)} {x : Fields α} {ns ms : List Text} (hf : f.Needs ns) (hx : x.Needs ms) :
    (f.apply x).Needs (ns ++ ms) := by
  intro absent get fault h
  simp only [Fields.apply] at h
  cases hg : f.build absent get with
  | error e =>
    rw [hg] at h
    cases h
    rcases hf absent get fault hg with ⟨name, hin, hname⟩ | ⟨c, hin, hc⟩
    · exact .inl ⟨name, List.mem_append_left _ hin, hname⟩
    · exact .inr ⟨c, List.mem_append_left _ hin, hc⟩
  | ok g =>
    rw [hg] at h
    cases ha : x.build absent get with
    | error e =>
      rw [ha] at h
      cases h
      rcases hx absent get fault ha with ⟨name, hin, hname⟩ | ⟨c, hin, hc⟩
      · exact .inl ⟨name, List.mem_append_right _ hin, hname⟩
      · exact .inr ⟨c, List.mem_append_right _ hin, hc⟩
    | ok a => rw [ha] at h; cases h

/-! ## Where something is missing -/

/-- a fault in a field about something missing has the given source -/
def MissingFrom (f : Fields ρ) (source : Text → Data → DecodeFault → Prop) : Prop :=
  ∀ c ∈ f.checks, ∀ data fault, c.2 data = some fault → fault.Missing → source c.1 data fault

section MissingFrom

variable {source : Text → Data → DecodeFault → Prop} {name : Text} {d : Decoder α} {usual : α}

theorem missingFrom_value (a : α) : (value a).MissingFrom source := by
  intro c hc
  cases hc

theorem missingFrom_required (h : ∀ data fault, d data = .error fault → fault.Missing → source name data fault) :
    (required name d).MissingFrom source := by
  intro c hc data fault hfault
  rw [List.mem_singleton.1 hc] at hfault ⊢
  exact h data fault (fault?_eq_some_iff.1 hfault)

theorem missingFrom_optional (h : ∀ data fault, d data = .error fault → fault.Missing → source name data fault) :
    (optional name d usual).MissingFrom source := missingFrom_required h

theorem missingFrom_required_plain (h : d.Plain) : (required name d).MissingFrom source :=
  missingFrom_required fun data fault hd hm => absurd hm (h data fault hd)

theorem missingFrom_optional_plain (h : d.Plain) : (optional name d usual).MissingFrom source :=
  missingFrom_required_plain h

theorem MissingFrom.apply {f : Fields (α → β)} {x : Fields α} (hf : f.MissingFrom source) (hx : x.MissingFrom source) :
    (f.apply x).MissingFrom source := by
  intro c hc
  rcases List.mem_append.1 hc with hin | hin
  · exact hf c hin
  · exact hx c hin

/-- **What a record misses**: a needed name, or something in one of its entries -/
theorem missing_of_entries {needed : List Text} (hneeds : f.Needs needed) (hfrom : f.MissingFrom source)
    (h : f.ofEntries absent entries = .error fault) (hm : fault.Missing) :
    (∃ name ∈ needed, entries.lookup name = none ∧ fault = absent name) ∨
      ∃ e ∈ entries, source e.1 e.2 fault := by
  have hentry : ∀ c ∈ f.checks, ∀ data, (c.1, data) ∈ entries → c.2 data = some fault →
      ∃ e ∈ entries, source e.1 e.2 fault :=
    fun c hc data hin hdata => ⟨(c.1, data), hin, hfrom c hc data fault hdata hm⟩
  rcases ofEntries_eq_error h with ⟨c, hc, data, hin, hdata⟩ | hbuild
  · exact .inr (hentry c hc data hin hdata)
  · rcases hneeds _ _ _ hbuild with hname | ⟨c, hc, data, hget, hdata⟩
    · exact .inl hname
    · exact .inr (hentry c hc data (Text.mem_of_lookup hget) hdata)

end MissingFrom

end Fields

end ResourceServer.Toml
