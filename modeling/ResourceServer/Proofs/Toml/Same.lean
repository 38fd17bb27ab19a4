/-
A check that a document prints back.

`Document.printsSame` prints a document, reads the text and compares what it holds; `printsBack_of_printsSame`: the text
of a document that passes is read as one that holds the same keys and values. The headers of the document have to be in
order, so that its parts need not be sorted to print them.
-/
import ResourceServer.Proofs.Toml.Alike

namespace ResourceServer.Toml

variable {t u : Table}

/-! ## Data -/

mutual

/-- whether data are the same -/
def Data.same : Data → Data → Bool
  | .string t, .string t' => t == t'
  | .integer n, .integer n' => n == n'
  | .float x, .float x' => x == x'
  | .boolean b, .boolean b' => b == b'
  | .date t, .date t' => t == t'
  | .array ds, .array ds' => Data.sameItems ds ds'
  | .table es, .table es' => Data.sameEntries es es'
  | _, _ => false

/-- whether the items of arrays are the same -/
def Data.sameItems : List Data → List Data → Bool
  | [], [] => true
  | d :: ds, d' :: ds' => d.same d' && Data.sameItems ds ds'
  | _, _ => false

/-- whether the entries of tables are the same, in the same order -/
def Data.sameEntries : List (Text × Data) → List (Text × Data) → Bool
  | [], [] => true
  | (name, d) :: es, (name', d') :: es' => name == name' && d.same d' && Data.sameEntries es es'
  | _, _ => false

end

mutual

theorem Data.eq_of_same : ∀ {d d' : Data}, d.same d' = true → d = d'
  | .array ds, .array ds', h => by rw [Data.eq_of_sameItems h]
  | .table es, .table es', h => by rw [Data.eq_of_sameEntries h]
  | .string _, d', h => by cases d' <;> simp_all [Data.same]
  | .integer _, d', h => by cases d' <;> simp_all [Data.same]
  | .float _, d', h => by cases d' <;> simp_all [Data.same]
  | .boolean _, d', h => by cases d' <;> simp_all [Data.same]
  | .date _, d', h => by cases d' <;> simp_all [Data.same]

theorem Data.eq_of_sameItems : ∀ {ds ds' : List Data}, Data.sameItems ds ds' = true → ds = ds'
  | [], [], _ => rfl
  | d :: ds, d' :: ds', h => by
    rw [Data.sameItems, Bool.and_eq_true] at h
    rw [Data.eq_of_same h.1, Data.eq_of_sameItems h.2]

theorem Data.eq_of_sameEntries : ∀ {es es' : List (Text × Data)}, Data.sameEntries es es' = true → es = es'
  | [], [], _ => rfl
  | (name, d) :: es, (name', d') :: es', h => by
    rw [Data.sameEntries, Bool.and_eq_true, Bool.and_eq_true] at h
    rw [beq_iff_eq.1 h.1.1, Data.eq_of_same h.1.2, Data.eq_of_sameEntries h.2]

end

/-! ## Items -/

/-- whether a table has no keys but those of some entries -/
def TableOf.within (u : Table) (entries : List (Key × Item)) : Bool :=
  u.entries.all fun e => (named? entries e.1.name).isSome

mutual

/-- whether items are alike -/
def Item.same : Item → Item → Bool
  | .value v, .value w => v.data.same w.data
  | .table ⟨entries, _, _, _, _⟩, .table u => u.within entries && Item.sameEntries entries u
  | .tables ts, .tables us => Item.sameTables ts us
  | _, _ => false

/-- whether each entry has one in the table that is alike -/
def Item.sameEntries : List (Key × Item) → Table → Bool
  | [], _ => true
  | (key, x) :: more, u =>
    (match u.get? key.name with
      | some y => x.same y
      | none => false) && Item.sameEntries more u

/-- whether tables are alike one by one -/
def Item.sameTables : List Table → List Table → Bool
  | [], [] => true
  | ⟨entries, _, _, _, _⟩ :: ts, u :: us => u.within entries && Item.sameEntries entries u && Item.sameTables ts us
  | _, _ => false

end

/-- a table each entry of which has one in another table that is alike, and which has an entry for each of its keys -/
theorem Item.alike_table (hentries : ∀ e ∈ t.entries, ∃ y, u.get? e.1.name = some y ∧ e.2.Alike y)
    (hkeys : u.within t.entries = true) : (Item.table t).Alike (.table u) := by
  refine .table (fun name => ?_) fun name x y hx hy => ?_
  · rw [Bool.eq_iff_iff, TableOf.has_eq_true_iff, TableOf.has_eq_true_iff]
    constructor
    · rintro ⟨x, hx⟩
      obtain ⟨key, hin, rfl⟩ := TableOf.mem_of_get? hx
      obtain ⟨y, hy, -⟩ := hentries _ hin
      exact ⟨y, hy⟩
    · rintro ⟨y, hy⟩
      obtain ⟨key, hin, rfl⟩ := TableOf.mem_of_get? hy
      exact Option.isSome_iff_exists.1 (List.all_eq_true.1 hkeys _ hin)
  · obtain ⟨key, hin, rfl⟩ := TableOf.mem_of_get? hx
    obtain ⟨y', hy', hxy⟩ := hentries _ hin
    rw [hy, Option.some.injEq] at hy'
    rw [hy']
    exact hxy

mutual

/-- **Items that pass the check are alike** -/
theorem Item.alike_of_same : ∀ {x y : Item}, x.same y = true → x.Alike y
  | .value v, .value w, h => .value (Data.eq_of_same h)
  | .table ⟨_, _, _, _, _⟩, .table _, h =>
    Item.alike_table (Item.alike_of_sameEntries (Bool.and_eq_true_iff.1 h).2) (Bool.and_eq_true_iff.1 h).1
  | .tables ts, .tables us, h => .tables (Item.alike_of_sameTables h).1 (Item.alike_of_sameTables h).2

theorem Item.alike_of_sameEntries : ∀ {entries : List (Key × Item)} {u : Table}, Item.sameEntries entries u = true →
    ∀ e ∈ entries, ∃ y, u.get? e.1.name = some y ∧ e.2.Alike y
  | [], _, _, _, he => absurd he List.not_mem_nil
  | (key, x) :: more, u, h, e, he => by
    rw [Item.sameEntries, Bool.and_eq_true] at h
    rcases List.mem_cons.1 he with rfl | hin
    · cases hy : u.get? key.name with
      | none =>
        rw [hy] at h
        cases h.1
      | some y =>
        rw [hy] at h
        exact ⟨y, rfl, Item.alike_of_same h.1⟩
    · exact Item.alike_of_sameEntries h.2 e hin

theorem Item.alike_of_sameTables : ∀ {ts us : List Table}, Item.sameTables ts us = true →
    ts.length = us.length ∧ ∀ p ∈ ts.zip us, (Item.table p.1).Alike (.table p.2)
  | [], [], _ => ⟨rfl, fun _ hp => absurd hp List.not_mem_nil⟩
  | ⟨_, _, _, _, _⟩ :: ts, u :: us, h => by
    rw [Item.sameTables, Bool.and_eq_true, Bool.and_eq_true] at h
    obtain ⟨hlength, heach⟩ := Item.alike_of_sameTables h.2
    refine ⟨congrArg (· + 1) hlength, fun p hp => ?_⟩
    rcases List.mem_cons.1 hp with rfl | hin
    · exact Item.alike_table (Item.alike_of_sameEntries h.1.2) h.1.1
    · exact heach p hin

end

/-! ## Documents -/

/-- the parts of a document with their numbers, in the order in which its tables list them -/
def Document.parts (d : Document) : List (ℕ × Printer.Section) :=
  Printer.numbered 0 (⟨d.root.position, [], false, true, d.root.decor, Printer.lines [] d.root.entries⟩ ::
    Printer.sections [] d.root.entries)

/-- the headers of a document are numbered in order -/
def Document.InOrder (d : Document) : Prop := d.parts.Pairwise fun a b => a.1 ≤ b.1

instance (d : Document) : Decidable d.InOrder := inferInstanceAs (Decidable (List.Pairwise _ _))

/-- the text of a document whose parts are printed as its tables list them -/
def Document.textInOrder (d : Document) : Text :=
  Printer.parts true (d.parts.map (·.2)) ++ d.ending.filter (· != '\r')

theorem Document.text_of_inOrder {d : Document} (h : d.InOrder) : d.text = d.textInOrder := by
  have hsort : (d.parts.mergeSort fun a b => a.1 ≤ b.1) = d.parts :=
    List.mergeSort_of_pairwise (h.imp fun hle => decide_eq_true hle)
  rw [text, Printer.arranged, ← parts, hsort, textInOrder]

/-- whether a document is in order, and its text read as a document that holds the same keys and values -/
def Document.printsSame (d : Document) : Bool :=
  decide d.InOrder &&
    match Document.parse? d.textInOrder with
    | none => false
    | some d' => (Item.table d.root).same (.table d'.root)

theorem Document.printsBack_of_printsSame {d : Document} (h : d.printsSame = true) : d.PrintsBack := by
  rw [printsSame, Bool.and_eq_true, decide_eq_true_iff] at h
  obtain ⟨horder, hsame⟩ := h
  split at hsame
  · cases hsame
  · rename_i d' hparse
    exact ⟨d', by rw [text_of_inOrder horder, hparse], Item.alike_of_same hsame⟩

end ResourceServer.Toml
