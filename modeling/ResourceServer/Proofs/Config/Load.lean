/-
Loading a configuration file, once and again.

A file is completed before it is read, and written only if something was added. What loading makes of a text that it has
printed rests on one premise: that the printed document is read as one that holds the same keys and values
(`Document.PrintsBack`), which is asked of the document that is written (`writtenDocument?`) and of no other.
- `completeFile_eq_ok_iff`, `load_eq_ok`: what is read, written and parsed when settings are loaded.
- `complete_of_printsBack`, `parse_of_printsBack`: a completed document that was printed is complete, and says the same.
- `load_again`: what was loaded is in the file, and loading it again changes nothing.
- `load_parsed`: a text that is accepted is loaded from a file as well, if its sections stand under headers or dotted
  keys; otherwise it is refused.
- `inline_not_loaded`: a section in braces is accepted in a text, and refused in a file.
-/
import ResourceServer.Proofs.Config.Completed
import ResourceServer.Proofs.Config.Rules
import ResourceServer.Proofs.Files.Writing
import ResourceServer.Proofs.Toml.Parser
import ResourceServer.Proofs.Toml.Same
import ResourceServer.Server.Start

namespace ResourceServer

open Toml Files

variable {tree provided after : FileTree} {path t : Text} {c : Settings} {d d' : Document} {added : List Text}

/-- the document that loading writes to the file: the completed one, where something is added -/
def writtenDocument? (tree : FileTree) (path : Text) : Option Document :=
  match provideConfig tree path with
  | .error _ => none
  | .ok tree =>
    match tree.read path with
    | .error _ => none
    | .ok content =>
      (Document.parse? content).bind fun d =>
        match d.complete with
        | .error _ => none
        | .ok (complete, added) => if added.isEmpty then none else some complete

/-! ## What loading does -/

theorem provideConfig_of_read (h : tree.read path = .ok t) : provideConfig tree path = .ok tree := by
  rw [provideConfig, if_pos (FileTree.present_of_read h)]

/-- **A file is completed** if it is read as a document that can be completed, and is written only if something is
added -/
theorem completeFile_eq_ok_iff :
    completeFile tree path = .ok (after, added) ↔
      ∃ t d d', tree.read path = .ok t ∧ Document.parse? t = some d ∧ d.complete = .ok (d', added) ∧
        (added = [] ∧ after = tree ∨ added ≠ [] ∧ tree.write path d'.text = .ok after) := by
  rw [completeFile]
  constructor
  · intro h
    split at h
    · cases h
    · rename_i t hread
      split at h
      · cases h
      · rename_i d hparse
        split at h
        · cases h
        · rename_i d' names hcomplete
          split_ifs at h with hnames
          · cases h
            rw [List.isEmpty_iff.1 hnames] at hcomplete
            exact ⟨t, d, d', hread, hparse, hcomplete, .inl ⟨rfl, rfl⟩⟩
          · split at h
            · cases h
            · rename_i hwrite
              cases h
              exact ⟨t, d, d', hread, hparse, hcomplete, .inr ⟨by simpa using hnames, hwrite⟩⟩
  · rintro ⟨t, d, d', hread, hparse, hcomplete, hcases⟩
    rw [hread]
    dsimp only
    rw [hparse]
    dsimp only
    rw [hcomplete]
    dsimp only
    rcases hcases with ⟨rfl, rfl⟩ | ⟨hnames, hwrite⟩
    · rfl
    · rw [if_neg (by simpa using hnames), hwrite]

theorem load_of_completeFile (hprovide : provideConfig tree path = .ok provided)
    (hfile : completeFile provided path = .ok (after, added)) (hread : after.read path = .ok t) :
    Settings.load tree path = ⟨after, added, Settings.parse t⟩ := by
  rw [Settings.load, hprovide]
  dsimp only
  rw [hfile]
  dsimp only
  rw [hread]

/-- settings are loaded from what the file holds when it has been completed -/
theorem load_eq_ok (h : (Settings.load tree path).outcome = .ok c) :
    ∃ provided after added t, provideConfig tree path = .ok provided ∧
      completeFile provided path = .ok (after, added) ∧ after.read path = .ok t ∧ Settings.parse t = .ok c := by
  rw [Settings.load] at h
  split at h
  · cases h
  · rename_i provided hprovide
    split at h
    · cases h
    · rename_i after added hfile
      split at h
      · cases h
      · rename_i t hread
        exact ⟨provided, after, added, t, hprovide, hfile, hread, h⟩

/-- a file to which nothing is added is parsed as it is -/
theorem load_of_complete (hread : tree.read path = .ok t) (hparse : Document.parse? t = some d)
    (hcomplete : d.complete = .ok (d', [])) : Settings.load tree path = ⟨tree, [], Settings.parse t⟩ :=
  load_of_completeFile (provideConfig_of_read hread)
    (completeFile_eq_ok_iff.2 ⟨t, d, d', hread, hparse, hcomplete, .inl ⟨rfl, rfl⟩⟩) hread

theorem writtenDocument?_eq (hprovide : provideConfig tree path = .ok provided) (hread : provided.read path = .ok t)
    (hparse : Document.parse? t = some d) (hcomplete : d.complete = .ok (d', added)) (hadded : added ≠ []) :
    writtenDocument? tree path = some d' := by
  rw [writtenDocument?, hprovide]
  dsimp only
  rw [hread]
  dsimp only
  rw [hparse, Option.bind_some, hcomplete]
  dsimp only
  rw [if_neg (by simpa using hadded)]

/-! ## Documents that were printed -/

/-- a completed document that was printed is read as one to which nothing is added -/
theorem complete_of_printsBack (hcomplete : d.complete = .ok (d', added)) (hprint : d'.PrintsBack) :
    ∃ d'', Document.parse? d'.text = some d'' ∧ d''.complete = .ok (d'', []) := by
  obtain ⟨d'', hparse, halike⟩ := hprint
  have hcompleted := (completed_of_complete hcomplete).of_alike halike
  exact ⟨d'', hparse, complete_of_completed hcompleted (steady_of_distinct (Document.parse?_distinct hparse))⟩

/-- settings that are read from a document are read from the completed one when it was printed -/
theorem parse_of_printsBack (hdecode : Settings.decoder d.data = .ok c) (hfault : c.fault? = none)
    (hcomplete : d.complete = .ok (d', added)) (hprint : d'.PrintsBack) : Settings.parse d'.text = .ok c := by
  obtain ⟨d'', hparse, halike⟩ := hprint
  have hd'' : d'.data.Alike d''.data := ⟨_, _, halike, Document.parse?_distinct hparse, rfl, rfl⟩
  exact Settings.parse_eq_ok_iff.2
    ⟨d'', hparse, Settings.decoder_respects _ _ hd'' c ((complete_preserves hcomplete).1 c hdecode), hfault⟩

/-- a document that says settings and can be completed is loaded with these settings -/
theorem load_of_document (hw : tree.Direct tree.workingDirectory) (hread : tree.read path = .ok t)
    (hd : Document.parse? t = some d) (hdecode : Settings.decoder d.data = .ok c) (hfault : c.fault? = none)
    (hcomplete : d.complete = .ok (d', added)) (hprint : ∀ d, writtenDocument? tree path = some d → d.PrintsBack) :
    (Settings.load tree path).outcome = .ok c := by
  have hprovide := provideConfig_of_read hread
  by_cases hadded : added = []
  · subst hadded
    rw [load_of_complete hread hd hcomplete]
    exact Settings.parse_eq_ok_iff.2 ⟨d, hd, hdecode, hfault⟩
  · obtain ⟨after, hwrite⟩ := FileTree.exists_write hw hread d'.text
    have hfile : completeFile tree path = .ok (after, added) :=
      completeFile_eq_ok_iff.2 ⟨t, d, d', hread, hd, hcomplete, .inr ⟨hadded, hwrite⟩⟩
    rw [load_of_completeFile hprovide hfile (FileTree.read_write hread hwrite)]
    exact parse_of_printsBack hdecode hfault hcomplete
      (hprint d' (writtenDocument?_eq hprovide hread hd hcomplete hadded))

/-- a document that cannot be completed is refused, and the file stays as it is -/
theorem load_of_incomplete {fault : RuleFault} (hread : tree.read path = .ok t) (hd : Document.parse? t = some d)
    (hcomplete : d.complete = .error fault) : Settings.load tree path = ⟨tree, [], .error (.invalid fault)⟩ := by
  have hfile : completeFile tree path = .error (.invalid fault) := by
    rw [completeFile, hread]
    dsimp only
    rw [hd]
    dsimp only
    rw [hcomplete]
  rw [Settings.load, provideConfig_of_read hread]
  dsimp only
  rw [hfile]

/-! ## A file that lacks settings -/

/-- a configuration that gives what has to be given -/
def sparseText : Text :=
  ["[server]".toList, "host = \"h\"".toList, "port = 80".toList, "base_url = \"u\"".toList,
    "[[resources.mappings]]".toList, "pattern = \"p\"".toList, "locations = [\"d\"]".toList].flatMap (· ++ ['\n'])

/-- a file with this text -/
def sparseTree : FileTree := ⟨[([['c']], .file sparseText)], []⟩

theorem parse_sparseText : Settings.parse sparseText = .ok sparseSettings := eq_ok_of_toOption (by decide +kernel)

theorem sparse_sections : ∃ d, Document.parse? sparseText = some d ∧ SectionFits d.root "server".toList ∧
    SectionFits d.root "resources".toList := by
  have hfits : (Document.parse? sparseText).any (fun d => decide (SectionFits d.root "server".toList) &&
      decide (SectionFits d.root "resources".toList)) = true := by decide +kernel
  cases hd : Document.parse? sparseText with
  | none =>
    rw [hd] at hfits
    cases hfits
  | some d =>
    rw [hd, Option.any_some, Bool.and_eq_true, decide_eq_true_iff, decide_eq_true_iff] at hfits
    exact ⟨d, rfl, hfits⟩

theorem sparse_printsBack : ∀ d, writtenDocument? sparseTree ['c'] = some d → d.PrintsBack := by
  have hcheck : (writtenDocument? sparseTree ['c']).all Document.printsSame = true := by decide +kernel
  intro d hd
  rw [hd, Option.all_some] at hcheck
  exact Document.printsBack_of_printsSame hcheck

theorem load_sparse : (Settings.load sparseTree ['c']).outcome = .ok sparseSettings := by
  obtain ⟨d, hd, hdecode, hfault⟩ := Settings.parse_eq_ok_iff.1 parse_sparseText
  obtain ⟨d', hd', hserver, hresources⟩ := sparse_sections
  rw [hd, Option.some.injEq] at hd'
  subst hd'
  obtain ⟨_, _, hcomplete⟩ := exists_complete hserver hresources
  exact load_of_document .root (by rfl) hd hdecode hfault hcomplete sparse_printsBack

/-! ## Loading again -/

/-- **Loading is a fixed point.** When settings were loaded, the file is there and its text gives these settings;
loading it again gives them once more, adds nothing, tells nothing and leaves all files as they are. -/
theorem load_again (h : (Settings.load tree path).outcome = .ok c)
    (hprint : ∀ d, writtenDocument? tree path = some d → d.PrintsBack) :
    (Settings.load tree path).tree.present path = true ∧
      (∃ t, (Settings.load tree path).tree.read path = .ok t ∧ Settings.parse t = .ok c) ∧
      Settings.load (Settings.load tree path).tree path = ⟨(Settings.load tree path).tree, [], .ok c⟩ ∧
      (Settings.load (Settings.load tree path).tree path).signals = [] := by
  obtain ⟨provided, after, added, t, hprovide, hfile, hread, hparse⟩ := load_eq_ok h
  have htree : (Settings.load tree path).tree = after := by rw [load_of_completeFile hprovide hfile hread]
  rw [htree]
  -- whether or not the file was written, it now holds a document to which nothing is added
  obtain ⟨d, d', hd, hcomplete⟩ : ∃ d d', Document.parse? t = some d ∧ d.complete = .ok (d', []) := by
    obtain ⟨t₀, d₀, d', hread₀, hparse₀, hcomplete, ⟨rfl, rfl⟩ | ⟨hadded, hwrite⟩⟩ := completeFile_eq_ok_iff.1 hfile
    · rw [hread, Except.ok.injEq] at hread₀
      rw [← hread₀] at hparse₀
      exact ⟨d₀, d', hparse₀, hcomplete⟩
    · rw [FileTree.read_write hread₀ hwrite, Except.ok.injEq] at hread
      have hprints := hprint d' (writtenDocument?_eq hprovide hread₀ hparse₀ hcomplete hadded)
      obtain ⟨d'', hparse'', hcomplete''⟩ := complete_of_printsBack hcomplete hprints
      rw [← hread]
      exact ⟨d'', d'', hparse'', hcomplete''⟩
  have hagain : Settings.load after path = ⟨after, [], .ok c⟩ := by
    rw [load_of_complete hread hd hcomplete, hparse]
  refine ⟨FileTree.present_of_read hread, ⟨t, hread, hparse⟩, hagain, ?_⟩
  rw [hagain]
  rfl

theorem load_again_sparse :
    (Settings.load sparseTree ['c']).outcome = .ok sparseSettings ∧ (writtenDocument? sparseTree ['c']).isSome = true ∧
      Settings.load (Settings.load sparseTree ['c']).tree ['c'] =
        ⟨(Settings.load sparseTree ['c']).tree, [], .ok sparseSettings⟩ := by
  obtain ⟨-, -, hagain, -⟩ := load_again load_sparse sparse_printsBack
  exact ⟨load_sparse, by decide +kernel, hagain⟩

/-! ## Loading what is accepted -/

/-- **What is accepted is loaded**, if its sections stand under headers or dotted keys: a file whose text gives settings
is loaded with these settings. A section that is written as a value, as a table in braces is, is refused. -/
theorem load_parsed (hw : tree.Direct tree.workingDirectory) (hread : tree.read path = .ok t)
    (hparse : Settings.parse t = .ok c) (hd : Document.parse? t = some d)
    (hprint : ∀ d, writtenDocument? tree path = some d → d.PrintsBack) :
    (SectionFits d.root "server".toList → SectionFits d.root "resources".toList →
      (Settings.load tree path).outcome = .ok c) ∧
    (¬ SectionFits d.root "server".toList →
      Settings.load tree path = ⟨tree, [], .error (.invalid (.notATable "server".toList))⟩) ∧
    (SectionFits d.root "server".toList → ¬ SectionFits d.root "resources".toList →
      Settings.load tree path = ⟨tree, [], .error (.invalid (.notATable "resources".toList))⟩) := by
  obtain ⟨d₀, hd₀, hdecode, hfault⟩ := Settings.parse_eq_ok_iff.1 hparse
  rw [hd, Option.some.injEq] at hd₀
  subst hd₀
  refine ⟨fun hserver hresources => ?_, fun hserver => ?_, fun hserver hresources => ?_⟩
  · obtain ⟨d', added, hcomplete⟩ := exists_complete hserver hresources
    exact load_of_document hw hread hd hdecode hfault hcomplete hprint
  · exact load_of_incomplete hread hd (complete_of_server_not_fits hserver)
  · exact load_of_incomplete hread hd (complete_of_resources_not_fits hserver hresources)

theorem load_parsed_sparse :
    Settings.parse sparseText = .ok sparseSettings ∧ (writtenDocument? sparseTree ['c']).isSome = true ∧
      (Settings.load sparseTree ['c']).outcome = .ok sparseSettings := by
  obtain ⟨d, hd, hserver, hresources⟩ := sparse_sections
  have hread : sparseTree.read ['c'] = .ok sparseText := by rfl
  exact ⟨parse_sparseText, by decide +kernel,
    (load_parsed .root hread parse_sparseText hd sparse_printsBack).1 hserver hresources⟩

/-! ## A section in braces -/

/-- a configuration the server section of which stands in braces -/
def inlineText : Text := "server = \x7b host = \"h\", port = 1, base_url = \"u\" \x7d\n".toList

/-- what it says -/
def inlineSettings : Settings := ⟨⟨['h'], 1, ['u'], [], true, 60, 10, [['*']], 1000, 8, true⟩, .usual⟩

/-- a file with this text -/
def inlineTree : FileTree := ⟨[([['c']], .file inlineText)], []⟩

theorem inline_not_loaded :
    Settings.parse inlineText = .ok inlineSettings ∧ inlineTree.read ['c'] = .ok inlineText ∧
      (Settings.load inlineTree ['c']).outcome = .error (.invalid (.notATable "server".toList)) := by
  have hparse : Settings.parse inlineText = .ok inlineSettings := eq_ok_of_toOption (by decide +kernel)
  have hread : inlineTree.read ['c'] = .ok inlineText := by rfl
  have hmisfit : (Document.parse? inlineText).all (fun d => !decide (SectionFits d.root "server".toList)) = true := by
    decide +kernel
  obtain ⟨d, hd, -⟩ := Settings.parse_eq_ok_iff.1 hparse
  rw [hd, Option.all_some, Bool.not_eq_true', decide_eq_false_iff_not] at hmisfit
  exact ⟨hparse, hread, by rw [load_of_incomplete hread hd (complete_of_server_not_fits hmisfit)]⟩

end ResourceServer
