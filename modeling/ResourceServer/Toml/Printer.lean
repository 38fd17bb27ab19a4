/-
Printing a TOML document as it was written.

The tables of a document are printed by the number of their header, a table without one right behind the table visited
before it. What was read is printed with its spelling and the text around it, less carriage returns; what was added
gets the usual spaces, and an added table an empty line before it unless it comes first. Dotted keys are printed in
full, and a table that no header made has none unless it holds values.
-/
import ResourceServer.Toml.Document

namespace ResourceServer.Toml

namespace Printer

/-- text around a part, or the usual one; carriage returns are left out -/
def around (t : Option Text) (usual : Text) : Text := (t.getD usual).filter (· != '\r')

/-! ## Keys and values -/

/-- the parts of a path behind its first one, each with a dot -/
def laterKeys : List Key → Text
  | [] => []
  | [key] => '.' :: around key.dotted.before [] ++ key.spelling
  | key :: more => '.' :: around key.dotted.before [] ++ key.spelling ++ around key.dotted.after [] ++ laterKeys more

/-- a dotted path; the text around it is that of its last part -/
def keyPath (path : List Key) (before after : Text) : Text :=
  match path, path.getLast? with
  | key :: more, some last =>
    around last.leaf.before before ++ key.spelling
      ++ (if more.isEmpty then [] else around key.dotted.after []) ++ laterKeys more ++ around last.leaf.after after
  | _, _ => []

mutual

/-- a value, with the given usual text around it -/
def value (before after : Text) : Value → Text
  | .scalar _ spelling decor => around decor.before before ++ spelling ++ around decor.after after
  | .array items comma padding decor =>
    around decor.before before ++ '[' :: values true items
      ++ (if comma && !items.isEmpty then [','] else []) ++ around (some padding) [] ++ ']' :: around decor.after after
  | .inline ⟨entries, _, padding, decor⟩ =>
    around decor.before before ++ '\x7b' :: around (some padding) [] ++ Text.join [','] (inlineEntries [] entries)
      ++ '}' :: around decor.after after

/-- the items of an array -/
def values (first : Bool) : List Value → Text
  | [] => []
  | v :: more => (if first then value [] [] v else ',' :: value [' '] [] v) ++ values false more

/-- the entries of a table in braces behind a path of dotted keys; one made by dotted keys stands for its own entries -/
def inlineEntries (path : List Key) : List (Key × Value) → List Text
  | [] => []
  | (key, .inline ⟨entries, dotted, padding, decor⟩) :: more =>
    (if dotted then inlineEntries (path ++ [key]) entries
      else [keyPath (path ++ [key]) [' '] [' '] ++ '=' :: value [' '] [] (.inline ⟨entries, dotted, padding, decor⟩)])
      ++ inlineEntries path more
  | (key, v) :: more =>
    (keyPath (path ++ [key]) [' '] [' '] ++ '=' :: value [' '] [] v) :: inlineEntries path more

end

/-! ## Tables -/

mutual

/-- the values below a table, with the path of keys that leads to each of them; tables with a header are left out -/
def lines (path : List Key) : List (Key × Item) → List (List Key × Value)
  | [] => []
  | (key, item) :: more => linesOf (path ++ [key]) item ++ lines path more

/-- the values that an item of a table stands for -/
def linesOf (path : List Key) : Item → List (List Key × Value)
  | .value v => [(path, v)]
  | .table ⟨entries, _, dotted, _, _⟩ => if dotted then lines path entries else []
  | .tables _ => []

end

/-- a part of a document with a header of its own: the number of the header where it was read, the path in the header,
whether the header opens one more table of a list, whether it may be left out, the text around it, and the values -/
structure Section where
  position : Option Nat
  path : List Key
  listed : Bool
  implicit : Bool
  decor : Decor
  lines : List (List Key × Value)

mutual

/-- the parts of the items of a table, depth first -/
def sections (path : List Key) : List (Key × Item) → List Section
  | [] => []
  | (key, item) :: more => sectionsOf (path ++ [key]) item ++ sections path more

/-- the parts that an item stands for; dotted keys have none of their own, but tables below them may -/
def sectionsOf (path : List Key) : Item → List Section
  | .value _ => []
  | .table ⟨entries, implicit, dotted, position, decor⟩ =>
    (if dotted then [] else [⟨position, path, false, implicit, decor, Printer.lines [] entries⟩])
      ++ sections path entries
  | .tables ts => listedSections path ts

/-- the parts of the tables of a list -/
def listedSections (path : List Key) : List (TableOf Item) → List Section
  | [] => []
  | ⟨entries, implicit, dotted, position, decor⟩ :: more =>
    (if dotted then [] else [⟨position, path, true, implicit, decor, Printer.lines [] entries⟩])
      ++ sections path entries ++ listedSections path more

end

/-- the parts with their number, one that was added with the number of the part before it -/
def numbered (last : Nat) : List Section → List (Nat × Section)
  | [] => []
  | s :: more => (s.position.getD last, s) :: numbered (s.position.getD last) more

/-- the parts of a document in the order of their headers, the root first -/
def arranged (root : Table) : List Section :=
  let parts := ⟨root.position, [], false, true, root.decor, lines [] root.entries⟩ :: sections [] root.entries
  ((numbered 0 parts).mergeSort fun a b => a.1 ≤ b.1).map (·.2)

/-- a line of a table -/
def line (entry : List Key × Value) : Text := keyPath entry.1 [] [' '] ++ '=' :: value [' '] [] entry.2 ++ ['\n']

/-- a header with an empty line before it unless it is the first of the document -/
def header (first : Bool) (s : Section) : Text :=
  let brackets : Text × Text := if s.listed then (['[', '['], [']', ']']) else (['['], [']'])
  around s.decor.before (if first then [] else ['\n']) ++ brackets.1 ++ keyPath s.path [] [] ++ brackets.2
    ++ around s.decor.after [] ++ ['\n']

/-- the root has no header, and a table that no header made has none unless it holds values -/
def Section.headed (s : Section) : Bool := !s.path.isEmpty && (s.listed || !s.implicit || !s.lines.isEmpty)

/-- the parts one behind the other; `first` until something was printed -/
def parts (first : Bool) : List Section → Text
  | [] => []
  | s :: more =>
    (if s.headed then header first s else []) ++ s.lines.flatMap line
      ++ parts (first && !s.headed && !(s.path.isEmpty && !s.lines.isEmpty)) more

end Printer

/-- the text of a document -/
def Document.text (d : Document) : Text :=
  Printer.parts true (Printer.arranged d.root) ++ d.ending.filter (· != '\r')

end ResourceServer.Toml
