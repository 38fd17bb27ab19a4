/-
What a TOML document says, without how it was written.

`Data` forgets spelling, layout and the difference between a table in braces and one under a header; the entries of a
table keep the order of the document.
-/
import ResourceServer.Toml.Document

namespace ResourceServer.Toml

/-- a plain tree of values -/
inductive Data where
  | string (t : Text)
  | integer (n : Int)
  | float (x : Binary64)
  | boolean (b : Bool)
  | date (t : Text)
  | array (items : List Data)
  | table (entries : List (Text × Data))

/-- what a scalar says -/
def Scalar.data : Scalar → Data
  | .string t => .string t
  | .integer n => .integer n
  | .float x => .float x
  | .boolean b => .boolean b
  | .datetime t => .date t

mutual

/-- what a value says -/
def Value.data : Value → Data
  | .scalar s _ _ => s.data
  | .array items _ _ _ => .array (Value.dataOfItems items)
  | .inline ⟨entries, _, _, _⟩ => .table (Value.dataOfEntries entries)

/-- what the items of an array say -/
def Value.dataOfItems : List Value → List Data
  | [] => []
  | v :: more => v.data :: Value.dataOfItems more

/-- what the entries of a table in braces say -/
def Value.dataOfEntries : List (Key × Value) → List (Text × Data)
  | [] => []
  | (key, v) :: more => (key.name, v.data) :: Value.dataOfEntries more

end

mutual

/-- what an item of a table says -/
def Item.data : Item → Data
  | .value v => v.data
  | .table ⟨entries, _, _, _, _⟩ => .table (Item.dataOfEntries entries)
  | .tables ts => .array (Item.dataOfTables ts)

/-- what the entries of a table say -/
def Item.dataOfEntries : List (Key × Item) → List (Text × Data)
  | [] => []
  | (key, item) :: more => (key.name, item.data) :: Item.dataOfEntries more

/-- what a list of tables says -/
def Item.dataOfTables : List (TableOf Item) → List Data
  | [] => []
  | ⟨entries, _, _, _, _⟩ :: more => .table (Item.dataOfEntries entries) :: Item.dataOfTables more

end

/-- what a document says -/
def Document.data (d : Document) : Data := .table (Item.dataOfEntries d.root.entries)

end ResourceServer.Toml
