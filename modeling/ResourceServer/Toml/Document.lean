/-
A TOML document that keeps how it was written.

Keys and values carry their spelling and the text around them, and tables tell apart how they came about: by a header,
by dotted keys, or only as the parent of another table. A part made by the program has no text around it of its own
and is printed with the usual one. `Table` is a list of keyed items in the order of the document.
-/
import ResourceServer.Text

namespace ResourceServer.Toml

/-- the text before and after a part; none where the usual one is printed -/
structure Decor where
  before : Option Text
  after : Option Text
  deriving DecidableEq, Repr

/-- nothing of its own around a part -/
def Decor.usual : Decor := ⟨none, none⟩

/-- the given text around a part -/
def Decor.around (before after : Text) : Decor := ⟨some before, some after⟩

/-- a key, how it was spelled, and the text around it at the end and inside of a dotted path -/
structure Key where
  name : Text
  spelling : Text
  leaf : Decor
  dotted : Decor
  deriving DecidableEq, Repr

/-- a key that the program adds -/
def Key.bare (name : Text) : Key := ⟨name, name, .usual, .usual⟩

/-- a floating point number: a multiple of a power of two, an infinity, or no number -/
inductive Binary64 where
  | finite (negative : Bool) (mantissa : Nat) (exponent : Int)
  | infinite (negative : Bool)
  | notANumber
  deriving DecidableEq, Repr

/-- a value without parts -/
inductive Scalar where
  | string (t : Text)
  | integer (n : Int)
  | float (x : Binary64)
  | boolean (b : Bool)
  | datetime (t : Text)
  deriving DecidableEq, Repr

/-- a table in braces: its entries, whether it stands for dotted keys inside of one, the text in empty braces -/
structure InlineTable (ν : Type) where
  entries : List (Key × ν)
  dotted : Bool
  padding : Text
  decor : Decor

/-- a value: a scalar and its spelling, an array, or a table in braces -/
inductive Value where
  | scalar (s : Scalar) (spelling : Text) (decor : Decor)
  | array (items : List Value) (comma : Bool) (padding : Text) (decor : Decor)
  | inline (t : InlineTable Value)

/-- a table of items: `implicit` where no header of its own made it, `dotted` where dotted keys did; the position is the
number of its header -/
structure TableOf (ι : Type) where
  entries : List (Key × ι)
  implicit : Bool
  dotted : Bool
  position : Option Nat
  decor : Decor

/-- what a key of a table stands for -/
inductive Item where
  | value (v : Value)
  | table (t : TableOf Item)
  | tables (ts : List (TableOf Item))

/-- a table of a document -/
abbrev Table := TableOf Item

/-- a document: its root table and the text behind the last line -/
structure Document where
  root : Table
  ending : Text

/-! ## Entries -/

section Entries

variable {ι : Type}

/-- what is kept under a name -/
def named? (entries : List (Key × ι)) (name : Text) : Option ι :=
  (entries.find? fun e => e.1.name == name).map (·.2)

/-- replaces what is kept under a name -/
def replaceEntry (entries : List (Key × ι)) (name : Text) (item : ι) : List (Key × ι) :=
  entries.map fun e => if e.1.name == name then (e.1, item) else e

/-- leaves out what is kept under a name -/
def dropEntry (entries : List (Key × ι)) (name : Text) : List (Key × ι) := entries.filter fun e => e.1.name != name

end Entries

/-- a table without entries that no header made -/
def TableOf.fresh {ι : Type} (dotted : Bool) : TableOf ι := ⟨[], true, dotted, none, .usual⟩

/-- the table with one more entry behind the others -/
def TableOf.append {ι : Type} (t : TableOf ι) (key : Key) (item : ι) : TableOf ι :=
  { t with entries := t.entries ++ [(key, item)] }

/-- what a table keeps under a name -/
def TableOf.get? {ι : Type} (t : TableOf ι) (name : Text) : Option ι := named? t.entries name

/-- whether a table keeps something under a name -/
def TableOf.has {ι : Type} (t : TableOf ι) (name : Text) : Bool := (t.get? name).isSome

/-- the table with what it keeps under a name replaced -/
def TableOf.replace {ι : Type} (t : TableOf ι) (name : Text) (item : ι) : TableOf ι :=
  { t with entries := replaceEntry t.entries name item }

/-- the value with the given text around it -/
def Value.dressed (before after : Text) : Value → Value
  | .scalar s spelling _ => .scalar s spelling (.around before after)
  | .array items comma padding _ => .array items comma padding (.around before after)
  | .inline t => .inline { t with decor := .around before after }

/-! ## Values that the program adds -/

/-- a string without characters that need escaping -/
def Value.ofString (t : Text) : Value := .scalar (.string t) ('"' :: t ++ ['"']) .usual

/-- a number -/
def Value.ofNat (n : Nat) : Value := .scalar (.integer n) (Text.ofNat n) .usual

/-- a truth value -/
def Value.ofBool (b : Bool) : Value := .scalar (.boolean b) (if b then "true".toList else "false".toList) .usual

/-- an array -/
def Value.ofList (items : List Value) : Value := .array items false [] .usual

end ResourceServer.Toml
