/-
Reading typed values from what a TOML document says.

A decoder takes data to a value or to a `DecodeFault`. `Fields` describes the fields of a record in their declared
order: `required` ones, and `optional` ones with what holds in their absence. A record is decoded from a table, or
from an array that lists its fields: the first field of the document that does not decode counts before any field that
is missing, and of those the first declared one counts. What a record does not name is ignored. A date counts as a
table of which no record names anything.
-/
import ResourceServer.Toml.Data
import ResourceServer.Toml.Binary64
import ResourceServer.Text.Printing

namespace ResourceServer.Toml

/-! ## Faults -/

/-- why data is not what a setting asks for -/
inductive DecodeFault where
  | invalidType (found : Data) (expected : Text)
  | invalidValue (found : Int) (expected : Text)
  | missingField (name : Text)
  | tooFewItems (count : Nat) (expected : Text)

/-- what is said about data of the wrong kind -/
def Data.describe : Data → String
  | .string t => "string " ++ String.ofList (Text.quoted t)
  | .integer n => "integer `" ++ toString n ++ "`"
  | .float x => "floating point `" ++ String.ofList x.text ++ "`"
  | .boolean b => "boolean `" ++ (if b then "true" else "false") ++ "`"
  | .array _ => "sequence"
  | .table _ => "map"
  | .date _ => "map"

/-- the fault in words -/
def DecodeFault.message : DecodeFault → String
  | .invalidType found expected => "invalid type: " ++ found.describe ++ ", expected " ++ String.ofList expected
  | .invalidValue found expected =>
    "invalid value: " ++ (Data.integer found).describe ++ ", expected " ++ String.ofList expected
  | .missingField name => "missing field `" ++ String.ofList name ++ "`"
  | .tooFewItems count expected => "invalid length " ++ toString count ++ ", expected " ++ String.ofList expected

/-- a way to read data -/
abbrev Decoder (α : Type) := Data → Except DecodeFault α

namespace Decoder

/-! ## Values -/

/-- a text -/
def text : Decoder Text
  | .string t => .ok t
  | d => .error (.invalidType d "a string".toList)

/-- a truth value -/
def flag : Decoder Bool
  | .boolean b => .ok b
  | d => .error (.invalidType d "a boolean".toList)

/-- a number that is not negative and below a limit, called by the given name -/
def natural (limit : Nat) (name : Text) : Decoder Nat
  | .integer n => if 0 ≤ n ∧ n < limit then .ok n.toNat else .error (.invalidValue n name)
  | d => .error (.invalidType d name)

/-- a list of what another decoder reads -/
def list {α : Type} (item : Decoder α) : Decoder (List α)
  | .array items => items.mapM item
  | d => .error (.invalidType d "a sequence".toList)

end Decoder

/-! ## Records -/

/-- the fields of a record: what each name holds as far as it can go wrong, and the record of what the names hold,
with the fault of a name that holds nothing -/
structure Fields (ρ : Type) where
  checks : List (Text × (Data → Option DecodeFault))
  build : (absent : Text → DecodeFault) → (get : Text → Option Data) → Except DecodeFault ρ

namespace Fields

variable {α β ρ : Type}

/-- the fault of a decoder at some data -/
def fault? (d : Decoder α) (data : Data) : Option DecodeFault :=
  match d data with
  | .ok _ => none
  | .error e => some e

/-- a field that has to be there -/
def required (name : Text) (d : Decoder α) : Fields α :=
  ⟨[(name, fault? d)], fun absent get =>
    match get name with
    | some data => d data
    | none => .error (absent name)⟩

/-- a field that stands for the given value where it is absent -/
def optional (name : Text) (d : Decoder α) (usual : α) : Fields α :=
  ⟨[(name, fault? d)], fun _ get =>
    match get name with
    | some data => d data
    | none => .ok usual⟩

/-- a record without fields -/
def value (a : α) : Fields α := ⟨[], fun _ _ => .ok a⟩

/-- the fields of two records, those of the first in front -/
def apply (f : Fields (α → β)) (x : Fields α) : Fields β :=
  ⟨f.checks ++ x.checks, fun absent get =>
    match f.build absent get with
    | .error e => .error e
    | .ok g =>
      match x.build absent get with
      | .error e => .error e
      | .ok a => .ok (g a)⟩

/-- the names of the fields in their declared order -/
def names (f : Fields ρ) : List Text := f.checks.map (·.1)

/-- the fault of the first entry that does not decode -/
def firstFault? (f : Fields ρ) (entries : List (Text × Data)) : Option DecodeFault :=
  entries.findSome? fun e => (f.checks.lookup e.1).bind fun check => check e.2

/-- the record of some entries -/
def ofEntries (f : Fields ρ) (absent : Text → DecodeFault) (entries : List (Text × Data)) : Except DecodeFault ρ :=
  match f.firstFault? entries with
  | some e => .error e
  | none => f.build absent fun name => entries.lookup name

/-- a record of the given name -/
def decode (f : Fields ρ) (name : Text) : Decoder ρ
  | .table entries => f.ofEntries .missingField entries
  | .date _ => f.ofEntries .missingField []
  | .array items =>
    f.ofEntries (fun _ => .tooFewItems items.length ("struct ".toList ++ name)) (f.names.zip items)
  | d => .error (.invalidType d ("struct ".toList ++ name))

end Fields

end ResourceServer.Toml
