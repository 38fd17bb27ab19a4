/-
JSON texts, as far as the server writes them.

There are no blanks between the parts. Quotes, backslashes and control characters are escaped, everything else stands
for itself.
-/
import ResourceServer.Text

namespace ResourceServer.Http

/-- a JSON value without numbers -/
inductive Json where
  | text (t : Text)
  | flag (b : Bool)
  | list (items : List Json)
  | object (fields : List (Text × Json))

namespace Json

/-- two hexadecimal digits -/
def hexPair (n : Nat) : Text := [Nat.digitChar (n / 16), Nat.digitChar (n % 16)]

/-- a character between quotes -/
def escape (c : Char) : Text :=
  if c = '"' then ['\\', '"']
  else if c = '\\' then ['\\', '\\']
  else if c = '\n' then ['\\', 'n']
  else if c = '\r' then ['\\', 'r']
  else if c = '\t' then ['\\', 't']
  else if c = '\x08' then ['\\', 'b']
  else if c = '\x0c' then ['\\', 'f']
  else if c.toNat < 0x20 then ['\\', 'u', '0', '0'] ++ hexPair c.toNat
  else [c]

/-- a text in quotes -/
def quoted (t : Text) : Text := '"' :: t.flatMap escape ++ ['"']

mutual

/-- the text of a value -/
def render : Json → Text
  | .text t => quoted t
  | .flag b => if b then "true".toList else "false".toList
  | .list items => '[' :: Text.join [','] (renderItems items) ++ [']']
  | .object fields => '\x7b' :: Text.join [','] (renderFields fields) ++ ['\x7d']

/-- the texts of some values -/
def renderItems : List Json → List Text
  | [] => []
  | j :: more => j.render :: renderItems more

/-- the texts of some named values -/
def renderFields : List (Text × Json) → List Text
  | [] => []
  | (name, j) :: more => (quoted name ++ ':' :: j.render) :: renderFields more

end

end Json

end ResourceServer.Http
