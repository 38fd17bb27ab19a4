/-
UTF-8: the bytes of a text, and the text of bytes; and percent escapes, which spell bytes.

Bytes are natural numbers below 256. `decode?` refuses anything that is not well formed; `decodeLossy` puts U+FFFD for
each longest part that starts like a character and goes wrong. Positions in bytes are mapped to cuts of the text by
`cutAtByte?`, which refuses a position inside a character.

`%` and two hexadecimal digits stand for a byte; a `%` without them stands for itself. `Percent.decode?` reads escapes
in the UTF-8 bytes of a text and refuses a result that is not UTF-8. `Percent.decodeForm` is the reading of form fields:
a plus sign is a space, and what is not UTF-8 becomes U+FFFD.
-/
import ResourceServer.Text

namespace ResourceServer.Text

/-! ## Encoding -/

/-- the bytes of one character -/
def encodeChar (c : Char) : List Nat :=
  let n := c.toNat
  if n < 0x80 then [n]
  else if n < 0x800 then [0xC0 + n / 0x40, 0x80 + n % 0x40]
  else if n < 0x10000 then [0xE0 + n / 0x1000, 0x80 + n / 0x40 % 0x40, 0x80 + n % 0x40]
  else [0xF0 + n / 0x40000, 0x80 + n / 0x1000 % 0x40, 0x80 + n / 0x40 % 0x40, 0x80 + n % 0x40]

/-- the bytes of a text -/
def encode (t : Text) : List Nat := t.flatMap encodeChar

/-- how many bytes a text takes -/
def byteLength (t : Text) : Nat := t.foldr (fun c n => (encodeChar c).length + n) 0

/-- the two parts of a text at a position in bytes; none inside a character or past the end -/
def cutAtByte? : Nat → Text → Option (Text × Text)
  | 0, t => some ([], t)
  | _ + 1, [] => none
  | n + 1, c :: rest =>
    if (encodeChar c).length ≤ n + 1 then
      (cutAtByte? (n + 1 - (encodeChar c).length) rest).map fun (front, back) => (c :: front, back)
    else none

/-! ## Decoding -/

/-- whether the byte continues a character -/
def continues (b : Nat) : Bool := 0x80 ≤ b && b ≤ 0xBF

/-- whether the second byte of a character with the given first byte may be `b` -/
def continuesAfter (first b : Nat) : Bool :=
  if first = 0xE0 then 0xA0 ≤ b && b ≤ 0xBF
  else if first = 0xED then 0x80 ≤ b && b ≤ 0x9F
  else if first = 0xF0 then 0x90 ≤ b && b ≤ 0xBF
  else if first = 0xF4 then 0x80 ≤ b && b ≤ 0x8F
  else continues b

/-- the first character of some bytes and the bytes after it; a malformed beginning gives none and the bytes after the
longest part of it that could have begun a character -/
def decodeFirst (first : Nat) (rest : List Nat) : Option Char × List Nat :=
  if first < 0x80 then (some (Char.ofNat first), rest)
  else if 0xC2 ≤ first && first ≤ 0xDF then
    match rest with
    | b :: more => if continues b then (some (Char.ofNat ((first - 0xC0) * 0x40 + (b - 0x80))), more) else (none, rest)
    | [] => (none, rest)
  else if 0xE0 ≤ first && first ≤ 0xEF then
    match rest with
    | b :: more =>
      if continuesAfter first b then
        match more with
        | d :: last =>
          if continues d then (some (Char.ofNat ((first - 0xE0) * 0x1000 + (b - 0x80) * 0x40 + (d - 0x80))), last)
          else (none, more)
        | [] => (none, more)
      else (none, rest)
    | [] => (none, rest)
  else if 0xF0 ≤ first && first ≤ 0xF4 then
    match rest with
    | b :: more =>
      if continuesAfter first b then
        match more with
        | d :: last =>
          if continues d then
            match last with
            | e :: tail =>
              if continues e then
                (some (Char.ofNat
                  ((first - 0xF0) * 0x40000 + (b - 0x80) * 0x1000 + (d - 0x80) * 0x40 + (e - 0x80))), tail)
              else (none, last)
            | [] => (none, last)
          else (none, more)
        | [] => (none, more)
      else (none, rest)
    | [] => (none, rest)
  else (none, rest)

/-- decoding with a bound on the number of characters; `bad` answers for a malformed part -/
def decodeWithin (bad : Option Char) : Nat → List Nat → Option Text
  | _, [] => some []
  | 0, _ :: _ => none
  | n + 1, first :: rest =>
    match decodeFirst first rest with
    | (some c, more) => (decodeWithin bad n more).map (c :: ·)
    | (none, more) => bad.bind fun c => (decodeWithin bad n more).map (c :: ·)

/-- the text of well-formed bytes -/
def decode? (bytes : List Nat) : Option Text := decodeWithin none bytes.length bytes

/-- the text of any bytes, U+FFFD in place of what is malformed -/
def decodeLossy (bytes : List Nat) : Text :=
  (decodeWithin (some '\uFFFD') bytes.length bytes).getD []

end ResourceServer.Text

/-! ## Percent escapes -/

namespace ResourceServer.Request.Percent

/-- the value of a hexadecimal digit -/
def digit? (b : Nat) : Option Nat :=
  if 0x30 ≤ b && b ≤ 0x39 then some (b - 0x30)
  else if 0x41 ≤ b && b ≤ 0x46 then some (b - 0x41 + 10)
  else if 0x61 ≤ b && b ≤ 0x66 then some (b - 0x61 + 10)
  else none

/-- the byte that the first two bytes spell, if they are hexadecimal digits -/
def spelled? : List Nat → Option Nat
  | high :: low :: _ =>
    match digit? high, digit? low with
    | some a, some b => some (16 * a + b)
    | _, _ => none
  | _ => none

/-- replaces the escapes; the number says how many bytes in front belong to an escape already replaced -/
def unescapeFrom : Nat → List Nat → List Nat
  | _, [] => []
  | done + 1, _ :: rest => unescapeFrom done rest
  | 0, b :: rest =>
    if b = 0x25 then
      match spelled? rest with
      | some v => v :: unescapeFrom 2 rest
      | none => b :: unescapeFrom 0 rest
    else b :: unescapeFrom 0 rest

/-- the bytes with each escape replaced by its byte -/
def unescape (bytes : List Nat) : List Nat := unescapeFrom 0 bytes

/-- the text that the escapes stand for, if it is UTF-8 -/
def decode? (t : Text) : Option Text := Text.decode? (unescape (Text.encode t))

/-- the text of a form field -/
def decodeForm (t : Text) : Text :=
  Text.decodeLossy (unescape (Text.encode (t.map fun c => if c = '+' then ' ' else c)))

end ResourceServer.Request.Percent
