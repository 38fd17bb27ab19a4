/-
The words of TOML: blanks, comments, keys, strings, numbers and times.

A reader takes a text and gives what it read and the text behind it. `Attempt` tells apart a text that holds no word of
the kind asked for from one that begins such a word and breaks off. Spellings are kept, so that what is not changed is
printed as it was.
-/
import ResourceServer.Toml.Binary64

namespace ResourceServer.Toml.Lexeme

/-- what trying to read a word gives -/
inductive Attempt (α : Type) where
  | found (a : α) (rest : Text)
  | absent
  | broken

/-- the front of a text up to one of its ends -/
def consumed (t rest : Text) : Text := t.take (t.length - rest.length)

/-! ## Characters -/

/-- a space or a tab -/
def isSpace (c : Char) : Bool := c == ' ' || c == '\t'

/-- a character that may stand in a comment -/
def inComment (c : Char) : Bool := c == '\t' || (0x20 ≤ c.toNat && c.toNat != 0x7F)

/-- a character that stands for itself between double quotes -/
def inBasic (c : Char) : Bool := inComment c && c != '"' && c != '\\'

/-- a character that may stand between single quotes -/
def inLiteral (c : Char) : Bool := inComment c && c.toNat != 0x27

/-- a character of a key without quotes -/
def inBareKey (c : Char) : Bool := c.isAlphanum || c == '-' || c == '_'

/-- the value of a hexadecimal digit -/
def hexDigit? (c : Char) : Option Nat :=
  if c.isDigit then some (c.toNat - 0x30)
  else if 'a' ≤ c && c ≤ 'f' then some (c.toNat - 0x61 + 10)
  else if 'A' ≤ c && c ≤ 'F' then some (c.toNat - 0x41 + 10)
  else none

/-! ## Blanks and comments -/

/-- what follows the spaces and tabs -/
def skipSpaces (t : Text) : Text := t.dropWhile isSpace

/-- what follows a line end -/
def afterLineEnd? : Text → Option Text
  | '\n' :: rest => some rest
  | '\r' :: '\n' :: rest => some rest
  | _ => none

/-- what follows a comment; a text without one is kept -/
def skipComment (t : Text) : Text :=
  match t with
  | '#' :: rest => rest.dropWhile inComment
  | _ => t

/-- the rest of a line, with its comment and without its end, and the text behind the end -/
def lineRest? (t : Text) : Option (Text × Text) :=
  let rest := skipComment (skipSpaces t)
  match afterLineEnd? rest with
  | some next => some (consumed t rest, next)
  | none => if rest.isEmpty then some (t, []) else none

/-- what follows spaces, line ends and comments, which may be several; none where a comment does not end a line -/
def skipLines? : Nat → Text → Option Text
  | 0, t => some t
  | n + 1, t =>
    let rest := skipSpaces t
    match rest with
    | '#' :: _ => (afterLineEnd? (skipComment rest)).bind (skipLines? n)
    | _ =>
      match afterLineEnd? rest with
      | some next => skipLines? n next
      | none => some rest

/-! ## Strings -/

/-- a number of exactly so many hexadecimal digits -/
def hexNumber? : Nat → Nat → Text → Option (Nat × Text)
  | 0, value, t => some (value, t)
  | n + 1, value, c :: rest => (hexDigit? c).bind fun d => hexNumber? n (16 * value + d) rest
  | _ + 1, _, [] => none

/-- the character of a code, if the code has one -/
def charOf? (code : Nat) : Option Char := if h : code.isValidChar then some (Char.ofNatAux code h) else none

/-- the character behind a backslash -/
def escaped? : Text → Option (Char × Text)
  | 'b' :: rest => some ('\x08', rest)
  | 'f' :: rest => some ('\x0c', rest)
  | 'n' :: rest => some ('\n', rest)
  | 'r' :: rest => some ('\r', rest)
  | 't' :: rest => some ('\t', rest)
  | '"' :: rest => some ('"', rest)
  | '\\' :: rest => some ('\\', rest)
  | 'u' :: rest => (hexNumber? 4 0 rest).bind fun (code, rest) => (charOf? code).map (·, rest)
  | 'U' :: rest => (hexNumber? 8 0 rest).bind fun (code, rest) => (charOf? code).map (·, rest)
  | _ => none

/-- the text up to the closing double quote, and what follows it -/
def basicBody? : Nat → Text → Option (Text × Text)
  | 0, _ => none
  | _ + 1, [] => none
  | n + 1, c :: rest =>
    if c = '"' then some ([], rest)
    else if c = '\\' then
      (escaped? rest).bind fun (e, rest) => (basicBody? n rest).map fun (t, rest) => (e :: t, rest)
    else if inBasic c then (basicBody? n rest).map fun (t, rest) => (c :: t, rest)
    else none

/-- the text up to the closing single quote, and what follows it -/
def literalBody? (t : Text) : Option (Text × Text) :=
  match t.dropWhile inLiteral with
  | '\x27' :: rest => some (t.takeWhile inLiteral, rest)
  | _ => none

/-- what follows the spaces and line ends -/
def skipBlankLines : Nat → Text → Text
  | 0, t => t
  | n + 1, t =>
    let rest := skipSpaces t
    match afterLineEnd? rest with
    | some next => skipBlankLines n next
    | none => rest

/-- the text up to three closing quotes, of which up to two more belong to it, and what follows. `escapes` says
whether a backslash begins an escape; one at the end of a line leaves out all blanks behind it. -/
def linesBody? (quote : Char) (escapes : Bool) : Nat → Text → Option (Text × Text)
  | 0, _ => none
  | _ + 1, [] => none
  | n + 1, c :: rest =>
    if c = quote then
      let count := ((c :: rest).takeWhile (· == quote)).length
      if count < 3 then (linesBody? quote escapes n rest).map fun (t, rest) => (c :: t, rest)
      else
        let more := min (count - 3) 2
        some (List.replicate more quote, (c :: rest).drop (more + 3))
    else
      match afterLineEnd? (c :: rest) with
      | some next => (linesBody? quote escapes n next).map fun (t, rest) => ('\n' :: t, rest)
      | none =>
        if escapes && c == '\\' then
          match afterLineEnd? (skipSpaces rest) with
          | some next => linesBody? quote escapes n (skipBlankLines next.length next)
          | none =>
            (escaped? rest).bind fun (e, rest) =>
              (linesBody? quote escapes n rest).map fun (t, rest) => (e :: t, rest)
        else if inComment c then (linesBody? quote escapes n rest).map fun (t, rest) => (c :: t, rest)
        else none

/-- a text without the line end at its front -/
def dropLineEnd (t : Text) : Text := (afterLineEnd? t).getD t

/-- a string in any quotes -/
def string? : Text → Option (Text × Text)
  | '"' :: '"' :: '"' :: rest => linesBody? '"' true (rest.length + 1) (dropLineEnd rest)
  | '"' :: rest => basicBody? (rest.length + 1) rest
  | '\x27' :: '\x27' :: '\x27' :: rest => linesBody? '\x27' false (rest.length + 1) (dropLineEnd rest)
  | '\x27' :: rest => literalBody? rest
  | _ => none

/-! ## Keys -/

/-- one key, with its spelling -/
def simpleKey? : Text → Option (Text × Text × Text)
  | '"' :: rest => (basicBody? (rest.length + 1) rest).map fun (name, next) => (name, consumed ('"' :: rest) next, next)
  | '\x27' :: rest => (literalBody? rest).map fun (name, next) => (name, consumed ('\x27' :: rest) next, next)
  | t =>
    let name := t.takeWhile inBareKey
    if name.isEmpty then none else some (name, name, t.dropWhile inBareKey)

/-- keys with dots between them, each with the spaces around it -/
def dottedKeys? : Nat → Text → Option (List Key × Text)
  | 0, _ => none
  | n + 1, t =>
    match simpleKey? (skipSpaces t) with
    | none => none
    | some (name, spelling, behind) =>
      let rest := skipSpaces behind
      let key : Key := ⟨name, spelling, .usual, .around (t.takeWhile isSpace) (behind.takeWhile isSpace)⟩
      match rest with
      | '.' :: more =>
        (dottedKeys? n more).map fun (keys, rest) => (key :: keys, rest)
      | _ => some ([key], rest)

/-- the text around a whole dotted key belongs to its last part: what stands before its first part and behind its last
-/
def settleKeys : List Key → List Key
  | [] => []
  | first :: more =>
    let before := first.dotted.before
    let first : Key := { first with dotted := { first.dotted with before := some [] } }
    match (first :: more).getLast? with
    | none => []
    | some last =>
      (first :: more).dropLast ++
        [{ last with leaf := ⟨before, last.dotted.after⟩, dotted := { last.dotted with after := some [] } }]

/-- the most parts of a key, and the most levels of values inside of each other -/
def depthLimit : Nat := 79

/-- a key of one or more parts -/
def key? (t : Text) : Option (List Key × Text) :=
  match dottedKeys? (t.length + 1) t with
  | some (keys, rest) => if keys.length ≤ depthLimit then some (settleKeys keys, rest) else none
  | none => none

/-! ## Numbers -/

/-- further digits, each perhaps behind an underscore; broken at an underscore without one -/
def moreDigits (isDigit : Char → Bool) : Text → Attempt Text
  | '_' :: c :: rest =>
    if isDigit c then
      match moreDigits isDigit rest with
      | .found ds rest => .found (c :: ds) rest
      | failure => failure
    else .broken
  | '_' :: [] => .broken
  | c :: rest =>
    if isDigit c then
      match moreDigits isDigit rest with
      | .found ds rest => .found (c :: ds) rest
      | failure => failure
    else .found [] (c :: rest)
  | [] => .found [] []

/-- one digit or more -/
def someDigits (isDigit : Char → Bool) : Text → Attempt Text
  | c :: rest =>
    if isDigit c then
      match moreDigits isDigit rest with
      | .found ds rest => .found (c :: ds) rest
      | failure => failure
    else .absent
  | [] => .absent

/-- a sign, if there is one: whether it is a minus, and what follows -/
def sign : Text → Bool × Text
  | '-' :: rest => (true, rest)
  | '+' :: rest => (false, rest)
  | t => (false, t)

/-- the digits of a whole number; a zero stands alone -/
def wholeDigits : Text → Attempt Text
  | '0' :: rest => .found ['0'] rest
  | t => someDigits Char.isDigit t

/-- the number of some digits -/
def numberOf (base : Nat) (ds : Text) : Nat := ds.foldl (fun n c => base * n + (hexDigit? c).getD 0) 0

/-- digits that cannot be left out -/
def required {α : Type} : Attempt α → Attempt α
  | .absent => .broken
  | a => a

/-- an exponent: its sign and its digits -/
def exponentPart : Text → Attempt (Bool × Text)
  | c :: rest =>
    if c = 'e' ∨ c = 'E' then
      let (negative, rest) := sign rest
      match someDigits Char.isDigit rest with
      | .found ds rest => .found (negative, ds) rest
      | _ => .broken
    else .absent
  | [] => .absent

/-- the power of ten of an exponent -/
def power (e : Bool × Text) : Int := if e.1 then -(numberOf 10 e.2 : Int) else numberOf 10 e.2

/-- digits and a power of ten as a number; one that is too great is refused, but not a negative one -/
def decimal (negative : Bool) (ds : Text) (power : Int) (rest : Text) : Attempt Scalar :=
  match Binary64.ofDecimal negative (numberOf 10 ds) power with
  | .infinite false => .broken
  | x => .found (.float x) rest

/-- a number with a fraction or an exponent -/
def decimalNumber (t : Text) : Attempt Scalar :=
  let (negative, unsigned) := sign t
  match wholeDigits unsigned with
  | .absent => .absent
  | .broken => .broken
  | .found whole rest =>
    match exponentPart rest with
    | .broken => .broken
    | .found e rest => decimal negative whole (power e) rest
    | .absent =>
      match rest with
      | '.' :: behind =>
        match required (someDigits Char.isDigit behind) with
        | .found fraction rest =>
          match exponentPart rest with
          | .broken => .broken
          | .found e rest => decimal negative (whole ++ fraction) (power e - fraction.length) rest
          | .absent => decimal negative (whole ++ fraction) (-(fraction.length : Int)) rest
        | _ => .broken
      | _ => .absent

/-- an infinity or no number -/
def specialNumber (t : Text) : Attempt Scalar :=
  let (negative, unsigned) := sign t
  match unsigned with
  | 'i' :: 'n' :: 'f' :: rest => .found (.float (.infinite negative)) rest
  | 'n' :: 'a' :: 'n' :: rest => .found (.float .notANumber) rest
  | _ => .absent

/-- a whole number of 64 bits with a sign -/
def integerOf (n : Int) (rest : Text) : Attempt Scalar :=
  if -0x8000000000000000 ≤ n ∧ n < 0x8000000000000000 then .found (.integer n) rest else .broken

/-- the digits of a number in another base -/
def inBase (base : Nat) (isDigit : Char → Bool) (t : Text) : Attempt Scalar :=
  match required (someDigits isDigit t) with
  | .found ds rest => integerOf (numberOf base ds) rest
  | _ => .broken

/-- a whole number -/
def wholeNumber : Text → Attempt Scalar
  | '0' :: 'x' :: rest => inBase 16 (fun c => (hexDigit? c).isSome) rest
  | '0' :: 'o' :: rest => inBase 8 (fun c => '0' ≤ c && c ≤ '7') rest
  | '0' :: 'b' :: rest => inBase 2 (fun c => c == '0' || c == '1') rest
  | t =>
    let (negative, unsigned) := sign t
    match wholeDigits unsigned with
    | .found ds rest => integerOf (if negative then -(numberOf 10 ds : Int) else numberOf 10 ds) rest
    | .absent => .absent
    | .broken => .broken

/-! ## Dates and times -/

/-- a number of exactly so many decimal digits -/
def fixedNumber? : Nat → Nat → Text → Option (Nat × Text)
  | 0, value, t => some (value, t)
  | n + 1, value, c :: rest => if c.isDigit then fixedNumber? n (10 * value + (c.toNat - 0x30)) rest else none
  | _ + 1, _, [] => none

/-- a number of two digits between bounds -/
def twoDigits? (low high : Nat) (t : Text) : Option (Nat × Text) :=
  match fixedNumber? 2 0 t with
  | some (n, rest) => if low ≤ n ∧ n ≤ high then some (n, rest) else none
  | none => none

/-- how many days a month has -/
def daysIn (year month : Nat) : Nat :=
  if month = 2 then if year % 4 = 0 ∧ (year % 100 ≠ 0 ∨ year % 400 = 0) then 29 else 28
  else if month = 4 ∨ month = 6 ∨ month = 9 ∨ month = 11 then 30
  else 31

/-- a date; broken once its year and a dash are there -/
def date (t : Text) : Attempt Unit :=
  match fixedNumber? 4 0 t with
  | some (year, '-' :: rest) =>
    match twoDigits? 1 12 rest with
    | some (month, '-' :: rest) =>
      match twoDigits? 1 (daysIn year month) rest with
      | some (_, rest) => .found () rest
      | none => .broken
    | _ => .broken
  | _ => .absent

/-- fractions of a second, if there are any -/
def skipFraction : Text → Text
  | '.' :: c :: rest => if c.isDigit then rest.dropWhile Char.isDigit else '.' :: c :: rest
  | t => t

/-- a time of day; broken once its hour and a colon are there -/
def timeOfDay (t : Text) : Attempt Unit :=
  match twoDigits? 0 23 t with
  | some (_, ':' :: rest) =>
    match twoDigits? 0 59 rest with
    | some (_, ':' :: rest) =>
      match twoDigits? 0 60 rest with
      | some (_, rest) => .found () (skipFraction rest)
      | none => .broken
    | _ => .broken
  | _ => .absent

/-- the distance from universal time, if there is one; broken once its sign is there -/
def offset : Text → Attempt Unit
  | c :: rest =>
    if c = 'Z' ∨ c = 'z' then .found () rest
    else if c = '+' ∨ c = '-' then
      match twoDigits? 0 23 rest with
      | some (_, ':' :: rest) =>
        match twoDigits? 0 59 rest with
        | some (_, rest) => .found () rest
        | none => .broken
      | _ => .broken
    else .found () (c :: rest)
  | [] => .found () []

/-- a date with or without a time, or a time alone; what follows it -/
def moment (t : Text) : Attempt Unit :=
  match date t with
  | .broken => .broken
  | .absent => timeOfDay t
  | .found _ rest =>
    match rest with
    | c :: behind =>
      if c = 'T' ∨ c = 't' ∨ c = ' ' then
        match timeOfDay behind with
        | .broken => .broken
        | .absent => .found () rest
        | .found _ behind => offset behind
      else .found () rest
    | [] => .found () rest

/-! ## Scalars -/

/-- a date, a time or a number -/
def momentOrNumber? (t : Text) : Option (Scalar × Text) :=
  match moment t with
  | .broken => none
  | .found _ rest => some (.datetime (consumed t rest), rest)
  | .absent =>
    match decimalNumber t with
    | .broken => none
    | .found x rest => some (x, rest)
    | .absent =>
      match specialNumber t with
      | .found x rest => some (x, rest)
      | _ =>
        match wholeNumber t with
        | .found x rest => some (x, rest)
        | _ => none

/-- a value without parts -/
def scalar? (t : Text) : Option (Scalar × Text) :=
  match t with
  | 't' :: 'r' :: 'u' :: 'e' :: rest => some (.boolean true, rest)
  | 'f' :: 'a' :: 'l' :: 's' :: 'e' :: rest => some (.boolean false, rest)
  | c :: _ =>
    if c = '"' ∨ c.toNat = 0x27 then (string? t).map fun (s, rest) => (.string s, rest)
    else if c = 'i' ∨ c = 'n' then
      match specialNumber t with
      | .found x rest => some (x, rest)
      | _ => none
    else if c = '+' ∨ c = '-' ∨ c.isDigit then momentOrNumber? t
    else none
  | [] => none

end ResourceServer.Toml.Lexeme
