/-
What a started server puts around its answers: sharing with other origins, a limit for request bodies, and
compression.

An `OPTIONS` request is answered before anything else. A request that announces too large a body is refused, and the
body of an answer is compressed if the client accepts it and it pays.
-/
import ResourceServer.Config.Settings
import ResourceServer.Http.Message
import ResourceServer.Text

namespace ResourceServer.Http

/-- the origins that may use answers, the most bytes of a request body, whether a request is ever let in, and whether
answers are compressed -/
structure Layers where
  origins : List Text
  bodyLimit : Nat
  admits : Bool
  compresses : Bool
  deriving DecidableEq, Repr

/-- the layers of some settings -/
def Layers.ofServer (s : ServerSettings) : Layers :=
  ⟨s.allowedOrigins, min (s.maxBodySizeMb * (1024 * 1024)) (Nat.pow 2 64 - 1), s.maxConcurrentRequests != 0,
    s.enableCompression⟩

/-! ## Other origins -/

/-- the header that lets the origin of a request use the answer -/
def Layers.originHeader (l : Layers) (r : Request) : Headers :=
  if l.origins.contains ['*'] then [header "access-control-allow-origin" "*"]
  else
    match (r.values "origin").head? with
    | some origin => if l.origins.contains origin then [("access-control-allow-origin".toList, origin)] else []
    | none => []

/-- the answer to `OPTIONS`: every method and every header is allowed -/
def Layers.permission (l : Layers) (r : Request) : Response :=
  (Response.empty 200).withHeaders (l.originHeader r
    ++ [header "access-control-allow-methods" "*", header "access-control-allow-headers" "*"])

/-- shares an answer with other origins -/
def Layers.share (l : Layers) (r : Request) (answer : Response) : Response :=
  if r.has "OPTIONS" then (l.permission r).measured else answer.withHeaders (l.originHeader r)

/-! ## Compression -/

/-- ways to write a body, from the least to the most preferred -/
inductive Coding where
  | identity
  | deflate
  | gzip
  | brotli
  | zstd
  deriving DecidableEq, Repr

namespace Coding

/-- the place in the order of preference -/
def rank : Coding → Nat
  | .identity => 0
  | .deflate => 1
  | .gzip => 2
  | .brotli => 3
  | .zstd => 4

/-- the name in headers -/
def name : Coding → String
  | .identity => "identity"
  | .deflate => "deflate"
  | .gzip => "gzip"
  | .brotli => "br"
  | .zstd => "zstd"

/-- the coding of a name in any case -/
def ofName? (t : Text) : Option Coding :=
  match String.ofList (t.map Char.toLower) with
  | "identity" => some .identity
  | "deflate" => some .deflate
  | "gzip" => some .gzip
  | "x-gzip" => some .gzip
  | "br" => some .brotli
  | "zstd" => some .zstd
  | _ => none

end Coding

/-- thousandths from up to three decimals -/
def thousandths? : Nat → Text → Option Nat
  | _, [] => some 0
  | unit, c :: rest =>
    if c.isDigit && unit != 0 then (thousandths? (unit / 10) rest).map (unit * (c.toNat - '0'.toNat) + ·) else none

/-- a weight in thousandths, written `q=` and a number from 0 to 1 with up to three decimals -/
def weight? (t : Text) : Option Nat :=
  match t with
  | q :: '=' :: digit :: rest =>
    if (q = 'q' ∨ q = 'Q') ∧ (digit = '0' ∨ digit = '1') then
      let units := if digit = '1' then 1000 else 0
      match rest with
      | [] => some units
      | '.' :: decimals =>
        (thousandths? 100 decimals).bind fun n => if units + n ≤ 1000 then some (units + n) else none
      | _ => none
    else none
  | _ => none

/-- an accepted coding and its weight; none where either cannot be read -/
def accepted? (t : Text) : Option (Coding × Nat) :=
  match Coding.ofName? (Text.trim (t.takeWhile (· != ';'))) with
  | none => none
  | some coding =>
    match t.dropWhile (· != ';') with
    | [] => some (coding, 1000)
    | _ :: weight => (weight? (Text.trim weight)).map (coding, ·)

/-- the better of two accepted codings: the one of higher weight, of equal ones the more preferred -/
def better (a b : Coding × Nat) : Coding × Nat :=
  if b.2 < a.2 ∨ (b.2 = a.2 ∧ b.1.rank ≤ a.1.rank) then a else b

/-- whether the character may stand in a list of codings: a printed one of ASCII, a space or a tab -/
def codingChar (c : Char) : Bool := c == '\t' || (0x20 ≤ c.toNat && c.toNat < 0x7F)

/-- the coding that a request asks for; a weight of zero refuses a coding, and a list with other characters than those
of lists does not count at all -/
def chosenCoding (r : Request) : Coding :=
  let lists := (r.values "accept-encoding").filter fun list => list.all codingChar
  let accepted := (lists.flatMap (Text.piecesBy (· == ','))).filterMap accepted?
  (accepted.filter fun a => a.2 != 0).foldl better (.identity, 0) |>.1

/-- the least size of a body that is compressed -/
def leastCompressed : Nat := 32

/-- whether compressing a body pays: it has some size and is no image but a drawing, no stream of events or messages -/
def Response.compressible (r : Response) : Bool :=
  let type := (r.headers.get? "content-type").getD []
  decide (leastCompressed ≤ r.size)
    && !"application/grpc".toList.isPrefixOf type
    && (type == "image/svg+xml".toList || !"image/".toList.isPrefixOf type)
    && !"text/event-stream".toList.isPrefixOf type

/-- compresses an answer; its length is then no longer announced -/
def Layers.compress (l : Layers) (r : Request) (answer : Response) : Response :=
  if !l.compresses || !answer.compressible then answer
  else
    match chosenCoding r with
    | .identity => answer
    | coding =>
      { answer with
        headers := answer.headers.filter (·.1 != "content-length".toList) ++ [header "content-encoding" coding.name] }

/-! ## The limit of request bodies -/

/-- the announced length of the request body -/
def Request.announcedLength? (r : Request) : Option Nat :=
  (r.values "content-length").head?.bind (Text.natBelow? (Nat.pow 2 64))

/-- refuses too large a body, and lets no request in where none may be served -/
def Layers.limited (l : Layers) (r : Request) (answer : Response) : Response :=
  if l.bodyLimit < r.announcedLength?.getD 0 then (Response.ofText 413 "length limit exceeded".toList).measured
  else if !l.admits then (Response.empty 408).measured
  else answer

/-- an answer behind all layers -/
def Layers.around (l : Layers) (r : Request) (answer : Response) : Response :=
  l.share r (l.compress r (l.limited r answer))

end ResourceServer.Http
