/-
Reading a TOML document.

`value?` reads values, at most `Lexeme.depthLimit` levels of them inside of each other. `Builder` collects the lines
of a document: the table that the last header opened is kept apart and put in its place when the next header or the
end comes. `Document.parse?` refuses what is not TOML, and a key or a table that is defined twice.
-/
import ResourceServer.Toml.Lexeme

namespace ResourceServer.Toml

open Lexeme

/-! ## Entries of tables in braces -/

/-- an empty table in braces that stands for dotted keys -/
def InlineTable.dottedKeys : InlineTable Value := ⟨[], true, [], .usual⟩

/-- puts a value under a dotted key; none where a part of it is taken -/
def InlineTable.put? : List Key → Value → InlineTable Value → Option (InlineTable Value)
  | [], _, _ => none
  | [key], v, t =>
    if (named? t.entries key.name).isSome then none else some { t with entries := t.entries ++ [(key, v)] }
  | key :: more, v, t =>
    match named? t.entries key.name with
    | none =>
      (put? more v InlineTable.dottedKeys).map fun child => { t with entries := t.entries ++ [(key, .inline child)] }
    | some (.inline child) =>
      if child.dotted then
        (put? more v child).map fun child => { t with entries := replaceEntry t.entries key.name (.inline child) }
      else none
    | some _ => none

/-! ## Values -/

/-- the items of an array behind its opening bracket: items, whether a comma follows the last, and the text before the
closing bracket -/
def items? (item : Text → Option (Value × Text)) : Nat → Text → Option (List Value × Bool × Text × Text)
  | 0, _ => none
  | n + 1, t =>
    match skipLines? (t.length + 1) t with
    | none => none
    | some start =>
      match start with
      | ']' :: rest => some ([], false, consumed t start, rest)
      | _ =>
        match item start with
        | none => none
        | some (v, behind) =>
          match skipLines? (behind.length + 1) behind with
          | none => none
          | some next =>
            let v := v.dressed (consumed t start) (consumed behind next)
            match next with
            | ',' :: rest =>
              (items? item n rest).map fun (vs, comma, padding, rest) => (v :: vs, comma || vs.isEmpty, padding, rest)
            | ']' :: rest => some ([v], false, [], rest)
            | _ => none

/-- the entries of a table in braces up to the closing one -/
def entries? (item : Text → Option (Value × Text)) : Nat → InlineTable Value → Text → Option (InlineTable Value × Text)
  | 0, _, _ => none
  | n + 1, table, t =>
    match key? t with
    | none => none
    | some (keys, rest) =>
      match rest with
      | '=' :: behind =>
        let start := skipSpaces behind
        match item start with
        | none => none
        | some (v, after) =>
          let next := skipSpaces after
          match table.put? keys (v.dressed (consumed behind start) (consumed after next)) with
          | none => none
          | some table =>
            match next with
            | ',' :: rest => entries? item n table rest
            | '}' :: rest => some (table, rest)
            | _ => none
      | _ => none

/-- a value, with at most the given number of levels inside of each other -/
def value? : Nat → Text → Option (Value × Text)
  | depth, t =>
    match t with
    | '[' :: rest =>
      match depth with
      | 0 => none
      | depth + 1 =>
        (items? (value? depth) (rest.length + 1) rest).map fun (vs, comma, padding, rest) =>
          (.array vs comma padding (.around [] []), rest)
    | '\x7b' :: rest =>
      match depth with
      | 0 => none
      | depth + 1 =>
        let start := skipSpaces rest
        match start with
        | '}' :: behind => some (.inline ⟨[], false, consumed rest start, .around [] []⟩, behind)
        | _ =>
          (entries? (value? depth) (rest.length + 1) ⟨[], false, [], .around [] []⟩ rest).map fun (table, rest) =>
            (.inline table, rest)
    | _ => (scalar? t).map fun (s, rest) => (.scalar s (consumed t rest) (.around [] []), rest)

/-! ## Tables of a document -/

namespace Table

/-- changes the table that a path leads to, making those that are missing. A path through tables in brackets leads to
the last of them; dotted keys lead only to tables without a header. -/
def changeAt? (dotted : Bool) (change : Table → Option Table) : List Key → Table → Option Table
  | [], t => change t
  | key :: more, t =>
    match t.get? key.name with
    | none => (changeAt? dotted change more (TableOf.fresh dotted)).map fun child => t.append key (.table child)
    | some (.value _) => none
    | some (.tables ts) =>
      match ts.getLast? with
      | none => none
      | some last =>
        (changeAt? dotted change more last).map fun child => t.replace key.name (.tables (ts.dropLast ++ [child]))
    | some (.table child) =>
      if dotted && !child.implicit then none
      else (changeAt? dotted change more child).map fun child => t.replace key.name (.table child)

/-- puts a value under a dotted key; none where it is taken, or where the last table was not made by dotted keys -/
def put? (path : List Key) (key : Key) (v : Value) (t : Table) : Option Table :=
  changeAt? true (fun t => if t.dotted == path.isEmpty || t.has key.name then none else some (t.append key (.value v)))
    path t

end Table

/-- the lines of a document so far: the finished tables, the open one with the path of its header, the number of
headers, and the blanks and comments since the last line -/
structure Builder where
  root : Table
  current : Table
  path : List Key
  isArray : Bool
  headers : Nat
  pending : Text

namespace Builder

/-- no lines yet; the root table is open -/
def start : Builder :=
  ⟨⟨[], false, false, none, .usual⟩, ⟨[], false, false, none, .usual⟩, [], false, 0, []⟩

/-- puts the open table in its place -/
def finish? (b : Builder) : Option Table :=
  match b.path.getLast? with
  | none => some b.current
  | some key =>
    Table.changeAt? false (fun t =>
      if b.isArray then
        match t.get? key.name with
        | some (.tables ts) => some (t.replace key.name (.tables (ts ++ [b.current])))
        | _ => none
      else
        match t.get? key.name with
        | none => some (t.append key (.table b.current))
        | some (.table old) => if old.implicit then some (t.replace key.name (.table b.current)) else none
        | _ => none) b.path.dropLast b.root

/-- opens a table in the given root; the table that other headers made before is continued -/
def openTable? (b : Builder) (root : Table) (path : List Key) (after : Text) : Option Builder :=
  match path.getLast? with
  | none => none
  | some key =>
    let opened (old : List (Key × Item)) (root : Table) : Builder :=
      { root, path, isArray := false, headers := b.headers + 1, pending := []
        current := ⟨old, false, false, some (b.headers + 1), .around b.pending after⟩ }
    match Table.changeAt? false some path.dropLast root with
    | none => none
    | some root =>
      let old : Option Item := (lookupAt path.dropLast root).bind fun t => t.get? key.name
      match old with
      | none => some (opened [] root)
      | some (.table t) =>
        if t.implicit && !t.dotted then
          (Table.changeAt? false (fun parent => some { parent with entries := dropEntry parent.entries key.name })
            path.dropLast root).map (opened t.entries)
        else none
      | some _ => none
where
  /-- the table that a path leads to -/
  lookupAt : List Key → Table → Option Table
    | [], t => some t
    | key :: more, t =>
      match t.get? key.name with
      | some (.table child) => lookupAt more child
      | some (.tables ts) => ts.getLast?.bind (lookupAt more)
      | _ => none

/-- opens one more of the tables under a header in double brackets -/
def openArray? (b : Builder) (root : Table) (path : List Key) (after : Text) : Option Builder :=
  match path.getLast? with
  | none => none
  | some key =>
    (Table.changeAt? false (fun t =>
      match t.get? key.name with
      | none => some (t.append key (.tables []))
      | some (.tables _) => some t
      | some _ => none) path.dropLast root).map fun root =>
    { root, path, isArray := true, headers := b.headers + 1, pending := []
      current := ⟨[], false, false, some (b.headers + 1), .around b.pending after⟩ }

/-- a line with a header: the keys between its brackets and the rest of the line -/
def header? (b : Builder) (inArray : Bool) (t : Text) : Option (Builder × Text) :=
  match key? t with
  | none => none
  | some (path, rest) =>
    let behind? : Option Text :=
      match inArray, rest with
      | true, ']' :: ']' :: behind => some behind
      | false, ']' :: behind => some behind
      | _, _ => none
    match behind? with
    | none => none
    | some behind =>
      match lineRest? behind, b.finish? with
      | some (after, next), some root =>
        (if inArray then b.openArray? root path after else b.openTable? root path after).map fun b => (b, next)
      | _, _ => none

/-- a line with a key and a value -/
def keyValue? (b : Builder) (t : Text) : Option (Builder × Text) :=
  match key? t with
  | none => none
  | some (keys, rest) =>
    match keys.getLast?, rest with
    | some key, '=' :: behind =>
      let start := skipSpaces behind
      match value? depthLimit start with
      | none => none
      | some (v, after) =>
        match lineRest? after with
        | none => none
        | some (ending, next) =>
          let key := { key with leaf := { key.leaf with before := some (b.pending ++ key.leaf.before.getD []) } }
          (Table.put? keys.dropLast key (v.dressed (consumed behind start) ending) b.current).map fun current =>
            ({ b with current, pending := [] }, next)
    | _, _ => none

/-- the lines of a text -/
def lines? : Nat → Builder → Text → Option Builder
  | 0, _, _ => none
  | n + 1, b, t =>
    let start := skipSpaces t
    let b := { b with pending := b.pending ++ consumed t start }
    match start with
    | [] => some b
    | '#' :: _ =>
      (lineRest? start).bind fun (_, next) => lines? n { b with pending := b.pending ++ consumed start next } next
    | '[' :: '[' :: rest => (b.header? true rest).bind fun (b, next) => lines? n b next
    | '[' :: rest => (b.header? false rest).bind fun (b, next) => lines? n b next
    | _ =>
      match afterLineEnd? start with
      | some next => lines? n { b with pending := b.pending ++ consumed start next } next
      | none => (b.keyValue? start).bind fun (b, next) => lines? n b next

end Builder

/-- the document of a text; a mark of the byte order at its front does not count -/
def Document.parse? (t : Text) : Option Document :=
  let t := match t with
    | '\uFEFF' :: rest => rest
    | _ => t
  (Builder.lines? (t.length + 1) .start t).bind fun b =>
    b.finish?.map fun root => ⟨root, b.pending⟩

end ResourceServer.Toml
