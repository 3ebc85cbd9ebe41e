import AvbEntity.Document.Toml.Quoted
import AvbEntity.Document.Toml.Scalar
import AvbEntity.Document.Toml.Table

/-!
# TOML documents

A TOML text is read by a machine that takes one character at a time. It keeps the tables filled so
far, the table that the last header opened, and the lists and inline tables that are still open.

## Main definitions

* `Frame`, `Spot`, `Mode`, `Reader`: the state of the machine
* `Reader.deliver`: a complete value put where it belongs
* `Reader.step`: one character
* `Toml.read?`: the value of a TOML text
-/

namespace AvbEntity.Document.Toml

/-- A key that awaits its value, or a list or inline table that is still open. -/
inductive Frame where
  /-- A key of the table that the last header opened, the last part of the key first. -/
  | entry (key : List String)
  /-- A list, its values in reverse. -/
  | list (done : List Value)
  /-- An inline table. -/
  | record (done : Entries)
  /-- An inline table, and one of its keys. -/
  | field (done : Entries) (key : List String)

/-- What a key is for. -/
inductive Use where
  /-- The header of a table. -/
  | table
  /-- The header of a table in a list. -/
  | tables
  /-- An entry of a table. -/
  | entry
  /-- An entry of an inline table. -/
  | field
  deriving DecidableEq

/-- A place between the parts of a document. -/
inductive Spot where
  /-- The beginning of a line. -/
  | line
  /-- The rest of a line behind a header or a value. -/
  | lineEnd
  /-- Before the value of a key. -/
  | value
  /-- Before a value of a list, or its end. -/
  | item
  /-- Behind a value of a list. -/
  | nextItem
  /-- Before the first key of an inline table, or its end. -/
  | field
  /-- Behind a value of an inline table. -/
  | nextField
  deriving DecidableEq

/-- Where the machine stands. A key is kept as its parts, the last first. -/
inductive Mode where
  | between (spot : Spot)
  /-- In a comment, behind which the spot follows. -/
  | comment (back : Spot)
  /-- Behind the bracket of a header. -/
  | header
  /-- Before a part of a key. -/
  | key (use : Use) (path : List String)
  /-- In an unquoted part of a key, kept in reverse. -/
  | bareKey (use : Use) (path : List String) (cs : List Char)
  | quotedKey (use : Use) (path : List String) (q : Quoted)
  /-- Behind a part of a key. -/
  | keyEnd (use : Use) (path : List String)
  /-- Behind the first of two closing brackets. -/
  | tablesEnd (path : List String)
  /-- In an unquoted value, kept in reverse. -/
  | word (cs : List Char)
  /-- Behind a date and a blank, where a time may follow. -/
  | date (cs : List Char)
  | quoted (q : Quoted)

/-- The state of the machine. -/
structure Reader where
  root : Entries := []
  /-- The path of the last header. -/
  current : List String := []
  /-- What is open, the innermost first. -/
  frames : List Frame := []
  mode : Mode := .between .line

namespace Reader

/-- The bound on the parts of a key and on the depth of values. -/
def maxDepth : Nat :=
  80

/-- The machine at another place. -/
def goto (r : Reader) (mode : Mode) : Option Reader :=
  some { r with mode }

/-- The machine between two parts of the document. -/
def rest (r : Reader) (spot : Spot) : Option Reader :=
  r.goto (.between spot)

/-- A complete value put where it belongs. -/
def deliver (r : Reader) (v : Value) : Option Reader :=
  match r.frames with
  | .entry (key :: path) :: frames => do
    let root ← descend .implied (insert path.reverse key v) r.current .defined r.root
    return { r with root, frames, mode := .between .lineEnd }
  | .list done :: frames =>
    some { r with frames := .list (v :: done) :: frames, mode := .between .nextItem }
  | .field done (key :: path) :: frames => do
    let done ← insert path.reverse key v .defined done
    return { r with frames := .record done :: frames, mode := .between .nextField }
  | _ => none

/-- The innermost list or inline table closed. -/
def close (r : Reader) : Option Reader :=
  match r.frames with
  | .list done :: frames => deliver { r with frames } (.list done.reverse)
  | .record done :: frames => deliver { r with frames } (.record (entriesToValue done))
  | _ => none

/-- A list or inline table opened. -/
def enter (r : Reader) (frame : Frame) (spot : Spot) : Option Reader :=
  if r.frames.length < maxDepth then
    some { r with frames := frame :: r.frames, mode := .between spot }
  else none

/-- A character that ends an unquoted value. -/
def isDelimiter (c : Char) : Bool :=
  isBlank c || c == '\n' || c == '#' || c == ',' || c == ']' || c == '\x7d'

/-- A character of an unquoted part of a key. -/
def isBareKey (c : Char) : Bool :=
  Magnitude.isDigit c || ('a' ≤ c && c ≤ 'z') || ('A' ≤ c && c ≤ 'Z') || c == '-' || c == '_'

/-- The first character of a value. -/
def beginValue (r : Reader) (c : Char) : Option Reader :=
  if c == '"' then r.goto (.quoted { style := .basic, mayBreak := true })
  else if c == '\'' then r.goto (.quoted { style := .literal, mayBreak := true })
  else if c == '[' then r.enter (.list []) .item
  else if c == '\x7b' then r.enter (.record []) .field
  else if isDelimiter c then none
  else r.goto (.word [c])

/-- The first character of a part of a key. -/
def beginKey (r : Reader) (use : Use) (path : List String) (c : Char) : Option Reader :=
  if c == '"' then r.goto (.quotedKey use path { style := .basic, mayBreak := false })
  else if c == '\'' then r.goto (.quotedKey use path { style := .literal, mayBreak := false })
  else if isBareKey c then r.goto (.bareKey use path [c])
  else none

/-- A character between two parts of the document, other than a blank. -/
def betweenStep (r : Reader) (spot : Spot) (c : Char) : Option Reader :=
  match spot, c with
  | .line, '\n' | .lineEnd, '\n' => r.rest .line
  | .line, '#' | .lineEnd, '#' => r.goto (.comment .line)
  | .line, '[' => r.goto .header
  | .line, c => r.beginKey .entry [] c
  | .lineEnd, _ => none
  | .value, c => r.beginValue c
  | .item, '\n' | .nextItem, '\n' => some r
  | .item, '#' | .nextItem, '#' => r.goto (.comment spot)
  | .item, ']' | .nextItem, ']' => r.close
  | .item, c => r.beginValue c
  | .nextItem, ',' => r.rest .item
  | .nextItem, _ => none
  | .field, '\x7d' | .nextField, '\x7d' => r.close
  | .field, c => r.beginKey .field [] c
  | .nextField, ',' => r.goto (.key .field [])
  | .nextField, _ => none

/-- A character between two parts of the document. -/
def restStep (r : Reader) (c : Char) : Option Reader :=
  match r.mode with
  | .between spot => if isBlank c then some r else r.betweenStep spot c
  | _ => none

/-- A complete value, and the character behind it. -/
def deliverBefore (r : Reader) (v : Option Value) (c : Char) : Option Reader := do
  let r ← r.deliver (← v)
  r.restStep c

/-- The key of a header or an entry complete, with the character that ends it. -/
def endKey (r : Reader) (use : Use) (path : List String) (c : Char) : Option Reader :=
  if maxDepth ≤ path.length then none
  else
    match use, c, path with
    | .entry, '=', _ =>
      some { r with frames := .entry path :: r.frames, mode := .between .value }
    | .field, '=', _ =>
      match r.frames with
      | .record done :: frames =>
        some { r with frames := .field done path :: frames, mode := .between .value }
      | _ => none
    | .table, ']', key :: above => do
      let root ← openTable above.reverse key r.root
      return { r with root, current := path.reverse, mode := .between .lineEnd }
    | .tables, ']', _ => r.goto (.tablesEnd path)
    | _, _, _ => none

/-- A character behind a part of a key. -/
def keyEndStep (r : Reader) (use : Use) (path : List String) (c : Char) : Option Reader :=
  if isBlank c then r.goto (.keyEnd use path)
  else if c == '.' then r.goto (.key use path)
  else r.endKey use path c

/-- One character. -/
def step (r : Reader) (c : Char) : Option Reader :=
  match r.mode with
  | .between _ => r.restStep c
  | .comment back =>
    if c == '\n' then r.rest back else if isPrintable c then some r else none
  | .header =>
    if c == '[' then r.goto (.key .tables [])
    else if isBlank c then r.goto (.key .table [])
    else r.beginKey .table [] c
  | .key use path => if isBlank c then some r else r.beginKey use path c
  | .bareKey use path cs =>
    if isBareKey c then r.goto (.bareKey use path (c :: cs))
    else r.keyEndStep use (.ofList cs.reverse :: path) c
  | .quotedKey use path q => do
    match ← q.step c with
    | .more q => r.goto (.quotedKey use path q)
    | .ended s => r.goto (.keyEnd use (s :: path))
    | .before s => r.keyEndStep use (s :: path) c
  | .keyEnd use path => r.keyEndStep use path c
  | .tablesEnd path =>
    match c, path with
    | ']', key :: above => do
      let root ← openTables above.reverse key r.root
      return { r with root, current := path.reverse, mode := .between .lineEnd }
    | _, _ => none
  | .word cs =>
    if !isDelimiter c then r.goto (.word (c :: cs))
    -- the one place where a blank may be part of a value
    else if c == ' ' && isDate cs.reverse then r.goto (.date cs)
    else r.deliverBefore (scalar? cs.reverse) c
  | .date cs =>
    if Magnitude.isDigit c then r.goto (.word (c :: ' ' :: cs))
    else r.deliverBefore (scalar? cs.reverse) c
  | .quoted q => do
    match ← q.step c with
    | .more q => r.goto (.quoted q)
    | .ended s => r.deliver (.text s)
    | .before s => r.deliverBefore (some (.text s)) c

end Reader

/-- The text with every line break as a single character. -/
def unifyBreaks : List Char → List Char
  | [] => []
  | '\r' :: '\n' :: rest => '\n' :: unifyBreaks rest
  | c :: rest => c :: unifyBreaks rest

/-- The text without a byte order mark. -/
def dropMark : List Char → List Char
  | '\uFEFF' :: rest => rest
  | cs => cs

/-- The value of a TOML text, a record. The last line is read as if a line break ended it. -/
def read? (s : String) : Option Value := do
  let r ← (unifyBreaks (dropMark s.toList) ++ ['\n']).foldlM Reader.step {}
  match r.mode with
  | .between .line => return .record (entriesToValue r.root)
  | _ => none

end AvbEntity.Document.Toml
