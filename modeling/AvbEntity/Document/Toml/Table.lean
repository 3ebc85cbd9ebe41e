import AvbEntity.Document.Value

/-!
# Tables of TOML

A TOML document fills a tree of tables. What may be added to a table depends on how the table came
about: by its own header, as the parent of one that has a header, or by a dotted key.

## Main definitions

* `Origin`, `Item`: how a table came about, and what a key stands for
* `descend`: a change to the table at a path
* `insert`: a value at a dotted key
* `openTable`, `openTables`: the headers of tables and of tables in lists
* `Item.toValue`: what a table says
-/

namespace AvbEntity.Document.Toml

/-- How a table came about. -/
inductive Origin where
  /-- By a header of its own, or between braces. -/
  | defined
  /-- As the parent of a table with a header. -/
  | implied
  /-- By a dotted key. -/
  | dotted
  deriving DecidableEq

/-- What a key stands for. -/
inductive Item where
  | value (v : Value)
  | table (origin : Origin) (entries : List (String × Item))
  /-- A list of tables, of which the last is the one that is filled. -/
  | tables (done : List (List (String × Item))) (last : List (String × Item))

/-- The entries of a table. -/
abbrev Entries := List (String × Item)

/-- What a key stands for in a table. -/
def lookup (es : Entries) (key : String) : Option Item :=
  (es.find? (·.1 == key)).map (·.2)

/-- The entries with the item of a key replaced, or added behind the others. -/
def put (es : Entries) (key : String) (item : Item) : Entries :=
  if es.any (·.1 == key) then es.map fun e => if e.1 == key then (key, item) else e
  else es ++ [(key, item)]

/-- The change `f` of the table at a path, the tables on the way added where there are none. The
path of a dotted key may not pass through a table that is defined elsewhere. -/
def descend (way : Origin) (f : Origin → Entries → Option Entries) :
    List String → Origin → Entries → Option Entries
  | [], origin, es => f origin es
  | key :: path, _, es =>
    match lookup es key with
    | none => (descend way f path way []).map fun inner => put es key (.table way inner)
    | some (.value _) => none
    | some (.tables done last) =>
      (descend way f path .defined last).map fun last => put es key (.tables done last)
    | some (.table origin inner) =>
      if way == .dotted && origin == .defined then none
      else (descend way f path origin inner).map fun inner => put es key (.table origin inner)

/-- A value added to a table that a dotted key may fill: one that came about by dotted keys, or,
without dots, one that did not. The key is new. -/
def insert (path : List String) (key : String) (v : Value) (origin : Origin) (es : Entries) :
    Option Entries :=
  let add := fun (o : Origin) es =>
    if (o == .dotted) == path.isEmpty || (lookup es key).isSome then none
    else some (put es key (.value v))
  descend .dotted add path origin es

/-- The table of a header: a new one, or one that was only implied so far. -/
def openTable (path : List String) (key : String) (root : Entries) : Option Entries :=
  let add := fun _ es =>
    match lookup es key with
    | none => some (put es key (.table .defined []))
    | some (.table .implied inner) => some (put es key (.table .defined inner))
    | some _ => none
  descend .implied add path .defined root

/-- The next table of a list of tables. -/
def openTables (path : List String) (key : String) (root : Entries) : Option Entries :=
  let add := fun _ es =>
    match lookup es key with
    | none => some (put es key (.tables [] []))
    | some (.tables done last) => some (put es key (.tables (done ++ [last]) []))
    | some _ => none
  descend .implied add path .defined root

mutual

/-- What a key stands for, as a value. -/
def Item.toValue : Item → Value
  | .value v => v
  | .table _ es => .record (entriesToValue es)
  | .tables done last => .list (tablesToValue done ++ [.record (entriesToValue last)])

/-- The entries of a table, as those of a record. -/
def entriesToValue : List (String × Item) → List (String × Value)
  | [] => []
  | (key, item) :: rest => (key, item.toValue) :: entriesToValue rest

/-- The tables of a list, as records. -/
def tablesToValue : List (List (String × Item)) → List Value
  | [] => []
  | es :: rest => .record (entriesToValue es) :: tablesToValue rest

end

end AvbEntity.Document.Toml
