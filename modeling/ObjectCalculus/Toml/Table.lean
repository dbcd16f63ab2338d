/-!
# Tables

The content of a document: tables of named nodes in the order of their first
mention. A table remembers how it came about, because that decides what may
still be added to it.
-/

set_option autoImplicit false

namespace ObjectCalculus.Toml

inductive TableOrigin where
  | header
  /-- Named on the way to another header. -/
  | implied
  /-- Named on the way of a dotted key. -/
  | dotted
  | inline
  deriving DecidableEq

inductive Node where
  | integer (number : Int)
  | float (spelling : String)
  | boolean (truth : Bool)
  | string (text : String)
  | instant (spelling : String)
  | array (items : List Node)
  | table (origin : TableOrigin) (entries : List (String × Node))
  /-- A list of tables, each opened by a header of its own. -/
  | tables (elements : List (List (String × Node)))

abbrev Table := List (String × Node)

namespace Table

/-- Puts what `change` makes of the node under a key in its place. -/
def update (key : String) (change : Option Node → Option Node) :
    Table → Option Table
  | [] => (change none).map fun node => [(key, node)]
  | (other, node) :: rest =>
      if other = key then
        (change (some node)).map fun changed => (other, changed) :: rest
      else
        (update key change rest).map fun changed => (other, node) :: changed

def insertNew (key : String) (node : Node) (table : Table) : Option Table :=
  update key
    (fun
      | none => some node
      | some _ => none)
    table

/-- Edits the table at the end of a path of keys. Missing tables are made on the
way with the origin `route`; of a list of tables the last one is meant. A dotted
key does not pass through a table that has a header. -/
def descend (route : TableOrigin) (edit : TableOrigin → Table → Option Table) :
    List String → TableOrigin → Table → Option Table
  | [], origin, table => edit origin table
  | key :: path, _, table =>
      update key
        (fun
          | none => (descend route edit path route []).map (.table route ·)
          | some (.table origin entries) =>
              if origin = .inline then none
              else if route = .dotted ∧ origin = .header then none
              else (descend route edit path origin entries).map (.table origin ·)
          | some (.tables elements) =>
              (descend route edit path .header (elements.getLastD [])).map fun last =>
                .tables (elements.dropLast ++ [last])
          | some _ => none)
        table

/-- Enters a key and its value. A dotted key must not end in a table that came
about in another way. -/
def insertPair (path : List String) (key : String) (node : Node) (table : Table) :
    Option Table :=
  descend .dotted
    (fun origin entries =>
      if path ≠ [] ∧ origin ≠ .dotted then none
      else insertNew key node entries)
    path .header table

def openTable (path : List String) (key : String) (table : Table) : Option Table :=
  descend .implied
    (fun _ entries =>
      update key
        (fun
          | none => some (.table .header [])
          | some (.table .implied found) => some (.table .header found)
          | some _ => none)
        entries)
    path .header table

def openElement (path : List String) (key : String) (table : Table) :
    Option Table :=
  descend .implied
    (fun _ entries =>
      update key
        (fun
          | none => some (.tables [[]])
          | some (.tables elements) => some (.tables (elements ++ [[]]))
          | some _ => none)
        entries)
    path .header table

def insertUnder (current path : List String) (key : String) (node : Node)
    (table : Table) : Option Table :=
  descend .implied (fun _ entries => insertPair path key node entries) current
    .header table

def ofPairs (pairs : List (List String × String × Node)) : Option Table :=
  pairs.foldlM (fun table entry => insertPair entry.1 entry.2.1 entry.2.2 table) []

end Table

end ObjectCalculus.Toml
