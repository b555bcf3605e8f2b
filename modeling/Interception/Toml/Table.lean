import Interception.Toml.Value

/-!
# Tables in the making

A document says the entries of a table in several places: under its header, by
dotted keys, and by the headers of its parts. A table in the making remembers how
it came to be, because that decides what may still be added to it.
-/

set_option autoImplicit false

namespace Interception.Toml

inductive Origin where
  | stated
  /-- It was only mentioned in the header of a part of it. -/
  | mentioned
  | dotted
  deriving DecidableEq, Repr

inductive Node where
  | value (value : Value)
  | table (origin : Origin) (entries : List (String × Node))
  /-- The tables under a repeated header. -/
  | tables (items : List (List (String × Node)))

structure Table where
  origin : Origin := .stated
  entries : List (String × Node) := []

namespace Table

def find? (table : Table) (key : String) : Option Node :=
  table.entries.lookup key

def set (table : Table) (key : String) (node : Node) : Table :=
  if table.entries.any (·.1 == key) then
    { table with
      entries := table.entries.map fun entry => if entry.1 == key then (key, node) else entry }
  else { table with entries := table.entries ++ [(key, node)] }

def node (table : Table) : Node :=
  .table table.origin table.entries

/-- Changes the table at the end of a path. Missing tables come to be in the way
that `mention` says; below a repeated header it is the last table that counts. No
path leads through a value, and no dotted key through a stated table. -/
def update (mention : Origin) (change : Table → Option Table) :
    List String → Table → Option Table
  | [], table => change table
  | key :: path, table =>
      match table.find? key with
      | none => do
          let child ← update mention change path ⟨mention, []⟩
          some (table.set key child.node)
      | some (.value _) => none
      | some (.tables items) => do
          let last ← items.getLast?
          let child ← update mention change path ⟨.stated, last⟩
          some (table.set key (.tables (items.dropLast ++ [child.entries])))
      | some (.table origin entries) =>
          if mention = .dotted ∧ origin = .stated then none
          else do
            let child ← update mention change path ⟨origin, entries⟩
            some (table.set key child.node)

/-- Adds a value under a key, which has to be new. A dotted key adds only to tables
that came to be by dotted keys, a plain key to none of these. -/
def addValue (table : Table) (path : List String) (key : String) (value : Value) :
    Option Table :=
  table.update .dotted
    (fun target =>
      if decide (target.origin = .dotted) == path.isEmpty then none
      else if (target.find? key).isSome then none
      else some (target.set key (.value value)))
    path

/-- Adds pairs of dotted key and value in order. -/
def addAll (table : Table) (pairs : List (List String × String × Value)) : Option Table :=
  pairs.foldlM (fun table (path, key, value) => table.addValue path key value) table

/-- Adds a table with its own header. It must not have been stated before, nor
been mentioned in a dotted key. -/
def addStated (table : Table) (path : List String) (key : String)
    (pairs : List (List String × String × Value)) : Option Table :=
  table.update .mentioned
    (fun parent => do
      let known ← match parent.find? key with
        | none => some []
        | some (.table .mentioned entries) => some entries
        | some _ => none
      let filled ← addAll ⟨.stated, known⟩ pairs
      some (parent.set key filled.node))
    path

/-- Adds one more table under a repeated header. -/
def addRepeated (table : Table) (path : List String) (key : String)
    (pairs : List (List String × String × Value)) : Option Table :=
  table.update .mentioned
    (fun parent => do
      let known ← match parent.find? key with
        | none => some []
        | some (.tables items) => some items
        | some _ => none
      let filled ← addAll {} pairs
      some (parent.set key (.tables (known ++ [filled.entries]))))
    path

end Table

mutual

/-- What a node says, however it came to be. -/
def Node.toValue : Node → Value
  | .value value => value
  | .table _ entries => .table (entriesOf entries)
  | .tables items => .array (tablesOf items)

def entriesOf : List (String × Node) → Entries
  | [] => []
  | (key, node) :: rest => (key, node.toValue) :: entriesOf rest

def tablesOf : List (List (String × Node)) → List Value
  | [] => []
  | entries :: rest => .table (entriesOf entries) :: tablesOf rest

end

end Interception.Toml
