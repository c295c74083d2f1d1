import ScriptedChat.Toml.Scalar

/-!
# TOML tables

A file is a table of tables.  A table comes into being in one of four ways, and which one
decides what may still be said about it:

* a heading *opens* it, once;
* a longer heading *implies* it, and a heading of its own may still open it;
* a *dotted* key makes it, and more dotted keys may add to it, from the same place;
* it is written *inline*, and nothing may be added.

No key is given a value twice.  The keys of a table are in the order in which they came into
it.

* `Node`, `Kind`: what is under a key.
* `open?`, `openElement?`, `assign?`: headings and assignments.
-/

namespace ScriptedChat
namespace Toml

/-- How a table came into being. -/
inductive Kind where
  | opened
  | implied
  | dotted
  | inline
  deriving DecidableEq, Repr

/-- What is under a key. -/
inductive Node where
  | scalar (value : Scalar)
  /-- An array of values. -/
  | array (items : List Node)
  | table (kind : Kind) (entries : List (String × Node))
  /-- Tables that are opened one after the other under one key, the last one first. -/
  | tables (elements : List (List (String × Node)))
  deriving Inhabited

/-- The entries of a table. -/
abbrev Table := List (String × Node)

/-- What is under a key of a table. -/
def Table.find? (t : Table) (key : String) : Option Node := (List.find? (·.1 == key) t).map (·.2)

/-- The table with a key that holds something else, or is new. -/
def Table.put (t : Table) (key : String) (n : Node) : Table :=
  if (t.find? key).isSome then t.map fun p => if p.1 = key then (key, n) else p
  else t ++ [(key, n)]

/-- The table without a key. -/
def Table.erase (t : Table) (key : String) : Table := t.filter fun p => p.1 != key

/-- A table made by a dotted key may be added to by dotted keys only, and so may one that
is implied. -/
def mayPass (dotted : Bool) (kind : Kind) : Bool :=
  match kind with
  | .opened => !dotted
  | .implied => true
  | .dotted => true
  | .inline => false

/-- Changes the table at the end of a path with `f`, which is told how that table came into
being.  Tables on the way that are not there yet are made, and of tables under one key the
last one is meant. -/
def Table.edit (dotted : Bool) (f : Kind → Table → Option Table) :
    List String → Kind → Table → Option Table
  | [], kind, t => f kind t
  | key :: path, _, t =>
    match t.find? key with
    | none => do
      let kind := if dotted then .dotted else .implied
      let sub ← Table.edit dotted f path kind []
      return t.put key (.table kind sub)
    | some (.table kind sub) =>
      if mayPass dotted kind then do
        let sub ← Table.edit dotted f path kind sub
        return t.put key (.table kind sub)
      else none
    | some (.tables (last :: others)) => do
      let last ← Table.edit dotted f path .opened last
      return t.put key (.tables (last :: others))
    | some _ => none

/-- Opens the table of a heading.  One that was implied moves behind the others. -/
def Table.open? (t : Table) (path : List String) (key : String) : Option Table :=
  t.edit false (fun _ t =>
    match t.find? key with
    | none => some (t.put key (.table .opened []))
    | some (.table .implied sub) => some ((t.erase key).put key (.table .opened sub))
    | some _ => none) path .opened

/-- Opens one more table under the key of a heading. -/
def Table.openElement? (t : Table) (path : List String) (key : String) : Option Table :=
  t.edit false (fun _ t =>
    match t.find? key with
    | none => some (t.put key (.tables [[]]))
    | some (.tables elements) => some (t.put key (.tables ([] :: elements)))
    | some _ => none) path .opened

/-- Gives a key of a table a value.  The tables that a dotted key passes are made by dotted
keys, at least the last of them. -/
def Table.assign? (t : Table) (path : List String) (key : String) (n : Node) : Option Table :=
  t.edit true (fun kind t =>
    if path ≠ [] ∧ kind ≠ .dotted then none
    else if (t.find? key).isSome then none
    else some (t.put key n)) path .opened

/-- Gives a key a value in the table that was opened last, which is at the end of
`current`. -/
def Table.assignIn? (t : Table) (current path : List String) (key : String) (n : Node) :
    Option Table :=
  t.edit false (fun _ t => t.assign? path key n) current .opened

end Toml
end ScriptedChat
