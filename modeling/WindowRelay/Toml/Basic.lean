/-!
Contract: the tables of a TOML document and how its lines may extend them.

Owns:
- values, and tables by the way in which they came to be;
- setting a dotted key, opening a table by its header, appending to an array of tables.

No table is defined twice, and a value is never extended. A table that only a longer header or
key implied may still be defined, by the same means that implied it.

Does not own: the grammar (`Toml.Reader`).
-/

namespace WindowRelay

namespace Toml

/-- How a table came to be. -/
inductive Origin where
  /-- by a header of its own, or as the document -/
  | defined
  /-- by the header of a table inside it -/
  | implied
  /-- by a dotted key -/
  | dotted
  /-- in braces, which leaves it closed -/
  | inline
deriving DecidableEq, Repr

inductive Value where
  | string (text : String)
  | integer (value : Int)
  | boolean (value : Bool)
  | float
  | dateTime
  | array (items : List Value)
  | table (origin : Origin) (members : List (String × Value))
  /-- an array of tables that have headers, the last one first -/
  | tables (elements : List (List (String × Value)))
deriving Repr

/-- The members of a table, in the order in which they came. -/
abbrev Members := List (String × Value)

namespace Members

/-- Replace the value of a name. -/
def replace (members : Members) (name : String) (value : Value) : Members :=
  members.map fun member => if member.1 == name then (name, value) else member

/-- Change the table at a path of names, making tables that are missing. A dotted key must not
enter a table that has a header; in an array of tables the last one is meant. -/
def within (byKey : Bool) (change : Origin → Members → Option Members) :
    List String → Origin → Members → Option Members
  | [], origin, members => change origin members
  | name :: path, _, members =>
    match members.lookup name with
    | none =>
      let made := if byKey then Origin.dotted else Origin.implied
      (within byKey change path made []).map fun inner =>
        members ++ [(name, .table made inner)]
    | some (.table origin inner) =>
      if origin = .inline || (byKey && origin = .defined) then none
      else
        (within byKey change path origin inner).map fun changed =>
          members.replace name (.table origin changed)
    | some (.tables (last :: earlier)) =>
      (within byKey change path .defined last).map fun changed =>
        members.replace name (.tables (changed :: earlier))
    | some _ => none

/-- Give a name its value, once. -/
def give (members : Members) (name : String) (value : Value) : Option Members :=
  if (members.lookup name).isSome then none else some (members ++ [(name, value)])

/-- Set a key in a table. A key with dots must end in a table that such keys made. -/
def set (origin : Origin) (members : Members) (path : List String) (name : String)
    (value : Value) : Option Members :=
  within true
    (fun reached inner =>
      if path.isEmpty || reached = .dotted then inner.give name value else none)
    path origin members

/-- Define the table with a header. -/
def define (members : Members) (path : List String) (name : String) : Option Members :=
  within false
    (fun _ inner =>
      match inner.lookup name with
      | none => some (inner ++ [(name, .table .defined [])])
      | some (.table .implied implied) => some (inner.replace name (.table .defined implied))
      | some _ => none)
    path .defined members

/-- Append a table to the array of tables with a header. -/
def append (members : Members) (path : List String) (name : String) : Option Members :=
  within false
    (fun _ inner =>
      match inner.lookup name with
      | none => some (inner ++ [(name, .tables [[]])])
      | some (.tables elements) => some (inner.replace name (.tables ([] :: elements)))
      | some _ => none)
    path .defined members

end Members

end Toml

end WindowRelay
