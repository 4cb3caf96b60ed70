import ProxyWatch.Toml

/-!
Putting a document together. A table comes into being by its own header, as part of a longer header or as
part of a dotted key, and this decides what may still be added to it.
-/
namespace ProxyWatch.Toml

/-- How a table came into being. -/
inductive Origin
  /-- By a header of its own. -/
  | header
  /-- As part of the header of a table inside it. -/
  | implied
  /-- As part of a dotted key. -/
  | dotted
  deriving DecidableEq, Repr, Inhabited

/-- What a name in a document under construction stands for. -/
inductive Entry
  | value (v : Toml)
  | table (origin : Origin) (members : List (String × Entry))
  /-- The tables of an array of tables. -/
  | tables (items : List (List (String × Entry)))
  deriving Inhabited

/-- Names and entries, in the order of their appearance. -/
abbrev Members := List (String × Entry)

namespace Members

def entry? (ms : Members) (name : String) : Option Entry := (List.find? (·.1 == name) ms).map (·.2)

/-- Replaces the entry of a name that is there, or adds the name. -/
def put (ms : Members) (name : String) (e : Entry) : Members :=
  if ms.any (·.1 == name) then ms.map fun m => if m.1 == name then (name, e) else m
  else ms ++ [(name, e)]

/-- Adds a value under a dotted key. Of the tables on the way none may have a header of its own, and the
last one must be made of dotted keys. -/
def insert (ms : Members) (v : Toml) : List String → Option Members
  | [] => none
  | [name] => if (ms.entry? name).isSome then none else some (ms.put name (.value v))
  | name :: rest =>
    match ms.entry? name with
    | none => (insert [] v rest).map fun inner => ms.put name (.table .dotted inner)
    | some (.table origin inner) =>
      if origin = .header || (origin = .implied && rest.length = 1) then none
      else (insert inner v rest).map fun inner => ms.put name (.table origin inner)
    | some _ => none

/-- Changes the members of the table that a header names; the way leads through the last tables of
arrays of tables. -/
def update (ms : Members) (f : Members → Option Members) : List String → Option Members
  | [] => f ms
  | name :: rest =>
    match ms.entry? name with
    | some (.table origin inner) => (update inner f rest).map fun m => ms.put name (.table origin m)
    | some (.tables items) =>
      match items.getLast? with
      | some last => (update last f rest).map fun m => ms.put name (.tables (items.dropLast ++ [m]))
      | none => none
    | _ => none

/-- Finds the place of a header's last name; missing tables on the way are implied. -/
def descend (ms : Members) (f : Members → String → Option Members) : List String → Option Members
  | [] => none
  | [name] => f ms name
  | name :: rest =>
    match ms.entry? name with
    | none => (descend [] f rest).map fun m => ms.put name (.table .implied m)
    | some (.table origin inner) => (descend inner f rest).map fun m => ms.put name (.table origin m)
    | some (.tables items) =>
      match items.getLast? with
      | some last => (descend last f rest).map fun m => ms.put name (.tables (items.dropLast ++ [m]))
      | none => none
    | some (.value _) => none

/-- Opens the table that a header names: a new one, or one that was only implied. -/
def openTable (ms : Members) (path : List String) : Option Members :=
  ms.descend (fun ms name =>
    match ms.entry? name with
    | none => some (ms.put name (.table .header []))
    | some (.table .implied inner) => some (ms.put name (.table .header inner))
    | some _ => none) path

/-- Opens a new table at the end of an array of tables. -/
def openItem (ms : Members) (path : List String) : Option Members :=
  ms.descend (fun ms name =>
    match ms.entry? name with
    | none => some (ms.put name (.tables [[]]))
    | some (.tables items) => some (ms.put name (.tables (items ++ [[]])))
    | some _ => none) path

end Members

mutual

/-- The finished value of an entry. -/
def Entry.finish : Entry → Toml
  | .value v => v
  | .table _ ms => .table (finishMembers ms)
  | .tables items => .arr (finishItems items)

def finishMembers : List (String × Entry) → List (String × Toml)
  | [] => []
  | (name, e) :: rest => (name, e.finish) :: finishMembers rest

def finishItems : List (List (String × Entry)) → List Toml
  | [] => []
  | ms :: rest => .table (finishMembers ms) :: finishItems rest

end

end ProxyWatch.Toml
