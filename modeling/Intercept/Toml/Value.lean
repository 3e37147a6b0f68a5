/-
# TOML documents

A document is a tree of tables.  A table is opened by a header, by an inline table, or merely by
the keys that run through it, and what may still be added to it depends on how it was opened.
The operations below add a header or a member to a document, or find that the document does not
allow it.
-/

namespace Intercept

/-- How a table came to be. -/
inductive Toml.Origin where
  /-- Written in place; nothing can be added. -/
  | inline
  /-- Opened by its own header. -/
  | header
  /-- Implied by a longer header; its own header may still follow. -/
  | implied
  /-- Implied by a dotted key; other dotted keys may add to it. -/
  | dotted
deriving DecidableEq, Repr, Inhabited

/-- A TOML value. -/
inductive Toml where
  | text (content : String)
  | integer (value : Int)
  | float
  | boolean (value : Bool)
  /-- A date, a time, or both. -/
  | moment
  | array (items : List Toml)
  /-- An array of tables, each opened by a header of its own. -/
  | tables (items : List Toml)
  | table (origin : Toml.Origin) (members : List (String × Toml))
deriving Repr, Inhabited

namespace Toml

/-- The members of a table. -/
abbrev Members := List (String × Toml)

/-- The members with `value` put under `key`, at the old place if there is one. -/
def put (key : String) (value : Toml) : Members → Members
  | [] => [(key, value)]
  | (k, v) :: rest => if k = key then (key, value) :: rest else (k, v) :: put key value rest

/-- Changes the members of the table at the end of `path`.  Missing tables on the way are made
with the origin `made`; of an array of tables the last one counts.  A table written in place
cannot lie on the way, nor can a dotted key pass a table with a header of its own. -/
def changeAt (made : Origin) (change : Origin → Members → Option Members) :
    List String → Origin → Members → Option Members
  | [], origin, members => change origin members
  | key :: path, _, members =>
    match members.lookup key with
    | none => (changeAt made change path made []).map fun inner =>
        put key (.table made inner) members
    | some (.table origin inner) =>
      if origin = .inline ∨ (made = .dotted ∧ origin = .header) then none
      else (changeAt made change path origin inner).map fun inner =>
        put key (.table origin inner) members
    | some (.tables items) =>
      match items.getLast? with
      | some (.table origin inner) => (changeAt made change path origin inner).map fun inner =>
          put key (.tables (items.dropLast ++ [.table origin inner])) members
      | _ => none
    | some _ => none

/-- Opens a table under `key`, which may have been implied before, but not opened. -/
def openTable (key : String) (members : Members) : Option Members :=
  match members.lookup key with
  | none => some (put key (.table .header []) members)
  | some (.table .implied inner) => some (put key (.table .header inner) members)
  | some _ => none

/-- Opens one more table of the array under `key`. -/
def openNext (key : String) (members : Members) : Option Members :=
  match members.lookup key with
  | none => some (put key (.tables [.table .header []]) members)
  | some (.tables items) => some (put key (.tables (items ++ [.table .header []])) members)
  | some _ => none

/-- Adds a member to a table at the end of a dotted key, where `path` is the key without its last
part `key`.  The parts before the last name tables that dotted keys have made. -/
def insertAt (path : List String) (key : String) (value : Toml) (origin : Origin)
    (members : Members) : Option Members :=
  changeAt .dotted
    (fun origin members =>
      if path ≠ [] ∧ origin ≠ .dotted then none
      else if (members.lookup key).isSome then none
      else some (members ++ [(key, value)]))
    path origin members

end Toml

end Intercept
