/-! # Values of a TOML document

Texts, truth values, numbers, dates, arrays and tables. A table remembers how it came to be, because that
decides which later lines may add to it.
-/

namespace CuratedList.Toml
set_option autoImplicit false

/-- How a table came to be: by its own header, as a part of the path of a header, by dotted keys, or
between braces. -/
inductive Origin where
  | header
  | implied
  | dotted
  | inline
  deriving DecidableEq, Repr

/-- A value. Numbers and dates are kept as they are written. An array of tables is one that headers
build. -/
inductive Value where
  | text (s : String)
  | boolean (b : Bool)
  | number (written : String)
  | date (written : String)
  | array (ofTables : Bool) (items : List Value)
  | table (origin : Origin) (entries : List (String × Value))

/-- The entries of a table, in the order of their keys' first mention. -/
abbrev Entries := List (String × Value)

namespace Entries

/-- The value of a key. -/
def get? (entries : Entries) (key : String) : Option Value := entries.lookup key

/-- The entries with a new value for a key; a key that is not there is added at the end. -/
def set (entries : Entries) (key : String) (value : Value) : Entries :=
  if (entries.get? key).isSome then
    entries.map fun e => if e.1 = key then (key, value) else e
  else entries ++ [(key, value)]

/-! ## Building -/

/-- Changes the table at a path from a table. Tables that are missing on the way are made. Dotted keys
lead through tables that no header has made, and nothing leads into a table between braces. -/
def update (dotted : Bool) (change : Origin → Entries → Option Entries) :
    (path : List String) → Origin → Entries → Option Entries
  | [], origin, entries => change origin entries
  | key :: path, _, entries =>
    match entries.get? key with
    | none =>
      let origin := if dotted then Origin.dotted else .implied
      (update dotted change path origin []).map fun inner => entries.set key (.table origin inner)
    | some (.table origin inner) =>
      if origin = .inline || (dotted && origin = .header) then none
      else
        (update dotted change path origin inner).map fun inner =>
          entries.set key (.table origin inner)
    | some (.array true items) =>
      match items.getLast? with
      | some (.table origin inner) =>
        (update dotted change path origin inner).map fun inner =>
          entries.set key (.array true (items.dropLast ++ [.table origin inner]))
      | _ => none
    | some _ => none

/-- Gives a value to a dotted key. The key must be new, and the table that holds it must be one that
dotted keys have made if the key has dots. -/
def assign (entries : Entries) (path : List String) (key : String) (value : Value) :
    Option Entries :=
  let dotted := !path.isEmpty
  update dotted (fun origin inner =>
    if (origin == .dotted) != dotted || (inner.get? key).isSome then none
    else some (inner.set key value)) path .header entries

/-- Starts the table of a header. A table with a header of its own cannot be started again. -/
def startTable (entries : Entries) (path : List String) (key : String) : Option Entries :=
  update false (fun _ inner =>
    match inner.get? key with
    | none => some (inner.set key (.table .header []))
    | some (.table .implied content) => some (inner.set key (.table .header content))
    | some _ => none) path .header entries

/-- Starts the next table of an array. -/
def startElement (entries : Entries) (path : List String) (key : String) : Option Entries :=
  update false (fun _ inner =>
    match inner.get? key with
    | none => some (inner.set key (.array true [.table .header []]))
    | some (.array true items) => some (inner.set key (.array true (items ++ [.table .header []])))
    | some _ => none) path .header entries

end Entries
end CuratedList.Toml
