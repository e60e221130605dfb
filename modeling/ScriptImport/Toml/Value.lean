/-
# TOML documents

A document is a table.  Tables are written in four ways, and how a table came to be says what may still
be added to it.

| origin | written as | may be added to by |
| --- | --- | --- |
| `implied` | a parent in the header of another table | its own header, headers of tables in it |
| `header` | a header `[name]` | the lines below it, headers of tables in it |
| `dotted` | a parent in a dotted key | dotted keys of the same table, headers of tables in it |
| `inline` | braces | nothing |

Numbers are not told apart, since nothing of them is used.  A date or a time keeps its written form: it can
stand for a table whose only entry has it under a key of its own.

The tables with one header `[[name]]` are reached through the last of them, by headers of tables in it and
by dotted keys that go on to a table in it.
-/

namespace ScriptImport
namespace Toml

/-- How a table came to be. -/
inductive Origin where
  | implied | header | dotted | inline
  deriving DecidableEq

/-- Values of a document. -/
inductive Value where
  | string (value : String)
  | bool (value : Bool)
  | number
  /-- A date, a time or both. -/
  | time (text : String)
  | array (items : List Value)
  | table (origin : Origin) (entries : List (String × Value))
  /-- The tables with one header `[[name]]`, in their order. -/
  | tables (items : List (List (String × Value)))

/-- The entries of a table. -/
abbrev Entries := List (String × Value)

namespace Entries

/-- Puts a value in place of the one that a key has. -/
def replace (es : Entries) (key : String) (v : Value) : Entries :=
  es.map fun e => if e.1 = key then (key, v) else e

/-- Changes the last of some tables. -/
def changeLast (change : Entries → Option Entries) : List Entries → Option (List Entries)
  | [] => none
  | [last] => do return [← change last]
  | first :: rest => do return first :: (← changeLast change rest)

/-- Changes the table that the keys of a header lead to; tables that are missing are implied. -/
def below (path : List String) (change : Entries → Option Entries) (es : Entries) :
    Option Entries :=
  match path with
  | [] => change es
  | key :: path =>
    match es.lookup key with
    | none => do return es ++ [(key, .table .implied (← below path change []))]
    | some (.table origin inner) =>
      if origin = .inline then none
      else do return replace es key (.table origin (← below path change inner))
    | some (.tables items) => do
      return replace es key (.tables (← changeLast (below path change) items))
    | some _ => none

/-- Adds a value with a new key. -/
def add (es : Entries) (key : String) (v : Value) : Option Entries :=
  if (es.lookup key).isSome then none else some (es ++ [(key, v)])

/-- Adds a value with a dotted key: `path` and then `key`. -/
def addDotted (path : List String) (key : String) (v : Value) (es : Entries) : Option Entries :=
  match path with
  | [] => add es key v
  | first :: path =>
    match es.lookup first with
    | none => do return es ++ [(first, .table .dotted (← addDotted path key v []))]
    | some (.table origin inner) =>
      if origin = .dotted ∨ (origin = .implied ∧ path ≠ []) then do
        return replace es first (.table origin (← addDotted path key v inner))
      else none
    | some (.tables items) =>
      if path = [] then none
      else do return replace es first (.tables (← changeLast (addDotted path key v) items))
    | some _ => none

/-- Adds the table of a header. -/
def addTable (path : List String) (key : String) (es : Entries) : Option Entries :=
  below path (fun es =>
    match es.lookup key with
    | none => some (es ++ [(key, .table .header [])])
    | some (.table .implied inner) => some (replace es key (.table .header inner))
    | some _ => none) es

/-- Adds a further table to those with one header. -/
def addToTables (path : List String) (key : String) (es : Entries) : Option Entries :=
  below path (fun es =>
    match es.lookup key with
    | none => some (es ++ [(key, .tables [[]])])
    | some (.tables items) => some (replace es key (.tables (items ++ [[]])))
    | some _ => none) es

end Entries

/-- The key of the text of a date or time in the table that it stands for. -/
def timeKey : String := "$__toml_private_datetime"

/-- The entries of a table, or of the table that a date or time stands for. -/
def Value.entries? : Value → Option Entries
  | .table _ es => some es
  | .time text => some [(timeKey, .string text)]
  | _ => none

end Toml
end ScriptImport
