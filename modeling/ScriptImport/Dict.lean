/-
# Dictionaries in the order of their keys

A dictionary is a list of keys with their values, in which `insert` keeps the keys in the order of their
code points and every key once.  Looking up what was inserted is `get?_insert`.
-/

namespace ScriptImport

/-- Keys with values, in the order of the keys. -/
abbrev Dict (α : Type) := List (String × α)

namespace Dict

variable {α β : Type}

/-- The value of a key. -/
def get? (d : Dict α) (key : String) : Option α := List.lookup key d

/-- Whether a key has a value. -/
def contains (d : Dict α) (key : String) : Bool := (get? d key).isSome

/-- The keys, in their order. -/
def keys (d : Dict α) : List String := d.map (·.1)

/-- Gives a key a value, in place of the one that it has. -/
def insert (d : Dict α) (key : String) (value : α) : Dict α :=
  match d with
  | [] => [(key, value)]
  | (k, v) :: rest =>
    if key = k then (key, value) :: rest
    else if key < k then (key, value) :: (k, v) :: rest
    else (k, v) :: insert rest key value

/-- Removes a key. -/
def erase (d : Dict α) (key : String) : Dict α := d.filter fun e => e.1 ≠ key

/-- Inserts entries, later ones over earlier ones. -/
def insertAll (d : Dict α) (entries : List (String × α)) : Dict α :=
  entries.foldl (fun d e => insert d e.1 e.2) d

/-- The dictionary of some entries, later ones over earlier ones. -/
def ofEntries (entries : List (String × α)) : Dict α := insertAll [] entries

/-- Changes every value. -/
def mapValues (f : α → β) (d : Dict α) : Dict β := d.map fun e => (e.1, f e.2)

/-- **What was inserted is found,** and every other key is as before. -/
theorem get?_insert (d : Dict α) (key other : String) (value : α) :
    get? (insert d key value) other = if other = key then some value else get? d other := by
  unfold get?
  fun_induction insert d key value <;> grind

end Dict

end ScriptImport
