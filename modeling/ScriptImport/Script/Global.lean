/-
# The global object

Modules that are reached from one import share one global object, their context.  A standard context has
`console`, `JSON` and `Math` and the conversions `String`, `Number` and `Boolean`.
-/

import ScriptImport.Script.Property

namespace ScriptImport
namespace Script
namespace Run

/-- A new object whose properties are functions that are no scripts. -/
def newLibrary (constants : Dict Value) (functions : List (String × Operation)) : Run Value := do
  let natives ← functions.mapM fun (name, operation) => do
    return (name, ← newNative name operation)
  return .object (← newObject (Dict.insertAll constants natives))

/-- The ratio of a circle's circumference to its diameter. -/
def pi : Float := Number.ofDecimal 3141592653589793 (-15)

/-- The base of the natural logarithm. -/
def euler : Float := Number.ofDecimal 2718281828459045 (-15)

/-- A new context with the standard properties. -/
def newContext : Run ObjectId := do
  let console ← newLibrary []
    [("log", .print .output), ("error", .print .error), ("warn", .print .error)]
  let json ← newLibrary [] [("stringify", .stringify), ("parse", .parseJson)]
  let math ← newLibrary [("E", .number euler), ("PI", .number pi)]
    [("floor", .math .floor), ("ceil", .math .ceil), ("round", .math .round), ("abs", .math .abs),
      ("sqrt", .math .sqrt), ("trunc", .math .trunc), ("max", .greatest), ("min", .least)]
  let string ← newNative "String" .toString
  let number ← newNative "Number" .toNumber
  let boolean ← newNative "Boolean" .toBoolean
  newObject (Dict.ofEntries
    [("console", console), ("JSON", json), ("Math", math), ("String", string), ("Number", number),
      ("Boolean", boolean)])

/-- A new context without properties. -/
def newEmptyContext : Run ObjectId := newObject []

end Run

/-- A context as a text for people: the names of its properties. -/
def Store.inspectContext (s : Store) (context : ObjectId) : String :=
  "Context \x7b globals: " ++ Text.quoteAll (Dict.keys (s.object context)) ++ " \x7d"

end Script
end ScriptImport
