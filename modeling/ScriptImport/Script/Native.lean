/-
# Functions that are no scripts

What the functions of the global objects, the methods of arrays and strings and the builtin modules do
with their arguments.  A missing argument is undefined; the builtin modules take undefined for an empty
text.
-/

import ScriptImport.Digest.Sha256
import ScriptImport.Path
import ScriptImport.Script.JsonText
import ScriptImport.Text.LetterCase

namespace ScriptImport
namespace Script

/-- The argument at a position. -/
def argument (args : List Value) (i : Nat) : Value := args.getD i .undefined

/-- The argument at a position as a text; nothing for undefined. -/
def Store.textArgument (s : Store) (args : List Value) (i : Nat) : String :=
  match argument args i with
  | .undefined => ""
  | v => s.display v

/-- A function of one number. -/
def MathFunction.apply : MathFunction → Float → Float
  | floor, x => Number.roundDown x
  | ceil, x => Number.roundUp x
  | round, x => Number.roundDown (x + 0.5)
  | abs, x => Number.absolute x
  | sqrt, x => x.sqrt
  | trunc, x => Number.truncate x

/-- The greater of two numbers, the first one if they are equal; a NaN does not count. -/
def greater (x y : Float) : Float :=
  if x.isNaN then y else if x < y then y else x

/-- The lesser of two numbers, the first one if they are equal; a NaN does not count. -/
def lesser (x y : Float) : Float :=
  if x.isNaN then y else if y < x then y else x

/-- Where a slice of a text with `length` characters starts or ends: a negative number counts from the
end. -/
def sliceBound (length : Nat) (x : Float) : Nat :=
  match Number.Binary.ofFloat x with
  | .nan => 0
  | .infinite negative => if negative then 0 else length
  | .finite negative m q =>
    let n := (Number.wholePart m q).1
    if negative ∧ n ≠ 0 then length - n else min n length

/-- The text between two bounds. -/
def slice (text : List Char) (args : List Value) : List Char :=
  let bound (v : Value) (absent : Nat) : Nat :=
    match v with
    | .undefined => absent
    | v => sliceBound text.length v.toNumber
  let start := bound (argument args 0) 0
  let stop := bound (argument args 1) text.length
  (text.take stop).drop start

/-- Whether a text has another one in it. -/
def hasInfix (part : List Char) : List Char → Bool
  | [] => part.isEmpty
  | c :: cs => part.isPrefixOf (c :: cs) || hasInfix part cs

/-- What a method of a string gives. -/
def Store.callStringMethod (s : Store) (method : StringMethod) (text : String) (args : List Value) :
    Value :=
  let first : List Char :=
    match args with
    | [] => []
    | v :: _ => (s.display v).toList
  match method with
  | .toUpperCase => .string (String.ofList (Text.toUpper text.toList))
  | .toLowerCase => .string (String.ofList (Text.toLower text.toList))
  | .trim => .string (String.ofList (Text.trim text.toList))
  | .includes => .bool (hasInfix first text.toList)
  | .startsWith => .bool (first.isPrefixOf text.toList)
  | .slice => .string (String.ofList (slice text.toList args))

/-- What a function on paths gives. -/
def Store.callPath (s : Store) (function : PathFunction) (args : List Value) : String :=
  match function with
  | .join => Path.join ((List.range args.length).map (s.textArgument args))
  | .dirname => Path.directory (s.textArgument args 0)
  | .basename => Path.baseWithout (s.textArgument args 0) (s.textArgument args 1)
  | .extname => Path.extension (s.textArgument args 0)

/-- The answer to a question about the machine. -/
def HostQuestion.answer (h : Host) : HostQuestion → Value
  | .arch => .string h.architecture
  | .platform => .string h.platform
  | .home => (h.home.map Value.string).getD .undefined
  | .temporary => .string h.temporary
  | .directory => (h.directory.map Value.string).getD .undefined

/-- The SHA-256 digest of a text in hexadecimal. -/
def digestText (text : String) : String :=
  String.ofList (Text.hexBytes (Digest.sha256 text.toUTF8.toList))

namespace Run

/-- Calls a method of an array. -/
def callArrayMethod (method : ArrayMethod) (a : ArrayId) (args : List Value) : Run Value :=
  match method with
  | .push => do
    modifyArray a (· ++ args)
    return .number (Float.ofNat ((← get).array a).length)
  | .join => do
    let s ← get
    let separator :=
      match argument args 0 with
      | .undefined => ","
      | v => s.display v
    return .string (s.join separator a)
  | .includes => do
    return .bool (((← get).array a).any fun v => v.strictEq (argument args 0))

/-- Calls a function that is no script. -/
def callNative (operation : Operation) (args : List Value) : Run Value := do
  let s ← get
  match operation with
  | .print stream =>
    print stream (String.intercalate " " (args.map s.display))
    return .undefined
  | .stringify =>
    match s.toJson (argument args 0) with
    | .ok (some j) => return .string j.text
    | .ok none => return .undefined
    | .error m => misuse m
  | .parseJson =>
    match Json.parse (s.display (argument args 0)) with
    | .ok j => ofJson j
    | .error e => throw (.badJson e)
  | .math f => return .number (f.apply (argument args 0).toNumber)
  | .greatest =>
    return .number ((args.map Value.toNumber).foldl greater (-Number.infinity))
  | .least => return .number ((args.map Value.toNumber).foldl lesser Number.infinity)
  | .toString => return .string (s.display (argument args 0))
  | .toNumber => return .number (argument args 0).toNumber
  | .toBoolean => return .bool (argument args 0).isTruthy
  | .arrayMethod method a => callArrayMethod method a args
  | .stringMethod method text => return s.callStringMethod method text args
  | .path f => return .string (s.callPath f args)
  | .host q => return q.answer s.host
  | .sha256 => return .string (digestText (s.textArgument args 0))
  | .countArguments => return .number (Float.ofNat args.length)

end Run

end Script
end ScriptImport
