import ChatSession.Data.Calendar

/-!
Dynamic data as it arrives from the backend and from configuration files.

A `Value` is a tree of null, booleans, integers of any size, doubles, text,
byte strings, dates, timestamps, lists, tuples, sets and dictionaries.
Dictionaries keep their insertion order and may have any scalar (or tuple of
scalars) as a key, since YAML documents allow that; sets keep the order their
items came in. Equality of values is the data model's own: numbers compare by
value across the integer, boolean and double kinds (`1`, `1.0` and `true` are
one key), dictionaries compare as mappings, and sets item by item in the
order they keep.
-/

namespace ChatSession

/-- A dynamic data value. -/
inductive Value where
  | null
  | bool (b : Bool)
  | int (n : Int)
  | float (x : Float)
  | str (s : String)
  | bytes (b : List UInt8)
  | date (d : Date)
  | time (t : Timestamp)
  | list (xs : List Value)
  | tuple (xs : List Value)
  | set (xs : List Value)
  | dict (kvs : List (Value × Value))
deriving Inhabited

namespace Value

/-- The name of the value's kind, as error messages spell it. -/
def typeName : Value → String
  | .null => "NoneType"
  | .bool _ => "bool"
  | .int _ => "int"
  | .float _ => "float"
  | .str _ => "str"
  | .bytes _ => "bytes"
  | .date _ => "date"
  | .time _ => "datetime"
  | .list _ => "list"
  | .tuple _ => "tuple"
  | .set _ => "set"
  | .dict _ => "dict"

/-- The full name of the value's kind, module included where it has one. -/
def qualifiedTypeName : Value → String
  | .date _ => "datetime.date"
  | .time _ => "datetime.datetime"
  | v => v.typeName

/-- Truth of a value in a condition: empty containers, zero, null and false are false. -/
def truthy : Value → Bool
  | .null => false
  | .bool b => b
  | .int n => n != 0
  | .float x => x != 0.0
  | .str s => !s.isEmpty
  | .bytes b => !b.isEmpty
  | .date _ | .time _ => true
  | .list xs | .tuple xs | .set xs => !xs.isEmpty
  | .dict kvs => !kvs.isEmpty

/-- The exact integer a double stands for, when it is finite and has no fractional part. -/
def floatToInt? (x : Float) : Option Int :=
  if x.isNaN || x.isInf then none
  else
    let bits := x.toBits
    let neg := bits >>> 63 == 1
    let e := ((bits >>> 52) &&& 0x7FF).toNat
    let f := (bits &&& 0xFFFFFFFFFFFFF).toNat
    let (m, q) : Nat × Int := if e == 0 then (f, -1074) else (Nat.pow 2 52 + f, (e : Int) - 1075)
    let mag? : Option Nat :=
      if 0 ≤ q then some (m * Nat.pow 2 q.toNat)
      else if m % Nat.pow 2 (-q).toNat == 0 then some (m / Nat.pow 2 (-q).toNat) else none
    mag?.map fun n => if neg then -(n : Int) else n

/-- The number a numeric value stands for when it is integral: booleans count as 0 and 1. -/
def asInt? : Value → Option Int
  | .bool b => some (if b then 1 else 0)
  | .int n => some n
  | .float x => floatToInt? x
  | _ => none

/-- A value is numeric when it is a boolean, an integer or a double. -/
def isNumber : Value → Bool
  | .bool _ | .int _ | .float _ => true
  | _ => false

/-- Equality of two numbers by value; a NaN equals nothing. -/
def numEq (a b : Value) : Bool :=
  match a, b with
  | .float x, .float y => x == y
  | .float x, other | other, .float x =>
    match floatToInt? x, other.asInt? with
    | some i, some j => i == j
    | _, _ => false
  | _, _ =>
    match a.asInt?, b.asInt? with
    | some i, some j => i == j
    | _, _ => false

mutual
/-- Equality of values: numbers by value, dictionaries as mappings. -/
def eqv : Value → Value → Bool
  | .null, .null => true
  | .str s, .str t => s == t
  | .bytes s, .bytes t => s == t
  | .date d, .date e => d == e
  | .time t, .time u => t.same u
  | .list xs, .list ys => eqvList xs ys
  | .tuple xs, .tuple ys => eqvList xs ys
  | .set xs, .set ys => eqvList xs ys
  | .dict a, .dict b => a.length == b.length && eqvDictIn a b
  | a, b => a.isNumber && b.isNumber && numEq a b
def eqvList : List Value → List Value → Bool
  | [], [] => true
  | x :: xs, y :: ys => eqv x y && eqvList xs ys
  | _, _ => false
/-- Every entry of the first dictionary has an equal entry in the second. -/
def eqvDictIn : List (Value × Value) → List (Value × Value) → Bool
  | [], _ => true
  | (k, v) :: rest, other => eqvEntry k v other && eqvDictIn rest other
/-- The dictionary maps a key equal to `k` to a value equal to `v`. -/
def eqvEntry (k v : Value) : List (Value × Value) → Bool
  | [] => false
  | (k', v') :: rest => if eqv k k' then eqv v v' else eqvEntry k v rest
end

instance : BEq Value := ⟨eqv⟩

mutual
/-- Only scalars, and tuples of them, can key a dictionary. -/
def hashable : Value → Bool
  | .list _ | .set _ | .dict _ => false
  | .tuple xs => hashableAll xs
  | _ => true
def hashableAll : List Value → Bool
  | [] => true
  | x :: xs => hashable x && hashableAll xs
end

/-- The value a dictionary gives for a key, first match. -/
def lookup (kvs : List (Value × Value)) (k : Value) : Option Value :=
  (kvs.find? fun e => eqv e.1 k).map (·.2)

def field? (kvs : List (Value × Value)) (name : String) : Option Value :=
  lookup kvs (.str name)

/-- Store `v` under `k`: an equal key keeps its place and its first spelling,
and takes the new value; a new key goes last. -/
def assign (kvs : List (Value × Value)) (k v : Value) : List (Value × Value) :=
  if kvs.any (fun e => eqv e.1 k) then
    kvs.map fun e => if eqv e.1 k then (e.1, v) else e
  else kvs ++ [(k, v)]

/-- Build a dictionary from entries in order, later entries overriding earlier ones. -/
def ofEntries (entries : List (Value × Value)) : List (Value × Value) :=
  entries.foldl (fun acc e => assign acc e.1 e.2) []

/-- The keys of entries, when every key is text. -/
def textKeys? (entries : List (Value × Value)) : Option (List String) :=
  entries.mapM fun e => match e.1 with
    | .str s => some s
    | _ => none

/-- No two neighbours are equal; for a sorted list, no two items are. -/
def noRepeatedNeighbours : List String → Bool
  | a :: tl@(b :: _) => a != b && noRepeatedNeighbours tl
  | _ => true

/-- `ofEntries`, without its pairwise search when the keys are distinct
texts (found by sorting them): such entries already form a dictionary. -/
def ofEntriesQuick (entries : List (Value × Value)) : List (Value × Value) :=
  match textKeys? entries with
  | some keys =>
    if noRepeatedNeighbours (keys.mergeSort fun a b => !decide (b < a)) then entries
    else ofEntries entries
  | none => ofEntries entries

mutual
/-- The value as JSON can hold it: infinite and NaN doubles become null, at
any depth. -/
def jsonSafe : Value → Value
  | .float x => if x.isNaN || x.isInf then .null else .float x
  | .list xs => .list (jsonSafeList xs)
  | .tuple xs => .tuple (jsonSafeList xs)
  | .set xs => .set (jsonSafeList xs)
  | .dict kvs => .dict (jsonSafeDict kvs)
  | v => v
def jsonSafeList : List Value → List Value
  | [] => []
  | x :: xs => jsonSafe x :: jsonSafeList xs
def jsonSafeDict : List (Value × Value) → List (Value × Value)
  | [] => []
  | (k, v) :: rest => (k, jsonSafe v) :: jsonSafeDict rest
end

def obj (fields : List (String × Value)) : Value :=
  .dict (fields.map fun (k, v) => (.str k, v))

def strs (xs : List String) : Value := .list (xs.map .str)

end Value

end ChatSession
