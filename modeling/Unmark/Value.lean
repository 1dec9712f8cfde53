import Unmark.Text.Decimal
import Unmark.Text.Quoted
/-!
Loosely typed values: what a tokenizer puts into a token, what a caller registers a handler under, and what may
stand in a tree where a node belongs. Nothing here assumes that a value has the type it should have.
-/
namespace Unmark

/-- a value of unknown type -/
inductive Value where
  | null
  | bool (b : Bool)
  | number (n : Decimal)
  | text (s : String)
  | list (elements : List Value)
  | object (fields : List (String × Value))
deriving Repr, Inhabited

namespace Value

/-- whether a value counts as true: all do but nothing, false, zero and what is empty -/
def truthy : Value → Bool
  | null => false
  | bool b => b
  | number n => n.magnitude != 0
  | text s => s != ""
  | list elements => !elements.isEmpty
  | object fields => !fields.isEmpty

def field? (name : String) : Value → Option Value
  | object fields => fields.lookup name
  | _ => none

def isObject : Value → Bool
  | object _ => true
  | _ => false

def typeName : Value → String
  | null => "NoneType"
  | bool _ => "bool"
  | number n => if n.places = 0 then "int" else "float"
  | text _ => "str"
  | list _ => "list"
  | object _ => "dict"

/-- whether a value can be looked up in a table: lists and objects cannot -/
def isKey : Value → Bool
  | list _ => false
  | object _ => false
  | _ => true

/-- the integer that a value stands for, where a truth value counts as 0 or 1 -/
def toInt? : Value → Option Int
  | bool b => some (if b then 1 else 0)
  | number n => n.toInt?
  | _ => none

/-- the number that a value stands for, where a truth value counts as 0 or 1 -/
def toNumber? : Value → Option Decimal
  | bool b => some (.ofInt (if b then 1 else 0))
  | number n => some n
  | _ => none

mutual

/-- equality of values: numbers by value, objects by their fields in any order -/
def same : Value → Value → Bool
  | null, null => true
  | text a, text b => a == b
  | list a, list b => sameList a b
  | object a, object b => a.length == b.length && sameFields a b
  | a, b =>
    match a.toNumber?, b.toNumber? with
    | some m, some n => m.same n
    | _, _ => false

def sameList : List Value → List Value → Bool
  | [], [] => true
  | a :: as, b :: bs => same a b && sameList as bs
  | _, _ => false

/-- whether each field has an equal partner -/
def sameFields : List (String × Value) → List (String × Value) → Bool
  | [], _ => true
  | (name, value) :: rest, fields =>
    (match fields.lookup name with
      | some other => same value other
      | none => false) && sameFields rest fields

end

mutual

def quoted : Value → List Char
  | null => "None".toList
  | bool b => (if b then "True" else "False").toList
  | number n => n.shown
  | text s => Text.quote s.toList
  | list elements => ['['] ++ quotedList elements ++ [']']
  | object fields => ['\x7b'] ++ quotedFields fields ++ ['\x7d']

def quotedList : List Value → List Char
  | [] => []
  | [v] => quoted v
  | v :: rest => quoted v ++ [',', ' '] ++ quotedList rest

def quotedFields : List (String × Value) → List Char
  | [] => []
  | [(name, v)] => Text.quote name.toList ++ [':', ' '] ++ quoted v
  | (name, v) :: rest => Text.quote name.toList ++ [':', ' '] ++ quoted v ++ [',', ' '] ++ quotedFields rest

end

/-- a value as plain text shows it: a text as it is, all else quoted -/
def shown : Value → List Char
  | text s => s.toList
  | v => quoted v

end Value

end Unmark
