import DebugExpr.Toml.Document

/-!
Reading typed values out of TOML values. A record may be written as a table, whose unknown keys are
ignored, or as an array of its fields in order.
-/

namespace DebugExpr.Toml

namespace Value

def boolean? : Value → Option Bool
  | boolean value => some value
  | _ => none

def natural? (limit : Nat) : Value → Option Nat
  | integer value => if 0 ≤ value ∧ value < limit then some value.toNat else none
  | _ => none

def items? : Value → Option (List Value)
  | array items => some items
  | tables elements => some (elements.map fun fields => table .header fields)
  | _ => none

def fields? : Value → Option Fields
  | table _ fields => some fields
  | _ => none

def isEmptyGroup : Value → Bool
  | array items => items.isEmpty
  | table _ fields => fields.isEmpty
  | tables elements => elements.isEmpty
  | _ => false

def choice? {α : Type} (ofName? : String → Option α) : Value → Option α
  | string text => ofName? text
  | table _ [(name, content)] => if content.isEmptyGroup then ofName? name else none
  | _ => none

def list? {α : Type} (decode : Value → Option α) (value : Value) : Option (List α) :=
  value.items?.bind fun items => items.mapM decode

end Value

inductive Record where
  | named (fields : Fields)
  | positional (items : List Value)

namespace Record

def ofValue? (value : Value) : Option Record :=
  match value.fields? with
  | some fields => some (named fields)
  | none => value.items?.map positional

def get? (record : Record) (position : Nat) (name : String) : Option Value :=
  match record with
  | named fields => fields.get? name
  | positional items => items[position]?

def required? {α : Type} (record : Record) (position : Nat) (name : String)
    (decode : Value → Option α) : Option α :=
  (record.get? position name).bind decode

def optional? {α : Type} (record : Record) (position : Nat) (name : String) (fallback : α)
    (decode : Value → Option α) :
    Option α :=
  match record.get? position name with
  | some value => decode value
  | none => some fallback

end Record

end DebugExpr.Toml
