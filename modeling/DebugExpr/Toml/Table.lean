/-!
TOML values, and how tables grow while a document is read. A table remembers how it came about,
because that decides which later lines may add to it.
-/

namespace DebugExpr.Toml

inductive TableForm where
  /-- Written in braces; complete as it stands. -/
  | inline
  /-- Opened by a header of its own. -/
  | header
  /-- Named only on the way to another header. -/
  | implied
  /-- Named only in a dotted key. -/
  | dotted
  deriving DecidableEq, Repr, Inhabited

inductive Value where
  | string (text : String)
  | integer (value : Int)
  /-- Nothing that is read here has fractions, so their values are not kept. -/
  | float
  | boolean (value : Bool)
  | array (items : List Value)
  | table (form : TableForm) (fields : List (String × Value))
  /-- The tables of double-bracket headers; only the last one can still grow. -/
  | tables (elements : List (List (String × Value)))
  deriving Inhabited

abbrev Fields := List (String × Value)

namespace Fields

def get? (fields : Fields) (key : String) : Option Value :=
  fields.lookup key

def put (key : String) (value : Value) : Fields → Fields
  | [] => [(key, value)]
  | (other, former) :: rest =>
      if other == key then (key, value) :: rest else (other, former) :: put key value rest

/-- Applies a change to the table under a key. A dotted key makes the table if it is not there and
adds only to tables that no header has opened; a header passes through all but inline tables, and
through the last table of several. -/
def within (dotted : Bool) (key : String) (change : TableForm → Fields → Option Fields)
    (fields : Fields) :
    Option Fields :=
  match fields.get? key with
  | none =>
      let form := if dotted then .dotted else .implied
      (change form []).map fun inner => fields.put key (.table form inner)
  | some (.table form inner) =>
      if form == .inline || (dotted && form == .header) then
        none
      else
        (change form inner).map fun changed => fields.put key (.table form changed)
  | some (.tables elements) =>
      match elements.getLast? with
      | some last =>
          (change .header last).map fun changed =>
            fields.put key (.tables (elements.dropLast ++ [changed]))
      | none => none
  | some _ => none

def openTable : List String → Fields → Option Fields
  | [], _ => none
  | [key], fields =>
      match fields.get? key with
      | none => some (fields.put key (.table .header []))
      | some (.table .implied inner) => some (fields.put key (.table .header inner))
      | some _ => none
  | key :: path, fields => fields.within false key fun _ inner => openTable path inner

def appendTable : List String → Fields → Option Fields
  | [], _ => none
  | [key], fields =>
      match fields.get? key with
      | none => some (fields.put key (.tables [[]]))
      | some (.tables elements) => some (fields.put key (.tables (elements ++ [[]])))
      | some _ => none
  | key :: path, fields => fields.within false key fun _ inner => appendTable path inner

def insertAt : List String → String → Value → Fields → Option Fields
  | [], key, value, fields => if (fields.get? key).isNone then some (fields.put key value) else none
  | step :: path, key, value, fields =>
      fields.within true step fun form inner =>
        if path.isEmpty && form != .dotted then none else insertAt path key value inner

def modifyAt (change : Fields → Option Fields) : List String → Fields → Option Fields
  | [], fields => change fields
  | key :: path, fields => fields.within false key fun _ inner => modifyAt change path inner

end Fields

end DebugExpr.Toml
