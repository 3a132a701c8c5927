import DebugExpr.Log.Event

/-!
A journal keeps the events that pass its filter, in the order in which they come.
-/

namespace DebugExpr.Log

structure Journal where
  minimum : Level
  events : List Event := []

namespace Journal

def accepts (journal : Journal) (level : Level) : Bool :=
  level.passes journal.minimum

def record (journal : Journal) (event : Event) : Journal :=
  { journal with events := journal.events ++ [event] }

def submit (journal : Journal) (event : Event) : Journal :=
  if journal.accepts event.level then journal.record event else journal

def clear (journal : Journal) : Journal :=
  { journal with events := [] }

def hasEvent (journal : Journal) (code : Code) : Bool :=
  journal.events.any fun event => event.code == code

def hasError (journal : Journal) (code : Code) : Bool :=
  journal.events.any fun event => event.isError && event.code == code

end Journal

end DebugExpr.Log
