import EntitySchema.ExternalId.Derivation

/-!
# Triggers that keep external ids current

Before a row is inserted or updated, a trigger derives its external id anew.
-/

namespace EntitySchema

namespace ExternalId

open Identifier (Namer)

/-- What happens to the row. -/
inductive Event where
  | insert
  | update
deriving Repr, DecidableEq

namespace Event

/-- The ending of the names of triggers for the event. -/
def suffix : Event → String
  | insert => "_ins_ext_id"
  | update => "_upd_ext_id"

def keyword : Event → String
  | insert => "INSERT"
  | update => "UPDATE"

end Event

/-- A trigger that derives the external id of a row before the event. -/
structure Trigger where
  name : String
  function : String
  schema : String
  table : String
  event : Event
  target : String
  derivation : Derivation
deriving Repr, DecidableEq

namespace Trigger

/-- The trigger of a table for an event; its name and the name of its function come from the name of
the table. -/
def forEvent (namer : Namer) (schema table target : String) (derivation : Derivation)
    (event : Event) : Trigger where
  name := namer.derived table event.suffix
  function := namer.derived table (event.suffix ++ "_fn")
  schema := schema
  table := table
  event := event
  target := target
  derivation := derivation

/-- The triggers of a table, first the one for inserts, then the one for updates. -/
def both (namer : Namer) (schema table target : String) (derivation : Derivation) :
    List Trigger :=
  [Event.insert, Event.update].map (forEvent namer schema table target derivation)

end Trigger

end ExternalId

end EntitySchema
