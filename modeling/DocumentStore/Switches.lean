/-
  DocumentStore.Switches — named switches that are set while the server runs, `throttle`
  being the one that is there from the start.
-/

import DocumentStore.Failure

namespace DocumentStore

structure Switches where
  flags : Record
  deriving DecidableEq, Repr

namespace Switches

def throttleFlag : String := "throttle"

def ofThrottle (on : Bool) : Switches := ⟨[(throttleFlag, .bool on)]⟩

/-- Whether answers are delayed: any value that counts as true switches the delay on. -/
def throttle (s : Switches) : Bool := (Record.value s.flags throttleFlag).truthy

/-- All switches, or the one named first, null if there is none of that name. -/
def get (s : Switches) (path : List String) : Value :=
  match path with
  | [] => .object s.flags
  | name :: _ => Record.value s.flags name

/-- Sets every switch that the body names. -/
def post (s : Switches) (body : Value) : Except Failure Value × Switches :=
  match body with
  | .object changes =>
    let flags := s.flags.overlay changes
    (.ok (.object flags), ⟨flags⟩)
  | _ => (.error (.request .bodyShape), s)

end Switches

end DocumentStore
