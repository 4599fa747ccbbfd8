import TurnScript.Store.Path
import TurnScript.Value.Access

/-!
# The state store

The state of a session is a map of maps, addressed by paths. A write makes the maps on its way that
are missing, and refuses to go through anything else than a map; a read makes nothing. A write that
fails leaves the store as it was.
-/

namespace TurnScript

/-- What a session remembers from turn to turn. -/
structure Store where
  root : Keyed Value := []
  deriving Inhabited, DecidableEq

namespace Store

/-- The map `m` with `v` at the path of `segment` and the segments behind it. The error is the path
    to the first value on the way that is no map. -/
def put (segment : String) (behind : List String) (v : Value) (m : Keyed Value) :
    Except (List String) (Keyed Value) :=
  match behind with
  | [] => .ok (Keyed.insert segment v m)
  | next :: further =>
    match (Keyed.find? segment m).getD (.map []) with
    | .map inner =>
      match put next further v inner with
      | .ok inner' => .ok (Keyed.insert segment (.map inner') m)
      | .error conflict => .error (segment :: conflict)
    | _ => .error [segment]

/-- The store with `v` at `path`. -/
def set (path : String) (v : Value) (store : Store) : Except Error Store :=
  match Path.segments? path with
  | none | some [] => .error (.invalidStatePath path)
  | some (segment :: behind) =>
    match put segment behind v store.root with
    | .ok root => .ok { root }
    | .error conflict => .error (.statePathConflict (Path.ofSegments conflict))

/-- What is reached from a value along segments, through maps only. -/
def descend : List String → Value → Option Value
  | [], v => some v
  | segment :: rest, .map entries => (Keyed.find? segment entries).bind (descend rest)
  | _ :: _, _ => none

/-- What the store holds at `path`. -/
def get (path : String) (store : Store) : Except Error Value :=
  match (Path.segments? path).bind fun segments => descend segments (.map store.root) with
  | some v => .ok v
  | none => .error (.stateKeyNotFound path)

/-- Whether the store holds anything at `path`. -/
def contains (path : String) (store : Store) : Bool := (store.get path).isOk

/-- The whole store as one map. -/
def snapshot (store : Store) : Value := .map store.root

/-- Whether nothing was ever written. -/
def isEmpty (store : Store) : Bool := store.root.isEmpty

end Store

end TurnScript
