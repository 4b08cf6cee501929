import Courier.Json.Record

/-!
Where a rider is.
-/

namespace Courier

structure Location where
  latitude : Float
  longitude : Float
  riderId : Option String
  updatedAt : Option String

namespace Location

def optionalString : Option String → Json.Value
  | none => .null
  | some s => .string s

def members (l : Location) : List (String × Json.Value) :=
  [("latitude", .number (.float l.latitude)), ("longitude", .number (.float l.longitude)),
    ("rider_id", optionalString l.riderId), ("updated_at", optionalString l.updatedAt)]

def text (l : Location) : String := Json.recordText l.members

def parse? (text : String) : Option Location := do
  let tree ← Json.Tree.parse text
  match ← tree.fields? ["latitude", "longitude", "rider_id", "updated_at"] with
  | [some latitude, some longitude, riderId, updatedAt] =>
    let optional : Option Json.Tree → Option (Option String)
      | none => some none
      | some tree => tree.stringOrNull?
    return {
      latitude := ← latitude.float?
      longitude := ← longitude.float?
      riderId := ← optional riderId
      updatedAt := ← optional updatedAt }
  | _ => none

def ofValue (v : Json.Value) : Except Json.Mismatch Location := do
  let f ← v.fields "RiderLocation" 4
  let latitude ← f.read "latitude" 0 Json.Value.toFloat?
  let longitude ← f.read "longitude" 1 Json.Value.toFloat?
  let riderId ← f.read "rider_id" 2 Json.Value.toStringOrNull?
  let updatedAt ← f.read "updated_at" 3 Json.Value.toStringOrNull?
  let latitude ← f.require "latitude" 0 latitude
  let longitude ← f.require "longitude" 1 longitude
  f.finish
  return ⟨latitude, longitude, riderId.join, updatedAt.join⟩

end Location
end Courier
