import GUPnP.Base.Split

/-!
# Types of devices and services (`gupnp-device-info.c`)

How a device finds the type of a device or a service it is asked for among those it has.
-/

set_option autoImplicit false

namespace GUPnP.DeviceInfo

/-- `(guint) atoi`. -/
def versionNumber (s : Str) : Nat := (CString.atoi s % 2 ^ 32).toNat

/-- `resource_type_match`; the length of the type is a `guint`. -/
def resourceTypeMatch (query base : Str) : Bool :=
  match CString.strrchr ':' base with
  | none => query == base
  | some (type, version) =>
    let typeLen := type.length % 2 ^ 32
    if ¬ CString.strncmpEq query base typeLen then false
    else if version = [] then true
    else
      match query.drop typeLen with
      | [] => true
      | ':' :: queryVersion =>
        if queryVersion = [] then true
        else decide (versionNumber queryVersion ≤ versionNumber version)
      | _ :: _ => false

example : resourceTypeMatch "urn:x:device:A:1".toList "urn:x:device:A:2".toList = true := by decide

end GUPnP.DeviceInfo
