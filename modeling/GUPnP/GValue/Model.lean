import GUPnP.Xml.Node

/-!
# Values (`gvalue-util.c`)

The values of action arguments and their conversion from and to the text of an XML element. A value
of a fundamental type of GObject has its C value, with `long` of 64 bits and the floating-point types
as their bits; a value of another type has its contents as bytes.
-/

set_option autoImplicit false

namespace GUPnP

/-- A `GType`; `other` are the registered types that are not fundamental. -/
inductive GType where
  | string
  | char
  | uchar
  | int
  | uint
  | int64
  | uint64
  | long
  | ulong
  | float
  | double
  | boolean
  | other (id : Nat)
  deriving DecidableEq, Repr

/-- A `GValue` that was initialised. A string may be `NULL`. -/
inductive GValue where
  | string (v : Option Str)
  | char (v : Int8)
  | uchar (v : UInt8)
  | int (v : Int32)
  | uint (v : UInt32)
  | int64 (v : Int64)
  | uint64 (v : UInt64)
  | long (v : Int64)
  | ulong (v : UInt64)
  | float (bits : UInt32)
  | double (bits : UInt64)
  | boolean (v : Bool)
  | other (id : Nat) (contents : Str)
  deriving DecidableEq, Repr

/-- What the conversions use of GLib: floating-point numbers and their texts, and the functions
registered to transform values of other types. -/
structure GLib where
  /-- `g_ascii_strtod` -/
  asciiStrtod : Str → UInt64
  /-- `g_ascii_dtostr` -/
  asciiDtostr : UInt64 → Str
  /-- The conversion of `double` to `float`. -/
  narrow : UInt64 → UInt32
  /-- The conversion of `float` to `double`. -/
  widen : UInt32 → UInt64
  /-- `g_value_init` for a type that is not fundamental. -/
  initial : Nat → Str
  /-- The transformation of strings to this type. -/
  transformString : Nat → Option (Str → Str)
  /-- The transformation of integers to this type. -/
  transformInt : Nat → Option (Int32 → Str)
  /-- The transformation of this type to strings. -/
  transformToString : Nat → Option (Str → Option Str)

/-- A GLib for programs that have neither floating-point numbers nor values of other types. -/
def GLib.plain : GLib where
  asciiStrtod := fun _ => 0
  asciiDtostr := fun _ => ['0']
  narrow := fun _ => 0
  widen := fun _ => 0
  initial := fun _ => []
  transformString := fun _ => none
  transformInt := fun _ => none
  transformToString := fun _ => none

namespace GValue

/-- `G_VALUE_TYPE`. -/
def type : GValue → GType
  | string _ => .string
  | char _ => .char
  | uchar _ => .uchar
  | int _ => .int
  | uint _ => .uint
  | int64 _ => .int64
  | uint64 _ => .uint64
  | long _ => .long
  | ulong _ => .ulong
  | float _ => .float
  | double _ => .double
  | boolean _ => .boolean
  | other id _ => .other id

section
variable (glib : GLib)

/-- `g_value_init`. -/
def init : GType → GValue
  | .string => string none
  | .char => char 0
  | .uchar => uchar 0
  | .int => int 0
  | .uint => uint 0
  | .int64 => int64 0
  | .uint64 => uint64 0
  | .long => long 0
  | .ulong => ulong 0
  | .float => float 0
  | .double => double 0
  | .boolean => boolean false
  | .other id => other id (glib.initial id)

/-- `g_ascii_strcasecmp (s, t) == 0` for a `t` in lower case. -/
def strcaseEq (s t : Str) : Bool := s.map Char.toLower == t

/-- The truth value `gvalue_util_set_value_from_string` reads from a string. -/
def booleanOf (str : Str) : Bool :=
  if strcaseEq str "true".toList ∨ strcaseEq str "yes".toList then true
  else if strcaseEq str "false".toList ∨ strcaseEq str "no".toList then false
  else CString.atoi str ≠ 0

/-- `*str`, which is the terminator of the empty string. -/
def firstByte (str : Str) : Nat := (str.head?.map Char.toNat).getD 0

/-- `gvalue_util_set_value_from_string`: the value afterwards, and whether it was set. -/
def setValueFromString (value : GValue) (str : Str) : GValue × Bool :=
  match value with
  | string _ => (string (some str), true)
  | char _ => (char (.ofNat (firstByte str)), true)
  | uchar _ => (uchar (.ofNat (firstByte str)), true)
  | int _ => (int (.ofInt (CString.strtol str)), true)
  | uint _ => (uint (.ofNat (CString.strtoul str).1), true)
  | int64 _ => (int64 (.ofInt (CString.strtoll str)), true)
  | uint64 _ => (uint64 (.ofNat (CString.strtoull str)), true)
  | long _ => (long (.ofInt (CString.strtol str)), true)
  | ulong _ => (ulong (.ofNat (CString.strtoul str).1), true)
  | float _ => (float (glib.narrow (glib.asciiStrtod str)), true)
  | double _ => (double (glib.asciiStrtod str), true)
  | boolean _ => (boolean (booleanOf str), true)
  | other id contents =>
    match glib.transformString id, glib.transformInt id with
    | some transform, _ => (other id (transform str), true)
    | none, some transform => (other id (transform (.ofInt (CString.atoi str))), true)
    | none, none => (other id contents, false)

/-- `gvalue_util_set_value_from_xml_node`. -/
def setValueFromXmlNode (value : GValue) (node : Xml.Node) : GValue × Bool :=
  setValueFromString glib value node.content

/-- `gvalue_util_value_append_to_xml_string`: what it appends, and whether it could. -/
def valueAppendToXmlString (value : GValue) : Str × Bool :=
  match value with
  | string none => ([], true)
  | string (some str) => (Xml.addContent str, true)
  | char v => ([Char.ofNat v.toUInt8.toNat], true)
  | uchar v => ([Char.ofNat v.toNat], true)
  | int v => (CString.printD v.toInt, true)
  | uint v => (CString.printU v.toNat, true)
  | int64 v => (CString.printD v.toInt, true)
  | uint64 v => (CString.printU v.toNat, true)
  | long v => (CString.printD v.toInt, true)
  | ulong v => (CString.printU v.toNat, true)
  | float bits => (glib.asciiDtostr (glib.widen bits), true)
  | double bits => (glib.asciiDtostr bits, true)
  | boolean v => (if v then ['1'] else ['0'], true)
  | other id contents =>
    match glib.transformToString id with
    | some transform => (((transform contents).map Xml.addContent).getD [], true)
    | none => ([], false)

@[simp] theorem type_init (t : GType) : (init glib t).type = t := by cases t <;> rfl

/-- A value keeps its type. -/
theorem type_setValueFromString (value : GValue) (str : Str) :
    (setValueFromString glib value str).1.type = value.type := by
  cases value with
  | other id contents => simp only [setValueFromString]; split <;> rfl
  | _ => rfl

theorem type_setValueFromXmlNode (value : GValue) (node : Xml.Node) :
    (setValueFromXmlNode glib value node).1.type = value.type :=
  type_setValueFromString glib value node.content

end

end GValue

end GUPnP
