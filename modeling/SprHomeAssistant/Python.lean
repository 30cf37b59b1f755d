import Mathlib.Data.List.DropRight
import SprHomeAssistant.Json

/-! Python as the integration uses it: exceptions, attribute-style access to decoded
documents and the string methods applied to URLs.
-/

set_option autoImplicit false

namespace SprHomeAssistant

/-- The exceptions the integration meets. `sprAuthError` is also an `SprApiError`. -/
inductive PyError where
  | clientError (message : String)
  | timeoutError
  | valueError (message : String)
  | typeError
  | attributeError
  | assertionError
  | recursionError
  | unknownEntry
  | sprApiError (message : String)
  | sprAuthError (message : String)
  | configEntryAuthFailed
  | updateFailed (message : String)
  deriving DecidableEq

/-- `str(err)` for `aiohttp.ClientError` and `asyncio.TimeoutError`, which are caught together. -/
def PyError.transport : PyError → Option String
  | .clientError message => some message
  | .timeoutError => some ""
  | _ => none

/-- `value.get(key, default)`. Only a dict has the method. -/
def Json.getD (value : Json) (key : String) (default : Json) : Except PyError Json :=
  match value with
  | .obj fields => .ok ((fields.lookup key).getD default)
  | _ => .error .attributeError

def Json.get (value : Json) (key : String) : Except PyError Json := value.getD key .null

/-- The items a `for` loop takes from a value. -/
def Json.iterate : Json → Except PyError (List Json)
  | .arr items => .ok items
  | .obj fields => .ok (fields.map fun field => .str field.1)
  | .str text => .ok (text.toList.map fun c => .str (String.ofList [c]))
  | _ => .error .typeError

/-! ## Strings -/

def pySpaceCodes : List Nat :=
  [9, 10, 11, 12, 13, 28, 29, 30, 31, 32, 0x85, 0xA0, 0x1680, 0x2000, 0x2001, 0x2002, 0x2003, 0x2004,
    0x2005, 0x2006, 0x2007, 0x2008, 0x2009, 0x200A, 0x2028, 0x2029, 0x202F, 0x205F, 0x3000]

def isPySpace (c : Char) : Bool := pySpaceCodes.contains c.toNat

def strip (s : String) : String :=
  String.ofList ((s.toList.dropWhile isPySpace).rdropWhile isPySpace)

/-- `s.rstrip("/")`. -/
def rstripSlash (s : String) : String := String.ofList (s.toList.rdropWhile fun c => c = '/')

def startsWith (s start : String) : Bool := start.toList.isPrefixOf s.toList

end SprHomeAssistant
