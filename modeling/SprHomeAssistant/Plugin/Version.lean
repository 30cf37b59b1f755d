import SprHomeAssistant.Go.Text
import SprHomeAssistant.Go.Values

/-! The check for a newer SPR release. -/

set_option autoImplicit false

namespace SprHomeAssistant.Plugin
open Go

def isDigit (c : Char) : Bool := '0' ≤ c && c ≤ '9'

/-- `(\d+)` at the start of a text, and what follows it. -/
def matchNumber (cs : List Char) : Option (String × List Char) :=
  match cs.span isDigit with
  | ([], _) => none
  | (number, rest) => some (String.ofList number, rest)

def matchDot : List Char → Option (List Char)
  | '.' :: rest => some rest
  | _ => none

/-- The three groups of `^v?(\d+)\.(\d+)\.(\d+)$`. -/
def semverRe (s : String) : Option (String × String × String) := do
  let start := match s.toList with
    | 'v' :: rest => rest
    | cs => cs
  let (major, rest) ← matchNumber start
  let (minor, rest) ← matchNumber (← matchDot rest)
  let (patch, rest) ← matchNumber (← matchDot rest)
  if rest.isEmpty then some (major, minor, patch) else none

structure Semver where
  major : Int
  minor : Int
  patch : Int
  deriving DecidableEq

def parseSemver (s : String) : Option Semver :=
  (semverRe (trimSpace s)).map fun (major, minor, patch) =>
    ⟨(atoi major).1, (atoi minor).1, (atoi patch).1⟩

def semverLess (a b : String) : Bool :=
  match parseSemver a, parseSemver b with
  | some va, some vb =>
      if va.major ≠ vb.major then va.major < vb.major
      else if va.minor ≠ vb.minor then va.minor < vb.minor
      else if va.patch ≠ vb.patch then va.patch < vb.patch
      else false
  | _, _ => false

/-- `versionCheckAt` and `versionCheckResult`; the time is `none` while it is zero. -/
structure VersionCheck where
  checkedAt : Option Time
  result : String

def VersionCheck.initial : VersionCheck := ⟨none, ""⟩

def hour : Time := 3600 * second

def VersionCheck.fresh (check : VersionCheck) (now : Time) : Bool :=
  match check.checkedAt with
  | none => false
  | some t => now - t < hour

def bestTag (best tag : String) : String :=
  if (parseSemver tag).isNone then best
  else if best = "" || semverLess best tag then tag
  else best

/-- `latestAvailableVersion`. The clock is read once before the registry query, `now`,
and once after it, `answered`. -/
def latestAvailableVersion (current : String) (check : VersionCheck) (now answered : Time)
    (reply : Option (Slice String)) : String × VersionCheck :=
  -- a channel such as "latest" is not compared with anything
  if (parseSemver current).isNone then ("", check)
  else if check.fresh now then (check.result, check)
  else
    match reply with
    -- a failed query is not remembered, so the next refresh asks again
    | none => (check.result, check)
    | some tags =>
        let best := tags.items.foldl bestTag ""
        (best, ⟨some answered, best⟩)

end SprHomeAssistant.Plugin
