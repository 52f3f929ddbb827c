/-!
# Configuration

The settings of a codec: how long an encoded message may be, and whether encoded messages are
logged. Settings given as text fall back to their defaults when they do not parse.
-/

namespace SearchWire

/-- The settings of a codec. -/
structure Config where
  /-- The greatest length of an encoded message, in bytes. -/
  maxMessageSize : Nat := 64 * 1024 * 1024
  /-- Whether encoded messages are logged. -/
  logPayloads : Bool := false
deriving DecidableEq, Repr

namespace Config

/-- The number that decimal digits stand for, if they are digits and there is one. -/
def parseDigits? (cs : List Char) : Option Nat :=
  if cs.isEmpty || !cs.all Char.isDigit then none
  else some (cs.foldl (fun n c => 10 * n + (c.toNat - '0'.toNat)) 0)

/-- A size as it is written: decimal digits, possibly behind a plus sign, of a number below
`2 ^ 64`. -/
def parseSize? (s : String) : Option Nat :=
  let digits := match s.toList with
    | '+' :: cs => cs
    | cs => cs
  (parseDigits? digits).filter (· < UInt64.size)

/-- Whether a text switches a setting on: `1`, or `true` in letters of either case. -/
def parseFlag (s : String) : Bool :=
  s == "1" || s.toList.map Char.toLower == "true".toList

/-- The configuration from two settings, each of which may be missing. -/
def ofSettings (maxMessageSize logPayloads : Option String) : Config :=
  let default : Config := {}
  { maxMessageSize := (maxMessageSize.bind parseSize?).getD default.maxMessageSize
    logPayloads := (logPayloads.map parseFlag).getD default.logPayloads }

/-- A setting in a settings file: a natural number, a truth value, or something else. -/
inductive Setting
  | number (n : Nat)
  | flag (b : Bool)
  | other
deriving DecidableEq, Repr

/-- The configuration from the settings for the size and for the log. -/
def ofPair? : Setting → Setting → Option Config
  | .number n, .flag b => if n < UInt64.size then some ⟨n, b⟩ else none
  | _, _ => none

/-- The configuration from named settings. Both names have to be there; other names are ignored. -/
def ofNamed? (settings : List (String × Setting)) : Option Config := do
  let size ← settings.lookup "maxMessageSize"
  let log ← settings.lookup "logPayloads"
  ofPair? size log

/-- The configuration from settings without names, in the order of the fields. -/
def ofPositional? : List Setting → Option Config
  | [size, log] => ofPair? size log
  | _ => none

end Config

end SearchWire
