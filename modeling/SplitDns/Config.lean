import SplitDns.Toml.Build
import SplitDns.Toml.Report
import SplitDns.Net.Address
import SplitDns.Text.Quote
/-!
# Configuration

The settings of the forwarder: where it listens, its fast and clean resolvers with the time
allowed for one exchange, the size of the answer cache and the lifetime of answers without a
positive TTL, an optional file of domestic networks, and the log level. Each has a default.

A configuration file is TOML. Its tables are read into the settings by field name, in the
order of their names; names that mean nothing are skipped, and a table given as an array
fills its fields in order. A value of the wrong kind is refused with what it is and what was
expected, at the value's place in the file. Loading reads the file if there is one, applies
the values given on the command line, and completes bare addresses with port 53. Validation
then checks, in order, that the three addresses are `ip:port`, that the cache size and the
timeout are positive, and that the log level is a known one.
-/

namespace SplitDns

/-- Where the forwarder listens. -/
structure ServerSettings where
  listen : String := "127.0.0.1:53"
  deriving DecidableEq, Repr

/-- The two resolvers and the time allowed for one exchange, in milliseconds. -/
structure UpstreamSettings where
  fast : String := "114.114.114.114:53"
  clean : String := "8.8.8.8:53"
  queryTimeoutMs : Nat := 2000
  deriving DecidableEq, Repr

/-- The size of the answer cache and the lifetime of answers without a positive TTL. -/
structure CacheSettings where
  capacity : Nat := 5000
  minTtlSecs : Nat := 5
  deriving DecidableEq, Repr

/-- The file of domestic networks, if not the built-in table. -/
structure ClassifierSettings where
  chinaIpList : Option String := none
  deriving DecidableEq, Repr

/-- The log level. -/
structure LoggingSettings where
  level : String := "info"
  deriving DecidableEq, Repr

/-- All settings. -/
structure Config where
  server : ServerSettings := {}
  upstream : UpstreamSettings := {}
  cache : CacheSettings := {}
  classifier : ClassifierSettings := {}
  logging : LoggingSettings := {}
  deriving DecidableEq, Repr

/-- Values given on the command line, each replacing the file's. -/
structure Overrides where
  fast : Option String := none
  clean : Option String := none
  listen : Option String := none
  cacheCapacity : Option Nat := none
  logLevel : Option String := none
  deriving DecidableEq, Repr

/-- Why a configuration could not be used. -/
inductive ConfigError where
  /-- The file could not be read. -/
  | io (path reason : String)
  /-- The file is no valid configuration; the report shows where. -/
  | parse (path report : String)
  /-- A setting has a value that cannot be used. -/
  | invalid (field reason : String)
  deriving DecidableEq, Repr

namespace ConfigError

/-- The kind of the error, as a word. -/
def kind : ConfigError → String
  | .io _ _ => "Io"
  | .parse _ _ => "Parse"
  | .invalid _ _ => "Invalid"

/-- The text of the error. -/
def message : ConfigError → String
  | .io p r => "Failed to read config file " ++ p ++ ": " ++ r
  | .parse p r => "Failed to parse config file " ++ p ++ ": " ++ r
  | .invalid f r => "Invalid " ++ f ++ ": " ++ r

/-- The text of the underlying error, if there is one. -/
def cause? : ConfigError → Option String
  | .io _ r => some r
  | .parse _ r => some r
  | .invalid _ _ => none

end ConfigError

namespace Toml

/-- A float as a debugging display shows it: plain decimals, a `.0` when whole. -/
def floatText : TomlFloat → String
  | .nan _ => "NaN"
  | .infinite neg => (if neg then "-" else "") ++ "inf"
  | .finite neg none => (if neg then "-" else "") ++ "0.0"
  | .finite neg (some x) => (if neg then "-" else "") ++ x.shortest.plainText
  | .overflowed => "inf"

/-- The least 64-bit signed integer. -/
def signed64Min : Int := -Int.ofNat (Nat.pow 2 63)

/-- One past the greatest 64-bit unsigned integer. -/
def unsigned64End : Int := Int.ofNat (Nat.pow 2 64)

/-- The least 128-bit signed integer. -/
def signed128Min : Int := -Int.ofNat (Nat.pow 2 127)

/-- One past the greatest 128-bit unsigned integer. -/
def unsigned128End : Int := Int.ofNat (Nat.pow 2 128)

/-- One past the greatest 128-bit signed integer. -/
def signed128End : Int := Int.ofNat (Nat.pow 2 127)

/-- Whether an integer lies beyond what 128 bits hold, signed or not. -/
def overflows (i : Int) : Bool := i < signed128Min || i ≥ unsigned128End

/-- Whether an integer fits 64 bits, signed or not. -/
def fits64 (i : Int) : Bool := signed64Min ≤ i && i < unsigned64End

/-- The fault of a number too large to read, if a value is one: an integer beyond 128 bits, or a
float literal beyond the largest finite value. -/
def overflowOf : Value → Option String
  | .integer i => if overflows i then some "integer number overflowed" else none
  | .float .overflowed => some "floating-point number overflowed"
  | _ => none

/-- What a value is, in the words of a type error. An integer beyond 64 bits is named with the
first 128-bit type that holds it. -/
def unexpected : Value → String
  | .string s => "string " ++ Text.quoted s
  | .integer v =>
    if fits64 v then "integer `" ++ toString v ++ "`"
    else "integer `" ++ toString v ++ "` as " ++ (if v < signed128End then "i128" else "u128")
  | .float x => "floating point `" ++ floatText x ++ "`"
  | .boolean b => "boolean `" ++ (if b then "true" else "false") ++ "`"
  | .datetime _ => "map"
  | .array _ _ => "sequence"
  | .table _ _ => "map"

/-- A value of the wrong kind. -/
def invalidType {α : Type} (v : Value) (span : Span) (expected : String) : Except TomlError α :=
  fault ("invalid type: " ++ unexpected v ++ ", expected " ++ expected) span

/-- Reads a natural number below `2 ^ 64`; `name` is the expected type's name. A negative
integer is a value out of range; integers beyond 64 bits are of a type that is not expected. -/
def natOf (name : String) (v : Value) (span : Span) : Except TomlError Nat :=
  match overflowOf v, v with
  | some m, _ => fault m span
  | none, .integer i =>
    if !fits64 i then invalidType v span name
    else if i < 0 then
      fault ("invalid value: integer `" ++ toString i ++ "`, expected " ++ name) span
    else .ok i.toNat
  | none, _ => invalidType v span name

/-- Reads a string. -/
def stringOfValue (expected : String) (v : Value) (span : Span) : Except TomlError String :=
  match overflowOf v, v with
  | some m, _ => fault m span
  | none, .string s => .ok s
  | none, _ => invalidType v span expected

/-- The entries of a table in the order of their names. -/
def sortedEntries (es : Entries) : Entries :=
  es.mergeSort fun a b => a.1 < b.1 || a.1 = b.1

mutual

/-- The first number too large to read in a value that no setting reads, with its place, if
there is one: such a value is skipped, but walking it still meets the numbers it holds, the
entries of a table in the order of their names. -/
def firstOverflow : Value → Span → Option (String × Span)
  | .array items _, _ => firstOverflowIn items
  | .table es _, _ => (leastOverflow es).map (·.2)
  | v, span => (overflowOf v).map (·, span)

/-- The first number too large to read among the items of an array, with its place. -/
def firstOverflowIn : List (Value × Span) → Option (String × Span)
  | [] => none
  | (v, sp) :: rest =>
    match firstOverflow v sp with
    | some place => some place
    | none => firstOverflowIn rest

/-- The entry of a table with the least name whose value holds a number too large to read,
with that number's fault and place. -/
def leastOverflow : List (String × Value × Span) → Option (String × String × Span)
  | [] => none
  | (k, v, sp) :: rest =>
    match (firstOverflow v sp).map (k, ·), leastOverflow rest with
    | some (k1, s1), some (k2, s2) => if k2 < k1 then some (k2, s2) else some (k1, s1)
    | some h, none => some h
    | none, t => t

end

/-- Skips a value that no setting reads. -/
def skipValue (v : Value) (span : Span) : Except TomlError Unit :=
  match firstOverflow v span with
  | some (m, place) => fault m place
  | none => .ok ()

/-- Reads a group of settings from a table, field by field in the order of the names, or from
an array, field by field in declaration order; `fields` gives for each field name how it
updates the settings. -/
def structOf {α : Type} (name : String) (init : α)
    (fields : List (String × (α → Value → Span → Except TomlError α)))
    (v : Value) (span : Span) : Except TomlError α :=
  match v with
  | .table es _ =>
    (sortedEntries es).foldlM (fun acc (k, fv, fs) =>
      match fields.find? (·.1 = k) with
      | some (_, f) => f acc fv fs
      | none => do
        skipValue fv fs
        pure acc) init
  | .array items _ =>
    (fields.zip items).foldlM (fun acc ((_, f), (iv, isp)) => f acc iv isp) init
  | _ =>
    match overflowOf v with
    | some m => fault m span
    | none => invalidType v span ("struct " ++ name)

/-- Reads the listening settings. -/
def serverOf : Value → Span → Except TomlError ServerSettings :=
  structOf "ServerConfig" {}
    [("listen", fun s v sp => do pure { s with listen := ← stringOfValue "a string" v sp })]

/-- Reads the resolver settings. -/
def upstreamOf : Value → Span → Except TomlError UpstreamSettings :=
  structOf "UpstreamConfig" {}
    [("fast", fun s v sp => do pure { s with fast := ← stringOfValue "a string" v sp }),
     ("clean", fun s v sp => do pure { s with clean := ← stringOfValue "a string" v sp }),
     ("query_timeout_ms", fun s v sp => do pure { s with queryTimeoutMs := ← natOf "u64" v sp })]

/-- Reads the cache settings. -/
def cacheOf : Value → Span → Except TomlError CacheSettings :=
  structOf "CacheConfig" {}
    [("capacity", fun s v sp => do pure { s with capacity := ← natOf "usize" v sp }),
     ("min_ttl_secs", fun s v sp => do pure { s with minTtlSecs := ← natOf "u64" v sp })]

/-- Reads the classifier settings. -/
def classifierOf : Value → Span → Except TomlError ClassifierSettings :=
  structOf "ClassifierConfig" {}
    [("china_ip_list", fun s v sp => do
      pure { s with chinaIpList := some (← stringOfValue "path string" v sp) })]

/-- Reads the logging settings. -/
def loggingOf : Value → Span → Except TomlError LoggingSettings :=
  structOf "LoggingConfig" {}
    [("level", fun s v sp => do pure { s with level := ← stringOfValue "a string" v sp })]

/-- Reads all settings from the root table of a document. -/
def configOf (es : Entries) : Except TomlError Config :=
  structOf "Config" {}
    [("cache", fun c v sp => do pure { c with cache := ← cacheOf v sp }),
     ("classifier", fun c v sp => do pure { c with classifier := ← classifierOf v sp }),
     ("logging", fun c v sp => do pure { c with logging := ← loggingOf v sp }),
     ("server", fun c v sp => do pure { c with server := ← serverOf v sp }),
     ("upstream", fun c v sp => do pure { c with upstream := ← upstreamOf v sp })]
    (.table es {}) (Span.at 0)

end Toml

namespace Config

/-- Reads settings from the text of a configuration file named `path`. -/
def ofToml (path source : String) : Except ConfigError Config :=
  match Toml.readDocument source >>= Toml.configOf with
  | .ok c => .ok c
  | .error e => .error (.parse path (Toml.render source e))

/-- The settings with the command-line values applied. -/
def applyOverrides (c : Config) (o : Overrides) : Config :=
  { c with
    upstream := { c.upstream with fast := o.fast.getD c.upstream.fast,
                                  clean := o.clean.getD c.upstream.clean },
    server := { c.server with listen := o.listen.getD c.server.listen },
    cache := { c.cache with capacity := o.cacheCapacity.getD c.cache.capacity },
    logging := { c.logging with level := o.logLevel.getD c.logging.level } }

/-- The settings with every address completed to `ip:port`. -/
def normalize (c : Config) : Config :=
  { c with
    upstream := { c.upstream with fast := SocketAddr.normalize c.upstream.fast,
                                  clean := SocketAddr.normalize c.upstream.clean },
    server := { c.server with listen := SocketAddr.normalize c.server.listen } }

/-- The reason a file that is not there cannot be read. -/
def missingFile : String := "No such file or directory (os error 2)"

/-- Loads the settings: from the file at `path` if one is named, looked up with `files`, else
the defaults; then the command-line values; then the addresses completed. -/
def load (files : String → Option String) (path : Option String) (o : Overrides) :
    Except ConfigError Config := do
  let c ← match path with
    | some p =>
      match files p with
      | some text => ofToml p text
      | none => throw (.io p missingFile)
    | none => pure {}
  pure (c.applyOverrides o).normalize

/-- An address setting as a socket address. -/
def addressOf (field value : String) : Except ConfigError SocketAddr :=
  match SocketAddr.parse? value with
  | some a => .ok a
  | none => .error (.invalid field ("'" ++ value ++ "' is not an ip:port address"))

/-- The fast resolver's address. -/
def fastAddr (c : Config) : Except ConfigError SocketAddr :=
  addressOf "upstream.fast" c.upstream.fast

/-- The clean resolver's address. -/
def cleanAddr (c : Config) : Except ConfigError SocketAddr :=
  addressOf "upstream.clean" c.upstream.clean

/-- The listening address. -/
def listenAddr (c : Config) : Except ConfigError SocketAddr :=
  addressOf "server.listen" c.server.listen

/-- The log levels, most severe last. -/
def logLevels : List String := ["trace", "debug", "info", "warn", "error"]

/-- A text with its ASCII letters made small. -/
def asciiLower (s : String) : String :=
  String.map (fun c => if 'A' ≤ c ∧ c ≤ 'Z' then Char.ofNat (c.toNat + 32) else c) s

/-- Checks the settings, reporting the first that cannot be used. -/
def validate (c : Config) : Except ConfigError Unit := do
  let _ ← c.fastAddr
  let _ ← c.cleanAddr
  let _ ← c.listenAddr
  if c.cache.capacity = 0 then throw (.invalid "cache.capacity" "must be greater than zero")
  if c.upstream.queryTimeoutMs = 0 then
    throw (.invalid "upstream.query_timeout_ms" "must be greater than zero")
  if !logLevels.contains (asciiLower c.logging.level) then
    throw (.invalid "logging.level"
      ("'" ++ c.logging.level ++ "' is not one of " ++ ", ".intercalate logLevels))

end Config
end SplitDns
