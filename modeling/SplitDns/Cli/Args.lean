import SplitDns.Config
import SplitDns.Text.Similarity
/-!
# The command line

The forwarder takes six options, each at most once: a configuration file, the fast and the
clean resolver, the listening address, the cache size and the log level; and two switches, for
the help text and the version.

Arguments are read from left to right. A long option is `--name`, with its value attached after
`=` or in the next argument; a cluster of short options is `-xyz`, where an option that takes a
value takes the rest of the cluster (after an optional `=`) or the next argument. An argument
that starts with `-` is never a value: after an option still waiting for its value it is read
as an option itself. After `--` no argument is an option.

An option takes its value only when the next option arrives, or at the end; only then is a
missing value, a second use of the option or a cache size that does not read refused. So an
option that waits for its value is refused before the help switch that follows it, while an
argument that is no option is refused at once, whatever waits. For a mistyped long option the
most similar name is suggested, and the usage line then shows the options given so far.
-/

namespace SplitDns
namespace Cli

/-- The program's name. -/
def programName : String := "freedns"

/-- The program's version. -/
def programVersion : String := "0.3.0"

/-- What the program is for. -/
def programAbout : String := "DNS proxy that routes around poisoned answers"

/-- An option or switch of the command line. -/
inductive Flag where
  | config
  | fast
  | clean
  | listen
  | cacheCap
  | logLevel
  | help
  | version
  deriving DecidableEq, Repr

namespace Flag

/-- Every option, in the order of the help text. -/
def all : List Flag := [.config, .fast, .clean, .listen, .cacheCap, .logLevel, .help, .version]

/-- The long name. -/
def long : Flag → String
  | .config => "config"
  | .fast => "fast"
  | .clean => "clean"
  | .listen => "listen"
  | .cacheCap => "cache-cap"
  | .logLevel => "log-level"
  | .help => "help"
  | .version => "version"

/-- The short name, if there is one. -/
def short : Flag → Option Char
  | .config => some 'c'
  | .fast => some 'f'
  | .clean => some 'C'
  | .listen => some 'l'
  | .cacheCap => none
  | .logLevel => none
  | .help => some 'h'
  | .version => some 'V'

/-- The name of the value an option takes; the switches take none. -/
def valueName : Flag → Option String
  | .config => some "CONFIG"
  | .fast => some "FAST"
  | .clean => some "CLEAN"
  | .listen => some "LISTEN"
  | .cacheCap => some "CACHE_CAP"
  | .logLevel => some "LOG_LEVEL"
  | .help => none
  | .version => none

/-- What the help text says of an option. -/
def about : Flag → String
  | .config => "Path to a TOML configuration file"
  | .fast => "Fast upstream, `ip` or `ip:port`"
  | .clean => "Clean upstream, `ip` or `ip:port`"
  | .listen => "Listen address, `ip` or `ip:port`"
  | .cacheCap => "Maximum number of cached answers"
  | .logLevel => "trace, debug, info, warn or error"
  | .help => "Print help"
  | .version => "Print version"

/-- Whether an option takes a value. -/
def takesValue (f : Flag) : Bool := f.valueName.isSome

/-- The option as messages name it: its long form with its value. -/
def display (f : Flag) : String :=
  "--" ++ f.long ++ match f.valueName with
    | some v => " <" ++ v ++ ">"
    | none => ""

/-- The option of a long name. -/
def ofLong? (name : String) : Option Flag := all.find? (·.long = name)

/-- The option of a short name. -/
def ofShort? (c : Char) : Option Flag := all.find? (·.short = some c)

end Flag

/-- The settings given on the command line. -/
structure Options where
  config : Option String := none
  fast : Option String := none
  clean : Option String := none
  listen : Option String := none
  cacheCap : Option Nat := none
  logLevel : Option String := none
  deriving DecidableEq, Repr

/-- The values of the command line that replace those of the configuration. -/
def Options.overrides (o : Options) : Overrides :=
  { fast := o.fast, clean := o.clean, listen := o.listen, cacheCapacity := o.cacheCap,
    logLevel := o.logLevel }

/-- The reason a text with no digits is no count. -/
def emptyCount : String := "cannot parse integer from empty string"

/-- The reason a text with a character that is no digit is no count. -/
def invalidDigit : String := "invalid digit found in string"

/-- The reason a count that needs more than 64 bits is refused. -/
def countTooLarge : String := "number too large to fit in target type"

/-- Reads decimal digits into a count below `2 ^ 64`, from the left; the first character that is
no digit, or the first digit that takes the count out of range, is the fault. -/
def digitsCount (acc : Nat) : List Char → Except String Nat
  | [] => .ok acc
  | c :: rest =>
    if c.isDigit then
      let v := acc * 10 + (c.toNat - '0'.toNat)
      if v < Nat.pow 2 64 then digitsCount v rest else .error countTooLarge
    else .error invalidDigit

/-- Reads a count: an optional `+`, then decimal digits. -/
def readCount (s : String) : Except String Nat :=
  match s.toList with
  | [] => .error emptyCount
  | ['+'] => .error invalidDigit
  | '+' :: rest => digitsCount 0 rest
  | cs => digitsCount 0 cs

/-- Why a command line is refused. -/
inductive ArgError where
  /-- An argument that is no option, with the most similar option for a mistyped long name,
  and the options the usage line shows. -/
  | unexpected (arg : String) (similar : Option Flag) (shown : List Flag)
  /-- A value attached to a switch. -/
  | unexpectedValue (value : String) (flag : Flag) (shown : List Flag)
  /-- An option without its value. -/
  | valueRequired (flag : Flag)
  /-- A value that does not read. -/
  | invalidValue (value : String) (flag : Flag) (reason : String)
  /-- An option given twice. -/
  | repeated (flag : Flag)
  deriving DecidableEq, Repr

/-- Where reading a command line stops early: at a switch, or at a fault. -/
inductive Stop where
  | help
  | version
  | refused (e : ArgError)
  deriving DecidableEq, Repr

/-- The settings with an option's value, or why the value does not read. -/
def Options.set (o : Options) (f : Flag) (v : String) : Except ArgError Options :=
  match f with
  | .config => .ok { o with config := some v }
  | .fast => .ok { o with fast := some v }
  | .clean => .ok { o with clean := some v }
  | .listen => .ok { o with listen := some v }
  | .logLevel => .ok { o with logLevel := some v }
  | .cacheCap =>
    match readCount v with
    | .ok n => .ok { o with cacheCap := some n }
    | .error why => .error (.invalidValue v f why)
  | .help => .ok o
  | .version => .ok o

/-- The state of reading a command line. -/
structure Reading where
  options : Options := {}
  /-- The options given so far, in order. -/
  given : List Flag := []
  /-- An option waiting to take its value, with the value once it came. -/
  pending : Option (Flag × Option String) := none
  /-- Whether `--` ended the options. -/
  ended : Bool := false
  deriving Repr

namespace Reading

/-- An option takes its value: a switch stops the reading, an option without its value or given
before is refused, and a value that does not read is refused. -/
def take (r : Reading) (f : Flag) (value : Option String) : Except Stop Reading :=
  match f, value with
  | .help, _ => .error .help
  | .version, _ => .error .version
  | _, none => .error (.refused (.valueRequired f))
  | _, some v =>
    if r.given.contains f then .error (.refused (.repeated f))
    else
      match r.options.set f v with
      | .ok o => .ok { r with options := o, given := r.given ++ [f] }
      | .error e => .error (.refused e)

/-- The waiting option takes its value, if one waits. -/
def settle (r : Reading) : Except Stop Reading :=
  match r.pending with
  | none => .ok r
  | some (f, v) => { r with pending := none }.take f v

/-- The options given once the waiting option took its value, or failed to: a second use is
dropped, and a value that does not read still counts as given. -/
def givenSettled (r : Reading) : List Flag :=
  match r.pending with
  | some (f, some _) => if r.given.contains f then r.given.erase f else r.given ++ [f]
  | _ => r.given

/-- An option that takes a value, with the value if it is attached. -/
def option (r : Reading) (f : Flag) (attached : Option String) : Except Stop Reading := do
  let r ← r.settle
  match attached with
  | some v => r.take f (some v)
  | none => pure { r with pending := some (f, none) }

/-- A long option `--name`, with the value after `=` if there is one. -/
def longOption (r : Reading) (name : String) (attached : Option String) : Except Stop Reading :=
  match Flag.ofLong? name with
  | some f =>
    if f.takesValue then r.option f attached
    else
      match attached with
      | some v => .error (.refused (.unexpectedValue v f (r.given ++ [f])))
      | none => do
        let r ← r.settle
        r.take f none
  | none =>
    let similar := (Text.closest name (Flag.all.map Flag.long)).bind Flag.ofLong?
    let given := r.givenSettled
    let shown := match similar with
      | some s => if given.contains s then given else given ++ [s]
      | none => given
    .error (.refused (.unexpected ("--" ++ name) similar shown))

/-- A cluster of short options, from its character at hand. -/
def shortOptions (r : Reading) : List Char → Except Stop Reading
  | [] => .ok r
  | c :: rest =>
    match Flag.ofShort? c with
    | none => .error (.refused (.unexpected ("-" ++ c.toString) none []))
    | some f =>
      if f.takesValue then
        r.option f (match rest with
          | [] => none
          | '=' :: v => some (String.ofList v)
          | v => some (String.ofList v))
      else do
        let r ← r.settle
        let r ← r.take f none
        shortOptions r rest

/-- Reads one argument. -/
def step (r : Reading) (arg : String) : Except Stop Reading :=
  let cs := arg.toList
  if r.ended then .error (.refused (.unexpected arg none []))
  else if arg = "--" then .ok { r with ended := true }
  else
    match cs with
    | '-' :: '-' :: body =>
      let name := String.ofList (body.takeWhile (· ≠ '='))
      let attached := match body.dropWhile (· ≠ '=') with
        | _ :: v => some (String.ofList v)
        | [] => none
      r.longOption name attached
    | '-' :: c :: more => r.shortOptions (c :: more)
    | _ =>
      match r.pending with
      | some (f, none) => .ok { r with pending := some (f, some arg) }
      | _ => .error (.refused (.unexpected arg none []))

end Reading

/-- Reads the arguments after the program's name, from the left. -/
def readFrom (r : Reading) : List String → Except Stop Options
  | [] => do
    let r ← r.settle
    pure r.options
  | a :: rest => do
    let r ← r.step a
    readFrom r rest

/-- Reads a command line: its settings, or where it stops. -/
def read (args : List String) : Except Stop Options := readFrom {} args

/-- The usage line: the program with the options shown, or with a placeholder for all. -/
def usage (shown : List Flag) : String :=
  if shown.isEmpty then programName ++ " [OPTIONS]"
  else programName ++ String.join (shown.eraseDups.map fun f => " " ++ f.display)

/-- The closing line of every refusal. -/
def moreHelp : String := "\n\nFor more information, try '--help'.\n"

/-- The message of a refused command line. -/
def ArgError.render : ArgError → String
  | .unexpected a similar shown =>
    "error: unexpected argument '" ++ a ++ "' found" ++
      (match similar with
        | some f => "\n\n  tip: a similar argument exists: '--" ++ f.long ++ "'"
        | none => "") ++
      "\n\nUsage: " ++ usage shown ++ moreHelp
  | .unexpectedValue v f shown =>
    "error: unexpected value '" ++ v ++ "' for '" ++ f.display ++
      "' found; no more were expected\n\nUsage: " ++ usage shown ++ moreHelp
  | .valueRequired f =>
    "error: a value is required for '" ++ f.display ++ "' but none was supplied" ++ moreHelp
  | .invalidValue v f why =>
    "error: invalid value '" ++ v ++ "' for '" ++ f.display ++ "': " ++ why ++ moreHelp
  | .repeated f =>
    "error: the argument '" ++ f.display ++ "' cannot be used multiple times\n\nUsage: " ++
      usage [] ++ moreHelp

/-- The first column of an option's help line: the short name, if any, and the long form. -/
def Flag.helpSpec (f : Flag) : String :=
  (match f.short with
    | some c => "-" ++ c.toString ++ ", "
    | none => "    ") ++ f.display

/-- The help text, line by line: what the program is for, its usage, and its options with the
descriptions aligned two blanks after the widest option. -/
def helpLines : List String :=
  let width := (Flag.all.map fun f => f.helpSpec.length).foldl max 0
  [programAbout, "", "Usage: " ++ usage [], "", "Options:"] ++
    Flag.all.map fun f =>
      "  " ++ f.helpSpec ++ String.ofList (List.replicate (width - f.helpSpec.length + 2) ' ') ++
        f.about

/-- The version line. -/
def versionLine : String := programName ++ " " ++ programVersion

end Cli
end SplitDns
