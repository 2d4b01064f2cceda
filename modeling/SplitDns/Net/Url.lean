import SplitDns.Text.Idna
import SplitDns.Text.Number
import SplitDns.Text.Utf8
/-!
# URLs

Absolute URLs read as the URL Standard reads them without a base, and written back in its
serialisation. Leading and trailing controls and spaces are dropped and tabs and line breaks
removed; the scheme is made small. The special schemes (`http`, `https`, `ws`, `wss`, `ftp`,
`file`) take any run of slashes before their authority and treat `\` as `/`; their hosts are
percent-decoded, converted to ASCII by the internationalised mapping, and read as IPv4 when
they end in a number, and their default ports are dropped. Other schemes with `//` have an
opaque host; without it a path that does not start with `/` is opaque. Path segments `.` and
`..` are resolved, and each component is percent-encoded with its own set. A URL that breaks
a rule (no scheme, an empty or bad host, a bad port, a bad address) is refused.
-/

namespace SplitDns

/-- The path of a URL: an opaque string, or a list of segments. -/
inductive UrlPath where
  | flat (text : String)
  | segments (parts : List String)
  deriving DecidableEq, Repr

/-- A parsed URL, its components already in serialised form. -/
structure Url where
  scheme : String
  username : String := ""
  password : String := ""
  host : Option String := none
  port : Option Nat := none
  path : UrlPath
  query : Option String := none
  fragment : Option String := none
  deriving DecidableEq, Repr

namespace Url

/-- The schemes with special rules, and their default ports. -/
def specialPort? : String → Option (Option Nat)
  | "http" => some (some 80)
  | "https" => some (some 443)
  | "ws" => some (some 80)
  | "wss" => some (some 443)
  | "ftp" => some (some 21)
  | "file" => some none
  | _ => none

/-- Whether a scheme is special. -/
def isSpecial (scheme : String) : Bool := (specialPort? scheme).isSome

/-- The C0 controls and delete. -/
def isControl (c : Char) : Bool := c.toNat < 0x20 || c.toNat == 0x7F

/-- The characters a fragment encodes besides controls. -/
def fragmentSet (c : Char) : Bool := isControl c || " \"<>`".contains c

/-- The characters a path segment encodes. -/
def pathSet (c : Char) : Bool := fragmentSet c || "#?{}".contains c

/-- The characters user names and passwords encode. -/
def userinfoSet (c : Char) : Bool := pathSet c || "/:;=@[\\]^|".contains c

/-- The characters a query encodes. -/
def querySet (c : Char) : Bool := isControl c || " \"#<>".contains c

/-- The characters the query of a special URL encodes. -/
def specialQuerySet (c : Char) : Bool := querySet c || c == '\''

/-- The two hex digits of an octet, capitals for letters. -/
def hexOctet (b : Nat) : String :=
  let d := fun (n : Nat) => Char.ofNat (if n < 10 then 0x30 + n else 0x37 + n)
  String.ofList ['%', d (b / 16 % 16), d (b % 16)]

/-- A character percent-encoded when it is outside ASCII or in the set. -/
def encodeChar (set : Char → Bool) (c : Char) : String :=
  if c.toNat < 0x80 && !set c then c.toString
  else String.join (c.toString.toUTF8.data.toList.map fun b => hexOctet b.toNat)

/-- A text percent-encoded character by character. -/
def encode (set : Char → Bool) (cs : List Char) : String :=
  String.join (cs.map (encodeChar set))

/-- The value of a hex digit. -/
def hexValue (c : Char) : Option Nat :=
  if '0' ≤ c ∧ c ≤ '9' then some (c.toNat - 0x30)
  else if 'a' ≤ c ∧ c ≤ 'f' then some (c.toNat - 0x57)
  else if 'A' ≤ c ∧ c ≤ 'F' then some (c.toNat - 0x37)
  else none

/-- Percent-decodes the octets of a text: `%` and two hex digits give their octet, anything
else stays as it is. -/
def percentDecode : List UInt8 → List UInt8
  | 0x25 :: a :: b :: rest =>
    match hexValue (Char.ofNat a.toNat), hexValue (Char.ofNat b.toNat) with
    | some x, some y => (x * 16 + y).toUInt8 :: percentDecode rest
    | _, _ => 0x25 :: percentDecode (a :: b :: rest)
  | b :: rest => b :: percentDecode rest
  | [] => []

/-- The characters no host may hold. -/
def forbiddenHost (c : Char) : Bool :=
  c.toNat == 0 || "\t\n\r #/:<>?@[\\]^|".contains c

/-- The characters no domain may hold: those of hosts, the controls and `%`. -/
def forbiddenDomain (c : Char) : Bool := forbiddenHost c || isControl c || c == '%'

/-- Reads a number of an IPv4 address: hex after `0x`, octal after a leading `0`, decimal
otherwise. -/
def ipv4Number (s : String) : Option Nat :=
  let digitsIn := fun (radix : Nat) (cs : List Char) =>
    cs.foldlM (fun acc c => do
      let v ← hexValue c
      if v < radix then some (acc * radix + v) else none) 0
  match s.toList with
  | [] => none
  | '0' :: x :: rest => if x = 'x' ∨ x = 'X' then digitsIn 16 rest else digitsIn 8 (x :: rest)
  | cs => digitsIn 10 cs

/-- Whether a domain ends in a number, and so must be an IPv4 address. -/
def endsInNumber (s : String) : Bool :=
  let parts := (s.splitOn ".").reverse
  let last := match parts with
    | "" :: p :: _ => some p
    | "" :: [] => none
    | p :: _ => some p
    | [] => none
  match last with
  | some p => (!p.isEmpty && p.all Char.isDigit) || (ipv4Number p).isSome
  | none => false

/-- Reads an IPv4 address of one to four numbers; the last fills the octets the others leave. -/
def parseIpv4 (s : String) : Option (List Nat) := do
  let parts := s.splitOn "."
  let parts := if parts.length > 1 && parts.getLast? = some "" then parts.dropLast else parts
  if parts.length > 4 then none
  else
    let nums ← parts.mapM ipv4Number
    match nums.reverse with
    | [] => none
    | last :: firstRev =>
      let first := firstRev.reverse
      if last ≥ Nat.pow 256 (4 - first.length) || first.any (· > 255) then none
      else
        let value := (first.zipIdx.foldl (fun acc (n, i) => acc + n * Nat.pow 256 (3 - i)) 0) + last
        some [value / Nat.pow 2 24 % 256, value / Nat.pow 2 16 % 256, value / 256 % 256, value % 256]

/-- Reads the pieces of an IPv6 address written without `::`, one to four hex digits each; the
last may be an IPv4 address in four decimal parts, which gives two pieces. -/
def ipv6Pieces (parts : List String) (last : Bool) : Option (List Nat) :=
  match parts with
  | [] => some []
  | [p] =>
    if last && p.contains '.' then
      let ds := p.splitOn "."
      if ds.length ≠ 4 then none
      else do
        let ns ← ds.mapM fun d =>
          if d.isEmpty || !d.all Char.isDigit || (d.length > 1 && d.startsWith "0") then none
          else
            let n := d.foldl (fun acc c => acc * 10 + (c.toNat - 0x30)) 0
            if n > 255 then none else some n
        match ns with
        | [a, b, c, d] => some [a * 256 + b, c * 256 + d]
        | _ => none
    else if p.isEmpty || p.length > 4 then none
    else p.toList.foldlM (fun acc c => do some (acc * 16 + (← hexValue c))) 0 |>.map ([·])
  | p :: rest => do
    if p.isEmpty || p.length > 4 then none
    else
      let v ← p.toList.foldlM (fun acc c => do some (acc * 16 + (← hexValue c))) 0
      let vs ← ipv6Pieces rest last
      some (v :: vs)

/-- Reads an IPv6 address: eight pieces, or fewer around one `::` that stands for zeros. -/
def parseIpv6 (s : String) : Option (List Nat) :=
  match s.splitOn "::" with
  | [whole] => do
    let ps ← ipv6Pieces (whole.splitOn ":") true
    if ps.length = 8 then some ps else none
  | [left, right] => do
    let l ← if left.isEmpty then some [] else ipv6Pieces (left.splitOn ":") false
    let r ← if right.isEmpty then some [] else ipv6Pieces (right.splitOn ":") true
    if l.length + r.length > 8 then none
    else some (l ++ List.replicate (8 - l.length - r.length) 0 ++ r)
  | _ => none

/-- The text of IPv6 pieces: the first longest run of two or more zero pieces becomes `::`,
the rest are small hex without leading zeros. -/
def ipv6Text (ps : List Nat) : String :=
  let runs := (List.range 8).map fun i => ((ps.drop i).takeWhile (· = 0)).length
  let best := (List.range 8).foldl (fun (b : Nat × Nat) i =>
    if runs.getD i 0 > b.2 then (i, runs.getD i 0) else b) (0, 0)
  let hexOf := fun (n : Nat) => Text.hex n
  if best.2 < 2 then ":".intercalate (ps.map hexOf)
  else
    ":".intercalate ((ps.take best.1).map hexOf) ++ "::" ++
      ":".intercalate ((ps.drop (best.1 + best.2)).map hexOf)

/-- Reads a host: an IPv6 address in brackets, an opaque host for a scheme that is not
special, or a domain, which is converted to ASCII and may be an IPv4 address. -/
def parseHost (special : Bool) (text : String) : Option String :=
  if text.startsWith "[" then
    if !text.endsWith "]" then none
    else (parseIpv6 (String.ofList (text.toList.drop 1).dropLast)).map fun ps =>
      "[" ++ ipv6Text ps ++ "]"
  else if !special then
    if text.any fun c => forbiddenHost c && c != '%' then none
    else some (encode isControl text.toList)
  else
    let decoded := Text.decodeLossy (percentDecode text.toUTF8.data.toList)
    match Idna.toAsciiForUrl decoded with
    | none => none
    | some ascii =>
      if ascii.isEmpty then none
      else if endsInNumber ascii then
        (parseIpv4 ascii).map fun os => ".".intercalate (os.map toString)
      else some ascii

/-- Whether a text is a dot segment: `.` or its encoded form. -/
def isSingleDot (s : String) : Bool := s == "." || s.toLower == "%2e"

/-- Whether a text is a double-dot segment, with either dot possibly encoded. -/
def isDoubleDot (s : String) : Bool :=
  let l := s.toLower
  l == ".." || l == ".%2e" || l == "%2e." || l == "%2e%2e"

/-- Whether two characters are a drive letter: a letter, then `:` or `|`. -/
def isDriveLetter (s : String) : Bool :=
  match s.toList with
  | [a, b] => a.isAlpha && (b == ':' || b == '|')
  | _ => false

/-- The segments of a hierarchical path, given its raw segments in order. A `..` drops the
segment before it and a `.` is skipped, each leaving an empty segment when it is the last;
for `file` a first drive letter is written with `:` and is never dropped. -/
def resolveSegments (file : Bool) (raw : List String) : List String :=
  let n := raw.length
  (raw.zipIdx.foldl (fun (acc : List String) (seg, i) =>
    let last := i + 1 = n
    if isDoubleDot seg then
      let kept := match acc with
        | [d] => if file && isDriveLetter d then acc else []
        | _ => acc.dropLast
      if last then kept ++ [""] else kept
    else if isSingleDot seg then
      if last then acc ++ [""] else acc
    else
      let seg := if file && acc.isEmpty && isDriveLetter seg then
          String.ofList [seg.toList.headD 'c', ':'] else seg
      acc ++ [seg]) [])

/-- Splits at the first character that satisfies a test, which is dropped. -/
def cutAt (p : Char → Bool) (cs : List Char) : List Char × Option (List Char) :=
  match cs.findIdx? p with
  | some i => (cs.take i, some (cs.drop (i + 1)))
  | none => (cs, none)

/-- Splits the separators of a path into segments. -/
def segmentsOf (special : Bool) (cs : List Char) : List (List Char) :=
  let sep := fun (c : Char) => c == '/' || (special && c == '\\')
  (cs.foldr (fun c (acc : List (List Char)) =>
    if sep c then [] :: acc
    else match acc with
      | cur :: rest => (c :: cur) :: rest
      | [] => [[c]]) [[]])

/-- Parses the end of a URL after its path: the query and the fragment, each encoded. -/
def tail (special : Bool) (cs : List Char) : Option String × Option String :=
  let (beforeFrag, frag) := cutAt (· == '#') cs
  let fragment := frag.map fun f => encode fragmentSet f
  match beforeFrag with
  | '?' :: q => (some (encode (if special then specialQuerySet else querySet) q), fragment)
  | _ => (none, fragment)

/-- Splits the rest of a URL into its path text and what follows it. -/
def pathAndTail (cs : List Char) : List Char × List Char :=
  match cs.findIdx? (fun c => c == '?' || c == '#') with
  | some i => (cs.take i, cs.drop i)
  | none => (cs, [])

/-- A hierarchical path from its text, which starts after the first separator. -/
def hierarchical (scheme : String) (special : Bool) (text : List Char) : UrlPath :=
  let raw := (segmentsOf special text).map fun seg => encode pathSet seg
  .segments (resolveSegments (scheme == "file") raw)

/-- Reads the authority of a URL up to its end: user information before the last `@`, the
host, and the port after a `:` outside brackets. -/
def authority (special : Bool) (scheme : String) (cs : List Char) :
    Option (String × String × String × Option Nat) := do
  let at? := (cs.zipIdx.filter (·.1 == '@')).getLast?.map (·.2)
  let (user, hostPort) := match at? with
    | some i => (cs.take i, cs.drop (i + 1))
    | none => ([], cs)
  if at?.isSome && hostPort.isEmpty then none
  else
    let (name, pass) := cutAt (· == ':') user
    let username := encode userinfoSet name
    let password := (pass.map (encode userinfoSet)).getD ""
    -- the port starts at the first `:` outside brackets
    let colon := (hostPort.zipIdx.foldl (fun (st : Bool × Option Nat) (c, i) =>
      match st with
      | (_, some j) => (false, some j)
      | (inside, none) =>
        if c == '[' then (true, none) else if c == ']' then (false, none)
        else if c == ':' && !inside then (inside, some i) else (inside, none)) (false, none)).2
    let (hostText, portText) := match colon with
      | some i => (hostPort.take i, some (hostPort.drop (i + 1)))
      | none => (hostPort, none)
    if colon.isSome && hostText.isEmpty then none
    else if special && hostText.isEmpty then none
    else
      let host ← parseHost special (String.ofList hostText)
      let port ← match portText with
        | none | some [] => some none
        | some ds =>
          if !ds.all Char.isDigit then none
          else
            let n := ds.foldl (fun acc c => acc * 10 + (c.toNat - 0x30)) 0
            if n > 65535 then none
            else if specialPort? scheme = some (some n) then some none else some (some n)
      pure (username, password, host, port)

/-- Reads an absolute URL. -/
def parse (input : String) : Option Url := do
  let trimmed := ((input.toList.dropWhile fun c => c.toNat ≤ 0x20).reverse.dropWhile
    fun c => c.toNat ≤ 0x20).reverse
  let cs := trimmed.filter fun c => c != '\t' && c != '\n' && c != '\r'
  match cs with
  | first :: _ =>
    if !first.isAlpha then none
    else
      let schemeChars := cs.takeWhile fun c => c.isAlphanum || c == '+' || c == '-' || c == '.'
      let afterScheme := cs.drop schemeChars.length
      match afterScheme with
      | ':' :: rest =>
        let scheme := String.ofList (schemeChars.map Char.toLower)
        let special := isSpecial scheme
        let isSep := fun (c : Char) => c == '/' || (special && c == '\\')
        if scheme == "file" then
          let afterSlash := match rest with
            | c :: more => if isSep c then some more else none
            | [] => none
          match afterSlash with
          | some (c :: more) =>
            if isSep c then
              let auth := more.takeWhile fun d => !(isSep d || d == '?' || d == '#')
              let after := more.drop auth.length
              let authText := String.ofList auth
              if isDriveLetter authText then
                let (p, t) := pathAndTail more
                let (query, fragment) := tail true t
                pure { scheme, host := some "", path := hierarchical scheme true p, query, fragment }
              else
                let host ← if auth.isEmpty then some "" else parseHost true authText
                let host := if host == "localhost" then "" else host
                let (p, t) := pathAndTail after
                let (query, fragment) := tail true t
                let p := match p with
                  | d :: more => if isSep d then more else d :: more
                  | [] => []
                pure { scheme, host := some host, path := hierarchical scheme true p, query,
                       fragment }
            else
              let (p, t) := pathAndTail (c :: more)
              let (query, fragment) := tail true t
              pure { scheme, host := some "", path := hierarchical scheme true p, query, fragment }
          | _ =>
            let (p, t) := pathAndTail rest
            let (query, fragment) := tail true t
            pure { scheme, host := some "", path := hierarchical scheme true p, query, fragment }
        else if special then
          let afterSlashes := rest.dropWhile isSep
          let auth := afterSlashes.takeWhile fun d => !(isSep d || d == '?' || d == '#')
          let after := afterSlashes.drop auth.length
          let (username, password, host, port) ← authority true scheme auth
          let (p, t) := pathAndTail after
          let p := match p with
            | d :: more => if isSep d then more else d :: more
            | [] => []
          let (query, fragment) := tail true t
          pure { scheme, username, password, host := some host, port,
                 path := hierarchical scheme true p, query, fragment }
        else
          match rest with
          | '/' :: '/' :: more =>
            let auth := more.takeWhile fun d => !(d == '/' || d == '?' || d == '#')
            let after := more.drop auth.length
            let (username, password, host, port) ← authority false scheme auth
            let (p, t) := pathAndTail after
            let (query, fragment) := tail false t
            let path := match p with
              | '/' :: more => hierarchical scheme false more
              | _ => .segments []
            pure { scheme, username, password, host := some host, port, path, query, fragment }
          | '/' :: more =>
            let (p, t) := pathAndTail more
            let (query, fragment) := tail false t
            pure { scheme, path := hierarchical scheme false p, query, fragment }
          | _ =>
            let (p, t) := pathAndTail rest
            let (query, fragment) := tail false t
            pure { scheme, path := .flat (encode isControl p), query, fragment }
      | _ => none
  | [] => none

/-- The serialisation of a URL. -/
def serialize (u : Url) : String :=
  let auth := match u.host with
    | some h =>
      let cred := if u.username.isEmpty && u.password.isEmpty then ""
        else u.username ++ (if u.password.isEmpty then "" else ":" ++ u.password) ++ "@"
      "//" ++ cred ++ h ++ (match u.port with | some p => ":" ++ toString p | none => "")
    | none =>
      match u.path with
      | .segments ("" :: _ :: _) => "/."
      | _ => ""
  let path := match u.path with
    | .flat t => t
    | .segments ps => String.join (ps.map ("/" ++ ·))
  u.scheme ++ ":" ++ auth ++ path ++
    (match u.query with | some q => "?" ++ q | none => "") ++
    (match u.fragment with | some f => "#" ++ f | none => "")

end Url
end SplitDns
