import ComputeMonitor.Gateway.Host

/-!
Web addresses: reading them, and their normal form.

Controls and spaces around an address and the line breaks in it do not count. A backslash stands
for a slash. In the normal form the default port is left out, steps to the parent are taken, and
characters with a meaning of their own are escaped.
-/

set_option autoImplicit false

namespace ComputeMonitor.Gateway

open ComputeMonitor.Text

structure WebAddress where
  secure : Bool := false
  host : Host
  port : Option Nat := none
  path : List String := [""]
  query : Option String := none
  fragment : Option String := none
  deriving DecidableEq, Repr

/-! ## Parts of an address -/

def isControlOrSpace (c : Char) : Bool := c.toNat ≤ 32

def significant (text : String) : List Char :=
  (dropEndWhile isControlOrSpace (text.toList.dropWhile isControlOrSpace)).filter
    fun c => !(c = '\t' || c = '\n' || c = '\r')

def isSchemeChar (c : Char) : Bool :=
  isAsciiLetter c || isDigit c || c = '+' || c = '-' || c = '.'

def splitScheme? (chars : List Char) : Option (String × List Char) :=
  match chars with
  | c :: _ =>
    if !isAsciiLetter c then none
    else match splitFirst? ':' chars with
      | some (scheme, rest) =>
        if scheme.all isSchemeChar then some (String.ofList (scheme.map lowerAscii), rest) else none
      | none => none
  | [] => none

/-- How the parts of an address are told apart: in the addresses of the web a backslash is a slash. -/
def isSeparator (web : Bool) (c : Char) : Bool := c = '/' || (web && c = '\\')

def endsAuthority (web : Bool) (c : Char) : Bool := isSeparator web c || c = '?' || c = '#'

structure Authority where
  hasUser : Bool := false
  host : List Char
  rest : List Char

/-- The host from its beginning on: up to a colon outside of brackets. -/
def splitHost (web : Bool) : Bool → List Char → List Char × List Char
  | _, [] => ([], [])
  | bracketed, c :: rest =>
    if (c = ':' && !bracketed) || endsAuthority web c then ([], c :: rest)
    else
      let bracketed := if c = '[' then true else if c = ']' then false else bracketed
      let (host, rest) := splitHost web bracketed rest
      (c :: host, rest)

def splitUser? (authority : List Char) : Option (List Char × List Char) :=
  (splitFirst? '@' authority.reverse).map fun (host, user) => (user.reverse, host.reverse)

/-- The parts behind the two slashes. A sign for a user without a host is refused. -/
def splitAuthority (web : Bool) (chars : List Char) : Except AddressFault Authority :=
  let authority := chars.takeWhile fun c => !endsAuthority web c
  let behind := chars.drop authority.length
  match splitUser? authority with
  | none =>
    let (host, rest) := splitHost web false chars
    .ok { host, rest }
  | some (user, remaining) =>
    if user.isEmpty && remaining.isEmpty && !behind.isEmpty then .error .emptyHost
    else
      let (host, rest) := splitHost web false (remaining ++ behind)
      .ok { hasUser := !user.isEmpty && user != [':'], host, rest }

def readPort (rest : List Char) : Except AddressFault (Option Nat × List Char) :=
  match rest with
  | ':' :: rest =>
    let digits := rest.takeWhile isDigit
    let behind := rest.drop digits.length
    if 65535 < digitsValue digits 0 then .error .port
    else match behind with
      | c :: _ =>
        if endsAuthority true c then .ok (if digits.isEmpty then none else some (digitsValue digits 0), behind)
        else .error .port
      | [] => .ok (if digits.isEmpty then none else some (digitsValue digits 0), [])
  | rest => .ok (none, rest)

/-! ## Escapes -/

def hexByte (byte : UInt8) : List Char :=
  ['%', upper (byte.toNat / 16), upper (byte.toNat % 16)]
where
  upper (n : Nat) : Char := if n < 10 then Char.ofNat ('0'.toNat + n) else Char.ofNat ('A'.toNat + (n - 10))

def escape (special : List Char) (text : List Char) : String :=
  String.ofList <| text.flatMap fun c =>
    if c.toNat < 32 || 126 < c.toNat || special.contains c then
      (String.ofList [c]).toUTF8.toList.flatMap hexByte
    else [c]

def fragmentSpecial : List Char := [' ', '"', '<', '>', '\x60']

def pathSpecial : List Char := fragmentSpecial ++ ['#', '?', '\x7b', '\x7d']

def querySpecial : List Char := [' ', '"', '#', '<', '>', '\'']

/-! ## Paths -/

def dropPoint? : List Char → Option (List Char)
  | '.' :: rest => some rest
  | '%' :: '2' :: 'e' :: rest => some rest
  | '%' :: '2' :: 'E' :: rest => some rest
  | _ => none

def isSinglePoint (segment : List Char) : Bool := dropPoint? segment == some []

def isDoublePoint (segment : List Char) : Bool := (dropPoint? segment).bind dropPoint? == some []

def splitSegments : List Char → List (List Char)
  | [] => [[]]
  | c :: rest =>
    if isSeparator true c then [] :: splitSegments rest
    else match splitSegments rest with
      | [] => [[c]]
      | segment :: segments => (c :: segment) :: segments

def isDriveLetter (text : List Char) : Bool :=
  match text with
  | [letter, mark] => isAsciiLetter letter && (mark = ':' || mark = '|')
  | _ => false

/-- Take a step to the parent. A drive is not left. -/
def stepUp (walked : List String) : List String :=
  if walked.getLast?.any fun segment => isDriveLetter segment.toList then walked else walked.dropLast

/-- Take a path step by step. What is behind a step at the end counts as an empty segment. -/
def walk : List String → List (List Char) → List String
  | walked, [] => walked
  | walked, segment :: rest =>
    let last := rest.isEmpty
    if isDoublePoint segment then walk (stepUp walked ++ if last then [""] else []) rest
    else if isSinglePoint segment then walk (walked ++ if last then [""] else []) rest
    else walk (walked ++ [escape pathSpecial segment]) rest

def readPath (chars : List Char) : List String :=
  match chars with
  | c :: rest => walk [] (splitSegments (if isSeparator true c then rest else c :: rest))
  | [] => [""]

/-! ## Addresses -/

def splitMark (mark : Char) (chars : List Char) : List Char × Option (List Char) :=
  match splitFirst? mark chars with
  | some (before, after) => (before, some after)
  | none => (chars, none)

def defaultPort (secure : Bool) : Nat := if secure then 443 else 80

def readWeb (secure : Bool) (rest : List Char) : Except AddressFault WebAddress := do
  let authority ← splitAuthority true (rest.dropWhile (isSeparator true))
  if authority.host.isEmpty then .error .emptyHost
  else
    let host ← readHost authority.host
    let (port, behind) ← readPort authority.rest
    let (front, fragment) := splitMark '#' behind
    let (path, query) := splitMark '?' front
    return {
      secure, host
      port := port.filter (· ≠ defaultPort secure)
      path := readPath path
      query := query.map (escape querySpecial)
      fragment := fragment.map (escape fragmentSpecial) }

def checkOther (scheme : String) (rest : List Char) : Except AddressFault Unit := do
  if scheme = "file" then
    match rest with
    | first :: second :: behind =>
      let host := behind.takeWhile fun c => !endsAuthority true c
      if isSeparator true first && isSeparator true second && !host.isEmpty && !isDriveLetter host then
        let _ ← readHost host
    | _ => return
  else if scheme = "ftp" || scheme = "ws" || scheme = "wss" then
    let _ ← readWeb false rest
  else
    match dropLeading? ['/', '/'] rest with
    | none => return
    | some behind =>
      let authority ← splitAuthority false behind
      checkOtherHost authority.host
      if authority.host.isEmpty && (authority.hasUser || authority.rest.head? == some ':') then
        .error .emptyHost
      else
        let _ ← readPort authority.rest

inductive ReadAddress where
  | web (address : WebAddress)
  | other (scheme : String)

def readAddress (text : String) : Except AddressFault ReadAddress :=
  match splitScheme? (significant text) with
  | none => .error .relative
  | some (scheme, rest) =>
    if scheme = "http" then (readWeb false rest).map .web
    else if scheme = "https" then (readWeb true rest).map .web
    else (checkOther scheme rest).map fun () => .other scheme

def WebAddress.text (address : WebAddress) : String :=
  (if address.secure then "https://" else "http://") ++ address.host.text ++
    (match address.port with
      | some port => ":" ++ numeral port
      | none => "") ++
    "/" ++ "/".intercalate address.path ++
    (match address.query with
      | some query => "?" ++ query
      | none => "") ++
    (match address.fragment with
      | some fragment => "#" ++ fragment
      | none => "")

/-! ## Requests -/

/-- The characters of a host to which no request can be sent. -/
def unsendable : List Char := ['"', '\x60', '\x7b', '\x7d']

/-- The longest address to which a request can be sent, in bytes. -/
def longestRequest : Nat := 65534

def WebAddress.isSendable (address : WebAddress) : Bool :=
  !(address.host.text.toList.any fun c => unsendable.contains c) &&
    address.text.utf8ByteSize ≤ longestRequest

end ComputeMonitor.Gateway
