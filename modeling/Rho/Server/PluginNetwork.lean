import Rho.Lib.Effect
import Rho.Server.Bridge

/-!
# Network fetches of workspace plugins

`plugin_network.rs`: a fetch follows redirects by itself and checks every hop before the transport sees it. The resolver, the
transport and the authorizer may answer each call in any way, so their answers are functions of the calls before; a resolver or a
transport that does not answer before the deadline is one that answers nothing. The `url` and `base64` crates are parameters.
-/

namespace Rho

def maxPluginNetworkUrlBytes : Nat := 2048
def maxPluginNetworkResponseBytes : Nat := 1024 * 1024
def maxPluginNetworkRedirects : Nat := 3

/-! ## Addresses -/

inductive IpAddr where
  | v4 (a b c d : UInt8)
  | v6 (segments : Vector UInt16 8)
  deriving DecidableEq

def isPublicIpv4 (a b c : UInt8) : Bool :=
  !(a == 0 || a == 10 || a == 127 || (a == 100 && (64 ≤ b && b ≤ 127)) || (a == 169 && b == 254) ||
    (a == 172 && (16 ≤ b && b ≤ 31)) || (a == 192 && b == 168) || (a == 192 && b == 0 && c == 0) ||
    (a == 192 && b == 0 && c == 2) || (a == 192 && b == 88 && c == 99) || (a == 198 && (b == 18 || b == 19)) ||
    (a == 198 && b == 51 && c == 100) || (a == 203 && b == 0 && c == 113) || 224 ≤ a)

namespace Ipv6Addr

variable (s : Vector UInt16 8)

def isUnspecified : Bool := s == Vector.replicate 8 0

def isLoopback : Bool := s == #v[0, 0, 0, 0, 0, 0, 0, 1]

def isMulticast : Bool := s[0] &&& 0xff00 == 0xff00

/-- `to_ipv4_mapped().is_some()`. -/
def isIpv4Mapped : Bool := s[0] == 0 && s[1] == 0 && s[2] == 0 && s[3] == 0 && s[4] == 0 && s[5] == 0xffff

end Ipv6Addr

def isPublicIpv6 (s : Vector UInt16 8) : Bool :=
  if Ipv6Addr.isUnspecified s || Ipv6Addr.isLoopback s || Ipv6Addr.isMulticast s || Ipv6Addr.isIpv4Mapped s ||
      s[0] &&& 0xfe00 == 0xfc00 || s[0] &&& 0xffc0 == 0xfe80 || s[0] &&& 0xffc0 == 0xfec0 || s[0] == 0x2002 ||
      (s[0] == 0x2001 && s[1] ≤ 0x01ff) || (s[0] == 0x2001 && s[1] == 0x0db8) || (s[0] == 0x2001 && s[1] == 0x0002) ||
      (s[0] == 0x3fff && s[1] &&& 0xfff0 == 0) then false
  else s[0] &&& 0xe000 == 0x2000

def isPublicIp : IpAddr → Bool
  | .v4 a b c _ => isPublicIpv4 a b c
  | .v6 segments => isPublicIpv6 segments

/-- The leading bits of an address. -/
def IpAddr.leading32 : IpAddr → Nat
  | .v4 a b c d => ((a.toNat * 256 + b.toNat) * 256 + c.toNat) * 256 + d.toNat
  | .v6 s => s[0].toNat * 65536 + s[1].toNat

/-! ## Address literals

What `IpAddr::from_str` accepts. Each reader takes what it reads off the front of the text. -/

namespace IpAddr

/-- The value of a digit. -/
def digitValue (c : Char) : Nat :=
  if c.isDigit then c.toNat - '0'.toNat else if c.isLower then c.toNat - 'a'.toNat + 10 else c.toNat - 'A'.toNat + 10

def isRadixDigit (radix : Nat) (c : Char) : Bool :=
  (c.isDigit || ('a' ≤ c && c ≤ 'f') || ('A' ≤ c && c ≤ 'F')) && decide (digitValue c < radix)

/-- `read_number`: all the digits that follow, at most `maxDigits` of them. -/
def readNumber (radix maxDigits bound : Nat) (allowZeroPrefix : Bool) (text : List Char) : Option (List Char) :=
  let digits := text.takeWhile (isRadixDigit radix)
  if digits.isEmpty || decide (maxDigits < digits.length) || (!allowZeroPrefix && digits.head? == some '0' && decide (1 < digits.length)) ||
      decide (bound < digits.foldl (fun n c => n * radix + digitValue c) 0) then none
  else some (text.drop digits.length)

def readGivenChar (c : Char) : List Char → Option (List Char)
  | c' :: text => if c' = c then some text else none
  | [] => none

def readSeparator (separator : Char) (first : Bool) (text : List Char) : Option (List Char) :=
  if first then some text else readGivenChar separator text

def readIpv4Addr (text : List Char) : Option (List Char) := do
  let text ← readNumber 10 3 255 false text
  let text ← readGivenChar '.' text >>= readNumber 10 3 255 false
  let text ← readGivenChar '.' text >>= readNumber 10 3 255 false
  readGivenChar '.' text >>= readNumber 10 3 255 false

/-- `read_groups`: how many of the groups are there, and whether an embedded IPv4 address ends them. -/
def readGroups : (limit : Nat) → (first : Bool) → List Char → Nat × Bool × List Char
  | 0, _, text => (0, false, text)
  | limit + 1, first, text =>
    -- An embedded address takes the place of two groups.
    match if 0 < limit then readSeparator ':' first text >>= readIpv4Addr else none with
    | some rest => (2, true, rest)
    | none =>
      match readSeparator ':' first text >>= readNumber 16 4 0xffff true with
      | none => (0, false, text)
      | some rest =>
        let (count, embedded, rest) := readGroups limit false rest
        (count + 1, embedded, rest)

def readIpv6Addr (text : List Char) : Option (List Char) :=
  let (headSize, headIpv4, rest) := readGroups 8 true text
  if headSize = 8 then some rest
  else if headIpv4 then none
  else do
    let rest ← readGivenChar ':' rest >>= readGivenChar ':'
    return (readGroups (8 - (headSize + 1)) true rest).2.2

/-- `IpAddr::from_str(text).is_ok()`. -/
def isLiteral (text : List Char) : Bool :=
  match readIpv4Addr text with
  | some rest => rest.isEmpty
  | none => (readIpv6Addr text).any List.isEmpty

end IpAddr

/-! ## Hosts -/

/-- The labels between the dots. -/
def hostLabels : List Char → List (List Char)
  | [] => [[]]
  | c :: s =>
    if c = '.' then [] :: hostLabels s
    else
      match hostLabels s with
      | label :: labels => (c :: label) :: labels
      | [] => [[c]]

def validHost (host : List Char) : Bool :=
  !host.isEmpty && decide (host.length ≤ 253) && host.contains '.' && host.head? != some '.' && host.getLast? != some '.' &&
    host.all (fun c => c.isLower || c.isDigit || c == '.' || c == '-') &&
    (hostLabels host).all (fun label =>
      !label.isEmpty && decide (label.length ≤ 63) && label.head? != some '-' && label.getLast? != some '-')

namespace PluginNetwork

/-- `str::strip_prefix("*.")`. -/
def stripWildcard : List Char → Option (List Char)
  | '*' :: '.' :: suffix => some suffix
  | _ => none

/-- A pattern that starts with `*.` matches the hosts below its domain, any other pattern itself. -/
def hostMatches (pattern host : List Char) : Bool :=
  if !validHost ((stripWildcard pattern).getD pattern) || !validHost host then false
  else
    match stripWildcard pattern with
    | some suffix => decide (suffix.length < host.length) && host.drop (host.length - suffix.length - 1) == '.' :: suffix
    | none => pattern == host

end PluginNetwork

/-! ## Requests, hops and answers -/

structure NetworkFetchRequest where
  url : String
  method : String
  maxResponseBytes : Nat
  expectedProjectRevision : Nat
  deriving DecidableEq

structure NetworkFetchPolicy where
  allowedHosts : List String
  allowedMethods : List String
  maxResponseBytes : Nat
  currentProjectRevision : Nat
  deriving DecidableEq

structure NetworkHop where
  url : String
  origin : String
  host : String
  method : String
  addresses : List IpAddr
  deriving DecidableEq

structure NetworkHopAuthorization where
  scheme : String
  host : String
  method : String
  requestedResponseBytes : Nat
  deriving DecidableEq

structure NetworkTransportResponse where
  status : UInt16
  safeHeaders : List (String × String)
  location : Option String
  body : List UInt8
  deriving DecidableEq

structure NetworkFetchResult where
  status : UInt16
  headers : List (String × String)
  finalOrigin : String
  contentType : Option String
  contentEncoding : String
  content : String
  sizeBytes : Nat
  truncated : Bool
  redirectCount : Nat
  deriving DecidableEq

inductive NetworkFetchErrorCode where
  | invalidUrl | hostNotAllowed | methodNotAllowed | staleProject | dnsFailed | nonPublicAddress | authorizationDenied
  | redirectMissingLocation | tooManyRedirects | responseTooLarge | timeout | transportFailed
  deriving DecidableEq, Repr

structure NetworkFetchError where
  code : NetworkFetchErrorCode
  completionUncertain : Bool := false
  deriving DecidableEq, Repr

def NetworkFetchError.withUncertain (e : NetworkFetchError) (uncertain : Bool) : NetworkFetchError :=
  { e with completionUncertain := e.completionUncertain || uncertain }

/-- What the engine uses of the `url` and `base64` crates. -/
structure NetworkLibrary where
  Url : Type
  parse : String → Option Url
  join : Url → String → Option Url
  text : Url → String
  scheme : Url → String
  username : Url → String
  password : Url → Option String
  fragment : Url → Option String
  portOrKnownDefault : Url → Option Nat
  hostStr : Url → Option String
  base64 : List UInt8 → String

/-- A call of one of the three parts, with its answer; none when the deadline passes first. -/
inductive NetworkCall where
  | authorize (authorization : NetworkHopAuthorization) (answer : Except NetworkFetchError Unit)
  | resolve (host : String) (answer : Option (Except NetworkFetchError (List IpAddr)))
  | send (hop : NetworkHop) (maximumBytes : Nat) (answer : Option (Except NetworkFetchError NetworkTransportResponse))

/-- The resolver, the transport and the authorizer: what they answer after the calls of a fetch so far. -/
structure NetworkWorld where
  authorize : List NetworkCall → NetworkHopAuthorization → Except NetworkFetchError Unit
  resolve : List NetworkCall → String → Option (Except NetworkFetchError (List IpAddr))
  send : List NetworkCall → NetworkHop → Nat → Option (Except NetworkFetchError NetworkTransportResponse)

/-! ## Checks -/

section Engine

variable (lib : NetworkLibrary)

/-- The host of a URL, unless it ends with a dot, is an address or is not valid. -/
def namedHost (parsed : lib.Url) : Option String :=
  (lib.hostStr parsed).filter (fun host =>
    host.toList.getLast? != some '.' && !IpAddr.isLiteral host.toList && validHost host.toList)

def validateUrl (url : String) (allowedHosts : List String) : Except NetworkFetchError (lib.Url × String × String) :=
  if url.isEmpty || decide (maxPluginNetworkUrlBytes < url.utf8ByteSize) || url.toList.any isControl then
    .error { code := .invalidUrl }
  else
    match lib.parse url with
    | none => .error { code := .invalidUrl }
    | some parsed =>
      if lib.scheme parsed ≠ "https" ∨ lib.username parsed ≠ "" ∨ (lib.password parsed).isSome ∨
          (lib.fragment parsed).isSome ∨ lib.portOrKnownDefault parsed ≠ some 443 then
        .error { code := .invalidUrl }
      else
        match namedHost lib parsed with
        | none => .error { code := .invalidUrl }
        | some host =>
          let host := String.ofList (host.toList.map Char.toLower)
          if allowedHosts.any (fun allowed => PluginNetwork.hostMatches allowed.toList host.toList) then
            .ok (parsed, host, "https://" ++ host)
          else .error { code := .hostNotAllowed }

/-- `network_request_authorization`, of which the engine uses whether it fails. -/
def networkRequestAuthorization (request : NetworkFetchRequest) (policy : NetworkFetchPolicy) :
    Except NetworkFetchError NetworkHopAuthorization :=
  if request.expectedProjectRevision ≠ policy.currentProjectRevision then .error { code := .staleProject }
  else if request.maxResponseBytes = 0 ∨ policy.maxResponseBytes < request.maxResponseBytes ∨
      maxPluginNetworkResponseBytes < request.maxResponseBytes then
    .error { code := .responseTooLarge }
  else if request.method ∉ policy.allowedMethods ∨ ¬ (request.method = "GET" ∨ request.method = "HEAD") then
    .error { code := .methodNotAllowed }
  else
    match validateUrl lib request.url policy.allowedHosts with
    | .error e => .error e
    | .ok (_, host, _) => .ok ⟨"https", host, request.method, request.maxResponseBytes⟩

/-- The addresses a hop may be sent to. -/
def requirePublic (addresses : List IpAddr) : Except NetworkFetchError Unit :=
  if addresses.isEmpty || addresses.any (fun address => !isPublicIp address) then .error { code := .nonPublicAddress } else .ok ()

/-- `StatusCode::from_u16` accepts the codes of three digits. -/
def requireStatus (status : UInt16) : Except NetworkFetchError Unit :=
  if 100 ≤ status ∧ status ≤ 999 then .ok () else .error { code := .transportFailed }

def isRedirect (status : UInt16) : Bool := status == 301 || status == 302 || status == 303 || status == 307 || status == 308

def filterSafeHeaderMap (headers : List (String × String)) : Except NetworkFetchError (List (String × String)) :=
  ["content-type", "content-length", "etag", "last-modified"].foldlM
    (fun safe name =>
      match OrdMap.get headers name with
      | none => .ok safe
      | some value =>
        if 8192 < value.utf8ByteSize || value.toList.any isControl then
          .error (NetworkFetchError.withUncertain { code := .transportFailed } true)
        else .ok (OrdMap.insert name value safe)) []

/-! ## The engine -/

/-- The calls made so far, and the flag that the engine sets before a hop is sent. -/
structure FetchState where
  log : List NetworkCall := []
  dispatched : Bool := false

/-- How the inner future ends without a result: with an error, or dropped at the deadline. -/
inductive FetchStop where
  | failed (error : NetworkFetchError)
  | elapsed

abbrev Fetch := EStateM FetchStop FetchState

namespace Fetch

/-- `?` after `map_err(|error| error.with_uncertain(..))`. -/
def raise {α : Type} (uncertain : Bool) (result : Except NetworkFetchError α) : Fetch α :=
  Effect.ofResult (result.mapError (fun e => .failed (e.withUncertain uncertain)))

/-- `?` with the flag as it stands. -/
def check {α : Type} (result : Except NetworkFetchError α) : Fetch α := do raise (← get).dispatched result

def record (call : NetworkCall) : Fetch Unit := modify (fun s => { s with log := s.log ++ [call] })

end Fetch

variable (world : NetworkWorld)

def authorizeHop (authorization : NetworkHopAuthorization) : Fetch (Except NetworkFetchError Unit) := do
  let answer := world.authorize (← get).log authorization
  Fetch.record (.authorize authorization answer)
  return answer

/-- The answer, unless the deadline passes first and the future is dropped. -/
def Fetch.awaited {α : Type} (answer : Option α) : Fetch α :=
  match answer with
  | some a => pure a
  | none => throw .elapsed

def resolveHost (host : String) : Fetch (Except NetworkFetchError (List IpAddr)) := do
  let answer := world.resolve (← get).log host
  Fetch.record (.resolve host answer)
  Fetch.awaited answer

def sendHop (hop : NetworkHop) (maximumBytes : Nat) : Fetch (Except NetworkFetchError NetworkTransportResponse) := do
  let answer := world.send (← get).log hop maximumBytes
  Fetch.record (.send hop maximumBytes answer)
  Fetch.awaited answer

/-- One turn of the loop up to the answer of the transport that the authorizer let pass. -/
def fetchHop (request : NetworkFetchRequest) (policy : NetworkFetchPolicy) (current : String) :
    Fetch (lib.Url × NetworkHop × NetworkTransportResponse) := do
  let (url, host, origin) ← Fetch.check (validateUrl lib current policy.allowedHosts)
  let authorization : NetworkHopAuthorization := ⟨"https", host, request.method, request.maxResponseBytes⟩
  Fetch.check (← authorizeHop world authorization)
  let addresses ← Fetch.check (← resolveHost world host)
  Fetch.check (requirePublic addresses)
  Fetch.check (← authorizeHop world authorization)
  let hop : NetworkHop := ⟨lib.text url, origin, host, request.method, addresses⟩
  modify (fun s => { s with dispatched := true })
  let response ← Fetch.raise true (← sendHop world hop request.maxResponseBytes)
  Fetch.raise true (← authorizeHop world authorization)
  Fetch.raise true (requireStatus response.status)
  return (url, hop, response)

/-- Where a redirect leads. -/
def redirectTarget (url : lib.Url) (location : Option String) : Except NetworkFetchError String :=
  match location with
  | none => .error { code := .redirectMissingLocation }
  | some location =>
    if maxPluginNetworkUrlBytes < location.utf8ByteSize ∨ location.toList.any isControl then .error { code := .invalidUrl }
    else
      match lib.join url location with
      | none => .error { code := .invalidUrl }
      | some next => .ok (lib.text next)

/-- What is made of an answer that is no redirect. -/
def fetchResult (request : NetworkFetchRequest) (hop : NetworkHop) (response : NetworkTransportResponse) (redirects : Nat) :
    Except NetworkFetchError NetworkFetchResult :=
  if request.maxResponseBytes < response.body.length then
    .error (NetworkFetchError.withUncertain { code := .responseTooLarge } true)
  else
    match filterSafeHeaderMap response.safeHeaders with
    | .error e => .error e
    | .ok safeHeaders =>
      .ok { status := response.status, headers := safeHeaders, finalOrigin := hop.origin,
            contentType := OrdMap.get safeHeaders "content-type", contentEncoding := "base64",
            content := lib.base64 response.body, sizeBytes := response.body.length, truncated := false,
            redirectCount := redirects }

/-- The loop of `fetch_inner`. -/
def fetchLoop (request : NetworkFetchRequest) (policy : NetworkFetchPolicy) (current : String) (redirects : Nat) :
    Fetch NetworkFetchResult := do
  let (url, hop, response) ← fetchHop lib world request policy current
  if isRedirect response.status then
    if maxPluginNetworkRedirects ≤ redirects then
      Fetch.raise true (.error { code := .tooManyRedirects })
    else
      let next ← Fetch.raise true (redirectTarget lib url response.location)
      fetchLoop request policy next (redirects + 1)
  else Fetch.raise false (fetchResult lib request hop response redirects)
termination_by maxPluginNetworkRedirects - redirects

def fetchInner (request : NetworkFetchRequest) (policy : NetworkFetchPolicy) : Fetch NetworkFetchResult := do
  let _ ← Fetch.raise false (networkRequestAuthorization lib request policy)
  fetchLoop lib world request policy request.url 0

/-- `fetch`, with the calls it has made. -/
def fetch (request : NetworkFetchRequest) (policy : NetworkFetchPolicy) :
    Except NetworkFetchError NetworkFetchResult × List NetworkCall :=
  match fetchInner lib world request policy {} with
  | .ok result s => (.ok result, s.log)
  | .error (.failed e) s => (.error e, s.log)
  | .error .elapsed s => (.error (NetworkFetchError.withUncertain { code := .timeout } s.dispatched), s.log)

end Engine

end Rho
