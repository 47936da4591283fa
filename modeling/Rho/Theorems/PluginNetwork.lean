import Mathlib.Data.Nat.Bitwise
import Rho.Lib.Fallible
import Rho.Server.PluginNetwork

/-!
# What a fetch hands to the transport

For every request and policy and for every behaviour of the resolver, the transport and the authorizer: each hop is a public
HTTPS request that the policy allows and that the authorizer has accepted twice since the hop before; there are at most as many
hops as redirects and one more; and an error says that its completion is uncertain exactly when a hop was sent.
-/

namespace Rho

/-! ## Public addresses

The blocks are told apart by the leading 32 bits: none of the prefixes is longer. -/

/-- A block of addresses: the leading bits that its addresses share, and how many they are. -/
structure AddressBlock where
  base : Nat
  length : Nat

def AddressBlock.Contains (block : AddressBlock) (address : IpAddr) : Prop :=
  address.leading32 / 2 ^ (32 - block.length) = block.base / 2 ^ (32 - block.length)

/-- 0/8, 10/8, 127/8, 100.64/10, 169.254/16, 172.16/12, 192.168/16, 192.0.0/24, 192.0.2/24, 192.88.99/24, 198.18/15,
198.51.100/24, 203.0.113/24 and 224/3. -/
def reservedBlocks4 : List AddressBlock :=
  [⟨0x00000000, 8⟩, ⟨0x0a000000, 8⟩, ⟨0x7f000000, 8⟩, ⟨0x64400000, 10⟩, ⟨0xa9fe0000, 16⟩, ⟨0xac100000, 12⟩, ⟨0xc0a80000, 16⟩,
    ⟨0xc0000000, 24⟩, ⟨0xc0000200, 24⟩, ⟨0xc0586300, 24⟩, ⟨0xc6120000, 15⟩, ⟨0xc6336400, 24⟩, ⟨0xcb007100, 24⟩, ⟨0xe0000000, 3⟩]

/-- 2000::/3. -/
def globalBlock6 : AddressBlock := ⟨0x20000000, 3⟩

/-- 2002::/16, 2001::/23, 2001:db8::/32 and, of the documentation prefix, 3fff::/28. -/
def reservedBlocks6 : List AddressBlock := [⟨0x20020000, 16⟩, ⟨0x20010000, 23⟩, ⟨0x20010db8, 32⟩, ⟨0x3fff0000, 28⟩]

/-- An address that is in none of the reserved blocks. -/
def PublicAddress (address : IpAddr) : Prop :=
  match address with
  | .v4 .. => ∀ block ∈ reservedBlocks4, ¬ block.Contains address
  | .v6 _ => globalBlock6.Contains address ∧ ∀ block ∈ reservedBlocks6, ¬ block.Contains address

theorem publicAddress_of_ipv4 {a b c d : UInt8} (h : isPublicIpv4 a b c = true) : PublicAddress (.v4 a b c d) := by
  simp only [isPublicIpv4, Bool.not_eq_true', Bool.or_eq_false_iff, Bool.and_eq_false_imp, beq_eq_false_iff_ne, ne_eq,
    beq_iff_eq, Bool.and_eq_true, decide_eq_false_iff_not, decide_eq_true_eq, ← UInt8.toNat_inj,
    UInt8.le_iff_toNat_le, UInt8.reduceToNat] at h
  obtain ⟨⟨⟨⟨⟨⟨⟨⟨⟨⟨⟨⟨⟨h0, h10⟩, h127⟩, h100⟩, h169⟩, h172⟩, h192⟩, h1920⟩, h1922⟩, h88⟩, h18⟩, h51⟩, h203⟩, h224⟩ := h
  have ha := a.toNat_lt
  have hb := b.toNat_lt
  have hc := c.toNat_lt
  have hd := d.toNat_lt
  intro block hblock hin
  simp only [reservedBlocks4, List.mem_cons, List.not_mem_nil, or_false] at hblock
  simp only [AddressBlock.Contains, IpAddr.leading32] at hin
  rcases hblock with rfl | rfl | rfl | rfl | rfl | rfl | rfl | rfl | rfl | rfl | rfl | rfl | rfl | rfl <;>
    simp only [Nat.reduceSub, Nat.reducePow, Nat.reduceDiv] at hin
  · exact h0 (by omega)
  · exact h10 (by omega)
  · exact h127 (by omega)
  · exact h100 (by omega) (by omega) (by omega)
  · exact h169 (by omega) (by omega)
  · exact h172 (by omega) (by omega) (by omega)
  · exact h192 (by omega) (by omega)
  · exact h1920 (by omega) (by omega)
  · exact h1922 (by omega) (by omega)
  · exact h88 (by omega) (by omega)
  · have hne := h18 (by omega)
    omega
  · exact h51 (by omega) (by omega)
  · exact h203 (by omega) (by omega)
  · exact h224 (by omega)

/-- A mask of the leading bits keeps the bits above the others. -/
theorem land_leading {x n k : Nat} (hx : x < 2 ^ n) (hk : k ≤ n) : x &&& (2 ^ n - 2 ^ k) = x / 2 ^ k * 2 ^ k := by
  have hmask : 2 ^ n - 2 ^ k = (2 ^ (n - k) - 1) <<< k := by
    rw [Nat.shiftLeft_eq, Nat.sub_mul, ← Nat.pow_add, Nat.sub_add_cancel hk, Nat.one_mul]
  have hshift : x &&& ((2 ^ (n - k) - 1) <<< k) = ((x >>> k) &&& (2 ^ (n - k) - 1)) <<< k := by
    refine Nat.eq_of_testBit_eq ?_
    intro i
    by_cases hi : k ≤ i
    · simp [Nat.testBit_shiftLeft, Nat.testBit_shiftRight, hi, Bool.and_comm]
    · simp [Nat.testBit_shiftLeft, hi]
  have hsmall : x >>> k < 2 ^ (n - k) := by
    rw [Nat.shiftRight_eq_div_pow]
    exact Nat.div_lt_of_lt_mul (by rw [← Nat.pow_add, Nat.add_sub_cancel' hk]; exact hx)
  rw [hmask, hshift, Nat.and_two_pow_sub_one_eq_mod, Nat.mod_eq_of_lt hsmall, Nat.shiftLeft_eq, Nat.shiftRight_eq_div_pow]

theorem publicAddress_of_ipv6 {s : Vector UInt16 8} (h : isPublicIpv6 s = true) : PublicAddress (.v6 s) := by
  unfold isPublicIpv6 at h
  split at h
  · cases h
  rename_i hnot
  have h0 := s[0].toNat_lt
  have h1 := s[1].toNat_lt
  have hglobal : s[0].toNat / 8192 = 1 := by
    have hmask := land_leading (k := 13) h0 (by decide)
    rw [beq_iff_eq, ← UInt16.toNat_inj, UInt16.toNat_and] at h
    change s[0].toNat &&& (2 ^ 16 - 2 ^ 13) = 8192 at h
    omega
  have hdocumentation : s[0].toNat = 0x3fff → 16 ≤ s[1].toNat := by
    intro heq
    have hmask := land_leading (k := 4) h1 (by decide)
    simp only [Bool.or_eq_true, not_or, Bool.and_eq_true, not_and, beq_iff_eq, ← UInt16.toNat_inj, UInt16.toNat_and] at hnot
    have hseg : s[1].toNat &&& (2 ^ 16 - 2 ^ 4) ≠ 0 := hnot.2 heq
    omega
  simp only [Bool.or_eq_true, not_or, Bool.and_eq_true, not_and, beq_iff_eq, ← UInt16.toNat_inj, decide_eq_true_eq,
    UInt16.le_iff_toNat_le, UInt16.reduceToNat] at hnot
  obtain ⟨⟨⟨⟨⟨-, h2002⟩, h2001⟩, hdb8⟩, -⟩, -⟩ := hnot
  refine ⟨?_, ?_⟩
  · simp only [globalBlock6, AddressBlock.Contains, IpAddr.leading32]
    omega
  · intro block hblock hin
    simp only [reservedBlocks6, List.mem_cons, List.not_mem_nil, or_false] at hblock
    simp only [AddressBlock.Contains, IpAddr.leading32] at hin
    rcases hblock with rfl | rfl | rfl | rfl <;> simp only [Nat.reduceSub, Nat.reducePow, Nat.reduceDiv] at hin
    · omega
    · exact h2001 (by omega) (by omega)
    · exact hdb8 (by omega) (by omega)
    · have hseg := hdocumentation (by omega)
      omega

theorem publicAddress_of_isPublicIp {address : IpAddr} (h : isPublicIp address = true) : PublicAddress address := by
  cases address with
  | v4 a b c d => exact publicAddress_of_ipv4 h
  | v6 s => exact publicAddress_of_ipv6 h

/-! ## What a valid URL says -/

/-- A host that is an address: as it stands in a URL, or an IPv6 address in its brackets. -/
def IsIpLiteral (host : List Char) : Prop :=
  IpAddr.isLiteral host = true ∨ ∃ text, host = '[' :: (text ++ [']']) ∧ IpAddr.isLiteral text = true

/-- A pattern covers itself, and with a wildcard every host below its domain. -/
def PatternCovers (pattern host : List Char) : Prop :=
  host = pattern ∨ ∃ suffix labels, pattern = '*' :: '.' :: suffix ∧ labels ≠ [] ∧ host = labels ++ '.' :: suffix

theorem validHost_chars {host : List Char} (h : validHost host = true) :
    ∀ c ∈ host, c.isLower = true ∨ c.isDigit = true ∨ c = '.' ∨ c = '-' := by
  simp only [validHost, Bool.and_eq_true, List.all_eq_true, Bool.or_eq_true, beq_iff_eq] at h
  intro c hc
  rcases h.1.2 c hc with ((hlower | hdigit) | hdot) | hdash
  · exact Or.inl hlower
  · exact Or.inr (Or.inl hdigit)
  · exact Or.inr (Or.inr (Or.inl hdot))
  · exact Or.inr (Or.inr (Or.inr hdash))

/-- A valid host is in lower case. -/
theorem map_toLower_of_validHost {host : List Char} (h : validHost host = true) : host.map Char.toLower = host := by
  have hfix : ∀ c ∈ host, c.toLower = c := by
    intro c hc
    rcases validHost_chars h c hc with hlower | hdigit | rfl | rfl
    · refine dif_neg ?_
      unfold Char.isLower at hlower
      simp only [Bool.and_eq_true, decide_eq_true_eq, UInt32.le_iff_toNat_le, ge_iff_le, Char.reduceVal,
        UInt32.reduceToNat] at hlower ⊢
      omega
    · refine dif_neg ?_
      simp only [Char.isDigit, Bool.and_eq_true, decide_eq_true_eq, UInt32.le_iff_toNat_le, ge_iff_le, Char.reduceVal,
        UInt32.reduceToNat] at hdigit ⊢
      omega
    · rfl
    · rfl
  exact (List.map_congr_left hfix).trans (List.map_id _)

theorem not_isIpLiteral {host : List Char} (hvalid : validHost host = true) (hliteral : IpAddr.isLiteral host = false) :
    ¬ IsIpLiteral host := by
  rintro (h | ⟨text, rfl, -⟩)
  · rw [hliteral] at h
    cases h
  · have hbracket := validHost_chars hvalid '[' List.mem_cons_self
    exact absurd hbracket (by decide)

theorem patternCovers_of_hostMatches {pattern host : List Char} (h : PluginNetwork.hostMatches pattern host = true) :
    PatternCovers pattern host := by
  unfold PluginNetwork.hostMatches at h
  split at h
  · cases h
  rename_i hvalid
  have hhost : validHost host = true := by
    simp only [Bool.or_eq_true, not_or, Bool.not_eq_true', Bool.not_eq_false] at hvalid
    exact hvalid.2
  split at h
  · rename_i suffix hstrip
    simp only [Bool.and_eq_true, decide_eq_true_eq, beq_iff_eq] at h
    have hpattern : pattern = '*' :: '.' :: suffix := by
      unfold PluginNetwork.stripWildcard at hstrip
      split at hstrip
      · rw [Option.some.inj hstrip]
      · cases hstrip
    refine Or.inr ⟨suffix, host.take (host.length - suffix.length - 1), hpattern, ?_, ?_⟩
    · -- A valid host does not start with a dot.
      intro hempty
      have hwhole := List.take_append_drop (host.length - suffix.length - 1) host
      rw [hempty, h.2, List.nil_append] at hwhole
      rw [← hwhole] at hhost
      simp [validHost] at hhost
    · rw [← h.2, List.take_append_drop]
  · exact Or.inl (beq_iff_eq.mp h).symm

/-- What a URL is checked for. -/
structure PublicUrl (lib : NetworkLibrary) (allowedHosts : List String) (u : lib.Url) (host : String) : Prop where
  scheme : lib.scheme u = "https"
  username : lib.username u = ""
  password : lib.password u = none
  fragment : lib.fragment u = none
  port : lib.portOrKnownDefault u = some 443
  hostStr : lib.hostStr u = some host
  named : ¬ IsIpLiteral host.toList
  allowed : ∃ pattern ∈ allowedHosts, PatternCovers pattern.toList host.toList

theorem namedHost_some {lib : NetworkLibrary} {u : lib.Url} {host : String} (h : namedHost lib u = some host) :
    lib.hostStr u = some host ∧ IpAddr.isLiteral host.toList = false ∧ validHost host.toList = true := by
  obtain ⟨hstr, hchecks⟩ := Option.filter_eq_some_iff.mp h
  simp only [Bool.and_eq_true, Bool.not_eq_true'] at hchecks
  exact ⟨hstr, hchecks.1.2, hchecks.2⟩

theorem validateUrl_ok {lib : NetworkLibrary} {url : String} {allowedHosts : List String} {u : lib.Url} {host origin : String}
    (h : validateUrl lib url allowedHosts = .ok (u, host, origin)) :
    lib.parse url = some u ∧ PublicUrl lib allowedHosts u host := by
  unfold validateUrl at h
  split at h
  · cases h
  cases hparse : lib.parse url with
  | none =>
    rw [hparse] at h
    cases h
  | some parsed =>
    simp only [hparse] at h
    split at h
    · cases h
    rename_i hchecks
    cases hname : namedHost lib parsed with
    | none =>
      rw [hname] at h
      cases h
    | some name =>
      obtain ⟨hstr, hliteral, hvalid⟩ := namedHost_some hname
      simp only [hname, map_toLower_of_validHost hvalid, String.ofList_toList] at h
      split at h
      · rename_i hallowed
        cases h
        obtain ⟨pattern, hpattern, hmatches⟩ := List.any_eq_true.mp hallowed
        simp only [not_or, Decidable.not_not, Bool.not_eq_true, Option.isSome_eq_false_iff, Option.isNone_iff_eq_none, ne_eq]
          at hchecks
        obtain ⟨hscheme, husername, hpassword, hfragment, hport⟩ := hchecks
        exact ⟨rfl, hscheme, husername, hpassword, hfragment, hport, hstr, not_isIpLiteral hvalid hliteral,
          pattern, hpattern, patternCovers_of_hostMatches hmatches⟩
      · cases h

/-- An error of the checks carries no uncertainty of its own. -/
theorem validateUrl_error {lib : NetworkLibrary} {url : String} {allowedHosts : List String} {e : NetworkFetchError}
    (h : validateUrl lib url allowedHosts = .error e) : e.completionUncertain = false := by
  unfold validateUrl at h
  split at h
  · cases h
    rfl
  split at h
  · cases h
    rfl
  split at h
  · cases h
    rfl
  split at h
  · cases h
    rfl
  dsimp only at h
  split at h
  · cases h
  · cases h
    rfl

theorem networkRequestAuthorization_ok {lib : NetworkLibrary} {request : NetworkFetchRequest} {policy : NetworkFetchPolicy}
    {authorization : NetworkHopAuthorization} (h : networkRequestAuthorization lib request policy = .ok authorization) :
    request.maxResponseBytes ≤ policy.maxResponseBytes ∧ request.method ∈ policy.allowedMethods ∧
      (request.method = "GET" ∨ request.method = "HEAD") := by
  unfold networkRequestAuthorization at h
  split at h
  · cases h
  split at h
  · cases h
  rename_i hbytes
  split at h
  · cases h
  rename_i hmethod
  rw [not_or, not_not, not_not] at hmethod
  exact ⟨by omega, hmethod⟩

theorem networkRequestAuthorization_error {lib : NetworkLibrary} {request : NetworkFetchRequest} {policy : NetworkFetchPolicy}
    {e : NetworkFetchError} (h : networkRequestAuthorization lib request policy = .error e) : e.completionUncertain = false := by
  unfold networkRequestAuthorization at h
  split at h
  · cases h
    rfl
  split at h
  · cases h
    rfl
  split at h
  · cases h
    rfl
  split at h
  · rename_i hurl
    cases h
    exact validateUrl_error hurl
  · cases h

/-- The headers fail only with an error that says the completion is uncertain. -/
theorem filterSafeHeaderMap_error {headers : List (String × String)} {e : NetworkFetchError}
    (h : filterSafeHeaderMap headers = .error e) : e.completionUncertain = true := by
  refine Fallible.foldlM_error (P := fun e => e.completionUncertain = true) ?_ _ _ e h
  intro safe name e hstep
  split at hstep
  · cases hstep
  split at hstep
  · cases hstep
    rfl
  · cases hstep

theorem fetchResult_error {lib : NetworkLibrary} {request : NetworkFetchRequest} {hop : NetworkHop}
    {response : NetworkTransportResponse} {redirects : Nat} {e : NetworkFetchError}
    (h : fetchResult lib request hop response redirects = .error e) : e.completionUncertain = true := by
  unfold fetchResult at h
  split at h
  · cases h
    rfl
  split at h
  · rename_i hheaders
    cases h
    exact filterSafeHeaderMap_error hheaders
  · cases h

theorem fetchResult_ok {lib : NetworkLibrary} {request : NetworkFetchRequest} {hop : NetworkHop}
    {response : NetworkTransportResponse} {redirects : Nat} {result : NetworkFetchResult}
    (h : fetchResult lib request hop response redirects = .ok result) :
    result.content = lib.base64 response.body ∧ result.sizeBytes = response.body.length ∧
      response.body.length ≤ request.maxResponseBytes := by
  unfold fetchResult at h
  split at h
  · cases h
  rename_i hsize
  split at h
  · cases h
  · cases h
    exact ⟨rfl, rfl, Nat.le_of_not_lt hsize⟩

/-! ## The calls of a fetch -/

def NetworkCall.isSend : NetworkCall → Bool
  | .send .. => true
  | _ => false

/-- The last calls before the hop: the authorizer accepted its host, the host was resolved to its addresses, and the authorizer
accepted it again. -/
def AcceptedTwice (hop : NetworkHop) (before : List NetworkCall) : Prop :=
  ∃ earlier authorization, authorization.host = hop.host ∧ authorization.method = hop.method ∧
    before = earlier ++ [.authorize authorization (.ok ()), .resolve hop.host (some (.ok hop.addresses)),
      .authorize authorization (.ok ())]

/-- A hop that the policy lets through. -/
structure PublicHop (lib : NetworkLibrary) (policy : NetworkFetchPolicy) (hop : NetworkHop) : Prop where
  url : ∃ u, lib.parse hop.url = some u ∧ PublicUrl lib policy.allowedHosts u hop.host
  addresses : hop.addresses ≠ [] ∧ ∀ address ∈ hop.addresses, PublicAddress address
  method : hop.method ∈ policy.allowedMethods ∧ (hop.method = "GET" ∨ hop.method = "HEAD")

/-- Every hop of a log is public and was accepted twice. -/
def HopsPublic (lib : NetworkLibrary) (policy : NetworkFetchPolicy) (log : List NetworkCall) : Prop :=
  ∀ before hop maximumBytes answer rest, log = before ++ .send hop maximumBytes answer :: rest →
    PublicHop lib policy hop ∧ AcceptedTwice hop before

/-- Reading the text of a URL again gives the URL. -/
def Reparses (lib : NetworkLibrary) : Prop := ∀ text u, lib.parse text = some u → lib.parse (lib.text u) = some u

/-- The errors of the resolver and the authorizer say nothing about the completion. -/
def CertainErrors (world : NetworkWorld) : Prop :=
  (∀ log authorization e, world.authorize log authorization = .error e → e.completionUncertain = false) ∧
    ∀ log host e, world.resolve log host = some (.error e) → e.completionUncertain = false

section Engine

variable {lib : NetworkLibrary} {world : NetworkWorld} {request : NetworkFetchRequest} {policy : NetworkFetchPolicy}

/-- The last call of a log is the hop, or the hop is before it. -/
theorem hopsPublic_concat {log : List NetworkCall} {call : NetworkCall} (hlog : HopsPublic lib policy log)
    (hcall : ∀ hop maximumBytes answer, call = .send hop maximumBytes answer → PublicHop lib policy hop ∧ AcceptedTwice hop log) :
    HopsPublic lib policy (log ++ [call]) := by
  intro before hop maximumBytes answer rest heq
  rcases List.eq_nil_or_concat rest with rfl | ⟨rest, last, rfl⟩
  · obtain ⟨rfl, hlast⟩ := List.append_inj' heq rfl
    exact hcall hop maximumBytes answer (List.cons.inj hlast).1
  · have heq' : log ++ [call] = (before ++ .send hop maximumBytes answer :: rest) ++ [last] := by
      rw [heq, List.concat_eq_append, List.append_assoc, List.cons_append]
    exact hlog before hop maximumBytes answer rest (List.append_inj' heq' rfl).1

/-- The state after a number of hops. -/
structure Sent (lib : NetworkLibrary) (policy : NetworkFetchPolicy) (n : Nat) (s : FetchState) : Prop where
  hops : HopsPublic lib policy s.log
  count : s.log.countP NetworkCall.isSend = n
  flag : s.dispatched = decide (0 < n)

/-- A fetch that stops has sent at most so many hops, and its error says whether there was one. -/
def Stopped (lib : NetworkLibrary) (policy : NetworkFetchPolicy) (limit : Nat) (stop : FetchStop) (s : FetchState) : Prop :=
  ∃ n ≤ limit, Sent lib policy n s ∧ ∀ e, stop = .failed e → e.completionUncertain = decide (0 < n)

/-- A call that sends nothing. -/
theorem Sent.record {n : Nat} {s : FetchState} (hs : Sent lib policy n s) {call : NetworkCall} (hcall : call.isSend = false) :
    Sent lib policy n { s with log := s.log ++ [call] } := by
  refine ⟨hopsPublic_concat hs.hops ?_, ?_, hs.flag⟩
  · rintro hop maximumBytes answer rfl
    cases hcall
  · simp [List.countP_append, hcall, hs.count]

theorem Sent.send {n : Nat} {s : FetchState} (hs : Sent lib policy n s) {hop : NetworkHop} (maximumBytes : Nat)
    (answer : Option (Except NetworkFetchError NetworkTransportResponse)) (hhop : PublicHop lib policy hop)
    (htwice : AcceptedTwice hop s.log) :
    Sent lib policy (n + 1) { log := s.log ++ [.send hop maximumBytes answer], dispatched := true } := by
  refine ⟨hopsPublic_concat hs.hops ?_, ?_, ?_⟩
  · rintro hop' maximumBytes' answer' heq
    cases heq
    exact ⟨hhop, htwice⟩
  · simp [List.countP_append, NetworkCall.isSend, hs.count]
  · simp

section Rules

variable {α β : Type} {n limit : Nat} {s : FetchState} {Q : β → FetchState → Prop}

/-- A failed check stops the fetch; its error gets the flag. -/
theorem ends_check {result : Except NetworkFetchError α} {g : α → Fetch β} (hs : Sent lib policy n s) (hlimit : n ≤ limit)
    (hcertain : ∀ e, result = .error e → e.completionUncertain = false)
    (hrest : ∀ a, result = .ok a → Effect.Ends Q (Stopped lib policy limit) (g a s)) :
    Effect.Ends Q (Stopped lib policy limit) ((Fetch.check result >>= g) s) := by
  cases result with
  | ok a => exact hrest a rfl
  | error e =>
    refine ⟨n, hlimit, hs, ?_⟩
    intro e' heq
    cases heq
    change (e.completionUncertain || s.dispatched) = _
    rw [hcertain e rfl, hs.flag, Bool.false_or]

/-- After a hop every error is uncertain. -/
theorem ends_raise {result : Except NetworkFetchError α} {g : α → Fetch β} (hs : Sent lib policy (n + 1) s) (hlimit : n + 1 ≤ limit)
    (hrest : ∀ a, result = .ok a → Effect.Ends Q (Stopped lib policy limit) (g a s)) :
    Effect.Ends Q (Stopped lib policy limit) ((Fetch.raise true result >>= g) s) := by
  cases result with
  | ok a => exact hrest a rfl
  | error e =>
    refine ⟨n + 1, hlimit, hs, ?_⟩
    intro e' heq
    cases heq
    change (e.completionUncertain || true) = _
    simp

theorem ends_authorizeHop {authorization : NetworkHopAuthorization} {g : Except NetworkFetchError Unit → Fetch β}
    (hrest : Effect.Ends Q (Stopped lib policy limit) (g (world.authorize s.log authorization)
      { s with log := s.log ++ [.authorize authorization (world.authorize s.log authorization)] })) :
    Effect.Ends Q (Stopped lib policy limit) ((authorizeHop world authorization >>= g) s) := hrest

theorem ends_resolveHost {host : String} {g : Except NetworkFetchError (List IpAddr) → Fetch β} (hs : Sent lib policy n s)
    (hlimit : n ≤ limit)
    (hrest : ∀ answer, world.resolve s.log host = some answer → Effect.Ends Q (Stopped lib policy limit)
      (g answer { s with log := s.log ++ [.resolve host (some answer)] })) :
    Effect.Ends Q (Stopped lib policy limit) ((resolveHost world host >>= g) s) := by
  have hrun : (resolveHost world host >>= g) s = (Fetch.awaited (world.resolve s.log host) >>= g)
      { s with log := s.log ++ [.resolve host (world.resolve s.log host)] } := rfl
  rw [hrun]
  cases hanswer : world.resolve s.log host with
  | none => exact ⟨n, hlimit, hs.record rfl, fun e heq => by cases heq⟩
  | some answer => exact hrest answer hanswer

theorem ends_sendHop {hop : NetworkHop} {maximumBytes : Nat} {g : Except NetworkFetchError NetworkTransportResponse → Fetch β}
    (hs : Sent lib policy n s) (hlimit : n + 1 ≤ limit) (hhop : PublicHop lib policy hop) (htwice : AcceptedTwice hop s.log)
    (hrest : ∀ answer t, Sent lib policy (n + 1) t → Effect.Ends Q (Stopped lib policy limit) (g answer t)) :
    Effect.Ends Q (Stopped lib policy limit) ((sendHop world hop maximumBytes >>= g) { s with dispatched := true }) := by
  have hrun : (sendHop world hop maximumBytes >>= g) { s with dispatched := true } =
      (Fetch.awaited (world.send s.log hop maximumBytes) >>= g)
        { log := s.log ++ [.send hop maximumBytes (world.send s.log hop maximumBytes)], dispatched := true } := rfl
  rw [hrun]
  have hsent := hs.send maximumBytes (world.send s.log hop maximumBytes) hhop htwice
  cases hanswer : world.send s.log hop maximumBytes with
  | none => exact ⟨n + 1, hlimit, hanswer ▸ hsent, fun e heq => by cases heq⟩
  | some answer => exact hrest answer _ (hanswer ▸ hsent)

end Rules

theorem requirePublic_ok {addresses : List IpAddr} {a : Unit} (h : requirePublic addresses = .ok a) :
    addresses ≠ [] ∧ ∀ address ∈ addresses, PublicAddress address := by
  unfold requirePublic at h
  split at h
  · cases h
  rename_i hbad
  simp only [Bool.or_eq_true, List.isEmpty_iff, not_or, List.any_eq_true, not_exists, not_and, Bool.not_eq_true',
    Bool.not_eq_false] at hbad
  exact ⟨hbad.1, fun address hmem => publicAddress_of_isPublicIp (hbad.2 address hmem)⟩

theorem requirePublic_error {addresses : List IpAddr} {e : NetworkFetchError} (h : requirePublic addresses = .error e) :
    e.completionUncertain = false := by
  unfold requirePublic at h
  split at h
  · cases h
    rfl
  · cases h

/-- One turn of the loop sends at most one hop, which is public and was accepted twice. -/
theorem ends_fetchHop (hlib : Reparses lib) (hworld : CertainErrors world) (current : String)
    (hmethod : request.method ∈ policy.allowedMethods ∧ (request.method = "GET" ∨ request.method = "HEAD")) {n : Nat}
    {s : FetchState} (hs : Sent lib policy n s) :
    Effect.Ends (fun _ t => Sent lib policy (n + 1) t) (Stopped lib policy (n + 1))
      (fetchHop lib world request policy current s) := by
  unfold fetchHop
  refine ends_check hs (Nat.le_succ n) (fun e => validateUrl_error) ?_
  rintro ⟨url, host, origin⟩ hurl
  obtain ⟨hparse, hpublic⟩ := validateUrl_ok hurl
  refine ends_authorizeHop ?_
  refine ends_check (hs.record rfl) (Nat.le_succ n) (hworld.1 _ _) ?_
  intro _ hfirst
  refine ends_resolveHost (hs.record rfl) (Nat.le_succ n) ?_
  intro answer hanswer
  refine ends_check ((hs.record rfl).record rfl) (Nat.le_succ n) ?_ ?_
  · intro e he
    exact hworld.2 _ _ e (he ▸ hanswer)
  intro addresses haddresses
  refine ends_check ((hs.record rfl).record rfl) (Nat.le_succ n) (fun e => requirePublic_error) ?_
  intro _ hrequire
  refine ends_authorizeHop ?_
  refine ends_check (((hs.record rfl).record rfl).record rfl) (Nat.le_succ n) (hworld.1 _ _) ?_
  intro _ hsecond
  refine ends_sendHop (((hs.record rfl).record rfl).record rfl) (Nat.le_refl _) ?_ ?_ ?_
  · exact ⟨⟨url, hlib current url hparse, hpublic⟩, requirePublic_ok hrequire, hmethod⟩
  · refine ⟨s.log, ⟨"https", host, request.method, request.maxResponseBytes⟩, rfl, rfl, ?_⟩
    rw [hsecond, hfirst, haddresses]
    simp only [List.append_assoc, List.cons_append, List.nil_append]
  intro response t ht
  refine ends_raise ht (Nat.le_refl _) ?_
  intro response _
  refine ends_authorizeHop ?_
  refine ends_raise (ht.record rfl) (Nat.le_refl _) ?_
  intro _ _
  refine ends_raise (ht.record rfl) (Nat.le_refl _) ?_
  intro _ _
  exact ht.record rfl

/-- A result with at most so many bytes, after at most so many hops. -/
def Fetched (lib : NetworkLibrary) (request : NetworkFetchRequest) (policy : NetworkFetchPolicy) (limit : Nat)
    (result : NetworkFetchResult) (s : FetchState) : Prop :=
  (∃ body, result.content = lib.base64 body ∧ result.sizeBytes = body.length ∧ body.length ≤ request.maxResponseBytes) ∧
    ∃ n ≤ limit, Sent lib policy n s

theorem Stopped.mono {limit limit' : Nat} (hle : limit ≤ limit') {stop : FetchStop} {s : FetchState}
    (h : Stopped lib policy limit stop s) : Stopped lib policy limit' stop s := by
  obtain ⟨n, hn, hsent, herror⟩ := h
  exact ⟨n, Nat.le_trans hn hle, hsent, herror⟩

/-- The loop sends at most one hop more than the redirects it may follow. -/
theorem ends_fetchLoop (hlib : Reparses lib) (hworld : CertainErrors world)
    (hmethod : request.method ∈ policy.allowedMethods ∧ (request.method = "GET" ∨ request.method = "HEAD")) (current : String)
    (redirects : Nat) (hredirects : redirects ≤ maxPluginNetworkRedirects) {s : FetchState}
    (hs : Sent lib policy redirects s) :
    Effect.Ends (Fetched lib request policy (maxPluginNetworkRedirects + 1)) (Stopped lib policy (maxPluginNetworkRedirects + 1))
      (fetchLoop lib world request policy current redirects s) := by
  have hlimit : redirects + 1 ≤ maxPluginNetworkRedirects + 1 := Nat.succ_le_succ hredirects
  -- The induction is on the redirects that are left.
  induction hleft : maxPluginNetworkRedirects - redirects using Nat.strong_induction_on generalizing current redirects s with
  | _ left ih =>
    rw [fetchLoop]
    refine Effect.ends_seq (ends_fetchHop hlib hworld current hmethod hs) (fun _ _ => Stopped.mono hlimit) ?_
    rintro ⟨url, hop, response⟩ t ht
    dsimp only
    split
    · split
      · exact ⟨redirects + 1, hlimit, ht, fun e heq => by cases heq; simp [NetworkFetchError.withUncertain]⟩
      · rename_i hmore
        refine ends_raise ht hlimit ?_
        intro next _
        exact ih (maxPluginNetworkRedirects - (redirects + 1)) (by omega) next (redirects + 1) (by omega) ht (by omega) rfl
    · cases hresult : fetchResult lib request hop response redirects with
      | ok result =>
        obtain ⟨hcontent, hsize, hbytes⟩ := fetchResult_ok hresult
        exact ⟨⟨response.body, hcontent, hsize, hbytes⟩, redirects + 1, hlimit, ht⟩
      | error e =>
        refine ⟨redirects + 1, hlimit, ht, ?_⟩
        intro e' heq
        cases heq
        simp [NetworkFetchError.withUncertain, fetchResult_error hresult]

end Engine

/-! ## The fetch -/

/-- A request that fails its own checks sends nothing. -/
theorem ends_fetchInner {lib : NetworkLibrary} {world : NetworkWorld} (hlib : Reparses lib) (hworld : CertainErrors world)
    (request : NetworkFetchRequest) (policy : NetworkFetchPolicy) : Effect.Ends
      (fun result t => request.maxResponseBytes ≤ policy.maxResponseBytes ∧
        Fetched lib request policy (maxPluginNetworkRedirects + 1) result t)
      (Stopped lib policy (maxPluginNetworkRedirects + 1)) (fetchInner lib world request policy {}) := by
  have hstart : Sent lib policy 0 {} := ⟨fun before hop maximumBytes answer rest heq => by simp at heq, rfl, rfl⟩
  unfold fetchInner
  cases hrequest : networkRequestAuthorization lib request policy with
  | error e =>
    refine ⟨0, Nat.zero_le _, hstart, ?_⟩
    intro e' heq
    cases heq
    simp [NetworkFetchError.withUncertain, networkRequestAuthorization_error hrequest]
  | ok authorization =>
    obtain ⟨hbytes, hmethod⟩ := networkRequestAuthorization_ok hrequest
    have hloop := ends_fetchLoop hlib hworld hmethod request.url 0 (Nat.zero_le _) hstart
    exact hloop.mono (fun _ _ hresult => ⟨hbytes, hresult⟩) (fun _ _ hstop => hstop)

/-- The flag of the state says whether its log holds a hop. -/
theorem Sent.exists_send {lib : NetworkLibrary} {policy : NetworkFetchPolicy} {n : Nat} {s : FetchState}
    (h : Sent lib policy n s) : decide (0 < n) = true ↔ ∃ call ∈ s.log, call.isSend = true := by
  rw [decide_eq_true_eq, ← h.count, List.countP_pos_iff]

namespace SampleFetch

/-- The two URLs of the sample, and its body in base64. -/
def library : NetworkLibrary where
  Url := String
  parse text := if text = "https://api.example.org/x" ∨ text = "https://api.example.org/next" then some text else none
  join _ location := if location = "/next" then some "https://api.example.org/next" else none
  text u := u
  scheme _ := "https"
  username _ := ""
  password _ := none
  fragment _ := none
  portOrKnownDefault _ := some 443
  hostStr _ := some "api.example.org"
  base64 body := if body = [111, 107] then "b2s=" else ""

/-- Every call is accepted, the host has a public address, and the first URL redirects to the second. -/
def world : NetworkWorld where
  authorize _ _ := .ok ()
  resolve _ _ := some (.ok [.v4 93 184 216 34])
  send _ hop _ :=
    if hop.url = "https://api.example.org/x" then some (.ok ⟨302, [], some "/next", []⟩)
    else some (.ok ⟨200, [("content-type", "text/plain")], none, [111, 107]⟩)

def request : NetworkFetchRequest := ⟨"https://api.example.org/x", "GET", 1024, 7⟩

def policy : NetworkFetchPolicy := ⟨["*.example.org"], ["GET"], 4096, 7⟩

end SampleFetch

end Rho
