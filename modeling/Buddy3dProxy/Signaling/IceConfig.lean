import Buddy3dProxy.Rust.Lines
import Buddy3dProxy.Signaling.SocketIo

/-!
# The ICE configuration of the kick-off

`build_ice_config` and `parse_ice_url` of `prusa/signaling/mod.rs`, with `url_list` of `prusa/api.rs`.
-/

namespace Buddy3dProxy.Signaling

open SocketIo (Json)

structure IceServer where
  /-- 1 for STUN, 2 for TURN, 3 for TURNS. -/
  serverType : UInt32
  host : String
  port : UInt32
  /-- 1 for UDP, 2 for TCP, 3 for TLS. -/
  transport : UInt32
  deriving DecidableEq, Repr

structure IceServerGroup where
  servers : List IceServer
  username : String
  credential : String
  deriving DecidableEq, Repr

structure IceConfig where
  serverGroups : List IceServerGroup
  field2 : UInt32
  ttlSeconds : UInt32
  deriving DecidableEq, Repr

/-- A server entry as it is fetched. -/
structure IceServerConfig where
  urls : Json
  username : Option String
  credential : Option String

structure WebRtcConfig where
  iceServers : List IceServerConfig
  ttlSeconds : UInt64

def IceServerConfig.urlList (entry : IceServerConfig) : List String :=
  match entry.urls with
  | .str s => [s]
  | .arr elements => elements.filterMap Json.asStr
  | _ => []

def serverType (scheme : List Char) : UInt32 :=
  match String.ofList scheme with
  | "stun" => 1
  | "turn" => 2
  | "turns" => 3
  | _ => 0

def hostAndPort (hostPort : List Char) : List Char × Nat :=
  match Rust.rsplitOnce ':' hostPort with
  | some (host, port) => (host, (Rust.parseUnsigned 4294967296 port).getD 0)
  | none => (hostPort, 0)

def transport (query : List Char) : UInt32 :=
  let value := ((Rust.splitOnce '=' query).map (·.2)).getD []
  match String.ofList (Rust.toAsciiLowercase value) with
  | "udp" => 1
  | "tcp" => 2
  | "tls" => 3
  | _ => 0

def parseIceUrl (url : String) : IceServer :=
  let (scheme, rest) := (Rust.splitOnce ':' url.toList).getD ("stun".toList, url.toList)
  let (hostPort, query) := (Rust.splitOnce '?' rest).getD (rest, [])
  let (host, port) := hostAndPort hostPort
  ⟨serverType scheme, String.ofList host, UInt32.ofNat port, transport query⟩

def buildIceConfig (cfg : WebRtcConfig) : IceConfig where
  serverGroups := cfg.iceServers.map fun entry =>
    ⟨entry.urlList.map parseIceUrl, entry.username.getD "", entry.credential.getD ""⟩
  field2 := 1
  ttlSeconds := if cfg.ttlSeconds.toNat < 4294967296 then cfg.ttlSeconds.toUInt32 else 300

/-! ## URIs of ICE servers -/

inductive IceScheme where
  | stun
  | turn
  | turns
  deriving DecidableEq, Repr

def IceScheme.text : IceScheme → String
  | stun => "stun"
  | turn => "turn"
  | turns => "turns"

def IceScheme.code : IceScheme → UInt32
  | stun => 1
  | turn => 2
  | turns => 3

inductive IceTransport where
  | udp
  | tcp
  | tls
  deriving DecidableEq, Repr

def IceTransport.text : IceTransport → String
  | udp => "udp"
  | tcp => "tcp"
  | tls => "tls"

def IceTransport.code : IceTransport → UInt32
  | udp => 1
  | tcp => 2
  | tls => 3

inductive IceHost where
  /-- A DNS name or an IPv4 address. -/
  | name (text : List Char)
  /-- An IPv6 address, which the URI has in brackets. -/
  | ipv6 (address : List Char)
  deriving DecidableEq, Repr

def IceHost.text : IceHost → List Char
  | name text => text
  | ipv6 address => '[' :: (address ++ [']'])

def IceHost.Valid : IceHost → Prop
  | name text => ':' ∉ text ∧ '?' ∉ text
  | ipv6 address => ':' ∈ address ∧ '?' ∉ address

/-- The parts of a URI `scheme:host[:port][?transport=...]`, the last one with its text in letters of
any case. -/
structure IceUri where
  scheme : IceScheme
  host : IceHost
  port : Option Nat
  query : Option (IceTransport × List Char)
  host_valid : host.Valid
  port_valid : ∀ p, port = some p → 1 ≤ p ∧ p ≤ 65535
  query_valid : ∀ t text, query = some (t, text) →
    Rust.toAsciiLowercase text = "transport=".toList ++ t.text.toList

namespace IceUri

def hostPort (u : IceUri) : List Char :=
  u.host.text ++ (u.port.map fun p => ':' :: Nat.toDigits 10 p).getD []

def text (u : IceUri) : String :=
  String.ofList (u.scheme.text.toList ++ ':' :: (u.hostPort ++ (u.query.map fun q => '?' :: q.2).getD []))

/-- The server a URI stands for. -/
def server (u : IceUri) : IceServer :=
  ⟨u.scheme.code, String.ofList u.host.text, UInt32.ofNat (u.port.getD 0),
    (u.query.map (·.1.code)).getD 0⟩

theorem not_question_hostPort (u : IceUri) : '?' ∉ u.hostPort := by
  have hhost : '?' ∉ u.host.text := by
    have hvalid := u.host_valid
    cases hcase : u.host with
    | name text =>
      rw [hcase] at hvalid
      exact hvalid.2
    | ipv6 address =>
      rw [hcase] at hvalid
      simpa [IceHost.text] using hvalid.2
  unfold hostPort
  cases u.port with
  | none => simpa using hhost
  | some p =>
    have hdigits : '?' ∉ Nat.toDigits 10 p := Rust.not_mem_toDigits rfl p
    simp [hhost, hdigits]

theorem serverType_scheme (scheme : IceScheme) : serverType scheme.text.toList = scheme.code := by
  cases scheme <;> decide

/-- The value of a query in letters of any case. -/
theorem transport_query {t : IceTransport} {text : List Char}
    (h : Rust.toAsciiLowercase text = "transport=".toList ++ t.text.toList) :
    transport text = t.code := by
  have hkey : "transport=".toList ++ t.text.toList = "transport".toList ++ '=' :: t.text.toList := rfl
  obtain ⟨key, rest, rfl, hlower, hrest⟩ := List.map_eq_append_iff.mp (h.trans hkey)
  obtain ⟨c, value, rfl, hc, hvalue⟩ := List.map_eq_cons_iff.mp hrest
  obtain rfl : c = '=' := Rust.eq_of_toLower hc (by decide)
  have hequals : '=' ∉ key := by
    intro hmem
    have hmem' : Char.toLower '=' ∈ "transport".toList := hlower ▸ List.mem_map_of_mem hmem
    exact absurd hmem' (by decide)
  have hvalue' : Rust.toAsciiLowercase value = t.text.toList := hvalue
  unfold transport
  simp only [Rust.splitOnce_append hequals, Option.map_some, Option.getD_some, hvalue']
  cases t <;> rfl

theorem parseIceUrl_text (u : IceUri) :
    parseIceUrl u.text = ⟨u.scheme.code, String.ofList (hostAndPort u.hostPort).1,
      UInt32.ofNat (hostAndPort u.hostPort).2, (u.query.map (·.1.code)).getD 0⟩ := by
  have hscheme : ':' ∉ u.scheme.text.toList := by
    cases u.scheme <;> decide
  unfold parseIceUrl text
  rw [String.toList_ofList, Rust.splitOnce_append hscheme]
  simp only [Option.getD_some, serverType_scheme]
  cases hquery : u.query with
  | none =>
    simp only [Option.map_none, Option.getD_none, List.append_nil,
      Rust.splitOnce_eq_none u.not_question_hostPort]
    rfl
  | some q =>
    simp only [Option.map_some, Option.getD_some, Rust.splitOnce_append u.not_question_hostPort,
      transport_query (u.query_valid q.1 q.2 hquery)]

end IceUri

/-- A URI is parsed into the server it stands for if and only if it has a port or its host is no IPv6
address. -/
theorem parseIceUrl_text_iff (u : IceUri) :
    parseIceUrl u.text = u.server ↔ u.port.isSome ∨ ∀ address, u.host ≠ .ipv6 address := by
  rw [u.parseIceUrl_text]
  unfold IceUri.server IceUri.hostPort hostAndPort
  cases hport : u.port with
  | some p =>
    have hdigits : ':' ∉ Nat.toDigits 10 p := Rust.not_mem_toDigits rfl p
    have hsmall : p < 4294967296 := by
      have := u.port_valid p hport
      omega
    simp [Rust.rsplitOnce_append hdigits, Rust.parseUnsigned_toDigits hsmall]
  | none =>
    have hvalid := u.host_valid
    cases hhost : u.host with
    | name text =>
      rw [hhost] at hvalid
      have hcolon : ':' ∉ text := hvalid.1
      simp [IceHost.text, Rust.rsplitOnce_eq_none hcolon]
    | ipv6 address =>
      -- the host is cut at its last colon
      rw [hhost] at hvalid
      have hcolon : ':' ∈ (IceHost.ipv6 address).text := by simp [IceHost.text, hvalid.1]
      obtain ⟨host, port, hsplit⟩ := Rust.exists_rsplitOnce hcolon
      obtain ⟨htext, -⟩ := Rust.eq_of_rsplitOnce hsplit
      have hcut : String.ofList host ≠ String.ofList (IceHost.ipv6 address).text := by
        rw [htext]
        intro h
        simpa using congrArg List.length (String.ofList_injective h)
      simp [hsplit, hcut]

/-- A TURN server with an IPv6 address and the default port. -/
def IceUri.ipv6 : IceUri where
  scheme := .turn
  host := .ipv6 "2001:db8::1".toList
  port := none
  query := some (.udp, "transport=UDP".toList)
  host_valid := ⟨by decide, by decide⟩
  port_valid := by simp
  query_valid := by
    rintro t text ⟨rfl, rfl⟩
    decide

/-- Its host is sent without the last part, and with a bracket left open. -/
theorem not_parseIceUrl_text :
    IceUri.ipv6.text = "turn:[2001:db8::1]?transport=UDP" ∧
      parseIceUrl IceUri.ipv6.text = ⟨2, "[2001:db8:", 0, 1⟩ ∧
      parseIceUrl IceUri.ipv6.text ≠ IceUri.ipv6.server := by
  decide +kernel

end Buddy3dProxy.Signaling
