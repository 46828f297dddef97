import CoroRuntime.Address.SocketAddress
import Mathlib.Algebra.GroupWithZero.Nat

/-! # Numbers in network names

`parse_ws_url` of `src/io/ws_stream.cpp`, and what its port loop and the zone loop of
`SocketAddress::parse` accept.
-/

namespace CoroRuntime.WebSocket

open Address

structure ParsedUrl where
  host : Text
  path : Text
  port : BitVec 16
  tls : Bool

/-- The text behind the colon, read into an `int` -/
def parsePort (text : Text) : Except String (BitVec 16) :=
  match readNumber 0 text with
  | none => .error "WsStream: invalid port in URL"
  | some port =>
    if port.toInt < 1 ∨ port.toInt > 65535 then .error "WsStream: port out of range"
    else .ok (port.setWidth 16)

def parseScheme (url : Text) : Except String (Bool × BitVec 16 × Text) :=
  if "wss://".toList.isPrefixOf url then .ok (true, 443, url.drop 6)
  else if "ws://".toList.isPrefixOf url then .ok (false, 80, url.drop 5)
  else .error "WsStream: URL must start with ws:// or wss://"

def parseWsUrl (url : Text) : Except String ParsedUrl := do
  let (tls, defaultPort, rest) ← parseScheme url
  let authority := rest.takeWhile (· ≠ '/')
  let path := if '/' ∈ rest then rest.dropWhile (· ≠ '/') else ['/']
  let host := authority.takeWhile (· ≠ ':')
  let port ← match authority.dropWhile (· ≠ ':') with
    | [] => .ok defaultPort
    | _ :: text => parsePort text
  if host = [] then .error "WsStream: missing host in URL"
  else return { host, path, port, tls }

/-! ## What is accepted -/

/-- The sign bit is clear where the value as an `int` is at least 1. -/
theorem toInt_port (read : BitVec 32) :
    ¬(read.toInt < 1 ∨ read.toInt > 65535) ↔ 1 ≤ read.toNat ∧ read.toNat ≤ 65535 := by
  have signed := BitVec.toInt_eq_toNat_cond read
  have below := read.isLt
  split at signed <;> omega

theorem parsePort_eq_ok_iff : parsePort text = .ok port ↔
    (∀ c ∈ text, c.isDigit) ∧ 1 ≤ number text % 2 ^ 32 ∧ number text % 2 ^ 32 ≤ 65535 ∧
      port.toNat = number text % 2 ^ 32 := by
  rw [parsePort]
  have read := readNumber_eq_some_iff text 0
  split
  case h_1 none =>
    have letters : ¬∀ c ∈ text, c.isDigit := by
      intro digits
      cases none.symm.trans ((read _).mpr ⟨digits, rfl⟩)
    simp [letters]
  case h_2 value some =>
    rcases (read value).mp some with ⟨digits, is⟩
    have range := toInt_port value
    have exactly : value.toNat = number text % 2 ^ 32 := by rw [is, BitVec.toNat_ofNat, number]
    rw [exactly] at range
    split
    case isTrue outside =>
      simp only [reduceCtorEq, false_iff]
      exact fun ⟨_, low, high, _⟩ => range.mpr ⟨low, high⟩ outside
    case isFalse inside =>
      have narrow := range.mp inside
      rw [Except.ok.injEq, ← BitVec.toNat_inj, BitVec.toNat_setWidth, exactly,
        Nat.mod_eq_of_lt (by omega)]
      exact ⟨fun same => ⟨digits, narrow.1, narrow.2, same.symm⟩, fun known => known.2.2.2.symm⟩

theorem parse_zone {sys : Sys} (plain : '%' ∉ address) (colon : ':' ∈ address ++ '%' :: zone) :
    SocketAddress.parse sys (address ++ '%' :: zone) port = some result ↔
      ∃ octets scopeId, sys.parseIpv6 (cStr address) = some octets ∧
        readNumber 0 zone = some scopeId ∧ result = ⟨.v6 { octets, scopeId }, port⟩ := by
  rw [SocketAddress.parse, if_pos colon, parseIpv6, dropWhile_before plain (.inr rfl),
    takeWhile_before plain (.inr rfl)]
  simp only [Option.map_eq_some_iff, Option.bind_eq_bind, Option.bind_eq_some_iff,
    Option.pure_def, Option.some.injEq]
  constructor
  · rintro ⟨_, ⟨scopeId, read, octets, known, rfl⟩, rfl⟩
    exact ⟨octets, scopeId, known, read, rfl⟩
  · rintro ⟨octets, scopeId, known, read, rfl⟩
    exact ⟨_, ⟨scopeId, read, octets, known, rfl⟩, rfl⟩

def scheme (tls : Bool) : Text := (if tls then "wss://" else "ws://").toList

theorem parseScheme_scheme (tls : Bool) (rest : Text) :
    parseScheme (scheme tls ++ rest) = .ok (tls, if tls then 443 else 80, rest) := by
  cases tls <;> rfl

/-- With a port in the URL, its text decides. -/
theorem parseWsUrl_port {host : Text} (plain : ':' ∉ host ∧ '/' ∉ host) (single : '/' ∉ text)
    (path : tail = [] ∨ tail.head? = some '/') :
    (∃ parsed, parseWsUrl (scheme tls ++ (host ++ ':' :: text ++ tail)) = .ok parsed ∧
      parsed.port = port) ↔ host ≠ [] ∧ parsePort text = .ok port := by
  have authority : (host ++ ':' :: text ++ tail).takeWhile (· ≠ '/') = host ++ ':' :: text := by
    apply takeWhile_before _ path
    simp [plain.2, single]
  have before : (host ++ ':' :: text).takeWhile (· ≠ ':') = host :=
    takeWhile_before plain.1 (.inr rfl)
  have behind : (host ++ ':' :: text).dropWhile (· ≠ ':') = ':' :: text :=
    dropWhile_before plain.1 (.inr rfl)
  rw [parseWsUrl, parseScheme_scheme]
  simp only [bind, Except.bind, authority, before, behind]
  cases read : parsePort text with
  | error text => simp
  | ok number => by_cases empty : host = [] <;> simp [empty, pure, Except.pure]

/-- A number is wrong only where its text is one of digits that the rest of the parser accepts:
for a zone it is empty or 2^32 and more, for a port it is 2^32 and more. -/
theorem numbers_exact (sys : Sys) :
    (∀ address zone port, '%' ∉ address → ':' ∈ address ++ '%' :: zone →
      ((∀ result, SocketAddress.parse sys (address ++ '%' :: zone) port = some result →
        zone ≠ [] ∧ (∀ c ∈ zone, c.isDigit) ∧ number zone < 2 ^ 32 ∧
          ∃ octets scopeId, result = ⟨.v6 { octets, scopeId }, port⟩ ∧
            scopeId.toNat = number zone) ↔
      ((∀ c ∈ zone, c.isDigit) → (sys.parseIpv6 (cStr address)).isSome →
        zone ≠ [] ∧ number zone < 2 ^ 32))) ∧
    (∀ tls host text tail, ':' ∉ host ∧ '/' ∉ host → '/' ∉ text →
      (tail = [] ∨ tail.head? = some '/') →
      ((∀ parsed, parseWsUrl (scheme tls ++ (host ++ ':' :: text ++ tail)) = .ok parsed →
        text ≠ [] ∧ (∀ c ∈ text, c.isDigit) ∧ 1 ≤ number text ∧ number text ≤ 65535 ∧
          parsed.port.toNat = number text) ↔
      (host ≠ [] → (∀ c ∈ text, c.isDigit) → 1 ≤ number text % 2 ^ 32 →
        number text % 2 ^ 32 ≤ 65535 → number text < 2 ^ 32))) := by
  refine ⟨?_, ?_⟩
  · intro address zone port plain colon
    have read := readNumber_eq_some_iff zone 0
    constructor
    · intro exactly digits known
      rcases Option.isSome_iff_exists.mp known with ⟨octets, known⟩
      have claimed := exactly _ ((parse_zone plain colon).mpr
        ⟨octets, _, known, (read _).mpr ⟨digits, rfl⟩, rfl⟩)
      exact ⟨claimed.1, claimed.2.2.1⟩
    · intro small result accepted
      rcases (parse_zone plain colon).mp accepted with ⟨octets, scopeId, known, loop, rfl⟩
      rcases (read scopeId).mp loop with ⟨digits, value⟩
      have fits := small digits (by rw [known]; rfl)
      refine ⟨fits.1, digits, fits.2, octets, scopeId, rfl, ?_⟩
      rw [value, BitVec.toNat_ofNat]
      exact Nat.mod_eq_of_lt fits.2
  · intro tls host text tail plain single path
    constructor
    · intro exactly named digits low high
      have read : parsePort text = .ok (.ofNat 16 (number text % 2 ^ 32)) := by
        refine parsePort_eq_ok_iff.mpr ⟨digits, low, high, ?_⟩
        rw [BitVec.toNat_ofNat, Nat.mod_eq_of_lt (by omega)]
      rcases (parseWsUrl_port plain single path).mpr ⟨named, read⟩ with ⟨parsed, accepted, -⟩
      have bound := (exactly parsed accepted).2.2.2.1
      omega
    · intro small parsed accepted
      rcases (parseWsUrl_port plain single path).mp ⟨parsed, accepted, rfl⟩ with ⟨named, read⟩
      rcases parsePort_eq_ok_iff.mp read with ⟨digits, low, high, value⟩
      have whole := Nat.mod_eq_of_lt (small named digits low high)
      rw [whole] at low high value
      refine ⟨?_, digits, low, high, value⟩
      rintro rfl
      exact absurd low (by decide)

def linkLocal : Sys where
  parseIpv4 _ := none
  parseIpv6 text := if text = "fe80::1".toList then some fun i => if i = 15 then 1 else
    if i = 0 then 0xfe else if i = 1 then 0x80 else 0 else none

/-- Also for texts that are not read: a port of 2^32 and more can be out of range all the same. -/
theorem numbers_exact_small :
    (∃ octets scopeId, SocketAddress.parse linkLocal "fe80::1%2".toList 80 =
      some ⟨.v6 { octets, scopeId }, 80⟩ ∧ scopeId.toNat = 2) ∧
    (∃ parsed, parseWsUrl "ws://h:8080/chat".toList = .ok parsed ∧ parsed.port.toNat = 8080) ∧
    ∀ parsed, parseWsUrl "ws://h:5000000000".toList ≠ .ok parsed := by
  have zone := ((numbers_exact linkLocal).1 "fe80::1".toList ['2'] 80 (by decide) (by decide)).mpr
    (fun _ _ => ⟨by decide, by simp [number, Nat.ofDigitChars_cons]⟩) _ rfl
  have port := ((numbers_exact linkLocal).2 false ['h'] "8080".toList "/chat".toList (by decide)
    (by decide) (by decide)).mpr (fun _ _ _ _ => by simp [number, Nat.ofDigitChars_cons]) _ rfl
  refine ⟨?_, ⟨_, rfl, port.2.2.2.2⟩, ?_⟩
  · rcases zone.2.2.2 with ⟨octets, scopeId, same, value⟩
    exact ⟨octets, scopeId, congrArg some same, value⟩
  · intro parsed accepted
    have large := ((numbers_exact linkLocal).2 false ['h'] "5000000000".toList [] (by decide)
      (by decide) (by decide)).mpr (fun _ _ _ => by simp [number, Nat.ofDigitChars_cons]) parsed
      accepted
    simp [number, Nat.ofDigitChars_cons] at large

/-- An empty zone is taken for 0, a zone of 2^32 as well, and the port 2^32 + 80 for 80. -/
theorem numbers_wrap :
    (∃ octets, SocketAddress.parse linkLocal "fe80::1%".toList 80 =
        some ⟨.v6 { octets, scopeId := 0 }, 80⟩ ∧
      SocketAddress.parse linkLocal "fe80::1%4294967296".toList 80 =
        some ⟨.v6 { octets, scopeId := 0 }, 80⟩) ∧
    ∃ parsed, parseWsUrl "ws://h:4294967376".toList = .ok parsed ∧ parsed.port = 80 :=
  ⟨⟨_, rfl, rfl⟩, _, rfl, rfl⟩

end CoroRuntime.WebSocket
