/-! # Socket addresses as text

`src/io/socket_address.cpp`. A text is the list of its characters. The step from text to octets
belongs to the system layer and is a parameter here.
-/

namespace CoroRuntime.Address

abbrev Text := List Char

structure Ipv4Address where
  octets : Fin 4 → BitVec 8

structure Ipv6Address where
  octets : Fin 16 → BitVec 8
  scopeId : BitVec 32 := 0

inductive IpAddress
  | v4 (address : Ipv4Address)
  | v6 (address : Ipv6Address)

structure SocketAddress where
  address : IpAddress
  port : BitVec 16

/-- `sys::parse_ipv4` and `sys::parse_ipv6`, which are given a C string -/
structure Sys where
  parseIpv4 : Text → Option (Fin 4 → BitVec 8)
  parseIpv6 : Text → Option (Fin 16 → BitVec 8)

/-- What is read of a text that is passed as `c_str()` -/
def cStr (text : Text) : Text := text.takeWhile (· ≠ Char.ofNat 0)

/-- A loop that reads a decimal number into 32 bits -/
def readNumber (value : BitVec 32) : Text → Option (BitVec 32)
  | [] => some value
  | c :: rest =>
    if c < '0' ∨ c > '9' then none
    else readNumber (value * 10 + BitVec.ofNat 32 (c.toNat - '0'.toNat)) rest

/-- `parse_ipv6`, with the zone behind the first `%` -/
def parseIpv6 (sys : Sys) (host : Text) : Option Ipv6Address := do
  let scopeId ← match host.dropWhile (· ≠ '%') with
    | [] => some 0
    | _ :: zone => readNumber 0 zone
  let octets ← sys.parseIpv6 (cStr (host.takeWhile (· ≠ '%')))
  return { octets, scopeId }

def SocketAddress.parse (sys : Sys) (host : Text) (port : BitVec 16) : Option SocketAddress :=
  if ':' ∈ host then (parseIpv6 sys host).map fun address => ⟨.v6 address, port⟩
  else (sys.parseIpv4 (cStr host)).map fun octets => ⟨.v4 ⟨octets⟩, port⟩

/-! ## Texts cut at a character -/

theorem takeWhile_before {c : Char} (absent : c ∉ front)
    (rest : back = [] ∨ back.head? = some c) : (front ++ back).takeWhile (· ≠ c) = front := by
  rw [List.takeWhile_append_of_pos]
  · rcases rest with rfl | first
    · simp
    · rcases List.head?_eq_some_iff.mp first with ⟨tail, rfl⟩
      simp
  · intro other member
    simpa using ne_of_mem_of_not_mem member absent

theorem dropWhile_before {c : Char} (absent : c ∉ front)
    (rest : back = [] ∨ back.head? = some c) : (front ++ back).dropWhile (· ≠ c) = back := by
  have parts := List.takeWhile_append_dropWhile (p := (· ≠ c)) (l := front ++ back)
  rw [takeWhile_before absent rest] at parts
  exact List.append_cancel_left parts

/-! ## Numbers -/

def number (text : Text) : Nat := Nat.ofDigitChars 10 text 0

theorem isDigit_iff (c : Char) : c.isDigit = true ↔ ¬(c < '0' ∨ c > '9') := by
  simp only [Char.isDigit, Bool.and_eq_true, decide_eq_true_eq, not_or, gt_iff_lt, Char.lt_def,
    UInt32.not_lt, ge_iff_le]

theorem readNumber_eq_some_iff (text : Text) (value : Nat) (result : BitVec 32) :
    readNumber (.ofNat 32 value) text = some result ↔
      (∀ c ∈ text, c.isDigit) ∧ result = .ofNat 32 (Nat.ofDigitChars 10 text value) := by
  induction text generalizing value with
  | nil =>
    rw [readNumber, Option.some.injEq, Nat.ofDigitChars_nil]
    exact ⟨fun same => ⟨by simp, same.symm⟩, fun read => read.2.symm⟩
  | cons c rest induction =>
    rw [readNumber]
    split
    · rename_i other
      have bad : c.isDigit ≠ true := fun digit => (isDigit_iff c).mp digit other
      simp [bad]
    · rename_i digit
      have good := (isDigit_iff c).mpr digit
      have next : BitVec.ofNat 32 value * 10 + BitVec.ofNat 32 (c.toNat - '0'.toNat) =
          BitVec.ofNat 32 (10 * value + (c.toNat - '0'.toNat)) := by
        rw [BitVec.ofNat_add, BitVec.ofNat_mul, BitVec.mul_comm]
        rfl
      rw [next, induction, List.forall_mem_cons, and_iff_right good, Nat.ofDigitChars_cons]

end CoroRuntime.Address
