import Boardfarm.Python

/-!
# Addresses of the `ipaddress` module

An `IPv4Address` or an `IPv6Address` wraps an integer below `2 ^ 32` or `2 ^ 128`. Adding an
integer to one builds a new address through the constructor, which raises `AddressValueError`
when the sum leaves the space (`add_of_lt`, `add_of_le`).
-/

namespace Boardfarm

/-- An address of `bits` bits: the integer it wraps, which the constructor keeps in range. -/
structure IPAddress (bits : Nat) where
  toNat : Nat
  lt : toNat < 2 ^ bits
  deriving DecidableEq, Repr

/-- `ipaddress.IPv4Address`. -/
abbrev IPv4Address := IPAddress 32

/-- `ipaddress.IPv6Address`. -/
abbrev IPv6Address := IPAddress 128

namespace IPAddress

variable {bits : Nat}

theorem toNat_injective {a b : IPAddress bits} (h : a.toNat = b.toNat) : a = b := by
  cases a; cases b; cases h; rfl

/-- The address of `n`, reduced into the space; where `n` is below `2 ^ bits` it is `n` itself. -/
def ofNat (bits n : Nat) : IPAddress bits := ⟨n % 2 ^ bits, Nat.mod_lt _ (Nat.two_pow_pos bits)⟩

theorem ofNat_of_lt {n : Nat} (h : n < 2 ^ bits) : ofNat bits n = ⟨n, h⟩ := by
  simp [ofNat, Nat.mod_eq_of_lt h]

/-- The IP version whose addresses have `bits` bits. -/
def version (bits : Nat) : Nat := if bits = 32 then 4 else 6

/-- `cls(n)` for an integer `n`: the address, or the error `_check_int_address` raises. -/
def ofInt (bits : Nat) (n : Int) : Except PyError (IPAddress bits) :=
  if h : n.toNat < 2 ^ bits ∧ 0 ≤ n then .ok ⟨n.toNat, h.1⟩
  else if n < 0 then
    .error (.addressValueError (toString n ++ " (< 0) is not permitted as an IPv" ++
      toString (version bits) ++ " address"))
  else
    .error (.addressValueError (toString n ++ " (>= 2**" ++ toString bits ++
      ") is not permitted as an IPv" ++ toString (version bits) ++ " address"))

/-- `a + n`: `cls(int(a) + n)`. -/
def add (a : IPAddress bits) (n : Int) : Except PyError (IPAddress bits) :=
  ofInt bits (a.toNat + n)

theorem add_of_lt (a : IPAddress bits) {n : Int} (hn : 0 ≤ n)
    (h : a.toNat + n.toNat < 2 ^ bits) : a.add n = .ok ⟨a.toNat + n.toNat, h⟩ := by
  simp only [add, ofInt]
  rw [dif_pos (by omega)]
  congr 2
  omega

theorem add_of_le (a : IPAddress bits) {n : Int} (hn : 0 ≤ n)
    (h : 2 ^ bits ≤ a.toNat + n.toNat) :
    a.add n = .error (.addressValueError (toString ((a.toNat : Int) + n) ++ " (>= 2**" ++
      toString bits ++ ") is not permitted as an IPv" ++ toString (version bits) ++ " address")) := by
  simp only [add, ofInt]
  rw [dif_neg (by omega), if_neg (by omega)]

end IPAddress

end Boardfarm
