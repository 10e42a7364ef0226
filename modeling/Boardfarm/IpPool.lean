import Boardfarm.Address

/-!
# Expanding an address pool

`ip_pool_to_list` walks from `start_ip` up to `end_ip`, re-evaluating `end_ip + 1` in its loop
guard. Below the last address of the space it returns the pool in order
(`ipPoolToList_toNat`); when `end_ip` is `255.255.255.255` the guard's `end_ip + 1` leaves the
space and the call raises `AddressValueError` before the first address is appended
(`ipPoolToList_of_top`).
-/

namespace Boardfarm

/-- `ip_pool_to_list(start_ip, end_ip)`. -/
def ipPoolToList (startIp endIp : IPv4Address) : Except PyError (List IPv4Address) :=
  if startIp.toNat ≤ endIp.toNat then
    match endIp.add 1 with
    | .error e => .error e
    | .ok next =>
      if startIp = next then .ok []
      else
        match hs : startIp.add 1 with
        | .error e => .error e
        | .ok s => (startIp :: ·) <$> ipPoolToList s endIp
  else .ok []
termination_by 2 ^ 32 - startIp.toNat
decreasing_by
  have hsucc : s.toNat = startIp.toNat + 1 := by
    by_cases hl : startIp.toNat + 1 < 2 ^ 32
    · rw [IPAddress.add_of_lt startIp (n := 1) (by omega) (by simpa using hl)] at hs
      cases hs
      rfl
    · rw [IPAddress.add_of_le startIp (by omega) (by simp; omega)] at hs
      cases hs
  have := s.lt
  omega

theorem ipPoolToList_of_gt {startIp endIp : IPv4Address} (h : endIp.toNat < startIp.toNat) :
    ipPoolToList startIp endIp = .ok [] := by
  rw [ipPoolToList, if_neg (by omega)]

theorem ipPoolToList_of_le {startIp endIp : IPv4Address} (h : startIp.toNat ≤ endIp.toNat)
    (htop : endIp.toNat + 1 < 2 ^ 32) :
    ipPoolToList startIp endIp =
      (startIp :: ·) <$> ipPoolToList ⟨startIp.toNat + 1, by omega⟩ endIp := by
  rw [ipPoolToList, if_pos h]
  rw [IPAddress.add_of_lt endIp (n := 1) (by omega) (by simpa using htop)]
  dsimp only
  rw [if_neg (fun he => by cases he; exact Nat.not_succ_le_self _ h)]
  split
  · rename_i e he
    rw [IPAddress.add_of_lt startIp (by omega) (by simp; omega)] at he
    cases he
  · rename_i s hs
    rw [IPAddress.add_of_lt startIp (by omega) (by simp; omega)] at hs
    cases hs
    rfl

/-- Below the top of the space the pool is every address from `start_ip` to `end_ip`, in order,
and empty when `start_ip > end_ip`. -/
theorem ipPoolToList_toNat (startIp endIp : IPv4Address) (htop : endIp.toNat + 1 < 2 ^ 32) :
    (ipPoolToList startIp endIp).map (·.map IPAddress.toNat) =
      .ok (List.range' startIp.toNat (endIp.toNat + 1 - startIp.toNat)) := by
  obtain ⟨k, hk⟩ : ∃ k, endIp.toNat + 1 - startIp.toNat = k := ⟨_, rfl⟩
  rw [hk]
  induction k generalizing startIp with
  | zero =>
    rw [ipPoolToList_of_gt (by omega)]
    rfl
  | succ k ih =>
    rw [ipPoolToList_of_le (by omega) htop]
    have hrest := ih ⟨startIp.toNat + 1, by omega⟩ (by simp only; omega)
    revert hrest
    cases ipPoolToList ⟨startIp.toNat + 1, _⟩ endIp <;> simp [Except.map, List.range'_succ]

/-- The pool `10.0.0.1` to `10.0.0.3`. -/
theorem ipPoolToList_toNat_threeAddresses :
    (⟨167772163, by decide⟩ : IPv4Address).toNat + 1 < 2 ^ 32 ∧
      (ipPoolToList ⟨167772161, by decide⟩ ⟨167772163, by decide⟩).map (·.map IPAddress.toNat) =
        .ok (List.range' 167772161 (167772163 + 1 - 167772161)) :=
  ⟨by decide, ipPoolToList_toNat _ _ (by decide)⟩

/-- At the top of the space the guard's `end_ip + 1` raises before anything is appended. -/
theorem ipPoolToList_of_top {startIp endIp : IPv4Address} (h : startIp.toNat ≤ endIp.toNat)
    (htop : endIp.toNat = 2 ^ 32 - 1) :
    ipPoolToList startIp endIp = .error
      (.addressValueError "4294967296 (>= 2**32) is not permitted as an IPv4 address") := by
  rw [ipPoolToList, if_pos h, IPAddress.add_of_le endIp (by omega) (by simp; omega), htop]
  rfl

/-- `ip_pool_to_list(255.255.255.255, 255.255.255.255)` raises instead of returning the one
address. -/
theorem ipPoolToList_broadcast_pool :
    ipPoolToList ⟨2 ^ 32 - 1, by decide⟩ ⟨2 ^ 32 - 1, by decide⟩ =
      .error (.addressValueError "4294967296 (>= 2**32) is not permitted as an IPv4 address") :=
  ipPoolToList_of_top le_rfl rfl

end Boardfarm
