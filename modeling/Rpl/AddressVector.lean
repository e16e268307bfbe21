import Rpl.DaoCodec

/-!
# Address vectors on the wire

The route options of AODV-RPL and P2P-RPL leave out the first octets of every address,
where these are the DODAGID's.  A reader puts them back from the DODAGID it has read
before the options.
-/

namespace Rpl

namespace AddressVector

/-- The octets of the addresses, the first ones of each left out. -/
def octets (compr : Nat) (addresses : List Ipv6Address) : List UInt8 :=
  addresses.flatMap fun address => (addressOctets address).drop compr

/-- An address from what is on the wire of it and the DODAGID. -/
def restore (dodagId : Ipv6Address) (compr : Nat) (octets : List UInt8) : Ipv6Address :=
  addressOf ((addressOctets dodagId).take compr ++ octets)

/-- Addresses from the wire, the given number of them. -/
def read (dodagId : Ipv6Address) (compr : Nat) : Nat → List UInt8 → List Ipv6Address
  | 0, _ => []
  | count + 1, octets =>
    restore dodagId compr (octets.take (16 - compr)) ::
      read dodagId compr count (octets.drop (16 - compr))

/-- The octets left out are the DODAGID's. -/
def Elides (dodagId : Ipv6Address) (compr : Nat) (addresses : List Ipv6Address) : Prop :=
  compr = 0 ∨ compr = 8 ∧ ∀ address ∈ addresses, address.prefixHalf = dodagId.prefixHalf

/-! ## The round trip -/

theorem length_octets (compr : Nat) (addresses : List Ipv6Address) :
    (octets compr addresses).length = addresses.length * (16 - compr) := by
  rw [octets, List.length_flatMap]
  simp

/-- The first half of an address is that of any address of its prefix. -/
theorem take_addressOctets {address dodagId : Ipv6Address}
    (shares : address.prefixHalf = dodagId.prefixHalf) :
    (addressOctets address).take 8 = (addressOctets dodagId).take 8 := by
  have first (a : Ipv6Address) : (addressOctets a).take 8 =
      Octets.bigEndian 8 a.prefixHalf.toNat := by
    have half : a.prefixHalf.toNat = a.toNat / 256 ^ 8 := by
      have below : a.toNat / 2 ^ 64 < 2 ^ 64 := by
        have := a.isLt
        omega
      rw [Ipv6Address.prefixHalf, BitVec.extractLsb'_toNat, Nat.shiftRight_eq_div_pow,
        Nat.mod_eq_of_lt below]
      rfl
    rw [addressOctets, Octets.bigEndian_add 8 8 a.toNat, half]
    exact List.take_left' (Octets.length_bigEndian ..)
  rw [first, first, shares]

theorem restore_drop {dodagId address : Ipv6Address} {compr : Nat}
    (elides : Elides dodagId compr [address]) :
    restore dodagId compr ((addressOctets address).drop compr) = address := by
  rcases elides with rfl | ⟨rfl, shares⟩
  · rw [restore, List.take_zero, List.nil_append, List.drop_zero, addressOf_addressOctets]
  · rw [restore, ← take_addressOctets (shares address (List.mem_singleton_self _)),
      List.take_append_drop, addressOf_addressOctets]

theorem Elides.head {dodagId address : Ipv6Address} {compr : Nat} {rest : List Ipv6Address}
    (elides : Elides dodagId compr (address :: rest)) : Elides dodagId compr [address] :=
  elides.imp_right fun shares => ⟨shares.1, fun other mem => by
    rw [List.mem_singleton.mp mem]
    exact shares.2 address List.mem_cons_self⟩

theorem Elides.tail {dodagId address : Ipv6Address} {compr : Nat} {rest : List Ipv6Address}
    (elides : Elides dodagId compr (address :: rest)) : Elides dodagId compr rest :=
  elides.imp_right fun shares => ⟨shares.1, fun other mem =>
    shares.2 other (List.mem_cons_of_mem _ mem)⟩

/-- What is written is read back. -/
theorem read_octets {dodagId : Ipv6Address} {compr : Nat} {addresses : List Ipv6Address}
    (elides : Elides dodagId compr addresses) :
    read dodagId compr addresses.length (octets compr addresses) = addresses := by
  induction addresses with
  | nil => rfl
  | cons address rest ih =>
    have width : ((addressOctets address).drop compr).length = 16 - compr := by simp
    rw [octets, List.flatMap_cons, List.length_cons, read, ← width, List.take_left, List.drop_left,
      restore_drop elides.head]
    exact congrArg (address :: ·) (ih elides.tail)

end AddressVector

end Rpl
