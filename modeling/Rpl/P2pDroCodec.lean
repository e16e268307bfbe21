import Rpl.AddressVector

/-!
# The P2P-DRO on the wire

`Serialize` and `Deserialize` of `RplP2pDroHeader` and of the P2P Route Discovery Option
it carries.  What is written is read back, with the Compr it was written under.
-/

namespace Rpl

/-! ## Constants -/

def optionP2pRdo : UInt8 := 0x0a
def p2pRFlag : UInt8 := 0x80
def p2pHFlag : UInt8 := 0x40
def p2pNMask : UInt8 := 0x30
def p2pComprMask : UInt8 := 0x0f
def p2pLifetimeMask : UInt8 := 0xc0
def p2pNhMask : UInt8 := 0x3f
def p2pDroSFlag : UInt8 := 0x80
def p2pDroAFlag : UInt8 := 0x40
def p2pDroSeqMask : UInt8 := 0x30

/-- An octet under a bound, as a number under it. -/
theorem octet_of_lt {octet : UInt8} (bound : Nat) [NeZero bound]
    (small : octet < UInt8.ofNat bound) :
    ∃ n : Fin bound, octet = UInt8.ofNat n := by
  have below : octet.toNat < bound :=
    Nat.lt_of_lt_of_le (UInt8.lt_iff_toNat_lt.mp small) (by
      rw [UInt8.toNat_ofNat']
      exact Nat.mod_le ..)
  exact ⟨⟨octet.toNat, below⟩, UInt8.ofNat_toNat.symm⟩

namespace P2pRdoOption

/-! ## The option -/

/-- The flags octet: R, H, N and Compr. -/
def flags (rdo : P2pRdoOption) (compr : UInt8) : UInt8 :=
  (if rdo.reply then p2pRFlag else 0) ||| (if rdo.hopByHop then p2pHFlag else 0) |||
    ((rdo.numRoutes <<< 4) &&& p2pNMask) ||| (compr &&& p2pComprMask)

/-- The octet of L and MaxRank or NH. -/
def limits (rdo : P2pRdoOption) : UInt8 :=
  ((rdo.lifetime <<< 6) &&& p2pLifetimeMask) ||| (rdo.maxRankOrNh &&& p2pNhMask)

/-- `P2pRdoSerialize`, the option's type and body. -/
def serialize (dodagId : Ipv6Address) (rdo : P2pRdoOption) : Tlv.TypedBody :=
  let compr := p2pRdoCompr rdo.target rdo.addressVector dodagId
  (optionP2pRdo, rdo.flags compr :: rdo.limits ::
    AddressVector.octets compr.toNat (rdo.target :: rdo.addressVector))

/-- `P2pRdoDeserialize`. -/
def deserialize (dodagId : Ipv6Address) (body : List UInt8) : Option P2pRdoOption :=
  match body with
  | flags :: limits :: rest =>
    let compr := flags &&& p2pComprMask
    let entrySize := 16 - compr.toNat
    let blocks := rest.length / entrySize
    if rest.length % entrySize ≠ 0 ∨ blocks < 1 ∨ p2pMaxAddressVectorEntries compr < blocks - 1 then
      none
    else
      match AddressVector.read dodagId compr.toNat blocks rest with
      | [] => none
      | target :: addressVector =>
        some
          { reply := flags &&& p2pRFlag ≠ 0
            hopByHop := flags &&& p2pHFlag ≠ 0
            numRoutes := (flags &&& p2pNMask) >>> 4
            compr := compr
            lifetime := (limits &&& p2pLifetimeMask) >>> 6
            maxRankOrNh := limits &&& p2pNhMask
            target := target
            addressVector := addressVector }
  | _ => none

/-- The fields of the option are within their bits, and its addresses fit. -/
structure Fits (dodagId : Ipv6Address) (rdo : P2pRdoOption) : Prop where
  numRoutes : rdo.numRoutes < 4
  lifetime : rdo.lifetime < 4
  maxRankOrNh : rdo.maxRankOrNh < 64
  entries : rdo.addressVector.length ≤
    p2pMaxAddressVectorEntries (p2pRdoCompr rdo.target rdo.addressVector dodagId)

theorem compr_cases (target : Ipv6Address) (addressVector : List Ipv6Address)
    (dodagId : Ipv6Address) :
    p2pRdoCompr target addressVector dodagId = 0 ∨
      p2pRdoCompr target addressVector dodagId = 8 ∧
        ∀ address ∈ target :: addressVector, address.prefixHalf = dodagId.prefixHalf := by
  unfold p2pRdoCompr
  split
  · exact .inl rfl
  · next targetShares =>
    split
    · exact .inl rfl
    · next vectorShares =>
      refine .inr ⟨rfl, fun address mem => ?_⟩
      rcases List.mem_cons.mp mem with rfl | mem
      · exact not_ne_iff.mp targetShares
      · simp only [List.any_eq_true, decide_eq_true_eq, not_exists, not_and, not_not]
          at vectorShares
        exact vectorShares address mem

theorem elides (target : Ipv6Address) (addressVector : List Ipv6Address)
    (dodagId : Ipv6Address) :
    AddressVector.Elides dodagId (p2pRdoCompr target addressVector dodagId).toNat
      (target :: addressVector) := by
  rcases compr_cases target addressVector dodagId with none_ | ⟨eight, shares⟩
  · exact .inl (by rw [none_]; rfl)
  · exact .inr ⟨by rw [eight]; rfl, shares⟩

/-- The flags octet keeps the four fields apart. -/
theorem flags_fields (reply hopByHop : Bool) {numRoutes compr : UInt8} (small : numRoutes < 4)
    (known : compr = 0 ∨ compr = 8) :
    let octet := (if reply then p2pRFlag else 0) ||| (if hopByHop then p2pHFlag else 0) |||
      ((numRoutes <<< 4) &&& p2pNMask) ||| (compr &&& p2pComprMask)
    octet &&& p2pComprMask = compr ∧ decide (octet &&& p2pRFlag ≠ 0) = reply ∧
      decide (octet &&& p2pHFlag ≠ 0) = hopByHop ∧ (octet &&& p2pNMask) >>> 4 = numRoutes := by
  obtain ⟨routes, rfl⟩ := octet_of_lt 4 small
  rcases known with rfl | rfl
  · revert reply hopByHop routes
    decide +kernel
  · revert reply hopByHop routes
    decide +kernel

/-- The octet of limits keeps the two fields apart. -/
theorem limits_fields {lifetime nh : UInt8} (smallLifetime : lifetime < 4) (smallNh : nh < 64) :
    let octet := ((lifetime <<< 6) &&& p2pLifetimeMask) ||| (nh &&& p2pNhMask)
    (octet &&& p2pLifetimeMask) >>> 6 = lifetime ∧ octet &&& p2pNhMask = nh := by
  obtain ⟨l, rfl⟩ := octet_of_lt 4 smallLifetime
  obtain ⟨n, rfl⟩ := octet_of_lt 64 smallNh
  revert l n
  decide +kernel

theorem serialize_fits {dodagId : Ipv6Address} {rdo : P2pRdoOption} (fits : rdo.Fits dodagId) :
    Tlv.Fits optionPad1 (rdo.serialize dodagId) := by
  refine ⟨show optionP2pRdo ≠ optionPad1 by decide, ?_⟩
  have entries := fits.entries
  have known := (compr_cases rdo.target rdo.addressVector dodagId).imp_right And.left
  rw [serialize]
  dsimp only
  rw [List.length_cons, List.length_cons, AddressVector.length_octets, List.length_cons]
  rcases known with zero | eight
  · rw [zero] at entries ⊢
    have most : p2pMaxAddressVectorEntries 0 = 14 := by decide
    have width : 16 - (0 : UInt8).toNat = 16 := rfl
    rw [width]
    omega
  · rw [eight] at entries ⊢
    have most : p2pMaxAddressVectorEntries 8 = 30 := by decide
    have width : 16 - (8 : UInt8).toNat = 8 := rfl
    rw [width]
    omega

theorem deserialize_serialize {dodagId : Ipv6Address} {rdo : P2pRdoOption}
    (fits : rdo.Fits dodagId) :
    deserialize dodagId (rdo.serialize dodagId).2 =
      some { rdo with compr := p2pRdoCompr rdo.target rdo.addressVector dodagId } := by
  have known := (compr_cases rdo.target rdo.addressVector dodagId).imp_right And.left
  have entries := fits.entries
  have read := AddressVector.read_octets (elides rdo.target rdo.addressVector dodagId)
  obtain ⟨comprRead, replyRead, hopByHopRead, numRoutesRead⟩ :=
    flags_fields rdo.reply rdo.hopByHop fits.numRoutes known
  obtain ⟨lifetimeRead, nhRead⟩ := limits_fields fits.lifetime fits.maxRankOrNh
  rw [serialize, deserialize, flags, limits]
  simp only [comprRead, replyRead, hopByHopRead, numRoutesRead, lifetimeRead, nhRead]
  clear comprRead replyRead hopByHopRead numRoutesRead lifetimeRead nhRead
  generalize p2pRdoCompr rdo.target rdo.addressVector dodagId = compr at *
  have size : 0 < 16 - compr.toNat := by
    rcases known with rfl | rfl <;> decide
  rw [AddressVector.length_octets, Nat.mul_mod_left, Nat.mul_div_cancel _ size, List.length_cons,
    Nat.add_sub_cancel, if_neg (by omega)]
  rw [List.length_cons] at read
  rw [read]

end P2pRdoOption

namespace P2pDroHeader

/-! ## The message -/

/-- The flags octet: S, A and Seq. -/
def flags (dro : P2pDroHeader) : UInt8 :=
  (if dro.stop then p2pDroSFlag else 0) ||| (if dro.ackRequested then p2pDroAFlag else 0) |||
    ((dro.sequence <<< 4) &&& p2pDroSeqMask)

/-- `Serialize`. -/
def serialize (dro : P2pDroHeader) : List UInt8 :=
  [dro.instanceId, 0, dro.flags, 0] ++ (addressOctets dro.dodagId ++
    (dro.p2pRdo.toList.map (P2pRdoOption.serialize dro.dodagId)).flatMap Tlv.encode)

/-- One option: any but the P2P-RDO is passed over. -/
def readOption (dro : P2pDroHeader) (option : Tlv.TypedBody) : P2pDroHeader :=
  if option.1 = optionP2pRdo then
    { dro with p2pRdo := P2pRdoOption.deserialize dro.dodagId option.2 }
  else dro

/-- `Deserialize`, into a header newly constructed; nothing when the octets end inside the
base. -/
def deserialize (octets : List UInt8) : Option P2pDroHeader :=
  match octets with
  | instanceId :: _ :: flags :: _ :: rest =>
    (Octets.take? 16 rest).map fun (dodagId, options) =>
      (Tlv.options optionPad1 options).foldl readOption
        { instanceId := instanceId
          stop := flags &&& p2pDroSFlag ≠ 0
          ackRequested := flags &&& p2pDroAFlag ≠ 0
          sequence := (flags &&& p2pDroSeqMask) >>> 4
          dodagId := addressOf dodagId }
  | _ => none

/-- The message as it is read back: its option has the Compr it was written under. -/
def compressed (dro : P2pDroHeader) : P2pDroHeader :=
  { dro with
    p2pRdo := dro.p2pRdo.map fun rdo =>
      { rdo with compr := p2pRdoCompr rdo.target rdo.addressVector dro.dodagId } }

theorem flags_fields (stop ackRequested : Bool) {sequence : UInt8} (small : sequence < 4) :
    let octet := (if stop then p2pDroSFlag else 0) ||| (if ackRequested then p2pDroAFlag else 0) |||
      ((sequence <<< 4) &&& p2pDroSeqMask)
    decide (octet &&& p2pDroSFlag ≠ 0) = stop ∧ decide (octet &&& p2pDroAFlag ≠ 0) = ackRequested ∧
      (octet &&& p2pDroSeqMask) >>> 4 = sequence := by
  obtain ⟨n, rfl⟩ := octet_of_lt 4 small
  revert stop ackRequested n
  decide +kernel

theorem deserialize_octets (instanceId version flags reserved : UInt8) (dodagId : Ipv6Address)
    (options : List UInt8) :
    deserialize (instanceId :: version :: flags :: reserved :: (addressOctets dodagId ++ options)) =
      some ((Tlv.options optionPad1 options).foldl readOption
        { instanceId := instanceId
          stop := flags &&& p2pDroSFlag ≠ 0
          ackRequested := flags &&& p2pDroAFlag ≠ 0
          sequence := (flags &&& p2pDroSeqMask) >>> 4
          dodagId := dodagId }) := by
  rw [deserialize, Octets.take?_append _ (length_addressOctets _), Option.map_some]
  dsimp only
  rw [addressOf_addressOctets]

/-- What is written is read back. -/
theorem deserialize_serialize {dro : P2pDroHeader} (small : dro.sequence < 4)
    (fits : ∀ rdo, dro.p2pRdo = some rdo → rdo.Fits dro.dodagId) :
    deserialize dro.serialize = some dro.compressed := by
  obtain ⟨stopRead, ackRead, sequenceRead⟩ := flags_fields dro.stop dro.ackRequested small
  rw [serialize, List.cons_append, List.cons_append, List.cons_append, List.cons_append,
    List.nil_append, deserialize_octets, flags, stopRead, ackRead, sequenceRead]
  cases held : dro.p2pRdo with
  | none =>
    rw [compressed, held]
    rfl
  | some rdo =>
    have written : Tlv.Fits optionPad1 (rdo.serialize dro.dodagId) :=
      P2pRdoOption.serialize_fits (fits rdo held)
    rw [Option.toList_some, List.map_singleton, Tlv.options_flatMap_encode
      (List.forall_mem_singleton.mpr written), List.foldl_cons, List.foldl_nil, readOption,
      if_pos (show (rdo.serialize dro.dodagId).1 = optionP2pRdo from rfl),
        P2pRdoOption.deserialize_serialize (fits rdo held), compressed, held]
    rfl

end P2pDroHeader

end Rpl
