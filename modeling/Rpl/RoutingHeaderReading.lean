import Rpl.Lib.Cursor
import Rpl.RoutingHeader

/-!
# Reading a Source Routing Header off a buffer

`RplSourceRoutingHeader::Deserialize` through a cursor that checks nothing, in the unsigned
arithmetic of the source: a difference that would be negative wraps, and a header that says
more than the buffer holds would have the loop read past its end.  Neither happens, for any
octets of which the fixed part is there.
-/

namespace Rpl

open Cursor

/-- The difference of two `uint32_t`. -/
def uint32Sub (a b : Nat) : Nat := (a + (2 ^ 32 - b)) % 2 ^ 32

theorem uint32Sub_eq {a b : Nat} (ordered : b ≤ a) (fits : a < 2 ^ 32) :
    uint32Sub a b = a - b := by
  unfold uint32Sub
  omega

namespace RoutingHeader

/-! ## Reading -/

/-- One entry, behind the octets that are elided from it. -/
def readEntryFrom (elided : Nat) : Reader Ipv6Address := do
  let octets ← read (16 - elided)
  pure (expandAddress elided octets)

/-- The loop over the entries, so many of which are still to come. -/
def readEntriesFrom (cmprI cmprE : Nat) : Nat → Reader (List Ipv6Address)
  | 0 => pure []
  | toCome + 1 => do
    let address ← readEntryFrom (if toCome = 0 then cmprE else cmprI)
    let addresses ← readEntriesFrom cmprI cmprE toCome
    pure (address :: addresses)

/-- `Deserialize`: the header and the octets it is said to take up. -/
def readFrom : Reader (RoutingHeader × Nat) := do
  let nextHeader ← readU8
  let hdrExtLen ← readU8
  let typeRouting ← readU8
  let segmentsLeft ← readU8
  let cmprByte ← readU8
  let cmprI := (cmprByte >>> 4).toNat
  let cmprE := (cmprByte &&& 0x0f).toNat
  let padByte ← readU8
  let pad := (padByte >>> 4).toNat
  let _ ← readU8
  let _ ← readU8
  let remaining ← remainingSize
  let declaredSize := (hdrExtLen.toNat + 1) * 8
  let availableSize := 8 + remaining
  let declaredSize := if availableSize < declaredSize then availableSize else declaredSize
  let addressBytes := uint32Sub declaredSize 8
  let addressBytes := if pad < addressBytes then uint32Sub addressBytes pad else 0
  let count :=
    if 16 - cmprE ≤ addressBytes then
      uint32Sub addressBytes (16 - cmprE) / (16 - cmprI) + 1
    else 0
  let addresses ← readEntriesFrom cmprI cmprE count
  pure ({ nextHeader, typeRouting, segmentsLeft, addresses }, declaredSize)

/-! ## What the header says -/

/-- The octets the header claims to take up. -/
def declaredLength (octets : List UInt8) : Nat := ((octets.getD 1 0).toNat + 1) * 8

def statedCmprI (octets : List UInt8) : Nat := (octets.getD 4 0 >>> 4).toNat

def statedCmprE (octets : List UInt8) : Nat := (octets.getD 4 0 &&& 0x0f).toNat

def statedPad (octets : List UInt8) : Nat := (octets.getD 5 0 >>> 4).toNat

/-- The octets on the wire of so many entries. -/
def entriesLength (cmprI cmprE : Nat) : Nat → Nat
  | 0 => 0
  | count + 1 => count * (16 - cmprI) + (16 - cmprE)

/-! ## The entries -/

section Entries

variable {cmprI cmprE : Nat}

theorem entriesLength_succ (count : Nat) : entriesLength cmprI cmprE (count + 1) =
    (16 - if count = 0 then cmprE else cmprI) + entriesLength cmprI cmprE count := by
  cases count with
  | zero => simp [entriesLength]
  | succ count =>
    simp only [entriesLength, Nat.succ_ne_zero, if_false, Nat.succ_mul]
    omega

theorem length_readEntries (count : Nat) (octets : List UInt8) :
    (readEntries cmprI cmprE count octets).length = count := by
  induction count, octets using readEntries.induct cmprI with
  | case1 => rfl
  | case2 => rfl
  | case3 octets count ih => exact congrArg (· + 1) ih

/-- As many entries as are counted fit. -/
theorem entriesLength_entryCount (cmprI cmprE : Nat) (addressBytes : Nat) :
    entriesLength cmprI cmprE (entryCount cmprI cmprE addressBytes) ≤ addressBytes := by
  unfold entryCount
  split
  · next lastFits =>
    have whole := Nat.div_mul_le_self (addressBytes - (16 - cmprE)) (16 - cmprI)
    simp only [entriesLength]
    omega
  · exact Nat.zero_le _

/-- Entries that are all there are read, and no octet more. -/
theorem readEntriesFrom_eq (count : Nat) {octets : List UInt8}
    (there : entriesLength cmprI cmprE count ≤ octets.length) :
    readEntriesFrom cmprI cmprE count octets =
      .ok (readEntries cmprI cmprE count octets,
        octets.drop (entriesLength cmprI cmprE count)) := by
  induction count generalizing octets with
  | zero => rfl
  | succ count ih =>
    rw [entriesLength_succ] at there ⊢
    have first : (octets.take (16 - if count = 0 then cmprE else cmprI)).length =
        16 - if count = 0 then cmprE else cmprI := List.length_take_of_le (by omega)
    have others : entriesLength cmprI cmprE count ≤
        (octets.drop (16 - if count = 0 then cmprE else cmprI)).length := by
      rw [List.length_drop]
      omega
    have entry : readEntryFrom (if count = 0 then cmprE else cmprI) octets =
        .ok (expandAddress (if count = 0 then cmprE else cmprI)
            (octets.take (16 - if count = 0 then cmprE else cmprI)),
          octets.drop (16 - if count = 0 then cmprE else cmprI)) := by
      have reads := read_append (octets.drop (16 - if count = 0 then cmprE else cmprI)) first
      rw [List.take_append_drop] at reads
      rw [readEntryFrom, bind_ok reads, pure_apply]
    rw [readEntriesFrom, bind_ok entry, bind_ok (ih others), pure_apply, List.drop_drop]
    cases count with
    | zero => rfl
    | succ count => rfl

end Entries

/-! ## The header -/

/-- No difference wraps, so that the entries are counted as they should be. -/
theorem count_eq {size : Nat} (least : 8 ≤ size) (most : size ≤ 2048) (pad cmprI cmprE : Nat) :
    (let addressBytes := uint32Sub size 8
      let addressBytes := if pad < addressBytes then uint32Sub addressBytes pad else 0
      if 16 - cmprE ≤ addressBytes then
        uint32Sub addressBytes (16 - cmprE) / (16 - cmprI) + 1
      else 0) = entryCount cmprI cmprE (size - 8 - pad) := by
  have behindPad : (if pad < uint32Sub size 8 then uint32Sub (uint32Sub size 8) pad else 0) =
      size - 8 - pad := by
    rw [uint32Sub_eq least (by omega)]
    split
    · next inside => exact uint32Sub_eq inside.le (by omega)
    · omega
  simp only [behindPad, entryCount]
  split
  · next lastFits => rw [uint32Sub_eq lastFits (by omega)]
  · rfl

theorem readFrom_eq {octets : List UInt8} (based : 8 ≤ octets.length) :
    let cmprI := statedCmprI octets
    let cmprE := statedCmprE octets
    let size := min (declaredLength octets) octets.length
    let count := entryCount cmprI cmprE (size - 8 - statedPad octets)
    ∃ srh, readFrom octets =
        .ok ((srh, size), octets.drop (8 + entriesLength cmprI cmprE count)) ∧
      srh.addresses.length = count ∧ deserialize octets = some (srh, size) := by
  match octets, based with
  | nextHeader :: hdrExtLen :: typeRouting :: segmentsLeft :: cmpr :: pad :: _ :: _ :: rest, _ =>
    intro cmprI cmprE size count
    have least : 8 ≤ size := le_min (by unfold declaredLength; omega) (by simp)
    have most : size ≤ 2048 := by
      have octet := hdrExtLen.toNat_lt
      have declared : size ≤ (hdrExtLen.toNat + 1) * 8 := min_le_left _ _
      omega
    have whole : min ((hdrExtLen.toNat + 1) * 8) (8 + rest.length) = size := by
      rw [Nat.add_comm 8]
      rfl
    have clamped : (if 8 + rest.length < (hdrExtLen.toNat + 1) * 8 then 8 + rest.length
        else (hdrExtLen.toNat + 1) * 8) = size := by
      rw [← whole]
      split <;> omega
    have there : entriesLength cmprI cmprE count ≤ rest.length := by
      have fits : entriesLength cmprI cmprE count ≤ size - 8 - statedPad _ :=
        entriesLength_entryCount _ _ _
      omega
    refine ⟨{ nextHeader, typeRouting, segmentsLeft,
              addresses := readEntries cmprI cmprE count rest }, ?_,
      length_readEntries .., ?_⟩
    · have counted := count_eq least most (pad >>> 4).toNat (cmpr >>> 4).toNat
        (cmpr &&& 0x0f).toNat
      simp only [readFrom, readU8_bind, remainingSize_bind, clamped]
      simp only at counted
      rw [counted]
      exact (bind_ok (readEntriesFrom_eq count there) _).trans (by
        rw [pure_apply, Nat.add_comm 8]
        rfl)
    · unfold deserialize
      simp only [whole]
      rfl

/-! ## The main result -/

/-- Whatever the fields say, the octets read are within the buffer and within the length
declared, the entries take up no more than that length leaves them behind the fixed part and the
pad, and the size returned is no larger than the buffer. -/
theorem readFrom_within {octets : List UInt8} (based : 8 ≤ octets.length) :
    ∃ srh size used, readFrom octets = .ok ((srh, size), octets.drop used) ∧
      used ≤ octets.length ∧ used ≤ declaredLength octets ∧
      used = 8 + entriesLength (statedCmprI octets) (statedCmprE octets) srh.addresses.length ∧
      entriesLength (statedCmprI octets) (statedCmprE octets) srh.addresses.length ≤
        declaredLength octets - 8 - statedPad octets ∧
      used ≤ size ∧ size ≤ octets.length ∧ size ≤ declaredLength octets ∧
      deserialize octets = some (srh, size) := by
  obtain ⟨srh, reads, count, same⟩ := readFrom_eq based
  have fits := entriesLength_entryCount (statedCmprI octets) (statedCmprE octets)
    (min (declaredLength octets) octets.length - 8 - statedPad octets)
  have least : 8 ≤ declaredLength octets := by
    unfold declaredLength
    omega
  rw [← count] at reads fits
  exact ⟨srh, _, _, reads, by omega, by omega, rfl, by omega, by omega, min_le_right _ _,
    min_le_left _ _, same⟩

/-- A header that claims 2048 octets and nine addresses, elides 15 octets of each, and ends after
two of them and one octet of padding. -/
def truncatedOctets : List UInt8 := [59, 255, 3, 9, 0xff, 0x10, 0, 0, 7, 9, 0]

/-- The two are read, and no more. -/
theorem readFrom_within_truncated :
    ∃ srh size used, readFrom truncatedOctets = .ok ((srh, size), truncatedOctets.drop used) ∧
      srh.addresses.length = 2 ∧ used = 10 ∧ size ≤ 11 := by
  have based : 8 ≤ truncatedOctets.length := by decide
  have count : (deserialize truncatedOctets).map (fun read => read.1.addresses.length) =
      some 2 := by
    decide +kernel
  obtain ⟨srh, size, used, reads, -, -, length, -, -, fits, -, decodes⟩ := readFrom_within based
  rw [decodes] at count
  have two : srh.addresses.length = 2 := Option.some.inj count
  refine ⟨srh, size, used, reads, two, ?_, fits⟩
  rw [length, two]
  decide

end RoutingHeader

end Rpl
