import Rpl.Lib.Octets

/-!
# Option lists

Options as a type octet, a length octet and a body, with one type that is a
single octet of padding.  Reading stops at the end of the octets or at an option
that is cut short, and gives the options before it.
-/

namespace Tlv

/-- An option: its type and its body. -/
abbrev TypedBody : Type := UInt8 × List UInt8

/-- The octets of an option. -/
def encode (option : TypedBody) : List UInt8 :=
  option.1 :: UInt8.ofNat option.2.length :: option.2

/-- The option can be written: it is not padding, and its length fits the length octet. -/
def Fits (pad : UInt8) (option : TypedBody) : Prop := option.1 ≠ pad ∧ option.2.length < 256

/-- The reading loop, `steps` bounding its turns. -/
def readSteps (pad : UInt8) : Nat → List UInt8 → List TypedBody
  | 0, _ => []
  | _ + 1, [] => []
  | steps + 1, type :: rest =>
    if type = pad then readSteps pad steps rest
    else
      match rest with
      | [] => []
      | length :: rest =>
        match Octets.take? length.toNat rest with
        | none => []
        | some (body, rest) => (type, body) :: readSteps pad steps rest

/-- The options of an octet string, up to the end or the first one cut short. -/
def options (pad : UInt8) (octets : List UInt8) : List TypedBody :=
  readSteps pad octets.length octets

/-- The type of the option the loop ends at, when it is cut short. -/
def cutSteps (pad : UInt8) : Nat → List UInt8 → Option UInt8
  | 0, _ => none
  | _ + 1, [] => none
  | steps + 1, type :: rest =>
    if type = pad then cutSteps pad steps rest
    else
      match rest with
      | [] => some type
      | length :: rest =>
        match Octets.take? length.toNat rest with
        | none => some type
        | some (_, rest) => cutSteps pad steps rest

/-- The type of the option at the end of an octet string that is cut short, if one is. -/
def cutShort (pad : UInt8) (octets : List UInt8) : Option UInt8 :=
  cutSteps pad octets.length octets

/-- Every turn consumes an octet, so as many turns as there are octets are enough. -/
theorem readSteps_of_le {pad : UInt8} {steps : Nat} {octets : List UInt8}
    (enough : octets.length ≤ steps) : readSteps pad steps octets = options pad octets := by
  have agree : ∀ (steps : Nat) (octets : List UInt8) (more : Nat), octets.length ≤ steps →
      octets.length ≤ more → readSteps pad steps octets = readSteps pad more octets := by
    intro steps
    induction steps with
    | zero =>
      intro octets more none _
      rw [List.eq_nil_of_length_eq_zero (Nat.le_zero.mp none)]
      cases more <;> rfl
    | succ steps ih =>
      intro octets more enough enough'
      cases octets with
      | nil => cases more <;> rfl
      | cons type rest =>
        cases more with
        | zero => exact absurd enough' (by simp)
        | succ more =>
          simp only [List.length_cons, Nat.add_le_add_iff_right] at enough enough'
          simp only [readSteps]
          split
          · exact ih rest more enough enough'
          · cases rest with
            | nil => rfl
            | cons length rest =>
              simp only [List.length_cons] at enough enough'
              dsimp only
              cases read : Octets.take? length.toNat rest with
              | none => rfl
              | some split =>
                obtain ⟨body, rest'⟩ := split
                have shorter := Octets.length_le_of_take? read
                dsimp only
                rw [ih rest' more (by omega) (by omega)]
  exact agree _ _ _ enough le_rfl

@[simp] theorem options_nil (pad : UInt8) : options pad [] = [] := rfl

/-- What was written first is read first. -/
theorem options_encode_append {pad : UInt8} {option : TypedBody} (fits : Fits pad option)
    (rest : List UInt8) : options pad (encode option ++ rest) = option :: options pad rest := by
  obtain ⟨type, body⟩ := option
  obtain ⟨notPad, short⟩ := fits
  have length : (UInt8.ofNat body.length).toNat = body.length := by
    rw [UInt8.toNat_ofNat', Nat.mod_eq_of_lt short]
  rw [options, encode, List.cons_append, List.cons_append, List.length_cons]
  simp only [readSteps]
  rw [if_neg notPad, length, Octets.take?_append rest rfl]
  dsimp only
  rw [readSteps_of_le (by simp; omega)]

/-- Options that were written first are read first. -/
theorem options_flatMap_encode_append {pad : UInt8} {written : List TypedBody}
    (fits : ∀ option ∈ written, Fits pad option) (rest : List UInt8) :
    options pad (written.flatMap encode ++ rest) = written ++ options pad rest := by
  induction written with
  | nil => rfl
  | cons option others ih =>
    rw [List.forall_mem_cons] at fits
    rw [List.flatMap_cons, List.append_assoc, options_encode_append fits.1, ih fits.2,
      List.cons_append]

/-- A list of options is read back as it was written. -/
theorem options_flatMap_encode {pad : UInt8} {written : List TypedBody}
    (fits : ∀ option ∈ written, Fits pad option) :
    options pad (written.flatMap encode) = written := by
  have read := options_flatMap_encode_append fits []
  rwa [List.append_nil, options_nil, List.append_nil] at read

/-- The length octet wraps around: of a body too long for it the front is read as the body,
and the rest as options. -/
theorem options_encode_append_mod {pad type : UInt8} (notPad : type ≠ pad)
    (body rest : List UInt8) :
    options pad (encode (type, body) ++ rest) =
      (type, body.take (body.length % 256)) ::
        options pad (body.drop (body.length % 256) ++ rest) := by
  have short : body.length % 256 < 256 := Nat.mod_lt _ (by decide)
  have front : (body.take (body.length % 256)).length = body.length % 256 :=
    List.length_take_of_le (Nat.mod_le ..)
  have wraps : UInt8.ofNat body.length = UInt8.ofNat (body.length % 256) :=
    UInt8.toNat_inj.mp (by rw [UInt8.toNat_ofNat', UInt8.toNat_ofNat', Nat.mod_mod])
  have written : encode (type, body) ++ rest =
      encode (type, body.take (body.length % 256)) ++
        (body.drop (body.length % 256) ++ rest) := by
    simp only [encode, front, ← wraps, List.cons_append]
    rw [← List.append_assoc (body.take _), List.take_append_drop]
  rw [written, options_encode_append ⟨notPad, by rw [front]; exact short⟩]

/-- What is read can be written again. -/
theorem fits_of_mem_options {pad : UInt8} {octets : List UInt8} {option : TypedBody}
    (mem : option ∈ options pad octets) : Fits pad option := by
  have turns : ∀ (steps : Nat) (octets : List UInt8), option ∈ readSteps pad steps octets →
      Fits pad option := by
    intro steps
    induction steps with
    | zero => exact fun _ mem => absurd mem List.not_mem_nil
    | succ steps ih =>
      intro octets mem
      cases octets with
      | nil => exact absurd mem List.not_mem_nil
      | cons type rest =>
        simp only [readSteps] at mem
        split at mem
        · exact ih rest mem
        · next notPad =>
          cases rest with
          | nil => exact absurd mem List.not_mem_nil
          | cons length rest =>
            dsimp only at mem
            cases read : Octets.take? length.toNat rest with
            | none =>
              rw [read] at mem
              exact absurd mem List.not_mem_nil
            | some split =>
              obtain ⟨body, behind⟩ := split
              rw [read] at mem
              rcases List.mem_cons.mp mem with rfl | later
              · refine ⟨notPad, ?_⟩
                rw [(Octets.append_of_take? read).2]
                exact length.toNat_lt
              · exact ih behind later
  exact turns octets.length octets mem

end Tlv
