import Rpl.Lib.Tlv

/-!
# Reading through a cursor

A cursor over a buffer whose reads check nothing.  The octets still to come are the state of
a reader; a read past the last of them is a fault, and so is a loop that is still going when
its turns are used up.  A loop over options is framed when each of its turns comes out where
the option's length says, whatever the reader of the option's body makes of it.
-/

namespace Cursor

/-- What can go wrong: a read past the end, or a loop that does not come to one. -/
inductive Fault
  | pastEnd
  | unfinished
  deriving DecidableEq, Repr

abbrev Reader (α : Type) : Type := StateT (List UInt8) (Except Fault) α

def readU8 : Reader UInt8
  | [] => .error .pastEnd
  | octet :: left => .ok (octet, left)

def read (count : Nat) : Reader (List UInt8) := fun left =>
  match Octets.take? count left with
  | none => .error .pastEnd
  | some (front, left) => .ok (front, left)

/-- Octets passed over. -/
def next (count : Nat) : Reader Unit := do
  let _ ← read count
  pure ()

def isEnd : Reader Bool := fun left => .ok (left.isEmpty, left)

def remainingSize : Reader Nat := fun left => .ok (left.length, left)

/-- Items of one size, one after the other. -/
def readItems (size : Nat) : Nat → Reader (List (List UInt8))
  | 0 => pure []
  | count + 1 => do
    let item ← read size
    let items ← readItems size count
    pure (item :: items)

/-- `while (!i.IsEnd())`, with a bound on the turns. A turn says whether the loop goes on. -/
def whileNotEnd {σ : Type} (turn : σ → Reader (σ × Bool)) : Nat → σ → Reader σ
  | steps, state => do
    let atEnd ← isEnd
    if atEnd then pure state
    else
      match steps with
      | 0 => throw .unfinished
      | steps + 1 => do
        let (state, goesOn) ← turn state
        if goesOn then whileNotEnd turn steps state else pure state

/-! ## Single reads -/

section Reads

variable {α β : Type} {left rest : List UInt8}

@[simp] theorem pure_apply (value : α) (left : List UInt8) :
    (pure value : Reader α) left = .ok (value, left) := rfl

theorem bind_ok {reader : Reader α} {value : α} (reads : reader left = .ok (value, rest))
    (further : α → Reader β) : (reader >>= further) left = further value rest := by
  change (reader left).bind (fun (value, left) => further value left) = _
  rw [reads]
  rfl

theorem bind_error {reader : Reader α} {fault : Fault} (fails : reader left = .error fault)
    (further : α → Reader β) : (reader >>= further) left = .error fault := by
  change (reader left).bind (fun (value, left) => further value left) = _
  rw [fails]
  rfl

/-- Handing on what was read makes no fault of its own. -/
theorem bind_pure_error_iff {reader : Reader α} {fault : Fault} (give : α → β) :
    (reader >>= fun value => pure (give value)) left = .error fault ↔
      reader left = .error fault := by
  cases reads : reader left with
  | ok result => simp [bind_ok reads]
  | error other => simp [bind_error reads]

@[simp] theorem readU8_bind (octet : UInt8) (left : List UInt8) (further : UInt8 → Reader α) :
    (readU8 >>= further) (octet :: left) = further octet left := rfl

@[simp] theorem readU8_bind_nil (further : UInt8 → Reader α) :
    (readU8 >>= further) [] = .error .pastEnd := rfl

@[simp] theorem isEnd_bind (left : List UInt8) (further : Bool → Reader α) :
    (isEnd >>= further) left = further left.isEmpty left := rfl

@[simp] theorem remainingSize_bind (left : List UInt8) (further : Nat → Reader α) :
    (remainingSize >>= further) left = further left.length left := rfl

theorem read_append {count : Nat} {front : List UInt8} (rest : List UInt8)
    (len : front.length = count) : read count (front ++ rest) = .ok (front, rest) := by
  rw [read, Octets.take?_append rest len]

theorem read_of_lt {count : Nat} (short : left.length < count) :
    read count left = .error .pastEnd := by
  rw [read, Octets.take?, if_neg (Nat.not_le.mpr short)]

theorem next_append {count : Nat} {front : List UInt8} (rest : List UInt8)
    (len : front.length = count) : next count (front ++ rest) = .ok ((), rest) := by
  rw [next, bind_ok (read_append rest len), pure_apply]

/-- The items a front of as many whole items is made of. -/
theorem readItems_append {size : Nat} (count : Nat) {front : List UInt8} (rest : List UInt8)
    (len : front.length = count * size) :
    ∃ items, readItems size count (front ++ rest) = .ok (items, rest) ∧
      items.length = count ∧ items.flatten = front ∧ ∀ item ∈ items, item.length = size := by
  induction count generalizing front with
  | zero =>
    rw [Nat.zero_mul] at len
    cases List.eq_nil_of_length_eq_zero len
    exact ⟨[], rfl, rfl, rfl, fun _ mem => absurd mem List.not_mem_nil⟩
  | succ count ih =>
    rw [Nat.succ_mul] at len
    have first : (front.take size).length = size := List.length_take_of_le (by omega)
    have others : (front.drop size).length = count * size := by
      rw [List.length_drop]
      omega
    obtain ⟨items, reads, many, joined, sized⟩ := ih others
    have parts : front ++ rest = front.take size ++ (front.drop size ++ rest) := by
      rw [← List.append_assoc, List.take_append_drop]
    refine ⟨front.take size :: items, ?_, congrArg (· + 1) many, ?_, ?_⟩
    · rw [readItems, parts, bind_ok (read_append _ first), bind_ok reads, pure_apply]
    · rw [List.flatten_cons, joined, List.take_append_drop]
    · exact List.forall_mem_cons.mpr ⟨first, sized⟩

end Reads

/-! ## Option loops -/

section Loops

variable {σ : Type}

/-- One turn of a loop over options: padding is passed over, an option cut short ends the
loop, and any other is left to the reader of its body. -/
def optionTurn (pad : UInt8) (take : UInt8 → UInt8 → σ → Reader (σ × Bool)) (state : σ) :
    Reader (σ × Bool) := do
  let type ← readU8
  if type = pad then pure (state, true)
  else
    let atEnd ← isEnd
    if atEnd then pure (state, false)
    else
      let length ← readU8
      let remaining ← remainingSize
      if remaining < length.toNat then pure (state, false)
      else take type length state

/-- How many octets the first option takes up; nothing when it is cut short. -/
def frameSize (pad : UInt8) : List UInt8 → Option Nat
  | [] => none
  | type :: rest =>
    if type = pad then some 1
    else
      match rest with
      | [] => none
      | length :: body => if length.toNat ≤ body.length then some (2 + length.toNat) else none

/-- The turns of a loop are framed: from any state each comes out behind the first option,
one cut short ends the loop, and the loop ends, with no turn reading past the end. -/
structure Framed (pad : UInt8) (turn : σ → Reader (σ × Bool)) : Prop where
  advances : ∀ (state : σ) (octets : List UInt8) (size : Nat), frameSize pad octets = some size →
    ∃ state', turn state octets = .ok ((state', true), octets.drop size)
  breaks : ∀ (state : σ) (octets : List UInt8), octets ≠ [] → frameSize pad octets = none →
    ∃ left, turn state octets = .ok ((state, false), left)
  ends : ∀ (state : σ) (octets : List UInt8) (steps : Nat), octets.length ≤ steps →
    ∃ state' left, whileNotEnd turn steps state octets = .ok (state', left)

/-- What the reader of a body does: `step` says the state after it, or that the loop is
broken off. -/
structure Takes (pad : UInt8) (take : UInt8 → UInt8 → σ → Reader (σ × Bool))
    (step : σ → Tlv.TypedBody → σ × Bool) : Prop where
  goesOn : ∀ (type length : UInt8) (body rest : List UInt8) (state : σ), type ≠ pad →
    body.length = length.toNat → (step state (type, body)).2 = true →
      take type length state (body ++ rest) = .ok (step state (type, body), rest)
  stops : ∀ (type length : UInt8) (body rest : List UInt8) (state : σ), type ≠ pad →
    body.length = length.toNat → (step state (type, body)).2 = false →
      ∃ left, take type length state (body ++ rest) = .ok (step state (type, body), left)

/-- The options are stepped through until one breaks the loop off. -/
def stepAll (step : σ → Tlv.TypedBody → σ × Bool) : σ → List Tlv.TypedBody → σ
  | state, [] => state
  | state, option :: options =>
    let (state, goesOn) := step state option
    if goesOn then stepAll step state options else state

variable {pad : UInt8} {take : UInt8 → UInt8 → σ → Reader (σ × Bool)}
  {step : σ → Tlv.TypedBody → σ × Bool}

theorem optionTurn_pad (state : σ) (rest : List UInt8) :
    optionTurn pad take state (pad :: rest) = .ok ((state, true), rest) := by
  rw [optionTurn, readU8_bind, if_pos rfl, pure_apply]

theorem optionTurn_type {type : UInt8} (notPad : type ≠ pad) (state : σ) :
    optionTurn pad take state [type] = .ok ((state, false), []) := by
  rw [optionTurn, readU8_bind, if_neg notPad, isEnd_bind]
  rfl

theorem optionTurn_cut {type length : UInt8} {rest : List UInt8} (notPad : type ≠ pad)
    (cut : rest.length < length.toNat) (state : σ) :
    optionTurn pad take state (type :: length :: rest) = .ok ((state, false), rest) := by
  rw [optionTurn, readU8_bind, if_neg notPad, isEnd_bind]
  simp only [List.isEmpty_cons, Bool.false_eq_true, if_false, readU8_bind, remainingSize_bind,
    if_pos cut, pure_apply]

theorem optionTurn_whole {type length : UInt8} {body : List UInt8} (notPad : type ≠ pad)
    (whole : body.length = length.toNat) (state : σ) (rest : List UInt8) :
    optionTurn pad take state (type :: length :: (body ++ rest)) =
      take type length state (body ++ rest) := by
  have enough : ¬(body ++ rest).length < length.toNat := by
    rw [List.length_append]
    omega
  rw [optionTurn, readU8_bind, if_neg notPad, isEnd_bind]
  simp only [List.isEmpty_cons, Bool.false_eq_true, if_false, readU8_bind, remainingSize_bind,
    if_neg enough]

theorem whileNotEnd_nil (turn : σ → Reader (σ × Bool)) (steps : Nat) (state : σ) :
    whileNotEnd turn steps state [] = .ok (state, []) := by
  unfold whileNotEnd
  rfl

theorem whileNotEnd_cons {turn : σ → Reader (σ × Bool)} {steps : Nat} {state state' : σ}
    {octet : UInt8} {octets left : List UInt8} {goesOn : Bool}
    (turned : turn state (octet :: octets) = .ok ((state', goesOn), left)) :
    whileNotEnd turn (steps + 1) state (octet :: octets) =
      if goesOn then whileNotEnd turn steps state' left else .ok (state', left) := by
  rw [whileNotEnd, isEnd_bind]
  simp only [List.isEmpty_cons, Bool.false_eq_true, if_false]
  rw [bind_ok turned]
  cases goesOn <;> rfl

/-- The first option of a string: padding, cut short, or whole. -/
theorem frame_cases (pad type : UInt8) (rest : List UInt8) :
    type = pad ∨ type ≠ pad ∧ (rest = [] ∨ ∃ length body, rest = length :: body ∧
      (body.length < length.toNat ∨
        ∃ front back, body = front ++ back ∧ front.length = length.toNat)) := by
  by_cases padding : type = pad
  · exact .inl padding
  · refine .inr ⟨padding, ?_⟩
    cases rest with
    | nil => exact .inl rfl
    | cons length body =>
      refine .inr ⟨length, body, rfl, ?_⟩
      rcases Nat.lt_or_ge body.length length.toNat with cut | whole
      · exact .inl cut
      · exact .inr ⟨body.take length.toNat, body.drop length.toNat,
          (List.take_append_drop _ _).symm, List.length_take_of_le whole⟩

/-- The loop steps through the options there are, and each turn consumes an octet, so there
are enough turns. -/
theorem whileNotEnd_eq (takes : Takes pad take step) {steps : Nat} {octets : List UInt8}
    (enough : octets.length ≤ steps) (state : σ) :
    ∃ left, whileNotEnd (optionTurn pad take) steps state octets =
      .ok (stepAll step state (Tlv.options pad octets), left) := by
  rw [← Tlv.readSteps_of_le enough]
  induction steps generalizing octets state with
  | zero =>
    cases List.eq_nil_of_length_eq_zero (Nat.le_zero.mp enough)
    exact ⟨[], whileNotEnd_nil _ _ _⟩
  | succ steps ih =>
    cases octets with
    | nil => exact ⟨[], whileNotEnd_nil _ _ _⟩
    | cons type rest =>
      rw [List.length_cons, Nat.add_le_add_iff_right] at enough
      rcases frame_cases pad type rest with rfl | ⟨notPad, rfl | ⟨length, body, rfl, cut | whole⟩⟩
      · rw [whileNotEnd_cons (optionTurn_pad state rest), if_pos rfl]
        simp only [Tlv.readSteps, if_true]
        exact ih enough state
      · rw [whileNotEnd_cons (optionTurn_type notPad state)]
        simp only [Tlv.readSteps, if_neg notPad]
        exact ⟨[], rfl⟩
      · rw [whileNotEnd_cons (optionTurn_cut notPad cut state), Tlv.readSteps, if_neg notPad]
        simp only [Octets.take?, if_neg (Nat.not_le.mpr cut)]
        exact ⟨body, rfl⟩
      · obtain ⟨front, back, rfl, len⟩ := whole
        have turned : optionTurn pad take state _ = _ := optionTurn_whole notPad len state back
        have shorter : back.length ≤ steps := by
          rw [List.length_cons, List.length_append] at enough
          omega
        rw [Tlv.readSteps, if_neg notPad]
        simp only [Octets.take?_append back len]
        rw [stepAll]
        cases further : (step state (type, front)).2 with
        | true =>
          rw [takes.goesOn type length front back state notPad len further] at turned
          rw [whileNotEnd_cons turned]
          simp only [further, if_true]
          exact ih shorter _
        | false =>
          obtain ⟨left, taken⟩ := takes.stops type length front back state notPad len further
          rw [taken] at turned
          rw [whileNotEnd_cons turned]
          simp only [further, Bool.false_eq_true, if_false]
          exact ⟨left, rfl⟩

/-- The states of a loop that no option breaks off; nothing where one does. -/
def walk (step : σ → Tlv.TypedBody → σ × Bool) (state : σ) (option : Tlv.TypedBody) : Option σ :=
  if (step state option).2 then some (step state option).1 else none

/-- Options that were written are all read, to the last octet, when none of them breaks the loop
off. -/
theorem whileNotEnd_walk (takes : Takes pad take step) {written : List Tlv.TypedBody}
    (fits : ∀ option ∈ written, Tlv.Fits pad option) {state final : σ}
    (walks : written.foldlM (walk step) state = some final) {steps : Nat}
    (enough : (written.flatMap Tlv.encode).length ≤ steps) :
    whileNotEnd (optionTurn pad take) steps state (written.flatMap Tlv.encode) =
      .ok (final, []) := by
  induction written generalizing steps state with
  | nil =>
    cases walks
    exact whileNotEnd_nil _ _ _
  | cons option rest ih =>
    obtain ⟨type, body⟩ := option
    obtain ⟨⟨notPad, short⟩, fitsRest⟩ := List.forall_mem_cons.mp fits
    have len : body.length = (UInt8.ofNat body.length).toNat := by
      rw [UInt8.toNat_ofNat', Nat.mod_eq_of_lt short]
    obtain ⟨next, walked, walksRest⟩ := Option.bind_eq_some_iff.mp walks
    obtain ⟨goesOn, isNext⟩ : (step state (type, body)).2 = true ∧
        (step state (type, body)).1 = next := by
      unfold walk at walked
      split at walked
      · next goesOn => exact ⟨goesOn, Option.some.inj walked⟩
      · cases walked
    rw [List.flatMap_cons, Tlv.encode, List.cons_append, List.cons_append] at enough ⊢
    rw [List.length_cons, List.length_cons, List.length_append] at enough
    cases steps with
    | zero => omega
    | succ steps =>
      have turned : optionTurn pad take state _ = _ :=
        optionTurn_whole notPad len state (rest.flatMap Tlv.encode)
      rw [takes.goesOn type _ body _ state notPad len goesOn] at turned
      rw [whileNotEnd_cons turned, goesOn, if_pos rfl, isNext, ih fitsRest walksRest (by omega)]

/-- Options that were written are all read, to the last octet, by a loop that no option breaks
off. -/
theorem whileNotEnd_encode (takes : Takes pad take step)
    (goesOn : ∀ state option, (step state option).2 = true) {written : List Tlv.TypedBody}
    (fits : ∀ option ∈ written, Tlv.Fits pad option) {steps : Nat}
    (enough : (written.flatMap Tlv.encode).length ≤ steps) (state : σ) :
    whileNotEnd (optionTurn pad take) steps state (written.flatMap Tlv.encode) =
      .ok (written.foldl (fun state option => (step state option).1) state, []) := by
  refine whileNotEnd_walk takes fits ?_ enough
  have walks : walk step = fun state option => pure (step state option).1 := by
    funext state option
    exact if_pos (goesOn state option)
  rw [walks, List.foldlM_pure]
  rfl

/-- A loop that no option breaks off is framed. -/
theorem framed_of_takes (takes : Takes pad take step)
    (goesOn : ∀ state option, (step state option).2 = true) :
    Framed pad (optionTurn pad take) where
  advances state octets size framed := by
    cases octets with
    | nil => cases framed
    | cons type rest =>
      rcases frame_cases pad type rest with rfl | ⟨notPad, rfl | ⟨length, body, rfl, cut | whole⟩⟩
      · simp only [frameSize, if_true] at framed
        cases framed
        exact ⟨state, optionTurn_pad state rest⟩
      · simp only [frameSize, if_neg notPad] at framed
        cases framed
      · simp only [frameSize, if_neg notPad, if_neg (Nat.not_le.mpr cut)] at framed
        cases framed
      · obtain ⟨front, back, rfl, len⟩ := whole
        simp only [frameSize, if_neg notPad, List.length_append, len, Nat.le_add_right,
          if_true] at framed
        cases framed
        have turned : optionTurn pad take state _ = _ := optionTurn_whole notPad len state back
        rw [takes.goesOn type length front back state notPad len (goesOn ..)] at turned
        refine ⟨(step state (type, front)).1, ?_⟩
        rw [turned, Nat.add_comm, ← len, List.drop_succ_cons, List.drop_succ_cons,
          List.drop_left, ← goesOn state (type, front)]
  breaks state octets some_ framed := by
    cases octets with
    | nil => exact absurd rfl some_
    | cons type rest =>
      rcases frame_cases pad type rest with rfl | ⟨notPad, rfl | ⟨length, body, rfl, cut | whole⟩⟩
      · simp only [frameSize, if_true] at framed
        cases framed
      · exact ⟨[], optionTurn_type notPad state⟩
      · exact ⟨body, optionTurn_cut notPad cut state⟩
      · obtain ⟨front, back, rfl, len⟩ := whole
        simp only [frameSize, if_neg notPad, List.length_append, len, Nat.le_add_right,
          if_true] at framed
        cases framed
  ends state octets steps enough := by
    obtain ⟨left, ended⟩ := whileNotEnd_eq takes enough state
    exact ⟨_, left, ended⟩

end Loops

end Cursor
