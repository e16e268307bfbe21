import Rpl.DaoReceive

/-!
# Functions that only send

The sending functions hand messages to the IPv6 layer and change nothing else in
the node.  `emit` adds outputs, and each sending function is an `emit`; what its
caller has to know of the node afterwards then follows by simplification.
-/

namespace Rpl

open Std

namespace Node

/-- The node with these outputs added, newest first. -/
def emit (n : Node) (sent : List Output) : Node := { n with outputs := sent ++ n.outputs }

@[simp] theorem emit_outputs (n : Node) (sent : List Output) :
    (n.emit sent).outputs = sent ++ n.outputs := rfl

@[simp] theorem emit_now (n : Node) (sent : List Output) : (n.emit sent).now = n.now := rfl

@[simp] theorem emit_attributes (n : Node) (sent : List Output) :
    (n.emit sent).attributes = n.attributes := rfl

@[simp] theorem emit_ipv6 (n : Node) (sent : List Output) : (n.emit sent).ipv6 = n.ipv6 := rfl

@[simp] theorem emit_sockets (n : Node) (sent : List Output) :
    (n.emit sent).sockets = n.sockets := rfl

@[simp] theorem emit_dodags (n : Node) (sent : List Output) :
    (n.emit sent).dodags = n.dodags := rfl

@[simp] theorem emit_nil (n : Node) : n.emit [] = n := rfl

/-- Two emissions are one, the later of them first. -/
@[simp] theorem emit_emit (n : Node) (first second : List Output) :
    (n.emit first).emit second = n.emit (second ++ first) := by
  simp only [emit, List.append_assoc]

/-! ## Each sending function as an emission -/

/-- What `SendRplMessageOn` hands down. -/
def messageOn (n : Node) (interface : Nat) (message : RplMessage) (destination : Ipv6Address) :
    List Output :=
  if interface ∈ n.sockets then
    [.sent interface
      (n.ipv6.sourceAddressSelection n.ipv6.interfaces interface destination) destination message]
  else []

/-- On one interface a message is handed down or dropped, and nothing else happens. -/
theorem sendRplMessageOn_eq_emit (n : Node) (interface : Nat) (message : RplMessage)
    (destination : Ipv6Address) :
    n.sendRplMessageOn interface message destination =
      n.emit (n.messageOn interface message destination) := by
  unfold sendRplMessageOn messageOn
  split
  · rfl
  · rfl

/-- By multicast a message is handed down on one interface after the other. -/
theorem sendRplMessageMulticast_emits (n : Node) (message : RplMessage)
    (destination : Ipv6Address) :
    ∃ sent, n.sendRplMessageMulticast message destination = n.emit sent := by
  have overInterfaces : ∀ (interfaces : List Nat) (n : Node), ∃ sent,
      interfaces.foldl (fun n i => n.sendRplMessageOn i message destination) n = n.emit sent := by
    intro interfaces
    induction interfaces with
    | nil => exact fun n => ⟨[], rfl⟩
    | cons interface rest ih =>
      intro n
      obtain ⟨sent, others⟩ := ih (n.sendRplMessageOn interface message destination)
      rw [List.foldl_cons, others, sendRplMessageOn_eq_emit, emit_emit]
      exact ⟨_, rfl⟩
  exact overInterfaces _ n

/-- By unicast it is handed down once or not at all. -/
theorem sendRplMessageUnicast_emits (n : Node) (message : RplMessage)
    (destination : Ipv6Address) :
    ∃ sent, n.sendRplMessageUnicast message destination = n.emit sent := by
  unfold sendRplMessageUnicast
  split
  · exact ⟨[], rfl⟩
  · exact ⟨_, n.sendRplMessageOn_eq_emit ..⟩

/-- Sending a message does nothing else to the node. -/
theorem sendRplMessage_emits (n : Node) (message : RplMessage) (destination : Ipv6Address)
    (interface : Nat) :
    ∃ sent, n.sendRplMessage message destination interface = n.emit sent := by
  unfold sendRplMessage
  split
  · exact n.sendRplMessageMulticast_emits message destination
  · exact ⟨_, n.sendRplMessageOn_eq_emit ..⟩

/-- A DAO goes out, one hop up or to the root, or finds no way there. -/
theorem sendDaoTo_emits (n : Node) (dodag : DodagMembership) (parent : Ipv6Address)
    (dao : DaoHeader) : ∃ sent, n.sendDaoTo dodag parent dao = n.emit sent := by
  unfold sendDaoTo
  split
  · dsimp only
    split
    · exact ⟨[], rfl⟩
    · exact ⟨_, n.sendRplMessageOn_eq_emit ..⟩
  · exact n.sendRplMessageUnicast_emits ..

/-- What a router passes on of a DAO, if there is anything. -/
theorem relayDao_emits (n : Node) (dodag : DodagMembership) (entries : List AdditionalTarget) :
    ∃ sent, n.relayDao dodag entries = n.emit sent := by
  unfold relayDao
  split
  · exact ⟨[], rfl⟩
  · exact n.sendDaoTo_emits ..

/-- A DAO is acknowledged where it asks for that. -/
theorem acknowledgeDao_emits (n : Node) (dodag : DodagMembership) (dao : DaoHeader)
    (sender : Ipv6Address) (interface : Nat) :
    ∃ sent, n.acknowledgeDao dodag dao sender interface = n.emit sent := by
  unfold acknowledgeDao
  split
  · dsimp only
    split
    · exact ⟨_, n.sendRplMessageOn_eq_emit ..⟩
    · exact n.sendRplMessageUnicast_emits ..
  · exact ⟨[], rfl⟩

/-- A DIO of AODV-RPL by unicast. -/
theorem sendAodvTo_emits (n : Node) (dodag : DodagMembership) (dio : DioHeader)
    (nextHop : Ipv6Address) : ∃ sent, n.sendAodvTo dodag dio nextHop = n.emit sent := by
  unfold sendAodvTo
  dsimp only
  split
  · split
    · exact ⟨[], rfl⟩
    · exact ⟨_, n.sendRplMessageOn_eq_emit ..⟩
  · exact ⟨_, n.sendRplMessageOn_eq_emit ..⟩

end Node

end Rpl
