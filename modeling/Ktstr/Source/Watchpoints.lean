import Mathlib.Algebra.Order.Ring.Int
import Mathlib.Data.Fintype.Basic
import Ktstr.Library.Runs

/-! User watchpoints on x86_64: `arm_user_watchpoint` of `vmm/freeze_coord/snapshot.rs`, `self_arm_watchpoint` and
`latch_user_hit` of `vmm/vcpu.rs`, `dispatch_watchpoint_hit` of `vmm/exit_dispatch.rs`, and the user-slot loop of
`vmm/freeze_coord/mod.rs`. Each access of the coordinator to a cell shared with the vCPUs is a step of its own, and a
vCPU may step between any two of them, also during a capture whose rendezvous timed out. -/
namespace Ktstr.Source.Watchpoints

structure WatchpointSlot where
  requestKva : UInt64 := 0
  hit : Bool := false
  tag : String := ""

structure WatchpointArm where
  requestKva : UInt64 := 0
  user : Fin 3 → WatchpointSlot := fun _ => {}
  anyArmed : Bool := false

/-- What a vCPU thread keeps, and what the debug registers of its vCPU hold. -/
structure Vcpu where
  armedSlots : Fin 4 → UInt64 := fun _ => 0
  debugreg : Fin 4 → UInt64 := fun _ => 0
  failures : Nat := 0

/-- How `KVM_SET_GUEST_DEBUG` returns. -/
inductive SetGuestDebug
  | ok
  | interrupted
  | failed

def watchpointMaxNonEintrFailures : Nat := 3

local instance someUsers : NeZero 3 := ⟨by decide⟩

variable (arm : WatchpointArm)

def requests (index : Fin 4) : UInt64 :=
  match index with
  | 0 => arm.requestKva
  | 1 => (arm.user 0).requestKva
  | 2 => (arm.user 1).requestKva
  | 3 => (arm.user 2).requestKva

def selfArmWatchpoint (vcpu : Vcpu) (outcome : SetGuestDebug) : Vcpu :=
  if !arm.anyArmed then vcpu
  else if requests arm = vcpu.armedSlots then vcpu
  else
    match outcome with
    | .ok => { armedSlots := requests arm, debugreg := requests arm, failures := 0 }
    | .interrupted => vcpu
    | .failed =>
      let failures := min (vcpu.failures + 1) 255
      if failures ≥ watchpointMaxNonEintrFailures then
        { vcpu with armedSlots := requests arm, failures := failures }
      else { vcpu with failures := failures }

def touches (kva : UInt64) (address width : Nat) : Bool := address < kva.toNat + 4 && kva.toNat < address + width

def traps (vcpu : Vcpu) (slot : Fin 3) (address width : Nat) : Bool :=
  vcpu.debugreg slot.succ != 0 && touches (vcpu.debugreg slot.succ) address width

def latchUserHit (slot : WatchpointSlot) : WatchpointSlot := if slot.hit then slot else { slot with hit := true }

def dispatchWatchpointHit (trapBits : Fin 3 → Bool) : WatchpointArm :=
  { arm with user := fun slot => if trapBits slot then latchUserHit (arm.user slot) else arm.user slot }

/-- Why a registration was refused, with the values in the message. -/
inductive ArmError
  | noFreeSlot (cap : Nat)
  | symbolNotFound (symbol : String)
  | kvaZero (symbol : String)
  | unaligned (symbol : String) (kva : UInt64)

variable (lookup : String → Option UInt64)

def armUserWatchpoint (symbol : String) (kaslrOffset : UInt64) : Except ArmError (Fin 3 × UInt64) :=
  match (List.finRange 3).find? fun slot => (arm.user slot).requestKva == 0 with
  | none => .error (.noFreeSlot 3)
  | some slot =>
    match lookup symbol with
    | none => .error (.symbolNotFound symbol)
    | some linkKva =>
      let kva := linkKva + kaslrOffset
      if kva = 0 then .error (.kvaZero symbol)
      else if kva % 4 ≠ 0 then .error (.unaligned symbol kva)
      else .ok (slot,kva)

/-- Where the coordinator is: at its requests, between the two stores of a registration, or in the loop over the user
slots. -/
inductive Coordinator
  | requests
  | publishing (slot : Fin 3) (kva : UInt64)
  | scanning (next : Nat)
  | taken (slot : Fin 3)
  | tagged (slot : Fin 3) (tag : String)
  | captured (slot : Fin 3) (tag : String)
  | stored (slot : Fin 3)
  | cleared (slot : Fin 3)

/-- What has happened so far: registrations accepted, stores of the guest and reports stored on the bridge. -/
inductive Entry
  | accepted (slot : Fin 3) (tag : String) (kva : UInt64)
  | written (address width : Nat)
  | stored (tag : String)
deriving DecidableEq

structure State where
  arm : WatchpointArm := {}
  vcpus : Nat → Vcpu := fun _ => {}
  coordinator : Coordinator := .requests
  onDemandInFlight : Bool := false
  history : List Entry := []

inductive Event
  | watch (symbol : String) (kaslrOffset : UInt64)
  | errExit (kva : UInt64)
  | gate (held : Bool)
  | coordinate
  | selfArm (vcpu : Nat) (outcome : SetGuestDebug)
  | write (vcpu : Nat) (address width : Nat)

def WatchpointArm.set (slot : Fin 3) (cells : WatchpointSlot) : WatchpointArm :=
  { arm with user := Function.update arm.user slot cells }

variable (state : State)

def coordinate : State :=
  match state.coordinator with
  | .requests => { state with coordinator := .scanning 0 }
  | .publishing slot kva =>
    let cells := state.arm.user slot
    { state with
      arm := { state.arm.set slot { cells with requestKva := kva } with anyArmed := true }
      coordinator := .requests
      history := state.history ++ [.accepted slot cells.tag kva] }
  | .scanning next =>
    if inside : next < 3 then
      let slot : Fin 3 := ⟨next,inside⟩
      let cells := state.arm.user slot
      if cells.hit then
        { state with arm := state.arm.set slot { cells with hit := false }, coordinator := .taken slot }
      else { state with coordinator := .scanning (next + 1) }
    else { state with coordinator := .requests }
  | .taken slot => { state with coordinator := .tagged slot (state.arm.user slot).tag }
  | .tagged slot tag =>
    if state.onDemandInFlight then
      { state with
        arm := state.arm.set slot { state.arm.user slot with hit := true }
        coordinator := .scanning (slot + 1) }
    -- Frozen, captured and thawed again; a capture that was degraded or suppressed leaves a placeholder.
    else { state with onDemandInFlight := true, coordinator := .captured slot tag }
  | .captured slot tag =>
    { state with coordinator := .stored slot, history := state.history ++ [.stored tag] }
  | .stored slot =>
    { state with arm := state.arm.set slot { state.arm.user slot with tag := "" }, coordinator := .cleared slot }
  | .cleared slot =>
    { state with
      arm := state.arm.set slot { state.arm.user slot with requestKva := 0 }
      onDemandInFlight := false
      coordinator := .scanning (slot + 1) }

def watch (symbol : String) (kaslrOffset : UInt64) : State :=
  match state.coordinator,state.onDemandInFlight with
  | .requests,false =>
    match armUserWatchpoint state.arm lookup symbol kaslrOffset with
    | .error _ => state
    | .ok (slot,kva) =>
      { state with
        arm := state.arm.set slot { state.arm.user slot with tag := symbol }
        coordinator := .publishing slot kva }
  | _,_ => state

def step : Event → State
  | .watch symbol kaslrOffset => watch lookup state symbol kaslrOffset
  | .errExit kva => { state with arm := { state.arm with requestKva := kva, anyArmed := true } }
  | .gate held => { state with onDemandInFlight := held }
  | .coordinate => coordinate state
  | .selfArm vcpu outcome =>
    let armed := selfArmWatchpoint state.arm (state.vcpus vcpu) outcome
    { state with vcpus := Function.update state.vcpus vcpu armed }
  | .write vcpu address width =>
    { state with
      arm := dispatchWatchpointHit state.arm fun slot => traps (state.vcpus vcpu) slot address width
      history := state.history ++ [.written address width] }

end Ktstr.Source.Watchpoints
