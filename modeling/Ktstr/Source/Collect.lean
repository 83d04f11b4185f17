import Mathlib.Algebra.Order.Ring.Int
import Mathlib.Data.List.Basic

/-! Collecting of worker reports, from `workload/spawn/mod.rs`: each forked child writes a ready byte and its encoded
report to a pipe of its own, and the parent reads the pipes one after another under one deadline. Children, the clock and the
parent move in any order; the parent moves by one system call at a time. -/
namespace Ktstr.Source.Collect

def readyByte : UInt8 := 114

def nsPerMs : Nat := 1000000

def budgetNs : Nat := 5000000000

def i32Max : Nat := 2147483647

/-- Reports as the two codecs see them; `ξ` is what is known of a child that left none. -/
structure Format (R ξ : Type) where
  encodeOne : R → List UInt8
  decodeOne : List UInt8 → Option R
  encodeAll : List R → List UInt8
  decodeAll : List UInt8 → Option (List R)
  sentinel : (pid : Int) → (groupIdx : Nat) → ξ → R

structure Container (R : Type) where
  groups : List (Nat × Nat)
  reports : List R
  counted : reports.length = (groups.map Prod.snd).sum

inductive ForkedChildKind (R : Type)
  | worker (groupIdx : Nat) (report : R)
  | pcommContainer (container : Container R)

structure ForkedChild (R : Type) where
  pid : Int
  kind : ForkedChildKind R

variable {R ξ : Type} (format : Format R ξ)

def ForkedChild.reports (child : ForkedChild R) : List R :=
  match child.kind with
  | .worker _ report => [report]
  | .pcommContainer container => container.reports

def ForkedChild.encoded (child : ForkedChild R) : List UInt8 :=
  match child.kind with
  | .worker _ report => format.encodeOne report
  | .pcommContainer container => format.encodeAll container.reports

def ForkedChild.stream (child : ForkedChild R) : List UInt8 := readyByte :: child.encoded format

def streamOf (children : List (ForkedChild R)) (i : Nat) : List UInt8 :=
  (children[i]?.map (ForkedChild.stream format)).getD []

inductive Contribution (R : Type)
  | decoded (reports : List R)
  | padded (reports sentinels : List R)
  | failed (sentinels : List R)
deriving DecidableEq

def Contribution.reports : Contribution R → List R
  | .decoded reports => reports
  | .padded reports sentinels => reports ++ sentinels
  | .failed sentinels => sentinels

def stripReady : List UInt8 → List UInt8
  | [] => []
  | byte::rest => if byte = readyByte then rest else byte::rest

def slotGroup (slot : Nat) : Nat → List (Nat × Nat) → Nat
  | _,[] => 0
  | acc,(gi,n)::groups => if slot < acc + n then gi else slotGroup slot (acc + n) groups

def ForkedChild.decode (child : ForkedChild R) (buf : List UInt8) (exitInfo : ξ) : Contribution R :=
  let reportSlice := stripReady buf
  match child.kind with
  | .worker groupIdx _ =>
    match format.decodeOne reportSlice with
    | some report => .decoded [report]
    | none => .failed [format.sentinel child.pid groupIdx exitInfo]
  | .pcommContainer container =>
    let totalWorkers := (container.groups.map Prod.snd).sum
    match format.decodeAll reportSlice with
    | some decoded =>
      if decoded.length = totalWorkers then .decoded decoded
      else
        let decoded := decoded.take totalWorkers
        .padded decoded ((List.range' decoded.length (totalWorkers - decoded.length)).map fun slot =>
          format.sentinel child.pid (slotGroup slot 0 container.groups) exitInfo)
    | none =>
      .failed (container.groups.flatMap fun (gi,n) => List.replicate n (format.sentinel child.pid gi exitInfo))

structure Pipe where
  written : Nat := 0
  read : Nat := 0
  closed : Bool := false
deriving DecidableEq

def Pipe.readable (pipe : Pipe) : Bool := pipe.read < pipe.written || pipe.closed

def Pipe.takeByte (pipe : Pipe) : Pipe := if pipe.read < pipe.written then {pipe with read := pipe.read + 1} else pipe

inductive Phase
  | starting
  | barrier (pending : List Nat) (deadline : Nat)
  | polling (pending : List Nat) (deadline until_ : Nat)
  | draining (next : Nat)
  | signalling
  | collecting (deadline : Nat)
  | awaiting (deadline until_ : Nat)
  | reading (deadline : Nat) (buf : List UInt8)
  | finished
deriving DecidableEq

structure State (R : Type) where
  clock : Nat := 0
  pipes : Nat → Pipe := fun _ => {}
  phase : Phase := .starting
  /-- One contribution for each child that has had its turn. -/
  collected : List (Contribution R) := []

/-- What `stop_and_collect` returns for its forked children. -/
def State.reports (state : State R) : List R := state.collected.flatMap Contribution.reports

inductive Event (ξ : Type)
  | tick (ns : Nat)
  | writes (child : Nat)
  | closes (child : Nat)
  /-- The next system call of the parent; the wait status is for a child that is reaped with it. -/
  | parent (exitInfo : ξ)

variable (children : List (ForkedChild R)) (wasStarted : Bool)

variable (state : State R) (deadline : Nat)

def remainingMs : Nat := min ((deadline - state.clock) / nsPerMs) i32Max

def finishChild (buf : List UInt8) (exitInfo : ξ) : State R :=
  let next := state.collected.length
  match children[next]? with
  | none => state
  | some child =>
    {state with
      pipes := Function.update state.pipes next {state.pipes next with closed := true}
      phase := .collecting deadline
      collected := state.collected ++ [child.decode format buf exitInfo]}

/-- A poll that returned: ready bytes are consumed, and children that have one or have closed are done with. -/
def takeReady (pending : List Nat) (deadline : Nat) : State R :=
  {state with
    pipes := fun i => if i ∈ pending then (state.pipes i).takeByte else state.pipes i
    phase := .barrier (pending.filter fun i => !(state.pipes i).readable) deadline}

def parentStep (exitInfo : ξ) : State R :=
  match state.phase with
  | .starting =>
    {state with phase :=
      if wasStarted then .draining 0
      else if children.isEmpty then .signalling
      else .barrier (List.range children.length) (state.clock + budgetNs)}
  | .barrier pending deadline =>
    {state with phase :=
      if pending.isEmpty || deadline ≤ state.clock then .signalling
      else .polling pending deadline (state.clock + remainingMs state deadline * nsPerMs)}
  | .polling pending deadline until_ =>
    if pending.any (fun i => (state.pipes i).readable) || until_ ≤ state.clock then takeReady state pending deadline
    else state
  | .draining next =>
    if children.length ≤ next then {state with phase := .signalling}
    else if (state.pipes next).readable then
      {state with
        pipes := Function.update state.pipes next (state.pipes next).takeByte
        phase := .draining (next + 1)}
    else state
  | .signalling => {state with phase := .collecting (state.clock + budgetNs)}
  | .collecting deadline =>
    if children.length ≤ state.collected.length then {state with phase := .finished}
    else if remainingMs state deadline = 0 then finishChild format children state deadline [] exitInfo
    else {state with phase := .awaiting deadline (state.clock + remainingMs state deadline * nsPerMs)}
  | .awaiting deadline until_ =>
    if (state.pipes state.collected.length).readable then {state with phase := .reading deadline []}
    else if until_ ≤ state.clock then finishChild format children state deadline [] exitInfo
    else state
  | .reading deadline buf =>
    let next := state.collected.length
    let pipe := state.pipes next
    if pipe.read < pipe.written then
      {state with
        pipes := Function.update state.pipes next {pipe with read := pipe.written}
        phase := .reading deadline (buf ++ ((streamOf format children next).take pipe.written).drop pipe.read)}
    else if pipe.closed then finishChild format children state deadline buf exitInfo
    else state
  | .finished => state

def step : Event ξ → State R
  | .tick ns => {state with clock := state.clock + ns}
  | .writes i =>
    let pipe := state.pipes i
    if !pipe.closed && pipe.written < (streamOf format children i).length then
      {state with pipes := Function.update state.pipes i {pipe with written := pipe.written + 1}}
    else state
  | .closes i => {state with pipes := Function.update state.pipes i {state.pipes i with closed := true}}
  | .parent exitInfo => parentStep format children wasStarted state exitInfo

end Ktstr.Source.Collect
