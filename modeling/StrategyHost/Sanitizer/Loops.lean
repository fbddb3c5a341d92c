import StrategyHost.Wasm.Module

/-! # Loops without an exit

A scan over the instructions of a body with a stack of frames. It counts the loops that have an unconditional branch
back to their start, outside any condition within the loop, and nothing inside that leaves them. -/

namespace StrategyHost.Sanitizer
open Wasm

/-- What an instruction means for the flow of control. -/
inductive Flow where
  | enterBlock
  | enterLoop
  | enterConditional
  | leave
  | jump (label : Nat)
  | jumpIf (label : Nat)
  | jumpTable (labels : List Nat) (default : Nat)
  /-- Leaves the function. -/
  | exit
  | other
deriving DecidableEq, Repr

def Flow.ofInstr : Instr Nat → Flow
  | .block .loop _ => enterLoop
  | .block .conditional _ => enterConditional
  | .block _ _ => enterBlock
  | .close => leave
  | .br l => jump l
  | .brIf l => jumpIf l
  | .brTable ls d => jumpTable ls d
  | .ret | .tailCall _ | .tailCallIndirect _ _ | .unreachable => exit
  | _ => other

inductive LoopFrameKind where
  | block | loop | conditional
deriving DecidableEq, Repr

/-- A frame, whether an unconditional branch goes back to its start, and whether anything inside leaves it. -/
structure LoopFrame where
  kind : LoopFrameKind
  backEdge : Bool
  exits : Bool
deriving DecidableEq, Repr

namespace LoopFrame

def new (kind : LoopFrameKind) : LoopFrame := ⟨kind, false, false⟩

def isUnbounded (f : LoopFrame) : Bool := f.kind == .loop && f.backEdge && !f.exits

def markLoop (f : LoopFrame) : LoopFrame := if f.kind == .loop then { f with exits := true } else f

def markExit (f : LoopFrame) : LoopFrame := { f with exits := true }

end LoopFrame

/-- The frames, innermost first, and the count of the loops that have closed. -/
structure LoopScan where
  frames : List LoopFrame
  unbounded : Nat
deriving DecidableEq, Repr

namespace LoopScan

def start : LoopScan := ⟨[.new .block], 0⟩

def enter (s : LoopScan) (kind : LoopFrameKind) : LoopScan := { s with frames := .new kind :: s.frames }

/-- A branch to the frame at depth `label`: it leaves the loops inside of that frame. -/
def branch (s : LoopScan) (label : Nat) (conditional : Bool) : LoopScan :=
  match s.frames.drop label with
  | [] => s
  | target :: outer =>
    let inner := s.frames.take label
    let straight := inner.all fun f => f.kind != .conditional
    let target :=
      if !conditional && straight && target.kind == .loop then { target with backEdge := true } else target
    { s with frames := inner.map LoopFrame.markLoop ++ target :: outer }

def step (s : LoopScan) : Flow → LoopScan
  | .enterBlock => s.enter .block
  | .enterLoop => s.enter .loop
  | .enterConditional => s.enter .conditional
  | .leave =>
    match s.frames with
    | [] => s
    | f :: frames => ⟨frames, if f.isUnbounded then s.unbounded + 1 else s.unbounded⟩
  | .jump l => s.branch l false
  | .jumpIf l => s.branch l true
  | .jumpTable ls d => (d :: ls).foldl (fun s l => s.branch l true) s
  | .exit => { s with frames := s.frames.map LoopFrame.markExit }
  | .other => s

def run (flows : List Flow) : LoopScan := flows.foldl step start

end LoopScan

/-- The number of loops of a body that cannot be left. -/
def unboundedLoops (b : Body) : Nat := (LoopScan.run (b.map Flow.ofInstr)).unbounded

def callsIndirectly (b : Body) : Bool := b.any fun i => match i with
  | .callIndirect _ _ | .tailCallIndirect _ _ => true
  | _ => false

end StrategyHost.Sanitizer
