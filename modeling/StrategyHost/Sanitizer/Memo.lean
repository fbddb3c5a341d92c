import StrategyHost.Digest.Sha256
import StrategyHost.Sanitizer.Findings

/-! # Remembered verdicts

A `Sanitizer` answers for a source with the verdict of its findings. It remembers a bounded number of verdicts by
content hash; which one makes room for a new one does not matter for any answer. -/

namespace StrategyHost

structure Sanitizer where
  /-- What reads the components among the sources. -/
  read : Wasm.ComponentReader
  policy : Policy
  memo : List (String × Verdict)

namespace Sanitizer

def new (read : Wasm.ComponentReader) (p : Policy) : Sanitizer := ⟨read, p, []⟩

/-- The verdict on a source, without any memory. -/
def judge (read : Wasm.ComponentReader) (p : Policy) (text : String) : Verdict :=
  .ofFindings (Sha256.ofText text) (findings read p text)

def memoSize (s : Sanitizer) : Nat := s.memo.length

/-- Remembers a verdict. If the memo is full, the entry at `victim` makes room. -/
def remember (s : Sanitizer) (victim : Nat) (hash : String) (v : Verdict) : Sanitizer :=
  if s.policy.memoCapacity = 0 then s
  else if s.policy.memoCapacity ≤ s.memo.length then
    { s with memo := s.memo.eraseIdx (victim % s.memo.length) ++ [(hash, v)] }
  else { s with memo := s.memo ++ [(hash, v)] }

/-- The verdict on a source, where the entry at `victim` makes room if one has to. -/
def analyzeEvicting (s : Sanitizer) (victim : Nat) (text : String) : Verdict × Sanitizer :=
  let hash := Sha256.ofText text
  match s.memo.lookup hash with
  | some v => (v, s)
  | none =>
    let v := judge s.read s.policy text
    (v, s.remember victim hash v)

def analyze (s : Sanitizer) (text : String) : Verdict × Sanitizer := s.analyzeEvicting 0 text

end Sanitizer

end StrategyHost
