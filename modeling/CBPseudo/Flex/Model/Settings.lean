import CBPseudo.Flex.Model.Flex

/-!
# The pseudo-flex heap — the code of its settings

The functions of `PseudoFlex.c` that do not move blocks: two settings that
are kept and handed back but decide nothing, a compaction that has nothing
to do, and the check that Fortify allocates blocks of no bytes.
-/

namespace CBPseudo

open Common

namespace Flex

/-- **The settings**: two static variables. -/
structure Settings where
  /-- Compact on frees. -/
  deferCompact : ℤ
  /-- Refuse to budge. -/
  budgeState : ℤ
  deriving DecidableEq

/-- At start-up. -/
def Settings.initial : Settings := ⟨0, 0⟩

/-- Change whether blocks may budge, or ask. -/
def pseudoFlexSetBudge (debug : Bool) (newstate : ℤ) (c : Settings) :
    Except Fault (ℤ × Settings) := do
  let oldstate := c.budgeState
  cassert debug (newstate ≥ -1 ∧ newstate ≤ 1)
  if newstate ≠ -1 then .ok (oldstate, { c with budgeState := newstate }) else .ok (oldstate, c)

/-- Change whether compaction is deferred. -/
def pseudoFlexSetDeferredCompaction (debug : Bool) (newstate : ℤ) (c : Settings) :
    Except Fault (ℤ × Settings) := do
  let oldstate := c.deferCompact
  cassert debug (newstate = 0 ∨ newstate = 1)
  .ok (oldstate, { c with deferCompact := newstate })

/-- Compact the heap. -/
def pseudoFlexCompact : ℤ := 0

/-- Initialise: with the rate at which Fortify makes allocations fail set to
nought, allocate a block of no bytes and free it. `A` is the allocator's
answer at that rate, and the second result the rate afterwards. -/
def pseudoFlexInit (debug : Bool) (A : Allocator) (percent : ℤ) (s : State) :
    Except Fault (State × ℤ) := do
  let (test, heap) := s.heap.malloc A 0
  cassert debug test.isSome
  let heap ← heap.free test
  .ok ({ s with heap := heap }, percent)

end Flex

end CBPseudo
