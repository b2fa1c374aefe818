import GuestBoundary.Codec

/-!
# Arenas

An arena is a guest memory with no guest behind it: a byte array, a bump allocator, and a log of
the allocator calls. Its mode lets the allocator misbehave in every way a real guest's may.
-/

namespace GuestBoundary

inductive AllocatorCall where
  | realloc (oldAddress oldLength align newLength : Word)
  | free (address length align : Word)
deriving DecidableEq, Repr

namespace Arena

/-- How the allocator of an arena behaves. -/
inductive Mode where
  /-- Hands out the next aligned address. -/
  | bump
  /-- As `bump`, and extends the memory to hold what was handed out. -/
  | grow
  /-- As `bump`, and cuts the memory to at most `size` bytes. -/
  | shrink (size : Nat)
  /-- Hands out the same address whatever is asked for. -/
  | force (address : Word)
  /-- Fails, also when freeing. -/
  | fail (fault : Fault)
deriving DecidableEq

end Arena

structure Arena where
  memory : Bytes
  next : Nat := 16
  mode : Arena.Mode := .bump
  calls : Array AllocatorCall := #[]

namespace Arena

def roundUp (address align : Nat) : Nat := (address + align - 1) / align * align

/-- Moves the allocator past `length` aligned bytes and returns their address. -/
def bump (arena : Arena) (align length : Word) : Nat × Arena :=
  let address := roundUp arena.next (max 1 (Word.signed align).toNat)
  (address, { arena with next := address + length.toNat })

def realloc (oldAddress oldLength align newLength : Word) : Attempt Arena Word := do
  modify fun arena =>
    { arena with calls := arena.calls.push (.realloc oldAddress oldLength align newLength) }
  let arena ← get
  let (address, moved) := arena.bump align newLength
  match arena.mode with
  | .force address => return address
  | .fail fault => throw fault
  | .bump =>
      set moved
      return UInt32.ofNat address
  | .grow =>
      set { moved with memory := moved.memory.extend moved.next }
      return UInt32.ofNat address
  | .shrink size =>
      set { moved with memory := moved.memory.truncate size }
      return UInt32.ofNat address

def free (address length align : Word) : Attempt Arena Unit := do
  modify fun arena => { arena with calls := arena.calls.push (.free address length align) }
  match (← get).mode with
  | .fail fault => throw fault
  | _ => return ()

def guestMemory : GuestMemory Arena where
  bytes := Arena.memory
  setBytes memory arena := { arena with memory }
  realloc := realloc
  free := free

end Arena

end GuestBoundary
