import GuestBoundary.Memory.Scalar

/-!
# Guest programs

A guest program is a number of functions, with what it imports and exports.

## Code

Guest code is a tree: at each node it is done, traps, or performs a command and goes on with the
answer. Any guest whose calls end is such a tree, so a statement about all guests is a statement
about all trees. What the commands do is not part of the code; it is decided by whoever runs it.
-/

namespace GuestBoundary

inductive Lifecycle where
  /-- Wraps a representation and answers with a handle. -/
  | new
  /-- Answers with a second handle to the same resource. -/
  | clone
  /-- Answers with the representation. -/
  | get
  | drop
deriving DecidableEq, Repr

inductive Command (kinds : Nat) where
  /-- Reads bytes; traps unless all of them are inside the memory. -/
  | read (address length : Nat)
  /-- Writes bytes; traps and writes nothing unless all of them are inside the memory. -/
  | write (address : Nat) (data : List UInt8)
  /-- Copies bytes, which may overlap their copies; traps and writes nothing unless all of them
  are inside the memory. -/
  | copy (target source length : Nat)
  | pages
  /-- Adds pages; answers with the old number, or -1 when there is no room. -/
  | grow (pages : Word)
  | readGlobal (index : Nat)
  | writeGlobal (index : Nat) (value : Word)
  | lifecycle (action : Lifecycle) (kind : Fin kinds) (argument : Word)
  /-- Takes stack for a call inside the guest; traps when too little is left. -/
  | enterFrame (size : Nat)
  | leaveFrame (size : Nat)
deriving DecidableEq

namespace Command

variable {kinds : Nat}

/-- The type of the answer to a command. -/
abbrev Answer : Command kinds → Type
  | .read .. => List UInt8
  | .write .. | .copy .. | .writeGlobal .. | .enterFrame _ | .leaveFrame _ => Unit
  | .pages | .grow .. | .readGlobal .. | .lifecycle .. => Word

/-- The stack left after a command, if there is enough for it. -/
def roomAfter (room : Nat) : Command kinds → Option Nat
  | .enterFrame size => if size ≤ room then some (room - size) else none
  | .leaveFrame size => some (room + size)
  | _ => some room

end Command

/-- Guest code that ends with a value or a trap. -/
inductive Code (kinds : Nat) (α : Type) where
  | done (value : α)
  | trap (reason : String)
  | perform (command : Command kinds) (next : command.Answer → Code kinds α)

namespace Code

variable {kinds : Nat} {α β : Type}

def bind : Code kinds α → (α → Code kinds β) → Code kinds β
  | done value, next => next value
  | trap reason, _ => trap reason
  | perform command rest, next => perform command fun answer => (rest answer).bind next

instance : Monad (Code kinds) where
  pure := done
  bind := bind

def send (command : Command kinds) : Code kinds command.Answer := perform command done

end Code

/-!
## Programs

A guest program as a host meets it: functions with their signatures, what it imports, what it
exports under which name, and how it starts.
-/

inductive ValueType where
  | i32
  | i64
  | f32
  | f64
  | v128
  /-- A reference, with the name of the type of what it refers to. -/
  | reference (type : String)
deriving DecidableEq, Repr

structure Signature where
  parameters : List ValueType
  results : List ValueType
deriving DecidableEq, Repr

namespace Signature

def words (arity : Nat) : Signature := ⟨List.replicate arity .i32, [.i32]⟩

def wordsToUnit (arity : Nat) : Signature := ⟨List.replicate arity .i32, []⟩

end Signature

structure Import where
  space : String
  name : String
  signature : Signature
deriving DecidableEq, Repr

inductive Export where
  | function (index : Nat)
  | memory
  /-- A memory that other threads may change, which no host function works on. -/
  | sharedMemory
  | global
  | table
  | tag
deriving DecidableEq, Repr

/-- A guest function. Its result is a word in any case; a signature without results hides it. -/
structure Function (kinds : Nat) where
  signature : Signature
  body : List Word → Code kinds Word

/-- A guest before it is started. -/
structure Program (kinds : Nat) where
  functions : Array (Function kinds)
  imports : List Import
  exports : List (String × Export)
  start : Option Nat := none
  pages : Nat := 1
  globals : Array Word := #[]

namespace Program

variable {kinds : Nat}

/-- The code of a function; there is none behind an index that is no function's. -/
def body (program : Program kinds) (function : Nat) (arguments : List Word) : Code kinds Word :=
  match program.functions[function]? with
  | some found => found.body arguments
  | none => .trap "undefined function"

def exportedFunction? (program : Program kinds) (name : String) : Option (Nat × Signature) :=
  match program.exports.lookup name with
  | some (.function index) => program.functions[index]?.map fun found => (index, found.signature)
  | _ => none

def exportsMemory (program : Program kinds) (name : String) : Bool :=
  program.exports.lookup name = some .memory

end Program

/-!
## Memory access

How guest code reaches its own memory. Addresses are naturals: an access whose end passes the end
of the memory traps, even where the end is no word.
-/

namespace Code

variable {kinds : Nat}

def readBytes (address length : Nat) : Code kinds (List UInt8) := send (.read address length)

def writeBytes (address : Nat) (data : List UInt8) : Code kinds Unit :=
  send (.write address data)

def loadWord (address : Nat) : Code kinds Word := do
  return Scalar.ofBytes (← readBytes address (Scalar.size Word))

def storeWord (address : Nat) (value : Word) : Code kinds Unit :=
  writeBytes address (Scalar.encode value)

/-- Copies bytes; source and target may overlap, and both have to be inside the memory. -/
def copyBytes (target source length : Word) : Code kinds Unit :=
  send (.copy target.toNat source.toNat length.toNat)

def ask (action : Lifecycle) (kind : Fin kinds) (argument : Word) : Code kinds Word :=
  send (.lifecycle action kind argument)

end Code

/-!
## An allocator

A bump allocator as guest code. Its only state is a global that holds the least address not handed
out; nothing is ever reused, and memory grows when the end of an allocation passes its end. All its
arithmetic is modulo 2^32.
-/

namespace Code

variable {kinds : Nat}

/-- The global that holds the least address not handed out. -/
def heapGlobal : Nat := 0

def heapStart : Word := 4096

/-- The least multiple of `align`, a power of two, that is at least `address`. -/
def alignUp (address align : Word) : Word := (address + (align - 1)) &&& (0 - align)

/-- Adds the pages that an allocation up to `stop` needs, or traps. -/
def reserve (stop : Word) : Code kinds Unit := do
  let pages : Word ← send .pages
  let size := pages <<< 16
  if size < stop then
    let before : Word ← send (.grow (((stop - size) >>> 16) + 1))
    if before = -1 then trap "out of memory"

/-- Hands out `length` bytes and moves the old contents there. -/
def allocate (oldAddress oldLength align length : Word) : Code kinds Word := do
  let next : Word ← send (.readGlobal heapGlobal)
  let address := alignUp next align
  reserve (address + length)
  (send (.writeGlobal heapGlobal (address + length)) : Code kinds Unit)
  unless oldLength = 0 do copyBytes address oldAddress oldLength
  return address

end Code

end GuestBoundary
