import GuestBoundary.Engine
import GuestBoundary.Guest.Program

/-!
# Scripted guests

Scripts describe guest functions step by step. A step uses numbers, the parameters of the function
and the values of earlier steps; a step that has no value or has not run counts as zero. There are
no loops, so a script ends unless a function that it calls does not.

The code of a script is built from its end: each step is given the code that follows it. A chain of
calls, however long, is then one code after the other and never code inside code.
-/

namespace GuestBoundary

inductive Operand where
  | literal (value : Word)
  | parameter (index : Nat)
  | value (step : Nat)
deriving DecidableEq, Repr

inductive Step (kinds : Nat) where
  | lifecycle (action : Lifecycle) (kind : Fin kinds) (argument : Operand)
  | load (address : Operand)
  | store (address value : Operand)
  | storeByte (address value : Operand)
  | add (left right : Operand)
  | allocate (align length : Operand)
  | grow (pages : Operand)
  | trap
  | trapIfEqual (left right : Operand)
  | finish (value : Operand)
  | finishIfEqual (left right value : Operand)
  | call (function : String) (arguments : List Operand) (expectsValue : Bool)
deriving DecidableEq, Repr

/-- The words that a step can refer to. -/
structure Frame where
  parameters : List Word
  values : Array Word := #[]
deriving DecidableEq, Repr

namespace Frame

def read (frame : Frame) : Operand → Word
  | .literal value => value
  | .parameter index => frame.parameters.getD index 0
  | .value step => frame.values.getD step 0

def push (frame : Frame) (value : Word) : Frame :=
  { frame with values := frame.values.push value }

end Frame

/-- The code that follows, given a word. -/
abbrev Rest (kinds : Nat) := Word → Code kinds Word

/-- How functions of the guest are called: by name, and with what follows the call. -/
abbrev Callee (kinds : Nat) := String → List Word → Rest kinds → Code kinds Word

namespace Step

variable {kinds : Nat}

/-- The code of a step: `next` follows with the step's value, `finish` with the function's. -/
def code (callee : Callee kinds) (frame : Frame) (next finish : Rest kinds) :
    Step kinds → Code kinds Word
  | .lifecycle action kind argument => (Code.ask action kind (frame.read argument)).bind next
  | .load address => (Code.loadWord (frame.read address).toNat).bind next
  | .store address value =>
      (Code.storeWord (frame.read address).toNat (frame.read value)).bind fun _ => next 0
  | .storeByte address value =>
      (Code.writeBytes (frame.read address).toNat [(frame.read value).toUInt8]).bind
        fun _ => next 0
  | .add left right => next (frame.read left + frame.read right)
  | .allocate align length =>
      (Code.allocate 0 0 (frame.read align) (frame.read length)).bind next
  | .grow pages => (Code.send (.grow (frame.read pages))).bind next
  | .trap => .trap "unreachable"
  | .trapIfEqual left right =>
      if frame.read left = frame.read right then .trap "unreachable" else next 0
  | .finish value => finish (frame.read value)
  | .finishIfEqual left right value =>
      if frame.read left = frame.read right then finish (frame.read value) else next 0
  | .call function arguments expectsValue =>
      callee function (arguments.map frame.read) fun value =>
        next (if expectsValue then value else 0)

def codeAll (callee : Callee kinds) (finish : Rest kinds) :
    Frame → List (Step kinds) → Code kinds Word
  | _, [] => finish 0
  | frame, step :: rest =>
      step.code callee frame (fun value => codeAll callee finish (frame.push value) rest) finish

/-- The operands that count in a function with or without a result. -/
def operands (hasResult : Bool) : Step kinds → List Operand
  | .lifecycle _ _ operand | .load operand | .grow operand => [operand]
  | .store left right | .storeByte left right | .add left right | .allocate left right
  | .trapIfEqual left right => [left, right]
  | .trap => []
  | .finish value => if hasResult then [value] else []
  | .finishIfEqual left right value => if hasResult then [left, right, value] else [left, right]
  | .call _ arguments _ => arguments

end Step

/-!
## Simplification

Simplifying a script finds the words that are bound to be equal and gives each of them one name,
the operand that has it first. Sums of constants are constants; of two equal sums, and of two loads
of one address with nothing in between that could change it, the second needs no step; a load after
a store to its address is the word stored. What stands after the end of a script is left out.
-/

namespace Step

variable {kinds : Nat}

def mapOperands (change : Operand → Operand) : Step kinds → Step kinds
  | .lifecycle action kind argument => .lifecycle action kind (change argument)
  | .load address => .load (change address)
  | .store address value => .store (change address) (change value)
  | .storeByte address value => .storeByte (change address) (change value)
  | .add left right => .add (change left) (change right)
  | .allocate align length => .allocate (change align) (change length)
  | .grow pages => .grow (change pages)
  | .trap => .trap
  | .trapIfEqual left right => .trapIfEqual (change left) (change right)
  | .finish value => .finish (change value)
  | .finishIfEqual left right value =>
      .finishIfEqual (change left) (change right) (change value)
  | .call function arguments expectsValue =>
      .call function (arguments.map change) expectsValue

def isEnd : Step kinds → Bool
  | .trap | .finish _ => true
  | _ => false

def isBranch : Step kinds → Bool
  | .trapIfEqual .. | .finishIfEqual .. => true
  | _ => false

/-- Whether a step leaves the function for a while. -/
def isCall : Step kinds → Bool
  | .lifecycle .. | .allocate .. | .grow .. | .call .. => true
  | _ => false

/-- Whether a step reads or writes memory itself. -/
def isAccess : Step kinds → Bool
  | .load _ | .store .. | .storeByte .. => true
  | _ => false

/-- Whether a step has a value that only running it tells. -/
def hasAnswer : Step kinds → Bool
  | .lifecycle .drop _ _ => false
  | .lifecycle .. | .load _ | .allocate .. | .grow _ => true
  | .call _ _ expectsValue => expectsValue
  | _ => false

end Step

/-- What is known of the words of a script, step by step. -/
structure KnownWords where
  names : Array Operand := #[]
  /-- The sums so far, a constant on the right, with their names. -/
  sums : List ((Operand × Operand) × Operand) := []
  /-- The names of the words at some addresses. -/
  memory : List (Operand × Operand) := []

namespace KnownWords

variable {kinds : Nat} (known : KnownWords)

def name : Operand → Operand
  | .value step => known.names.getD step (.literal 0)
  | operand => operand

def push (name : Operand) : KnownWords := { known with names := known.names.push name }

/-- A sum with a constant, which is added to the constant of an earlier sum. -/
def offset (word : Operand) (constant : Word) : Operand × Operand :=
  match known.sums.find? (·.2 = word) with
  | some ((base, .literal earlier), _) => (base, .literal (earlier + constant))
  | _ => (word, .literal constant)

/-- A sum in the form in which it is listed. -/
def sum : (left right : Operand) → Operand × Operand
  | .literal left, .literal right => (.literal (left + right), .literal 0)
  | .literal constant, word | word, .literal constant => known.offset word constant
  | left, right => (left, right)

def learn (step : Step kinds) : Option (Step kinds) × KnownWords :=
  let own := Operand.value known.names.size
  match step with
  | .add left right =>
      let (left, right) := known.sum left right
      if right = .literal 0 then (none, known.push left)
      else match known.sums.lookup (left, right) with
        | some earlier => (none, known.push earlier)
        | none =>
            (some (.add left right),
              { known.push own with sums := ((left, right), own) :: known.sums })
  | .load address =>
      match known.memory.lookup address with
      | some word => (none, known.push word)
      | none => (some step, { known.push own with memory := (address, own) :: known.memory })
  | .store address value =>
      (some step, { known.push (.literal 0) with memory := [(address, value)] })
  | .trap | .trapIfEqual .. | .finish _ | .finishIfEqual .. =>
      (some step, known.push (.literal 0))
  | .lifecycle .. | .storeByte .. | .allocate .. | .grow _ | .call .. =>
      (some step, { known.push (if step.hasAnswer then own else .literal 0) with memory := [] })

/-- The steps that are still needed, each in its place and with named operands. -/
def simplify : KnownWords → List (Step kinds) → List (Option (Step kinds))
  | _, [] => []
  | known, step :: rest =>
      let (needed, after) := known.learn (step.mapOperands known.name)
      needed :: if step.isEnd then [] else simplify after rest

end KnownWords

/-!
## Frame sizes

A function keeps on the stack the words that outlive its calls: those made before a call and
needed after it. The answer of a step is made where the step stands. A sum is made where it is
first needed, and one with a constant is made anew after each branch, so a sum that no step before
a call needs is not kept over the call; the words that it is made from are.
-/

/-- The part of a script in which a word is there. -/
structure Lifetime where
  made : Nat
  last : Nat
deriving DecidableEq, Repr

namespace Lifetime

def ofNeeds? (needs : List Nat) : Option Lifetime := do
  return { made := ← needs.min?, last := ← needs.max? }

/-- The lifetime of a word that is made before a step. -/
def since? (made : Nat) (needs : List Nat) : Option Lifetime := do
  return { made, last := ← needs.max? }

def outlives (lifetime : Lifetime) (call : Nat) : Bool :=
  lifetime.made ≤ call && call < lifetime.last

end Lifetime

/-- Words with the steps that need them, and the lifetimes of other words. -/
structure WordUse where
  needs : List (Operand × Nat) := []
  lifetimes : List Lifetime := []

namespace WordUse

def needsOf (use : WordUse) (word : Operand) : List Nat :=
  (use.needs.filter (·.1 = word)).map (·.2)

def require (use : WordUse) (word : Operand) (steps : List Nat) : WordUse :=
  match word with
  | .literal _ => use
  | _ => { use with needs := steps.map (word, ·) ++ use.needs }

def live (use : WordUse) (lifetimes : List Lifetime) : WordUse :=
  { use with lifetimes := lifetimes ++ use.lifetimes }

end WordUse

/-- A simplified script, of a function with or without a result. -/
structure Outline (kinds : Nat) where
  steps : List (Option (Step kinds))
  hasResult : Bool

namespace Outline

variable {kinds : Nat} (outline : Outline kinds)

def places (isOf : Step kinds → Bool) : List Nat :=
  outline.steps.zipIdx.filterMap fun (step, index) =>
    if step.any isOf then some index else none

def branchesBefore (index : Nat) : Nat := (outline.steps.take index).countP (·.any Step.isBranch)

/-- The lifetimes of a sum, given where it is needed. -/
def sumLifetimes (right : Operand) (needs : List Nat) : List Lifetime :=
  match right with
  | .literal _ =>
      (needs.map outline.branchesBefore).eraseDups.filterMap fun branches =>
        Lifetime.ofNeeds? (needs.filter (outline.branchesBefore · = branches))
  | _ => (Lifetime.ofNeeds? needs).toList

def useFrom : (index : Nat) → List (Option (Step kinds)) → WordUse
  | _, [] => {}
  | index, none :: rest => useFrom (index + 1) rest
  | index, some step :: rest =>
      let use := useFrom (index + 1) rest
      let needs := use.needsOf (.value index)
      match step with
      | .add left right =>
          let lifetimes := outline.sumLifetimes right needs
          let made := lifetimes.map (·.made)
          ((use.live lifetimes).require left made).require right made
      | _ =>
          (step.operands outline.hasResult).foldl (·.require · [index])
            (use.live (Lifetime.since? (index + 1) needs).toList)

def lifetimes : List Lifetime :=
  let use := outline.useFrom 0 outline.steps
  let parameters := (use.needs.map (·.1)).eraseDups.filterMap fun
    | .parameter index => Lifetime.since? 0 (use.needsOf (.parameter index))
    | _ => none
  let place := Lifetime.ofNeeds? (outline.places Step.isAccess)
  let guest := Lifetime.since? 0
    (outline.places Step.isCall ++ (place.map (·.made)).toList)
  use.lifetimes ++ parameters ++ place.toList ++ guest.toList

def mostKept : Nat :=
  let lifetimes := outline.lifetimes
  ((outline.places Step.isCall).map fun call => lifetimes.countP (·.outlives call)).foldl max 0

end Outline

/-- The bytes of stack that a call of a script takes: sixteen to return, and eight for each word
that outlives a call, in units of sixteen. -/
def frameSize {kinds : Nat} (hasResult : Bool) (steps : List (Step kinds)) : Nat :=
  let outline : Outline kinds := { steps := KnownWords.simplify {} steps, hasResult }
  16 + (outline.mostKept + 1) / 2 * 16

/-!
## Assembly

Assembling puts a guest program together from functions. Functions call each other by name; of two
functions with one name the earlier one is meant. A guest that exports two things under one name, or
whose scripts refer to what is not there, is not a program.
-/

inductive FunctionBody (kinds : Nat) where
  | script (steps : List (Step kinds))
  | code (body : List Word → Code kinds Word)

structure Definition (kinds : Nat) where
  name : String
  signature : Signature
  body : FunctionBody kinds
  exportName : Option String := some name

namespace Definition

variable {kinds : Nat}

def hasResult (definition : Definition kinds) : Bool := !definition.signature.results.isEmpty

/-- The function meant by a name. -/
def find? (definitions : List (Definition kinds)) (name : String) : Option (Definition kinds) :=
  definitions.find? (·.name = name)

end Definition

/-- A guest function with the stack that a call of it takes. -/
structure Routine (kinds : Nat) extends Definition kinds where
  frame : Nat

def Definition.routine {kinds : Nat} (definition : Definition kinds) : Routine kinds :=
  { definition with
    frame := match definition.body with
      | .code _ => 0
      | .script steps => frameSize definition.hasResult steps }

namespace Routine

variable {kinds : Nat}

/-- Calls a function; `callee` calls the functions that it calls. A script has its frame on the
stack while it runs. -/
def call (routine : Routine kinds) (callee : Callee kinds) (arguments : List Word)
    (next : Rest kinds) : Code kinds Word :=
  match routine.body with
  | .code body => (body arguments).bind next
  | .script steps =>
      .perform (.enterFrame routine.frame) fun _ =>
        Step.codeAll callee (fun value => .perform (.leaveFrame routine.frame) fun _ => next value)
          { parameters := arguments } steps

def callee (routines : List (Routine kinds)) : (depth : Nat) → Callee kinds
  | 0 => fun _ _ _ => .trap "call stack exhausted"
  | depth + 1 => fun name arguments next =>
      match routines.find? (·.name = name) with
      | some routine => routine.call (callee routines depth) arguments next
      | none => .trap "undefined function"

end Routine

structure Assembly (kinds : Nat) where
  definitions : List (Definition kinds)
  /-- The namespaces that lifecycle functions are imported from, and for which kinds. -/
  lifecycles : List (String × Fin kinds)
  furtherImports : List Import := []
  /-- The name under which the memory is exported. -/
  memoryName : Option String := some "memory"
  /-- The export names under which a global takes the place of what was there. -/
  globalNames : List String := []
  start : Option (List (Step kinds)) := none
  pages : Nat := 1

namespace Assembly

variable {kinds : Nat} (assembly : Assembly kinds)

/-- How deep calls inside a guest can nest, whatever stack the engine has. -/
def maxDepth : Nat := 65536

def exports : List (String × Export) :=
  let named := assembly.memoryName.toList.map (·, Export.memory) ++
    assembly.definitions.zipIdx.flatMap fun (definition, index) =>
      definition.exportName.toList.map (·, Export.function index)
  named.map fun (name, exported) =>
    (name, if assembly.globalNames.contains name then .global else exported)

def imports (names : Vector String kinds) : List Import :=
  (assembly.lifecycles.flatMap fun (space, kind) =>
    Lifecycle.all.map fun action => action.hostFunction space (names.get kind)) ++
    assembly.furtherImports

def operandExists (signature : Signature) : Operand → Bool
  | .parameter index => signature.parameters[index]? = some .i32
  | .literal _ | .value _ => true

def stepExists (signature : Signature) (step : Step kinds) : Bool :=
  (step.operands !signature.results.isEmpty).all (operandExists signature) &&
    match step with
    | .lifecycle _ kind _ => assembly.lifecycles.any (·.2 = kind)
    | .call function arguments expectsValue =>
        match Definition.find? assembly.definitions function with
        | some definition =>
            let results := if expectsValue then [.i32] else []
            definition.signature = ⟨arguments.map fun _ => .i32, results⟩
        | none => false
    | _ => true

def wellFormed (definition : Definition kinds) : Bool :=
  match definition.body with
  | .code _ => true
  | .script steps =>
      ([[], [.i32]] : List (List ValueType)).contains definition.signature.results &&
        steps.all (assembly.stepExists definition.signature)

/-- The function that starts the guest, which has no name for others to call. -/
def starter : Option (Definition kinds) :=
  assembly.start.map fun steps =>
    { name := "", signature := .wordsToUnit 0, body := .script steps, exportName := none }

def functions : List (Function kinds) :=
  let routines := assembly.definitions.map Definition.routine
  let callee := Routine.callee routines maxDepth
  (routines ++ assembly.starter.toList.map Definition.routine).map fun routine =>
    { signature := routine.signature
      body := fun arguments => routine.call callee arguments .done }

/-- The program, where kinds have these names. -/
def program (names : Vector String kinds) : Except Fault (Program kinds) := do
  unless (assembly.exports.map (·.1)).Nodup do throw (.failure "a name is exported twice")
  unless (assembly.definitions ++ assembly.starter.toList).all assembly.wellFormed do
    throw (.failure "a function refers to what is not there")
  return {
    functions := assembly.functions.toArray
    imports := assembly.imports names
    exports := assembly.exports
    start := assembly.starter.map fun _ => assembly.definitions.length
    pages := assembly.pages
    globals := #[Code.heapStart]
  }

end Assembly

end GuestBoundary
