import GuestBoundary.Event.Session
import GuestBoundary.Guest.Script

/-!
# A guest that keeps records

A guest that keeps the event contract. An event is a record of nine pairs of words, the address
and the length of each field; its representation is the record's address. A setter stores the pair
it is given; a getter hands out a copy. The handler accepts an event whose first four attributes
are not empty, and hands on the handle it was given.
-/

namespace GuestBoundary.Event.RecordGuest

/-- The return area: a first word, and a second one at the payload's distance. -/
def returnArea : Word := 8

def recordSize : Word := 72

def fieldNames : List String := Attribute.all.map (·.name) ++ ["data"]

def answer (first second : Word) : Code 1 Word := do
  .storeWord returnArea.toNat first
  .storeWord (returnArea + returnAreaOffset).toNat second
  return returnArea

def dropHandle (handle : Word) : Code 1 Unit := do
  discard (.ask .drop eventKind handle)

def create : Code 1 Word := do
  let record ← .allocate 0 0 4 recordSize
  .writeBytes record.toNat (List.replicate recordSize.toNat 0)
  .ask .new eventKind record

def slot (handle : Word) (field : Nat) : Code 1 Word := do
  return (← .ask .get eventKind handle) + 8 * UInt32.ofNat field

def set (field : Nat) (handle address length : Word) : Code 1 Word := do
  let slot ← slot handle field
  .storeWord slot.toNat address
  .storeWord (slot.toNat + 4) length
  dropHandle handle
  return 0

def get (field : Nat) (handle : Word) : Code 1 Word := do
  let slot ← slot handle field
  let length ← .loadWord (slot.toNat + 4)
  let copy ← .allocate 0 0 1 length
  let address ← .loadWord slot.toNat
  .copyBytes copy address length
  dropHandle handle
  answer copy length

/-- Accepts an event whose first four attributes are not empty. -/
def handle (handle : Word) : Code 1 Word := do
  let record ← .ask .get eventKind handle
  let lengths ← [4, 12, 20, 28].mapM fun offset => Code.loadWord (record.toNat + offset)
  if lengths.contains 0 then
    dropHandle handle
    answer 1 (ErrorCode.code Rejection.error).toUInt32
  else answer 0 handle

def accessors (field : Nat) (name : String) : List (Definition 1) :=
  [{ name := resourceName ++ "::get-" ++ name
     signature := .words 1
     body := .code fun arguments => get field (arguments.getD 0 0) },
   { name := resourceName ++ "::set-" ++ name
     signature := .wordsToUnit 3
     body := .code fun arguments =>
       set field (arguments.getD 0 0) (arguments.getD 1 0) (arguments.getD 2 0) }]

def definitions : List (Definition 1) :=
  let names : Names := {}
  [{ name := names.realloc
     signature := .words 4
     body := .code fun arguments =>
       .allocate (arguments.getD 0 0) (arguments.getD 1 0) (arguments.getD 2 0)
         (arguments.getD 3 0) },
   { name := names.free, signature := .wordsToUnit 3, body := .script [] },
   { name := names.dropExport resourceName, signature := .wordsToUnit 1, body := .script [] },
   { name := resourceName ++ "::create", signature := .words 0, body := .code fun _ => create }] ++
  fieldNames.zipIdx.flatMap (fun (name, field) => accessors field name) ++
  [{ name := "ce-handler"
     signature := .words 1
     body := .code fun arguments => handle (arguments.getD 0 0) },
   { name := "test::clone"
     signature := .words 1
     body := .script
       [.lifecycle .clone eventKind (.parameter 0),
        .lifecycle .drop eventKind (.parameter 0),
        .finish (.value 0)] },
   { name := "test::drop"
     signature := .wordsToUnit 1
     body := .script [.lifecycle .drop eventKind (.parameter 0)] }]

end GuestBoundary.Event.RecordGuest
