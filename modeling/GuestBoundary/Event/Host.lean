import GuestBoundary.Event.Session
import GuestBoundary.Host

/-!
# Hosts with a session

A host with a session. Requests on references alone work whether the session is open or not; all
others are refused once it is gone, before anything else about them is looked at.
-/

namespace GuestBoundary.Event

inductive SessionRequest where
  | table (request : TableRequest)
  | create
  | handle (number : Nat)
  | set (number : Nat) (field : Attribute) (value : String)
  | get (number : Nat) (field : Attribute)
  | setData (number : Nat) (data : List UInt8)
  | getData (number : Nat)
  | outstanding
  | call (name : String) (arguments : List Word)
  | findExport (name : String) (signature : Signature)
deriving DecidableEq

inductive SessionReply where
  | common (reply : Reply)
  | accepted (number : Nat)
  | rejected (rejection : Rejection)
  | text (value : String)
  | data (value : List UInt8)
  | count (number : Nat)
deriving DecidableEq

def event (number : Nat) : HostRun 1 EventReference := Host.reference eventKind number

namespace Session

variable (session : Session)

def serve : SessionRequest → HostRun 1 SessionReply
  | .table request => do return .common (← Host.serveTable session.running eventKind request)
  | .create => do return .common (.held (← Host.hold (← Host.attempt session.create)))
  | .handle number => do
      match ← Host.attempt (session.handle (← event number)) with
      | .ok answer => return .accepted (← Host.hold answer)
      | .error rejection => return .rejected rejection
  | .set number field value => do
      Host.attempt (session.set (← event number) field value)
      return .common .done
  | .get number field => do return .text (← Host.attempt (session.get (← event number) field))
  | .setData number data => do
      Host.attempt (session.setData (← event number) data)
      return .common .done
  | .getData number => do return .data (← Host.attempt (session.getData (← event number)))
  | .outstanding => do return .count ((← MonadState.get).store.outstanding eventKind)
  | .call name arguments => do
      return .common (← Host.callExport session.running name arguments)
  | .findExport name signature => do
      return .common (← Host.findExport session.running name signature)

end Session

inductive Request where
  | holding (request : HoldingRequest)
  | session (request : SessionRequest)
  /-- Closes the session and drops it. -/
  | close
  | abandon
deriving DecidableEq

/-- A host and its session, until that is gone. -/
structure SessionHost where
  host : Host 1
  session : Option Session

namespace SessionHost

variable {α : Type}

/-- Starts a program and opens a session on it; the host holds nothing yet. -/
def start (engine : Engine 1) (configuration : Configuration) (program : Program 1) :
    Watched (Host 1) (Except Fault SessionHost) := do
  let (outcome, store) ←
    ((Session.start engine configuration program).watched (freshStore configuration)).embed
      Host.ofStore
  return outcome.map fun session => { host := .ofStore store, session := some session }

def withSession (state : SessionHost) (work : Session → HostRun 1 α) :
    Watched (Host 1) (Except Refusal α × SessionHost) := do
  match state.session with
  | none => return (.error .closed, state)
  | some session =>
      let (outcome, host) ← (work session).watched state.host
      return (outcome, { state with host })

/-- Carries out a request; closing and abandoning leave no session in any case. -/
def serve (state : SessionHost) :
    Request → Watched (Host 1) (Except Refusal SessionReply × SessionHost)
  | .holding request => do
      let (outcome, host) ← (Host.serveHolding eventKind request).watched state.host
      return (outcome.map .common, { state with host })
  | .session request => state.withSession (·.serve request)
  | .close => do
      let (outcome, state) ← state.withSession fun session =>
        Host.attempt session.closeAndDispose
      return (outcome.map fun _ => .common .done, { state with session := none })
  | .abandon => do
      match state.session with
      | none => return (.ok (.common .done), state)
      | some _ =>
          let (outcome, state) ← state.withSession fun _ => Host.attempt dispose
          return (outcome.map fun _ => .common .done, { state with session := none })

/-- Carries out requests one after the other, whatever becomes of each. -/
def serveAll (state : SessionHost) :
    List Request → Watched (Host 1) (List (Except Refusal SessionReply) × SessionHost)
  | [] => return ([], state)
  | request :: requests => do
      let (outcome, state) ← state.serve request
      Watched.watch state.host
      let (outcomes, state) ← state.serveAll requests
      return (outcome :: outcomes, state)

/-- A whole run: starts a program and carries out requests. Besides the guest, whose code can look
at the store at each of its nodes, the host can look before and after each request. -/
def run (engine : Engine 1) (configuration : Configuration) (program : Program 1)
    (requests : List Request) :
    Watched (Host 1) (Except Fault (List (Except Refusal SessionReply) × SessionHost)) := do
  match ← start engine configuration program with
  | .error fault => return .error fault
  | .ok state =>
      Watched.watch state.host
      return .ok (← state.serveAll requests)

/-! ## Starts and runs -/

section

variable {engine : Engine 1} {configuration : Configuration} {program : Program 1}

theorem value_start :
    (start engine configuration program).value =
      ((Session.start engine configuration program).on (freshStore configuration)).1.map
        fun session =>
          { host := .ofStore
              ((Session.start engine configuration program).on (freshStore configuration)).2
            session := some session } := rfl

theorem value_start_eq_ok_iff {state : SessionHost} :
    (start engine configuration program).value = .ok state ↔
      ∃ session store,
        (Session.start engine configuration program).on (freshStore configuration) =
            (.ok session, store) ∧
          { host := .ofStore store, session := some session } = state := by
  rw [value_start]
  rcases (Session.start engine configuration program).on (freshStore configuration) with
    ⟨fault | session, store⟩
  · simp [Except.map]
  · simp only [Except.map, Except.ok.injEq, Prod.mk.injEq, exists_and_left, exists_eq_left',
      and_assoc]

theorem value_run_eq_ok_iff {requests : List Request}
    {outcomes : List (Except Refusal SessionReply)} {state : SessionHost} :
    (run engine configuration program requests).value = .ok (outcomes, state) ↔
      ∃ opened, (start engine configuration program).value = .ok opened ∧
        (opened.serveAll requests).value = (outcomes, state) := by
  unfold run
  rw [Watched.value_bind]
  cases (start engine configuration program).value with
  | error fault => simp
  | ok opened =>
      constructor
      · intro ran
        exact ⟨opened, rfl, Except.ok.inj ran⟩
      · rintro ⟨_, ⟨⟩, served⟩
        exact congrArg Except.ok served

end

end SessionHost

end GuestBoundary.Event
