import Glide.IpcServer

/-! Lines sent to a local socket. The sockets do not block, and a write of which the
kernel takes only a part is not continued: the next line follows the part. -/
namespace Glide.IpcSending
open Library IpcLines IpcServer

/-- A connection as its sender sees it: the bytes the kernel has taken, and the lines that
were passed to `send_line` for it. -/
structure Outgoing where
  stream : List UInt8 := []
  passed : List (List UInt8) := []
  deriving DecidableEq, Repr

/-- One call of `send` on the line and its newline. The kernel refuses it or takes the
bytes up to some count. -/
def sendPayload (line : List UInt8) (outcome : Option Nat) (outgoing : Outgoing) : Bool × Outgoing :=
  let payload := line ++ [10]
  let written := payload.take (outcome.getD 0)
  (outcome.isSome && written.length = payload.length,
    { stream := outgoing.stream ++ written, passed := outgoing.passed ++ [line] })

/-- The clients of the server as `poll` has left them, and their connections by
descriptor. -/
structure World where
  clients : List ClientState := []
  outgoing : Nat → Outgoing := fun _ => {}

def sendLine (id : ClientId) (line : List UInt8) (outcome : Option Nat) (world : World) :
    Bool × World :=
  match world.clients.find? (·.id = id) with
  | none => (false, world)
  | some client =>
    let (sent, outgoing) := sendPayload line outcome (world.outgoing client.fd)
    (sent, { world with outgoing := Function.update world.outgoing client.fd outgoing })

/-- One turn of the broadcast. Its result is ignored; the outcomes are by descriptor. -/
def sendToClient (line : List UInt8) (outcomes : Nat → Option Nat) (world : World)
    (client : ClientState) : World :=
  (sendLine client.id line (outcomes client.fd) world).2

def broadcastLine (line : List UInt8) (outcomes : Nat → Option Nat) (world : World) : World :=
  world.clients.foldl (sendToClient line outcomes) world

inductive Event where
  | polled (clients : List ClientState)
  | sendLine (id : ClientId) (line : List UInt8) (outcome : Option Nat)
  | broadcastLine (line : List UInt8) (outcomes : Nat → Option Nat)

def step (world : World) : Event → World
  | .polled clients => { world with clients }
  | .sendLine id line outcome => (sendLine id line outcome world).2
  | .broadcastLine line outcomes => broadcastLine line outcomes world

def run (events : List Event) : World := events.foldl step {}

/-- The client at the other end. A reconnect opens the connection with the next number. -/
structure ClientWorld where
  fd : Option Nat := none
  opened : Nat := 0
  outgoing : Nat → Outgoing := fun _ => {}

inductive ClientEvent where
  | connectTo (succeeds : Bool)
  | close
  | sendLine (line : List UInt8) (outcome : Option Nat)
  deriving DecidableEq, Repr

def clientSendLine (line : List UInt8) (outcome : Option Nat) (world : ClientWorld) :
    Bool × ClientWorld :=
  match world.fd with
  | none => (false, world)
  | some fd =>
    let (sent, outgoing) := sendPayload line outcome (world.outgoing fd)
    (sent, { world with outgoing := Function.update world.outgoing fd outgoing })

def clientStep (world : ClientWorld) : ClientEvent → ClientWorld
  | .connectTo succeeds =>
    if succeeds then { world with fd := some world.opened, opened := world.opened + 1 }
    else { world with fd := none }
  | .close => { world with fd := none }
  | .sendLine line outcome => (clientSendLine line outcome world).2

def clientRun (events : List ClientEvent) : ClientWorld := events.foldl clientStep {}

/-! ### What the receiver sees -/

/-- The lines of one payload; a text with newlines in it is several lines. -/
def linesOf (line : List UInt8) : List (List UInt8) := completeLines (line ++ [10])

theorem linesOf_line (unbroken : 10 ∉ line) (no_return : line.getLast? ≠ some 13) :
    linesOf line = [line] := by
  rw [linesOf, ← drainLines_complete, drainLines_line unbroken, dropReturn, if_neg no_return]
  rfl

/-- The receiver extracts only lines that were passed, in the order in which they were. -/
def OnlyPassed (outgoing : Outgoing) : Prop :=
  ((drainLines outgoing.stream).1).Sublist (outgoing.passed.flatMap linesOf)

/-- Every text passed is one line for a receiver. -/
def SingleLines (outgoing : Outgoing) : Prop :=
  ∀ line ∈ outgoing.passed, 10 ∉ line ∧ line.getLast? ≠ some 13

/-- Single lines come out as they were passed. -/
def Subsequence (outgoing : Outgoing) : Prop :=
  SingleLines outgoing → ((drainLines outgoing.stream).1).Sublist outgoing.passed

theorem OnlyPassed.subsequence (only : OnlyPassed outgoing) : Subsequence outgoing := by
  intro single
  have same : outgoing.passed.flatMap linesOf = outgoing.passed := by
    rw [List.flatMap_congr fun line passed =>
      linesOf_line (single line passed).1 (single line passed).2]
    exact List.flatMap_singleton' _
  rwa [OnlyPassed, same] at only

/-- Nothing is taken behind a torn line. -/
def NotTorn (outcome : Option Nat) (outgoing : Outgoing) : Prop :=
  unfinished outgoing.stream = [] ∨ outcome.getD 0 = 0

def SendNotTorn (id : ClientId) (outcome : Option Nat) (world : World) : Prop :=
  ∀ client ∈ world.clients.find? (·.id = id), NotTorn outcome (world.outgoing client.fd)

/-- The condition on each call, also on those that a broadcast makes one after another. -/
def StepNotTorn (world : World) : Event → Prop
  | .polled _ => True
  | .sendLine id _ outcome => SendNotTorn id outcome world
  | .broadcastLine line outcomes =>
    Runs.Meets (sendToClient line outcomes)
      (fun world client => SendNotTorn client.id (outcomes client.fd) world) world world.clients

def ClientNotTorn (world : ClientWorld) : ClientEvent → Prop
  | .sendLine _ outcome => ∀ fd ∈ world.fd, NotTorn outcome (world.outgoing fd)
  | _ => True

/-- What is taken of a payload is some of its lines, and perhaps the beginning of one. -/
theorem sendPayload_onlyPassed (line : List UInt8) (not_torn : NotTorn outcome outgoing)
    (only : OnlyPassed outgoing) : OnlyPassed (sendPayload line outcome outgoing).2 := by
  have split := List.take_append_drop (outcome.getD 0) (line ++ [10])
  have part := completeLines_grow ((line ++ [10]).take (outcome.getD 0))
    ((line ++ [10]).drop (outcome.getD 0))
  rw [split] at part
  unfold sendPayload OnlyPassed
  dsimp only
  rw [List.flatMap_append, List.flatMap_singleton, drainLines_append]
  refine only.append ?_
  rw [drainLines_complete]
  rcases not_torn with clean | nothing
  · rw [clean, List.nil_append]
    exact part.sublist
  · rw [nothing, List.take_zero, List.append_nil, completeLines_unbroken (unfinished_unbroken _)]
    exact List.nil_sublist _

private theorem update_onlyPassed {connections : Nat → Outgoing} (only : ∀ fd, OnlyPassed (connections fd))
    (own : OnlyPassed outgoing) (number fd : Nat) :
    OnlyPassed (Function.update connections number outgoing fd) := by
  by_cases same : fd = number
  · rw [same, Function.update_self]
    exact own
  · rw [Function.update_of_ne same]
    exact only fd

theorem sendLine_onlyPassed {id : ClientId} (line : List UInt8)
    (not_torn : SendNotTorn id outcome world)
    (only : ∀ fd, OnlyPassed (world.outgoing fd)) :
    ∀ fd, OnlyPassed ((sendLine id line outcome world).2.outgoing fd) := by
  unfold sendLine
  split
  · exact only
  · rename_i client found
    exact update_onlyPassed only (sendPayload_onlyPassed line (not_torn client found) (only client.fd))
      client.fd

theorem step_onlyPassed (world : World) (event : Event)
    (only : ∀ fd, OnlyPassed (world.outgoing fd)) (not_torn : StepNotTorn world event) :
    ∀ fd, OnlyPassed ((step world event).outgoing fd) := by
  cases event with
  | polled clients => exact only
  | sendLine id line outcome => exact sendLine_onlyPassed line not_torn only
  | broadcastLine line outcomes =>
    have preserved : ∀ (world : World) (client : ClientState),
        (∀ fd, OnlyPassed (world.outgoing fd)) → SendNotTorn client.id (outcomes client.fd) world →
        ∀ fd, OnlyPassed ((sendToClient line outcomes world client).outgoing fd) :=
      fun world client only not_torn => sendLine_onlyPassed line not_torn only
    exact Runs.invariant_after_run world.clients preserved only not_torn

theorem clientStep_onlyPassed (world : ClientWorld) (event : ClientEvent)
    (only : ∀ fd, OnlyPassed (world.outgoing fd)) (not_torn : ClientNotTorn world event) :
    ∀ fd, OnlyPassed ((clientStep world event).outgoing fd) := by
  cases event with
  | connectTo succeeds => cases succeeds <;> exact only
  | close => exact only
  | sendLine line outcome =>
    unfold clientStep clientSendLine
    dsimp only
    split
    · exact only
    · rename_i fd connected
      exact update_onlyPassed only (sendPayload_onlyPassed line (not_torn fd connected) (only fd)) fd

theorem nothing_sent : OnlyPassed {} := List.Sublist.refl []

/-- As long as nothing is taken behind a torn line, every receiver sees only lines that
somebody sent it. -/
theorem receivers_see_only_passed_lines (events : List Event) (clientEvents : List ClientEvent)
    (not_torn : Runs.Meets step StepNotTorn {} events)
    (client_not_torn : Runs.Meets clientStep ClientNotTorn {} clientEvents) :
    (∀ fd, OnlyPassed ((run events).outgoing fd) ∧ Subsequence ((run events).outgoing fd)) ∧
    ∀ fd, OnlyPassed ((clientRun clientEvents).outgoing fd) ∧
      Subsequence ((clientRun clientEvents).outgoing fd) := by
  have only := Runs.invariant_after_run events step_onlyPassed (fun _ => nothing_sent) not_torn
  have client_only := Runs.invariant_after_run clientEvents clientStep_onlyPassed
    (fun _ => nothing_sent) client_not_torn
  exact ⟨fun fd => ⟨only fd, (only fd).subsequence⟩,
    fun fd => ⟨client_only fd, (client_only fd).subsequence⟩⟩

instance (outcome : Option Nat) (outgoing : Outgoing) : Decidable (NotTorn outcome outgoing) :=
  inferInstanceAs (Decidable (_ ∨ _))

instance (id : ClientId) (outcome : Option Nat) (world : World) :
    Decidable (SendNotTorn id outcome world) :=
  inferInstanceAs (Decidable (∀ client ∈ world.clients.find? (·.id = id),
    NotTorn outcome (world.outgoing client.fd)))

instance (world : World) : ∀ event, Decidable (StepNotTorn world event)
  | .polled _ => isTrue trivial
  | .sendLine id _ outcome => inferInstanceAs (Decidable (SendNotTorn id outcome world))
  | .broadcastLine line outcomes =>
    inferInstanceAs (Decidable (Runs.Meets (sendToClient line outcomes)
      (fun world client => SendNotTorn client.id (outcomes client.fd) world) world world.clients))

instance (world : ClientWorld) : ∀ event, Decidable (ClientNotTorn world event)
  | .connectTo _ => isTrue trivial
  | .close => isTrue trivial
  | .sendLine _ outcome =>
    inferInstanceAs (Decidable (∀ fd ∈ world.fd, NotTorn outcome (world.outgoing fd)))

/-- One client; the kernel takes all of the first line and refuses or tears what follows. -/
def slowClient : List Event :=
  [.polled [{ id := 1, fd := 0 }], .sendLine 1 [97, 98] (some 3), .sendLine 1 [99] none,
    .broadcastLine [100, 101] fun _ => some 1]

def patientClient : List ClientEvent := [.connectTo true, .sendLine [97, 98] (some 1)]

theorem slowClient_sees_only_passed_lines :
    (Runs.Meets step StepNotTorn {} slowClient ∧
      Runs.Meets clientStep ClientNotTorn {} patientClient) ∧
    (∀ fd, OnlyPassed ((run slowClient).outgoing fd) ∧ Subsequence ((run slowClient).outgoing fd)) ∧
    ∀ fd, OnlyPassed ((clientRun patientClient).outgoing fd) ∧
      Subsequence ((clientRun patientClient).outgoing fd) :=
  ⟨⟨by decide +kernel, by decide +kernel⟩,
    receivers_see_only_passed_lines slowClient patientClient (by decide +kernel)
      (by decide +kernel)⟩

/-- The kernel takes one byte of a line and then the whole next one. -/
def tornLine : List Event :=
  [.polled [{ id := 1, fd := 0 }], .sendLine 1 [97, 98] (some 1), .sendLine 1 [99] (some 2)]

def tornClientLine : List ClientEvent :=
  [.connectTo true, .sendLine [97, 98] (some 1), .sendLine [99] (some 2)]

theorem torn_line_is_merged :
    ¬ (∀ events fd, Subsequence ((run events).outgoing fd)) ∧
    ¬ ∀ events fd, Subsequence ((clientRun events).outgoing fd) := by
  constructor
  · intro subsequence
    have merged := subsequence tornLine 0
    revert merged
    unfold Subsequence SingleLines
    decide +kernel
  · intro subsequence
    have merged := subsequence tornClientLine 0
    revert merged
    unfold Subsequence SingleLines
    decide +kernel

end Glide.IpcSending
