import Glide.IpcServer

/-! The client of the local sockets across reconnects. Its read buffer is emptied
neither by `close` nor by `connect_to`, so what one connection leaves in it stands
before the first line of the next. -/
namespace Glide.IpcClient
open Library IpcLines IpcServer

/-- A descriptor is the number of its connection. -/
structure Client where
  fd : Option Nat := none
  readBuffer : List UInt8 := []
  deriving DecidableEq, Repr

/-- What one call of `poll_lines` on a connection returned. -/
structure Polled where
  connection : Nat
  lines : List (List UInt8)
  deriving DecidableEq, Repr

/-- The client, the connections it has opened, and what it has returned so far. -/
structure World where
  client : Client := {}
  connections : Nat → Connection := fun _ => {}
  opened : Nat := 0
  polled : List Polled := []

def close (client : Client) : Client := { client with fd := none }

/-- The kernel may refuse the socket or the connection. -/
def connectTo (succeeds : Bool) (world : World) : World :=
  let client := close world.client
  if succeeds then
    { world with client := { client with fd := some world.opened }, opened := world.opened + 1 }
  else { world with client }

def pollLines (sizes : List Nat) (world : World) : World :=
  match world.client.fd with
  | none => world
  | some fd =>
    let (connection, buffer, ended) :=
      receive sizes (world.connections fd) world.client.readBuffer
    let client := if ended then close world.client else world.client
    let (lines, readBuffer) := drainLines buffer
    { world with
      client := { client with readBuffer }
      connections := Function.update world.connections fd connection
      polled := world.polled ++ [⟨fd, lines⟩] }

/-- What the client and its server do. -/
inductive Event where
  | connectTo (succeeds : Bool)
  | close
  | pollLines (sizes : List Nat)
  | send (connection : Nat) (bytes : List UInt8)
  | hangUp (connection : Nat)
  deriving DecidableEq, Repr

def updateConnection (number : Nat) (change : Connection → Connection) (world : World) : World :=
  if number < world.opened then
    { world with connections :=
        Function.update world.connections number (change (world.connections number)) }
  else world

def step (world : World) : Event → World
  | .connectTo succeeds => connectTo succeeds world
  | .close => { world with client := close world.client }
  | .pollLines sizes => pollLines sizes world
  | .send number bytes => updateConnection number (.write bytes) world
  | .hangUp number => updateConnection number .hangUp world

def run (events : List Event) : World := events.foldl step {}

/-- The lines returned while a connection was open. -/
def returnedLines (number : Nat) (polled : List Polled) : List (List UInt8) :=
  (polled.filter (·.connection = number)).flatMap (·.lines)

/-- The lines returned are those the server has sent on the connection they were read on. -/
def LinesIntact (world : World) : Prop :=
  (∀ number, returnedLines number world.polled =
    completeLines (world.connections number).received) ∧
  ∀ entry ∈ world.polled, ∀ line ∈ entry.lines,
    line ∈ completeLines (world.connections entry.connection).stream

/-- When a newline is read, the buffer holds nothing of an earlier connection. -/
def NothingStale (world : World) : Event → Prop
  | .pollLines sizes => ∀ fd ∈ world.client.fd,
      10 ∈ (receive sizes (world.connections fd) []).2.1 →
      world.client.readBuffer = unfinished (world.connections fd).received
  | _ => True

instance (world : World) : ∀ event, Decidable (NothingStale world event)
  | .pollLines sizes => inferInstanceAs (Decidable (∀ fd ∈ world.client.fd,
      10 ∈ (receive sizes (world.connections fd) []).2.1 →
      world.client.readBuffer = unfinished (world.connections fd).received))
  | .connectTo _ => isTrue trivial
  | .close => isTrue trivial
  | .send _ _ => isTrue trivial
  | .hangUp _ => isTrue trivial

/-- The read buffer is what an earlier connection left there, and then the unfinished line of
this one. -/
structure Sound (world : World) : Prop where
  lines : ∀ number, returnedLines number world.polled =
    completeLines (world.connections number).received
  buffer : ∀ fd, world.client.fd = some fd → ∃ stale,
    world.client.readBuffer = stale ++ unfinished (world.connections fd).received
  unbroken : 10 ∉ world.client.readBuffer
  current : ∀ fd, world.client.fd = some fd → fd < world.opened
  fresh : ∀ number, world.opened ≤ number → (world.connections number).received = []

theorem start_sound : Sound {} where
  lines := fun _ => rfl
  buffer := fun fd connected => absurd connected.symm (Option.some_ne_none fd)
  unbroken := List.not_mem_nil
  current := fun fd connected => absurd connected.symm (Option.some_ne_none fd)
  fresh := fun _ _ => rfl

theorem close_sound (sound : Sound world) : Sound { world with client := close world.client } :=
  ⟨sound.lines, fun fd connected => absurd connected.symm (Option.some_ne_none fd), sound.unbroken,
    fun fd connected => absurd connected.symm (Option.some_ne_none fd), sound.fresh⟩

theorem connectTo_sound (succeeds : Bool) (sound : Sound world) : Sound (connectTo succeeds world) := by
  unfold connectTo
  split
  · refine ⟨sound.lines, ?_, sound.unbroken, ?_, fun number later => sound.fresh number
      (Nat.le_of_succ_le later)⟩
    · intro fd connected
      obtain rfl := Option.some.inj connected
      refine ⟨world.client.readBuffer, ?_⟩
      rw [sound.fresh _ (Nat.le_refl _)]
      exact (List.append_nil _).symm
    · intro fd connected
      obtain rfl := Option.some.inj connected
      exact Nat.lt_succ_self _
  · exact close_sound sound

theorem updateConnection_sound (number : Nat) (change : Connection → Connection)
    (received : ∀ connection, (change connection).received = connection.received)
    (sound : Sound world) : Sound (updateConnection number change world) := by
  unfold updateConnection
  split
  · have same : ∀ other, (Function.update world.connections number
        (change (world.connections number)) other).received = (world.connections other).received := by
      intro other
      by_cases own : other = number
      · rw [own, Function.update_self, received]
      · rw [Function.update_of_ne own]
    refine ⟨?_, ?_, sound.unbroken, sound.current, ?_⟩
    · intro other
      exact (sound.lines other).trans (congrArg completeLines (same other).symm)
    · intro fd connected
      obtain ⟨stale, left⟩ := sound.buffer fd connected
      exact ⟨stale, by simp only [same, left]⟩
    · intro other later
      exact (same other).trans (sound.fresh other later)
  · exact sound

@[simp] theorem returnedLines_append (number : Nat) (first second : List Polled) :
    returnedLines number (first ++ second) =
      returnedLines number first ++ returnedLines number second := by
  simp [returnedLines]

/-- What a poll on one connection returns and leaves, when its newlines meet no stale bytes. -/
theorem drain_current (left : buffer = stale ++ unfinished received) (unbroken : 10 ∉ buffer)
    (nothing_stale : 10 ∈ got → buffer = unfinished received) :
    completeLines (received ++ got) = completeLines received ++ (drainLines (buffer ++ got)).1 ∧
      ∃ stale, (drainLines (buffer ++ got)).2 = stale ++ unfinished (received ++ got) := by
  rw [completeLines_append, drainLines_complete]
  by_cases newline : 10 ∈ got
  · rw [nothing_stale newline]
    refine ⟨rfl, [], ?_⟩
    rw [List.nil_append, unfinished_append]
    rfl
  · have own_unbroken : 10 ∉ unfinished received ++ got := by
      rw [List.mem_append, not_or]
      exact ⟨unfinished_unbroken received, newline⟩
    have both_unbroken : 10 ∉ buffer ++ got := by
      rw [List.mem_append, not_or]
      exact ⟨unbroken, newline⟩
    rw [completeLines_unbroken own_unbroken, completeLines_unbroken both_unbroken,
      unfinished_append, unfinished, drainLines_unbroken own_unbroken,
      drainLines_unbroken both_unbroken, left]
    exact ⟨rfl, stale, List.append_assoc _ _ _⟩

theorem pollLines_sound (sizes : List Nat) (nothing_stale : NothingStale world (.pollLines sizes))
    (sound : Sound world) : Sound (pollLines sizes world) := by
  unfold pollLines
  split
  · exact sound
  · rename_i fd connected
    obtain ⟨got, received, buffered, -, -, -⟩ := receive_spec sizes (world.connections fd) []
    have read := receive_buffer sizes (world.connections fd) world.client.readBuffer
    have clean := nothing_stale fd connected
    rw [buffered, List.nil_append] at read clean
    rw [read]
    generalize (receive sizes (world.connections fd) []).1 = connection at received ⊢
    generalize (receive sizes (world.connections fd) []).2.2 = ended
    obtain ⟨stale, left⟩ := sound.buffer fd connected
    obtain ⟨returned, later, leaves⟩ := drain_current left sound.unbroken clean
    dsimp only
    refine ⟨?_, ?_, ?_, ?_, ?_⟩
    · intro number
      dsimp only
      rw [returnedLines_append]
      by_cases own : number = fd
      · subst own
        rw [Function.update_self, received, returned, sound.lines]
        simp [returnedLines]
      · rw [Function.update_of_ne own, sound.lines]
        simp [returnedLines, Ne.symm own]
    · intro other still
      have same : other = fd := by
        cases ended with
        | true => exact absurd still.symm (Option.some_ne_none other)
        | false => exact Option.some.inj (still.symm.trans connected)
      subst same
      dsimp only
      rw [Function.update_self, received]
      exact ⟨later, leaves⟩
    · exact unfinished_unbroken _
    · intro other still
      cases ended with
      | true => exact absurd still.symm (Option.some_ne_none other)
      | false => exact sound.current other still
    · intro number fresh
      have apart : number ≠ fd := Nat.ne_of_gt (Nat.lt_of_lt_of_le (sound.current fd connected) fresh)
      dsimp only
      rw [Function.update_of_ne apart]
      exact sound.fresh number fresh

theorem step_sound (world : World) (event : Event) (sound : Sound world)
    (nothing_stale : NothingStale world event) : Sound (step world event) := by
  cases event with
  | connectTo succeeds => exact connectTo_sound succeeds sound
  | close => exact close_sound sound
  | pollLines sizes => exact pollLines_sound sizes nothing_stale sound
  | send number bytes =>
    refine updateConnection_sound number _ ?_ sound
    intro connection
    unfold Connection.write
    split <;> rfl
  | hangUp number => exact updateConnection_sound number _ (fun _ => rfl) sound

theorem Sound.intact (sound : Sound world) : LinesIntact world := by
  refine ⟨sound.lines, ?_⟩
  intro entry polled line held
  have returned : line ∈ returnedLines entry.connection world.polled :=
    List.mem_flatMap.2 ⟨entry, List.mem_filter.2 ⟨polled, by simp⟩, held⟩
  rw [sound.lines] at returned
  exact (completeLines_grow _ _).subset returned

/-- As long as no newline is read behind bytes of an earlier connection, every line returned
is one that the server sent on the connection it was read on. -/
theorem lines_intact_across_reconnects (events : List Event)
    (nothing_stale : Runs.Meets step NothingStale {} events) : LinesIntact (run events) :=
  (Runs.invariant_after_run events step_sound start_sound nothing_stale).intact

/-- A line is cut off by a disconnect in one run and finished before it in the other. -/
def cutLine : List Event :=
  [.connectTo true, .send 0 [115, 101, 116], .hangUp 0, .pollLines [64, 64], .connectTo true,
    .send 1 [111, 107, 10], .pollLines [64]]

def finishedLine : List Event :=
  [.connectTo true, .send 0 [115, 101, 116, 10], .hangUp 0, .pollLines [64, 64], .connectTo true,
    .send 1 [111, 107, 10], .pollLines [64]]

theorem finishedLine_intact :
    Runs.Meets step NothingStale {} finishedLine ∧ LinesIntact (run finishedLine) :=
  ⟨by decide +kernel, lines_intact_across_reconnects finishedLine (by decide +kernel)⟩

/-- The first line of the second connection comes back with the rest of the cut line before
it, and no connection carried that line. -/
theorem cut_line_is_joined : ¬ ∀ events, ∀ entry ∈ (run events).polled, ∀ line ∈ entry.lines,
    ∃ number, line ∈ completeLines ((run events).connections number).stream := by
  intro sent
  have polled : ⟨1, [[115, 101, 116, 111, 107]]⟩ ∈ (run cutLine).polled := by decide +kernel
  obtain ⟨number, held⟩ := sent cutLine _ polled _ List.mem_cons_self
  rw [← drainLines_complete] at held
  have elsewhere : ∀ later, (run cutLine).connections (later + 2) = {} := fun _ => rfl
  rcases number with _ | _ | later
  · revert held
    decide +kernel
  · revert held
    decide +kernel
  · rw [elsewhere] at held
    exact List.not_mem_nil held

end Glide.IpcClient
