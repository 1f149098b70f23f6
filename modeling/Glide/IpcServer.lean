import Glide.IpcLines
import Glide.Library.Runs
import Mathlib.Data.BitVec
import Mathlib.Logic.Function.Basic

/-! The server of the local sockets and the peers that connect to it. Connections
are numbered as the peers open them, and a descriptor of the server is the number
of its connection. -/
namespace Glide.IpcServer
open Library IpcLines

/-- One direction of a connection: what the reader has got, and what still waits in the
kernel. After the writer has hung up nothing more is added. -/
structure Connection where
  received : List UInt8 := []
  unread : List UInt8 := []
  hungUp : Bool := false
  deriving DecidableEq, Repr

/-- Everything that was sent on the connection so far. -/
def Connection.stream (connection : Connection) : List UInt8 :=
  connection.received ++ connection.unread

/-- The loop around `recv`. Each call finds nothing, the end of the stream, or up to 512
bytes, as many as the kernel chooses; the list ends where a call fails. -/
def receive : List Nat → Connection → List UInt8 → Connection × List UInt8 × Bool
  | [], connection, buffer => (connection, buffer, false)
  | size :: rest, connection, buffer =>
    if connection.unread = [] then (connection, buffer, connection.hungUp)
    else
      let bytes := connection.unread.take (min (max size 1) 512)
      receive rest { connection with
        received := connection.received ++ bytes
        unread := connection.unread.drop (min (max size 1) 512) } (buffer ++ bytes)

abbrev ClientId := BitVec 32

structure ServerEvent where
  clientId : ClientId
  line : List UInt8
  deriving DecidableEq, Repr

structure ClientState where
  id : ClientId
  fd : Nat
  readBuffer : List UInt8 := []
  deriving DecidableEq, Repr

/-- The server, the connections of its peers, and what `poll` has reported so far. -/
structure World where
  nextClientId : ClientId := 1
  clients : List ClientState := []
  connections : Nat → Connection := fun _ => {}
  opened : Nat := 0
  accepted : Nat := 0
  /-- The identifiers given to the accepted connections, in order. -/
  given : List ClientId := []
  events : List ServerEvent := []

/-- How the kernel answers the calls of one `poll`: how many waiting connections it lets
in, and how the reads on each connection go. -/
structure PollReply where
  accepts : Nat
  reads : Nat → List Nat

def acceptClient (world : World) : World :=
  { world with
    clients := world.clients ++ [{ id := world.nextClientId, fd := world.accepted }]
    nextClientId := world.nextClientId + 1
    given := world.given ++ [world.nextClientId]
    accepted := world.accepted + 1 }

/-- Waiting connections are accepted in the order in which they were opened. -/
def acceptClients : Nat → World → World
  | 0, world => world
  | count + 1, world =>
    if world.accepted < world.opened then acceptClients count (acceptClient world) else world

/-- The result of reading from some clients. -/
structure Reading where
  clients : List ClientState
  connections : Nat → Connection
  events : List ServerEvent
  deadClients : List ClientId

def readClients (reads : Nat → List Nat) : List ClientState → (Nat → Connection) → Reading
  | [], connections => ⟨[], connections, [], []⟩
  | client :: rest, connections =>
    let (connection, buffer, ended) :=
      receive (reads client.fd) (connections client.fd) client.readBuffer
    let (lines, readBuffer) := drainLines buffer
    let later := readClients reads rest (Function.update connections client.fd connection)
    { clients := { client with readBuffer } :: later.clients
      connections := later.connections
      events := lines.map (⟨client.id, ·⟩) ++ later.events
      deadClients := (if ended then [client.id] else []) ++ later.deadClients }

def eraseClients (dead : List ClientId) (clients : List ClientState) : List ClientState :=
  dead.foldl (fun clients id => clients.filter (·.id ≠ id)) clients

def poll (reply : PollReply) (world : World) : World :=
  let world := acceptClients reply.accepts world
  let reading := readClients reply.reads world.clients world.connections
  { world with
    clients := eraseClients reading.deadClients reading.clients
    connections := reading.connections
    events := world.events ++ reading.events }

/-- What peers do, and `poll` between it. -/
inductive Event where
  | connect
  | send (connection : Nat) (bytes : List UInt8)
  | hangUp (connection : Nat)
  | poll (reply : PollReply)

def Connection.write (bytes : List UInt8) (connection : Connection) : Connection :=
  if connection.hungUp then connection
  else { connection with unread := connection.unread ++ bytes }

def Connection.hangUp (connection : Connection) : Connection := { connection with hungUp := true }

/-- Only a connection that was opened can be used. -/
def updateConnection (number : Nat) (change : Connection → Connection) (world : World) : World :=
  if number < world.opened then
    { world with connections :=
        Function.update world.connections number (change (world.connections number)) }
  else world

def step (world : World) : Event → World
  | .connect => { world with opened := world.opened + 1 }
  | .send number bytes => updateConnection number (.write bytes) world
  | .hangUp number => updateConnection number .hangUp world
  | .poll reply => poll reply world

def run (events : List Event) : World := events.foldl step {}

/-- The lines reported for a client, in order. -/
def reportedLines (id : ClientId) (events : List ServerEvent) : List (List UInt8) :=
  (events.filter (·.clientId = id)).map (·.line)

/-! ### Reading -/

/-- How many bytes the kernel would hand out in these calls if it had them. -/
def offered (sizes : List Nat) : Nat := (sizes.map fun size => min (max size 1) 512).sum

@[simp] theorem offered_nil : offered [] = 0 := rfl

@[simp] theorem offered_cons (size : Nat) (rest : List Nat) :
    offered (size :: rest) = min (max size 1) 512 + offered rest := by
  simp [offered]

/-- One of the calls comes after the last byte. -/
def LooksBeyond (sizes : List Nat) (bytes : List UInt8) : Prop :=
  sizes ≠ [] ∧ bytes.length ≤ offered sizes.dropLast

/-- The reader takes the next bytes, or all there are. -/
def Connection.advance (count : Nat) (connection : Connection) : Connection :=
  { connection with
    received := connection.received ++ connection.unread.take count
    unread := connection.unread.drop count }

/-- The loop takes all that is offered, and finds the end of the stream exactly when it
looks beyond the last byte of a peer that has hung up. -/
theorem receive_taken (sizes : List Nat) (connection : Connection) (buffer : List UInt8) :
    (receive sizes connection buffer).1 = connection.advance (offered sizes) ∧
      (receive sizes connection buffer).2.1 = buffer ++ connection.unread.take (offered sizes) ∧
      ((receive sizes connection buffer).2.2 = true ↔
        connection.hungUp = true ∧ LooksBeyond sizes connection.unread) := by
  induction sizes generalizing connection buffer with
  | nil => simp [receive, Connection.advance, LooksBeyond]
  | cons size rest ih =>
    rw [receive]
    split
    · rename_i nothing
      obtain ⟨received, unread, hungUp⟩ := connection
      subst nothing
      exact ⟨by simp [Connection.advance], by simp, by simp [LooksBeyond]⟩
    · rename_i waiting
      obtain ⟨advanced, buffered, ended⟩ := ih { connection with
        received := connection.received ++ connection.unread.take (min (max size 1) 512)
        unread := connection.unread.drop (min (max size 1) 512) }
        (buffer ++ connection.unread.take (min (max size 1) 512))
      refine ⟨?_, ?_, ?_⟩
      · rw [advanced]
        simp only [Connection.advance, offered_cons, List.take_add, List.drop_drop,
          List.append_assoc]
      · rw [buffered]
        simp only [offered_cons, List.take_add, List.append_assoc]
      · rw [ended]
        have more : 0 < connection.unread.length := List.length_pos_iff.2 waiting
        cases rest with
        | nil => simp [LooksBeyond, waiting]
        | cons next others =>
          simp only [LooksBeyond, List.length_drop, List.dropLast_cons_cons, offered_cons]
          simp
          omega

theorem receive_spec (sizes : List Nat) (connection : Connection) (buffer : List UInt8) :
    ∃ got, (receive sizes connection buffer).1.received = connection.received ++ got ∧
      (receive sizes connection buffer).2.1 = buffer ++ got ∧
      (receive sizes connection buffer).1.stream = connection.stream ∧
      (receive sizes connection buffer).1.hungUp = connection.hungUp ∧
      ((receive sizes connection buffer).2.2 = true →
        (receive sizes connection buffer).1.unread = [] ∧ connection.hungUp = true) := by
  obtain ⟨advanced, buffered, ended⟩ := receive_taken sizes connection buffer
  refine ⟨connection.unread.take (offered sizes), ?_, buffered, ?_, ?_, ?_⟩
  · rw [advanced, Connection.advance]
  · rw [advanced, Connection.advance, Connection.stream, Connection.stream, List.append_assoc,
      List.take_append_drop]
  · rw [advanced, Connection.advance]
  · intro at_end
    obtain ⟨hung, calls, beyond⟩ := ended.1 at_end
    refine ⟨?_, hung⟩
    rw [advanced]
    have enough : offered sizes.dropLast ≤ offered sizes := by
      conv_rhs => rw [← List.dropLast_append_getLast calls]
      simp [offered]
    exact List.drop_eq_nil_of_le (beyond.trans enough)

/-- The buffer only gets longer by what is read. -/
theorem receive_buffer (sizes : List Nat) (connection : Connection) (buffer : List UInt8) :
    receive sizes connection buffer = ((receive sizes connection []).1,
      buffer ++ (receive sizes connection []).2.1, (receive sizes connection []).2.2) := by
  induction sizes generalizing connection buffer with
  | nil => simp [receive]
  | cons size rest ih =>
    rw [receive, receive]
    split
    · simp
    · dsimp only
      rw [ih, ih _ ([] ++ connection.unread.take (min (max size 1) 512))]
      simp

theorem mem_eraseClients (dead : List ClientId) (clients : List ClientState) :
    client ∈ eraseClients dead clients ↔ client ∈ clients ∧ client.id ∉ dead := by
  unfold eraseClients
  induction dead generalizing clients with
  | nil => simp
  | cons id rest ih =>
    rw [List.foldl_cons, ih, List.mem_filter, List.mem_cons, not_or, and_assoc, decide_eq_true_eq]

theorem eraseClients_sublist (dead : List ClientId) (clients : List ClientState) :
    (eraseClients dead clients).Sublist clients := by
  unfold eraseClients
  induction dead generalizing clients with
  | nil => exact List.Sublist.refl clients
  | cons id rest ih => exact (ih _).trans List.filter_sublist

@[simp] theorem reportedLines_append (id : ClientId) (first second : List ServerEvent) :
    reportedLines id (first ++ second) = reportedLines id first ++ reportedLines id second := by
  simp [reportedLines]

theorem reportedLines_own (id : ClientId) (lines : List (List UInt8)) :
    reportedLines id (lines.map (⟨id, ·⟩)) = lines := by
  induction lines with
  | nil => rfl
  | cons line rest ih => simp_all [reportedLines]

theorem reportedLines_other {id : ClientId} (other : ∀ event ∈ events, event.clientId ≠ id) :
    reportedLines id events = [] := by
  have none_left : events.filter (·.clientId = id) = [] := by
    simpa [List.filter_eq_nil_iff] using other
  simp [reportedLines, none_left]

/-- The identifier of the connection that is accepted as number `number`. -/
def idOf (number : Nat) : ClientId := BitVec.ofNat 32 (number + 1)

theorem idOf_injective (first_small : first < 2 ^ 31) (second_small : second < 2 ^ 31)
    (same : idOf first = idOf second) : first = second := by
  have numbers := congrArg BitVec.toNat same
  simp only [idOf, BitVec.toNat_ofNat] at numbers
  omega

/-- What reading from these clients comes to. -/
structure ReadFrom (reads : Nat → List Nat) (clients : List ClientState)
    (connections : Nat → Connection) (reading : Reading) : Prop where
  same : reading.clients.map (fun client => (client.id, client.fd)) =
    clients.map fun client => (client.id, client.fd)
  buffers : ∀ client ∈ reading.clients,
    client.readBuffer = unfinished (reading.connections client.fd).received
  streams : ∀ number, (reading.connections number).stream = (connections number).stream ∧
    (reading.connections number).hungUp = (connections number).hungUp
  others : ∀ number, number ∉ clients.map (·.fd) → reading.connections number = connections number
  taken : ∀ client ∈ clients, reading.connections client.fd =
    (connections client.fd).advance (offered (reads client.fd))
  lines : ∀ client ∈ clients, completeLines (reading.connections client.fd).received =
    completeLines (connections client.fd).received ++ reportedLines client.id reading.events
  dead : ∀ id ∈ reading.deadClients, ∃ client ∈ clients, client.id = id ∧
    (reading.connections client.fd).unread = [] ∧ (reading.connections client.fd).hungUp = true
  ended : ∀ client ∈ clients, client.id ∈ reading.deadClients ↔
    (connections client.fd).hungUp = true ∧
      LooksBeyond (reads client.fd) (connections client.fd).unread
  senders : ∀ event ∈ reading.events, ∃ client ∈ clients, event.clientId = client.id

theorem readClients_spec (reads : Nat → List Nat) (clients : List ClientState)
    (connections : Nat → Connection) (apart : (clients.map (·.fd)).Nodup)
    (named : (clients.map (·.id)).Nodup)
    (buffers : ∀ client ∈ clients, client.readBuffer = unfinished (connections client.fd).received) :
    ReadFrom reads clients connections (readClients reads clients connections) := by
  induction clients generalizing connections with
  | nil =>
    refine ⟨rfl, ?_, fun _ => ⟨rfl, rfl⟩, fun _ _ => rfl, ?_, ?_, ?_, ?_, ?_⟩
    all_goals
      intro _ held
      exact absurd held List.not_mem_nil
  | cons client rest ih =>
    obtain ⟨fd_new, fds_apart⟩ := List.nodup_cons.1 apart
    obtain ⟨id_new, ids_apart⟩ := List.nodup_cons.1 named
    have own_buffer := buffers client List.mem_cons_self
    obtain ⟨got, received, buffered, stream, hungUp, ended⟩ :=
      receive_spec (reads client.fd) (connections client.fd) client.readBuffer
    obtain ⟨advanced, -, finds_end⟩ :=
      receive_taken (reads client.fd) (connections client.fd) client.readBuffer
    have elsewhere : ∀ other ∈ rest, other.fd ≠ client.fd :=
      fun other held same => fd_new (List.mem_map.2 ⟨other, held, same⟩)
    rw [readClients]
    generalize receive (reads client.fd) (connections client.fd) client.readBuffer = read at *
    obtain ⟨connection, buffer, at_end⟩ := read
    dsimp only at received buffered stream hungUp ended advanced finds_end ⊢
    have later := ih (Function.update connections client.fd connection) fds_apart ids_apart (by
      intro other held
      rw [Function.update_of_ne (elsewhere other held)]
      exact buffers other (List.mem_cons_of_mem _ held))
    have kept := later.others client.fd fd_new
    rw [Function.update_self] at kept
    have drained := drainLines_append (connections client.fd).received got
    rw [← received, ← own_buffer, ← buffered] at drained
    refine ⟨?_, ?_, ?_, ?_, ?_, ?_, ?_, ?_, ?_⟩
    · exact congrArg ((client.id, client.fd) :: ·) later.same
    · intro other held
      rcases List.mem_cons.1 held with rfl | held
      · rw [kept, unfinished, drained]
        rfl
      · exact later.buffers other held
    · intro number
      obtain ⟨same_stream, same_end⟩ := later.streams number
      by_cases own : number = client.fd
      · subst own
        rw [Function.update_self] at same_stream same_end
        exact ⟨same_stream.trans stream, same_end.trans hungUp⟩
      · rw [Function.update_of_ne own] at same_stream same_end
        exact ⟨same_stream, same_end⟩
    · intro number other
      obtain ⟨not_own, not_rest⟩ := not_or.1 (mt List.mem_cons.2 other)
      exact (later.others number not_rest).trans (Function.update_of_ne not_own _ _)
    · intro other held
      rcases List.mem_cons.1 held with rfl | held
      · exact kept.trans advanced
      · rw [later.taken other held, Function.update_of_ne (elsewhere other held)]
    · intro other held
      rw [reportedLines_append]
      rcases List.mem_cons.1 held with rfl | held
      · have silent : reportedLines other.id
            (readClients reads rest (Function.update connections other.fd connection)).events = [] := by
          apply reportedLines_other
          intro event reported same
          obtain ⟨sender, sends, from_sender⟩ := later.senders event reported
          exact id_new (List.mem_map.2 ⟨sender, sends, from_sender.symm.trans same⟩)
        rw [kept, silent, List.append_nil, reportedLines_own, ← drainLines_complete, drained,
          drainLines_complete]
      · have silent : reportedLines other.id
            ((drainLines buffer).1.map (⟨client.id, ·⟩)) = [] := by
          apply reportedLines_other
          intro event reported same
          obtain ⟨line, -, rfl⟩ := List.mem_map.1 reported
          exact id_new (List.mem_map.2 ⟨other, held, same.symm⟩)
        have counted := later.lines other held
        rw [Function.update_of_ne (elsewhere other held)] at counted
        rw [silent, List.nil_append, counted]
    · intro id held
      rcases List.mem_append.1 held with own | held
      · split at own
        · rename_i stream_ended
          obtain ⟨read_all, hung⟩ := ended stream_ended
          refine ⟨client, List.mem_cons_self, (List.mem_singleton.1 own).symm, ?_, ?_⟩
          · rw [kept]
            exact read_all
          · rw [kept]
            exact hungUp.trans hung
        · exact absurd own List.not_mem_nil
      · obtain ⟨other, found, rest_of⟩ := later.dead id held
        exact ⟨other, List.mem_cons_of_mem _ found, rest_of⟩
    · intro other held
      rw [List.mem_append]
      rcases List.mem_cons.1 held with rfl | held
      · have not_later : other.id ∉ (readClients reads rest
            (Function.update connections other.fd connection)).deadClients := by
          intro named_later
          obtain ⟨sender, sends, same, -⟩ := later.dead other.id named_later
          exact id_new (List.mem_map.2 ⟨sender, sends, same⟩)
        rw [← finds_end, or_iff_left not_later]
        cases at_end <;> simp
      · have not_first : other.id ∉ if at_end then [client.id] else [] := by
          intro named_first
          split at named_first
          · exact id_new (List.mem_map.2 ⟨other, held, List.mem_singleton.1 named_first⟩)
          · exact absurd named_first List.not_mem_nil
        rw [or_iff_right not_first, later.ended other held,
          Function.update_of_ne (elsewhere other held)]
    · intro event held
      rcases List.mem_append.1 held with own | held
      · obtain ⟨line, -, rfl⟩ := List.mem_map.1 own
        exact ⟨client, List.mem_cons_self, rfl⟩
      · obtain ⟨other, found, same⟩ := later.senders event held
        exact ⟨other, List.mem_cons_of_mem _ found, same⟩

/-! ### Every state of the server -/

/-- What holds between the server and its peers. -/
structure Sound (world : World) : Prop where
  accepted : world.accepted ≤ world.opened
  next : world.nextClientId = idOf world.accepted
  given : world.given = (List.range world.accepted).map idOf
  ids : ∀ client ∈ world.clients, client.id = idOf client.fd ∧ client.fd < world.accepted
  apart : (world.clients.map (·.fd)).Nodup
  buffers : ∀ client ∈ world.clients,
    client.readBuffer = unfinished (world.connections client.fd).received
  reported : ∀ number < world.accepted,
    reportedLines (idOf number) world.events = completeLines (world.connections number).received
  senders : ∀ event ∈ world.events, ∃ number < world.accepted, event.clientId = idOf number
  gone : ∀ number < world.accepted, number ∉ world.clients.map (·.fd) →
    (world.connections number).unread = [] ∧ (world.connections number).hungUp = true
  waiting : ∀ number, world.accepted ≤ number → (world.connections number).received = []

theorem start_sound : Sound {} where
  accepted := Nat.le_refl 0
  next := rfl
  given := rfl
  ids := fun _ held => absurd held List.not_mem_nil
  apart := List.nodup_nil
  buffers := fun _ held => absurd held List.not_mem_nil
  reported := fun _ known => absurd known (Nat.not_lt_zero _)
  senders := fun _ held => absurd held List.not_mem_nil
  gone := fun _ known => absurd known (Nat.not_lt_zero _)
  waiting := fun _ _ => rfl

theorem acceptClients_accepted (count : Nat) (world : World) :
    world.accepted ≤ (acceptClients count world).accepted := by
  induction count generalizing world with
  | zero => exact Nat.le_refl _
  | succ count ih =>
    rw [acceptClients]
    split
    · exact (Nat.le_succ _).trans (ih (acceptClient world))
    · exact Nat.le_refl _

/-- Every waiting connection the kernel lets in is accepted; nothing is read yet. -/
theorem acceptClients_spec (count : Nat) (possible : world.accepted ≤ world.opened) :
    (acceptClients count world).accepted = min world.opened (world.accepted + count) ∧
      (acceptClients count world).connections = world.connections ∧
      (acceptClients count world).events = world.events := by
  induction count generalizing world with
  | zero => exact ⟨(Nat.min_eq_right possible).symm, rfl, rfl⟩
  | succ count ih =>
    rw [acceptClients]
    split
    · rename_i waits
      obtain ⟨accepted, connections, events⟩ := @ih (acceptClient world) waits
      refine ⟨?_, connections, events⟩
      rw [accepted]
      show min world.opened (world.accepted + 1 + count) = _
      rw [Nat.add_right_comm, Nat.add_assoc]
    · rename_i all_in
      refine ⟨?_, rfl, rfl⟩
      omega

theorem acceptClient_sound (sound : Sound world) (waits : world.accepted < world.opened)
    (few : world.accepted < 2 ^ 31) : Sound (acceptClient world) where
  accepted := waits
  next := by
    show world.nextClientId + 1 = idOf (world.accepted + 1)
    rw [sound.next, idOf, idOf]
    exact (BitVec.ofNat_add _ 1).symm
  given := by
    show world.given ++ [world.nextClientId] = (List.range (world.accepted + 1)).map idOf
    rw [sound.given, sound.next, List.range_succ, List.map_append]
    rfl
  ids := by
    intro client held
    rcases List.mem_append.1 held with held | newest
    · obtain ⟨named, known⟩ := sound.ids client held
      exact ⟨named, Nat.lt_succ_of_lt known⟩
    · rw [List.mem_singleton.1 newest]
      exact ⟨sound.next, Nat.lt_succ_self _⟩
  apart := by
    simp only [acceptClient, List.map_append, List.map_singleton]
    rw [List.nodup_append]
    refine ⟨sound.apart, List.nodup_singleton _, ?_⟩
    intro fd held other newest same
    obtain ⟨client, found, rfl⟩ := List.mem_map.1 held
    have known := (sound.ids client found).2
    rw [same, List.mem_singleton.1 newest] at known
    exact Nat.lt_irrefl _ known
  buffers := by
    intro client held
    rcases List.mem_append.1 held with held | newest
    · exact sound.buffers client held
    · rw [List.mem_singleton.1 newest]
      show [] = unfinished (world.connections world.accepted).received
      rw [sound.waiting _ (Nat.le_refl _)]
      rfl
  reported := by
    intro number known
    rcases Nat.lt_succ_iff_lt_or_eq.1 known with known | rfl
    · exact sound.reported number known
    · have silent : reportedLines (idOf world.accepted) world.events = [] := by
        apply reportedLines_other
        intro event held same
        obtain ⟨number, known, from_number⟩ := sound.senders event held
        have equal := idOf_injective (known.trans few) few (from_number.symm.trans same)
        exact Nat.ne_of_lt known equal
      simp only [acceptClient]
      rw [silent, sound.waiting _ (Nat.le_refl _)]
      rfl
  senders := by
    intro event held
    obtain ⟨number, known, from_number⟩ := sound.senders event held
    exact ⟨number, Nat.lt_succ_of_lt known, from_number⟩
  gone := by
    intro number known absent
    simp only [acceptClient, List.map_append, List.mem_append, not_or] at absent
    rcases Nat.lt_succ_iff_lt_or_eq.1 known with known | rfl
    · exact sound.gone number known absent.1
    · exact absurd List.mem_cons_self absent.2
  waiting := fun number later => sound.waiting number (Nat.le_of_succ_le later)

theorem acceptClients_sound (count : Nat) (sound : Sound world)
    (few : (acceptClients count world).accepted < 2 ^ 31) : Sound (acceptClients count world) := by
  induction count generalizing world with
  | zero => exact sound
  | succ count ih =>
    rw [acceptClients] at few ⊢
    split at few
    · rename_i waits
      rw [if_pos waits]
      have grows := acceptClients_accepted count (acceptClient world)
      have room : world.accepted < 2 ^ 31 := Nat.lt_of_succ_lt (Nat.lt_of_le_of_lt grows few)
      exact ih (acceptClient_sound sound waits room) few
    · rename_i waits
      rw [if_neg waits]
      exact sound

/-- Reading from all clients and erasing those whose stream has ended. -/
theorem read_sound (sound : Sound world) (few : world.accepted < 2 ^ 31)
    (read : ReadFrom reads world.clients world.connections reading) : Sound { world with
      clients := eraseClients reading.deadClients reading.clients
      connections := reading.connections
      events := world.events ++ reading.events } := by
  have same_fds : reading.clients.map (·.fd) = world.clients.map (·.fd) := by
    have seconds := congrArg (List.map Prod.snd) read.same
    rw [List.map_map, List.map_map] at seconds
    exact seconds
  have original : ∀ client ∈ reading.clients, ∃ before ∈ world.clients,
      before.id = client.id ∧ before.fd = client.fd := by
    intro client held
    have pair : (client.id, client.fd) ∈ world.clients.map fun client => (client.id, client.fd) := by
      rw [← read.same]
      exact List.mem_map_of_mem held
    obtain ⟨before, found, equal⟩ := List.mem_map.1 pair
    exact ⟨before, found, congrArg Prod.fst equal, congrArg Prod.snd equal⟩
  have numbered : ∀ client ∈ world.clients, ∀ number < world.accepted, client.id = idOf number →
      client.fd = number := by
    intro client held number known named
    obtain ⟨own_name, own_known⟩ := sound.ids client held
    exact idOf_injective (own_known.trans few) (known.trans few) (own_name.symm.trans named)
  refine ⟨sound.accepted, sound.next, sound.given, ?_, ?_, ?_, ?_, ?_, ?_, ?_⟩
  · intro client held
    obtain ⟨before, found, same_id, same_fd⟩ := original client ((mem_eraseClients _ _).1 held).1
    rw [← same_id, ← same_fd]
    exact sound.ids before found
  · refine ((eraseClients_sublist _ _).map _).nodup ?_
    rw [same_fds]
    exact sound.apart
  · exact fun client held => read.buffers client ((mem_eraseClients _ _).1 held).1
  · intro number known
    dsimp only
    rw [reportedLines_append, sound.reported number known]
    by_cases connected : number ∈ world.clients.map (·.fd)
    · obtain ⟨client, held, rfl⟩ := List.mem_map.1 connected
      rw [read.lines client held, (sound.ids client held).1]
    · have silent : reportedLines (idOf number) reading.events = [] := by
        apply reportedLines_other
        intro event reported same
        obtain ⟨client, held, sent⟩ := read.senders event reported
        have fd := numbered client held number known (sent.symm.trans same)
        exact connected (List.mem_map.2 ⟨client, held, fd⟩)
      rw [silent, List.append_nil, read.others number connected]
  · intro event held
    rcases List.mem_append.1 held with held | held
    · exact sound.senders event held
    · obtain ⟨client, found, sent⟩ := read.senders event held
      obtain ⟨named, known⟩ := sound.ids client found
      exact ⟨client.fd, known, sent.trans named⟩
  · intro number known absent
    by_cases connected : number ∈ world.clients.map (·.fd)
    · rw [← same_fds] at connected
      obtain ⟨client, held, rfl⟩ := List.mem_map.1 connected
      have ended : client.id ∈ reading.deadClients := by
        by_contra alive
        exact absent (List.mem_map_of_mem ((mem_eraseClients _ _).2 ⟨held, alive⟩))
      obtain ⟨before, found, same_id, same_fd⟩ := original client held
      obtain ⟨other, other_found, other_id, drained⟩ := read.dead client.id ended
      have named := (sound.ids before found).1
      rw [same_id, same_fd] at named
      have same := numbered other other_found client.fd known (other_id.trans named)
      rwa [same] at drained
    · dsimp only
      rw [read.others number connected]
      exact sound.gone number known connected
  · intro number later
    have unconnected : number ∉ world.clients.map (·.fd) := by
      intro connected
      obtain ⟨client, held, rfl⟩ := List.mem_map.1 connected
      exact Nat.not_lt.2 later (sound.ids client held).2
    dsimp only
    rw [read.others number unconnected]
    exact sound.waiting number later

/-- What `poll` reads after it has accepted. -/
theorem poll_reads (reply : PollReply) (accepted : Sound world) (few : world.accepted < 2 ^ 31) :
    ReadFrom reply.reads world.clients world.connections
      (readClients reply.reads world.clients world.connections) := by
  refine readClients_spec reply.reads _ _ accepted.apart ?_ accepted.buffers
  have named : world.clients.map (·.id) = (world.clients.map (·.fd)).map idOf := by
    rw [List.map_map]
    exact List.map_congr_left fun client held => (accepted.ids client held).1
  rw [named]
  refine accepted.apart.map_on ?_
  intro first first_held second second_held same
  obtain ⟨client, held, rfl⟩ := List.mem_map.1 first_held
  obtain ⟨other, other_held, rfl⟩ := List.mem_map.1 second_held
  exact idOf_injective ((accepted.ids client held).2.trans few)
    ((accepted.ids other other_held).2.trans few) same

theorem poll_sound (reply : PollReply) (sound : Sound world)
    (few : (poll reply world).accepted < 2 ^ 31) : Sound (poll reply world) := by
  have accepted := acceptClients_sound reply.accepts sound few
  exact read_sound accepted few (poll_reads reply accepted few)

/-- Peers change neither what was received nor a stream that has ended. -/
theorem updateConnection_sound (number : Nat) (change : Connection → Connection)
    (received : ∀ connection, (change connection).received = connection.received)
    (ended : ∀ connection, connection.unread = [] ∧ connection.hungUp = true →
      (change connection).unread = [] ∧ (change connection).hungUp = true)
    (sound : Sound world) : Sound (updateConnection number change world) := by
  unfold updateConnection
  split
  · have same : ∀ other, (Function.update world.connections number
        (change (world.connections number)) other).received = (world.connections other).received := by
      intro other
      by_cases own : other = number
      · rw [own, Function.update_self, received]
      · rw [Function.update_of_ne own]
    refine ⟨sound.accepted, sound.next, sound.given, sound.ids, sound.apart, ?_, ?_, sound.senders,
      ?_, ?_⟩
    · intro client held
      dsimp only
      rw [same]
      exact sound.buffers client held
    · intro other known
      dsimp only
      rw [same]
      exact sound.reported other known
    · intro other known absent
      have gone := sound.gone other known absent
      by_cases own : other = number
      · subst own
        dsimp only
        rw [Function.update_self]
        exact ended _ gone
      · dsimp only
        rw [Function.update_of_ne own]
        exact gone
    · intro other later
      dsimp only
      rw [same]
      exact sound.waiting other later
  · exact sound

theorem step_accepted (world : World) (event : Event) :
    world.accepted ≤ (step world event).accepted := by
  cases event with
  | connect => exact Nat.le_refl _
  | send number bytes =>
    simp only [step, updateConnection]
    split <;> exact Nat.le_refl _
  | hangUp number =>
    simp only [step, updateConnection]
    split <;> exact Nat.le_refl _
  | poll reply => exact acceptClients_accepted reply.accepts world

theorem step_sound (world : World) (event : Event) (sound : Sound world)
    (few : (step world event).accepted < 2 ^ 31) : Sound (step world event) := by
  cases event with
  | connect =>
    exact ⟨Nat.le_succ_of_le sound.accepted, sound.next, sound.given, sound.ids, sound.apart,
      sound.buffers, sound.reported, sound.senders, sound.gone, sound.waiting⟩
  | send number bytes =>
    refine updateConnection_sound number _ ?_ ?_ sound
    · intro connection
      unfold Connection.write
      split <;> rfl
    · intro connection ended
      rw [Connection.write, if_pos ended.2]
      exact ended
  | hangUp number =>
    exact updateConnection_sound number _ (fun _ => rfl) (fun _ ended => ⟨ended.1, rfl⟩) sound
  | poll reply => exact poll_sound reply sound few

theorem run_sound (events : List Event) (few : (run events).accepted < 2 ^ 31) :
    Sound (run events) := by
  have after_each : ∀ (world : World) (event : Event),
      (world.accepted < 2 ^ 31 → Sound world) →
      (step world event).accepted < 2 ^ 31 → Sound (step world event) := by
    intro world event before few
    exact step_sound world event (before (Nat.lt_of_le_of_lt (step_accepted world event) few)) few
  exact Runs.invariant_after_any_run events after_each (fun _ => start_sound) few

/-- What one `poll` does with what the kernel hands it: it accepts every connection it is
let in on, takes all the bytes offered on the accepted ones, reports under each identifier
the lines that these bytes complete, and drops a client when a read finds the end. -/
structure Reports (reply : PollReply) (world : World) : Prop where
  accepts : (poll reply world).accepted = min world.opened (world.accepted + reply.accepts)
  takes : ∀ number < (poll reply world).accepted, (poll reply world).connections number =
    (world.connections number).advance (offered (reply.reads number))
  reports : ∃ reported, (poll reply world).events = world.events ++ reported ∧
    ∀ number id, (poll reply world).given[number]? = some id →
      completeLines ((world.connections number).received ++
          (world.connections number).unread.take (offered (reply.reads number))) =
        completeLines (world.connections number).received ++ reportedLines id reported
  drops : ∀ client ∈ (acceptClients reply.accepts world).clients,
    client.id ∉ (poll reply world).clients.map (·.id) ↔
      (world.connections client.fd).hungUp = true ∧
        LooksBeyond (reply.reads client.fd) (world.connections client.fd).unread

/-- Every accepted connection has an identifier of its own, and under that identifier the
server reports exactly the complete lines received on it; when the server drops a client it
has received the whole stream, and the next `poll` reports all that it is handed. -/
structure Framed (world : World) : Prop where
  ids : world.given.Nodup ∧ world.given.length = world.accepted
  attributed : ∀ event ∈ world.events, event.clientId ∈ world.given
  lines : ∀ number id, world.given[number]? = some id →
    reportedLines id world.events = completeLines (world.connections number).received
  whole : ∀ number id, world.given[number]? = some id →
    id ∉ world.clients.map (·.id) ∨ (world.connections number).unread = [] →
    reportedLines id world.events = completeLines (world.connections number).stream
  reports : ∀ reply, (poll reply world).accepted < 2 ^ 31 → Reports reply world

theorem Sound.given_known {id : ClientId} (sound : Sound world) (is_given : world.given[number]? = some id) :
    number < world.accepted ∧ id = idOf number := by
  rw [sound.given, List.getElem?_map] at is_given
  obtain ⟨other, found, rfl⟩ := Option.map_eq_some_iff.1 is_given
  obtain ⟨known, rfl⟩ := List.getElem?_eq_some_iff.1 found
  rw [List.length_range] at known
  rw [List.getElem_range]
  exact ⟨known, rfl⟩

theorem Sound.reports (sound : Sound world) (reply : PollReply)
    (few : (poll reply world).accepted < 2 ^ 31) : Reports reply world := by
  obtain ⟨accepts, connections, silent⟩ := acceptClients_spec reply.accepts sound.accepted
  have accepted := acceptClients_sound reply.accepts sound few
  have read := poll_reads reply accepted few
  have after := poll_sound reply sound few
  have takes : ∀ number < (poll reply world).accepted, (poll reply world).connections number =
      (world.connections number).advance (offered (reply.reads number)) := by
    intro number known
    by_cases connected : number ∈ (acceptClients reply.accepts world).clients.map (·.fd)
    · obtain ⟨client, held, rfl⟩ := List.mem_map.1 connected
      rw [← connections]
      exact read.taken client held
    · -- the client is gone, and nothing waits on its connection
      have nothing := (accepted.gone number known connected).1
      have unread := read.others number connected
      refine unread.trans ?_
      rw [← connections]
      generalize (acceptClients reply.accepts world).connections number = connection at nothing
      obtain ⟨received, waiting, hungUp⟩ := connection
      subst nothing
      simp [Connection.advance]
  refine ⟨accepts, takes, ?_, ?_⟩
  · refine ⟨(readClients reply.reads (acceptClients reply.accepts world).clients
      (acceptClients reply.accepts world).connections).events, ?_, ?_⟩
    · rw [← silent]
      rfl
    · intro number id is_given
      obtain ⟨known, rfl⟩ := after.given_known is_given
      have before := accepted.reported number known
      have all := after.reported number known
      rw [takes number known] at all
      rw [connections, silent] at before
      rw [← before, ← reportedLines_append]
      refine all.symm.trans ?_
      rw [← silent]
      rfl
  · intro client held
    rw [← connections, ← read.ended client held]
    have same : ∀ id, id ∈ (readClients reply.reads (acceptClients reply.accepts world).clients
        (acceptClients reply.accepts world).connections).clients.map (·.id) ↔
        id ∈ (acceptClients reply.accepts world).clients.map (·.id) := by
      have firsts := congrArg (List.map Prod.fst) read.same
      rw [List.map_map, List.map_map] at firsts
      intro id
      exact iff_of_eq (congrArg (id ∈ ·) firsts)
    constructor
    · intro dropped
      by_contra alive
      obtain ⟨kept, found, named⟩ := List.mem_map.1 ((same client.id).2 (List.mem_map_of_mem held))
      refine dropped (List.mem_map.2 ⟨kept, ?_, named⟩)
      exact (mem_eraseClients _ _).2 ⟨found, named.symm ▸ alive⟩
    · intro ended present
      obtain ⟨kept, found, named⟩ := List.mem_map.1 present
      exact ((mem_eraseClients _ _).1 found).2 (named.symm ▸ ended)

theorem lines_reach_their_client (events : List Event) (few : (run events).accepted < 2 ^ 31) :
    Framed (run events) := by
  have sound := run_sound events few
  have lines : ∀ number id, (run events).given[number]? = some id →
      reportedLines id (run events).events =
        completeLines ((run events).connections number).received := by
    intro number id is_given
    obtain ⟨known, rfl⟩ := sound.given_known is_given
    exact sound.reported number known
  refine ⟨⟨?_, ?_⟩, ?_, lines, ?_, sound.reports⟩
  · rw [sound.given]
    refine List.nodup_range.map_on ?_
    intro first first_known second second_known same
    exact idOf_injective ((List.mem_range.1 first_known).trans few)
      ((List.mem_range.1 second_known).trans few) same
  · rw [sound.given, List.length_map, List.length_range]
  · intro event held
    obtain ⟨number, known, sent⟩ := sound.senders event held
    rw [sound.given, sent]
    exact List.mem_map_of_mem (List.mem_range.2 known)
  · intro number id is_given finished
    obtain ⟨known, named⟩ := sound.given_known is_given
    have read_all : ((run events).connections number).unread = [] := by
      rcases finished with dropped | read_all
      · refine (sound.gone number known ?_).1
        intro connected
        obtain ⟨client, held, rfl⟩ := List.mem_map.1 connected
        refine dropped (List.mem_map.2 ⟨client, held, ?_⟩)
        exact (sound.ids client held).1.trans named.symm
      · exact read_all
    rw [lines number id is_given, Connection.stream, read_all, List.append_nil]

/-- Two clients, the first of which hangs up in the middle of its second line. -/
def twoClients : List Event :=
  [.connect, .connect, .send 0 [97, 13, 10, 98], .send 1 [99], .hangUp 0,
    .poll ⟨2, fun _ => [3, 9, 1]⟩, .send 1 [10], .poll ⟨0, fun _ => [5]⟩]

theorem two_clients_framed : (run twoClients).accepted < 2 ^ 31 ∧ Framed (run twoClients) ∧
    reportedLines 1 (run twoClients).events = [[97]] ∧
    reportedLines 2 (run twoClients).events = [[99]] :=
  ⟨by decide, lines_reach_their_client twoClients (by decide), by decide, by decide⟩

end Glide.IpcServer
