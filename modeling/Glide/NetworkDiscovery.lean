import Glide.Library.KeyedLists
import Glide.Library.StreamExtraction

/-! The peers that announce themselves. A message is read from a stream word by word, and whether
the stream failed, or how a number was written, is not looked at. -/
namespace Glide.NetworkDiscovery
open Library AsciiText NumberText StreamExtraction KeyedLists

structure Peer where
  address : List UInt8
  hostname : List UInt8
  videoPort : Nat
  lastSeen : Nat
  deriving DecidableEq

/-- The service, with the replies it has sent and where to. -/
structure DiscoveryService where
  hostname : List UInt8
  videoUdpPort : Nat
  peers : List Peer
  pendingLines : List (List UInt8)
  sent : List (List UInt8 × List UInt8)

def discoverPrefix : List UInt8 := ascii "OPENHD_GLIDE_DISCOVER"

def herePrefix : List UInt8 := ascii "OPENHD_GLIDE_HERE"

def sanitizeToken (value : List UInt8) : List UInt8 :=
  value.map fun character =>
    if character == 32 || character == 10 || character == 13 || character == 9 then 95 else character

def replyOf (service : DiscoveryService) : List UInt8 :=
  herePrefix ++ ascii " 1 " ++ service.hostname ++ [32] ++ decimal service.videoUdpPort

def peerLine (peer : Peer) : List UInt8 :=
  ascii "state net peer " ++ peer.address ++ [32] ++ peer.hostname ++ [32] ++ decimal peer.videoPort

/-- The list of `upsert_peer`. -/
def withPeer (peers : List Peer) (peer : Peer) : List Peer :=
  match peers.findIdx? fun item => item.address == peer.address with
  | some index => peers.set index peer
  | none => peers ++ [peer]

def upsertPeer (peer : Peer) (service : DiscoveryService) : DiscoveryService :=
  { service with
    peers := withPeer service.peers peer
    pendingLines := service.pendingLines ++ [peerLine peer] }

/-- A message, as the text that was received up to its first NUL, and the address it came from;
`localAddresses` are this machine's own. -/
def handlePacket (localAddresses : List (List UInt8)) (now : Nat) (payload sender : List UInt8)
    (service : DiscoveryService) : DiscoveryService :=
  if sender = [] then service
  else
    let (start, stream) := extractWord ⟨payload, false⟩
    let (version, stream) := extract convertInt 0 stream
    let (hostname, stream) := extractWord stream
    let (videoPort, _) := extract convertUnsignedShort 0 stream
    if version ≠ 1 then service
    else if start = discoverPrefix then
      { service with sent := service.sent ++ [(sender, replyOf service)] }
    else if start ≠ herePrefix ∨ videoPort = 0 then service
    else if localAddresses.contains sender then service
    else
      upsertPeer ⟨sender, sanitizeToken (if hostname = [] then ascii "glide" else hostname),
        videoPort, now⟩ service

inductive Event where
  | packet (localAddresses : List (List UInt8)) (now : Nat) (payload sender : List UInt8)
  /-- A scan forgets the peers. -/
  | startScan
  /-- The lines are handed over. -/
  | poll

def step (service : DiscoveryService) : Event → DiscoveryService
  | .packet localAddresses now payload sender => handlePacket localAddresses now payload sender service
  | .startScan =>
    { service with
      peers := [], pendingLines := service.pendingLines ++ [ascii "state net scanning"] }
  | .poll => { service with pendingLines := [] }

/-- A service that has been started. -/
def initial (hostname : List UInt8) (videoUdpPort : Nat) : DiscoveryService :=
  ⟨hostname, videoUdpPort, [], [ascii "state net idle"], []⟩

def run (hostname : List UInt8) (videoUdpPort : Nat) (events : List Event) : DiscoveryService :=
  events.foldl step (initial hostname videoUdpPort)

/-! ### What is asked of a message -/

/-- A message of another machine. -/
structure Packet where
  localAddresses : List (List UInt8)
  now : Nat
  payload : List UInt8
  sender : List UInt8
  named : sender ≠ []
  foreign : localAddresses.contains sender = false

def Packet.handle (packet : Packet) (service : DiscoveryService) : DiscoveryService :=
  handlePacket packet.localAddresses packet.now packet.payload packet.sender service

/-- The text behind so many fields. -/
def behind : (fields : Nat) → List UInt8 → List UInt8
  | 0, text => text
  | fields + 1, text => behind fields (nextWord text).2

def field (index : Nat) (payload : List UInt8) : List UInt8 := (nextWord (behind index payload)).1

/-- A number that is written with digits only. -/
def Decimal (word : List UInt8) (number : Nat) : Prop :=
  (∀ byte ∈ word, isDigit byte = true) ∧ decimalValue word = number

/-- The grammar: the prefix, the version, a host's name and a port. -/
structure Announces (payload : List UInt8) (port : Nat) : Prop where
  start : field 0 payload = herePrefix
  version : Decimal (field 1 payload) 1
  host : field 2 payload ≠ []
  number : Decimal (field 3 payload) port
  range : 1 ≤ port ∧ port ≤ 65535

/-- The sender has an entry of now with this port, and the entry is told of. -/
structure Refreshed (packet : Packet) (port : Nat) (before after : DiscoveryService) : Prop where
  entry : ∃ peer ∈ after.peers, peer.address = packet.sender ∧ peer.videoPort = port ∧
    peer.lastSeen = packet.now
  told : after.pendingLines.length = before.pendingLines.length + 1

def Distinct (service : DiscoveryService) : Prop := (service.peers.map (·.address)).Nodup

/-- A message has its effect exactly if it is of the grammar, and no other. -/
structure Sound (packet : Packet) (before : DiscoveryService) : Prop where
  exact : ∀ port, Refreshed packet port before (packet.handle before) ↔ Announces packet.payload port
  distinct : Distinct (packet.handle before)
  others : (packet.handle before).peers.filter (·.address ≠ packet.sender) =
    before.peers.filter (·.address ≠ packet.sender)
  quiet : field 0 packet.payload = herePrefix → (packet.handle before).sent = before.sent

/-- A message that is taken for one of the grammar and is not: it has the prefix, a text that starts
with the number 1, a host's name and a text that starts with a number other than 0, but one of the
numbers has a sign or characters behind it, or the port is too large. -/
def Misread (payload : List UInt8) : Prop :=
  field 0 payload = herePrefix ∧ ∃ host negative number rest,
    leadingNumber (behind 1 payload) = some (false, 1, host) ∧ (nextWord host).1 ≠ [] ∧
    leadingNumber (nextWord host).2 = some (negative, number, rest) ∧ number ≠ 0 ∧
    ¬((∀ byte ∈ field 1 payload, isDigit byte = true) ∧
      (∀ byte ∈ field 3 payload, isDigit byte = true) ∧ number ≤ 65535)

/-! ### The list of peers -/

theorem withPeer_eq (peers : List Peer) (peer : Peer) :
    withPeer peers peer = upsert (·.address) peer peers := by
  induction peers with
  | nil => rfl
  | cons first rest ih =>
    unfold withPeer upsert
    by_cases same : first.address = peer.address
    · simp [List.findIdx?_cons, same]
    · rw [if_neg same, ← ih, List.findIdx?_cons]
      unfold withPeer
      cases found : rest.findIdx? fun item => item.address == peer.address with
      | none => simp [same]
      | some index => simp [same]

theorem refreshed_upsert (packet : Packet) (distinct : Distinct service) (host : List UInt8)
    (port found : Nat) :
    Refreshed packet port service (upsertPeer ⟨packet.sender, host, found, packet.now⟩ service) ↔
      port = found := by
  constructor
  · rintro ⟨⟨peer, member, address, same, _⟩, _⟩
    simp only [upsertPeer, withPeer_eq] at member
    have only := eq_of_upsert distinct member address
    rw [← same, only]
  · rintro rfl
    refine ⟨⟨⟨packet.sender, host, port, packet.now⟩, ?_, rfl, rfl, rfl⟩, ?_⟩
    · simp only [upsertPeer, withPeer_eq]
      exact mem_upsert ..
    · simp [upsertPeer]

theorem not_refreshed (packet : Packet) (port : Nat) (sent : List (List UInt8 × List UInt8)) :
    ¬Refreshed packet port service { service with sent } := by
  rintro ⟨_, told⟩
  exact Nat.succ_ne_self _ told.symm

/-! ### What is read -/

/-- The numbers that are read from a message that counts, and the text behind the first one. -/
structure Read (payload host : List UInt8) (negative : Bool) (number : Nat) (rest : List UInt8) :
    Prop where
  start : field 0 payload = herePrefix
  version : leadingNumber (behind 1 payload) = some (false, 1, host)
  hostname : (nextWord host).1 ≠ []
  port : leadingNumber (nextWord host).2 = some (negative, number, rest)
  some : number ≠ 0

theorem herePrefix_other : herePrefix ≠ [] ∧ herePrefix ≠ discoverPrefix := by decide +kernel

theorem extractWord_some (nonempty : (nextWord text).1 ≠ []) :
    extractWord ⟨text, false⟩ = ((nextWord text).1, ⟨(nextWord text).2, false⟩) := by
  unfold extractWord
  dsimp only
  rw [if_neg (by simp [nonempty])]

theorem extractWord_none (empty : (nextWord text).1 = []) :
    extractWord ⟨text, false⟩ = ([], ⟨[], true⟩) := by
  unfold extractWord
  dsimp only
  rw [if_pos (.inr empty)]

theorem handle_read (packet : Packet) (service : DiscoveryService)
    (read : Read packet.payload host negative number rest) :
    packet.handle service = upsertPeer
      ⟨packet.sender, sanitizeToken (nextWord host).1, shortOf negative number, packet.now⟩ service := by
  obtain ⟨start, version, hostname, port, nonzero⟩ := read
  have startSome : (nextWord packet.payload).1 ≠ [] := by
    rw [show (nextWord packet.payload).1 = herePrefix from start]
    exact herePrefix_other.1
  have startSame : (nextWord packet.payload).1 = herePrefix := start
  have one := (extract_one (nextWord packet.payload).2).mpr ⟨host, version⟩
  have streamBehindOne := extract_one_stream version
  have short := extract_short (nextWord host).2
  rw [port] at short
  have shortSome : shortOf negative number ≠ 0 := fun zero => nonzero ((shortOf_eq_zero_iff ..).mp zero)
  unfold Packet.handle handlePacket
  rw [if_neg packet.named, extractWord_some startSome]
  simp only [behind] at streamBehindOne
  simp only [one, streamBehindOne, extractWord_some hostname, short, startSame,
    herePrefix_other.2, packet.foreign, ne_eq, not_true_eq_false, ↓reduceIte, shortSome, or_self,
    hostname, Bool.false_eq_true]

/-- Any other message is left, or at the most answered. -/
theorem handle_unread (packet : Packet) (service : DiscoveryService)
    (unread : ¬∃ host negative number rest, Read packet.payload host negative number rest) :
    ∃ sent, packet.handle service = { service with sent } ∧
      (field 0 packet.payload = herePrefix → sent = service.sent) := by
  have kept : ∃ sent, service = { service with sent } ∧
      (field 0 packet.payload = herePrefix → sent = service.sent) := ⟨service.sent, rfl, fun _ => rfl⟩
  unfold Packet.handle handlePacket
  rw [if_neg packet.named]
  by_cases empty : (nextWord packet.payload).1 = []
  · rw [extractWord_none empty]
    simp only [extract_failed]
    exact kept
  · rw [extractWord_some empty]
    dsimp only
    by_cases one : (extract convertInt 0 ⟨(nextWord packet.payload).2, false⟩).1 = 1
    · rw [if_neg (by simp [one])]
      by_cases discover : (nextWord packet.payload).1 = discoverPrefix
      · rw [if_pos discover]
        refine ⟨_, rfl, fun here => absurd ?_ herePrefix_other.2⟩
        exact Eq.trans (Eq.symm here) discover
      · rw [if_neg discover]
        have refused : (nextWord packet.payload).1 ≠ herePrefix ∨ (extract convertUnsignedShort 0
            (extractWord (extract convertInt 0 ⟨(nextWord packet.payload).2, false⟩).2).2).1 = 0 := by
          by_contra counts
          obtain ⟨here, some⟩ := not_or.mp counts
          obtain ⟨host, version⟩ := (extract_one (nextWord packet.payload).2).mp one
          rw [extract_one_stream version] at some
          by_cases noHost : (nextWord host).1 = []
          · rw [extractWord_none noHost, extract_failed] at some
            exact some rfl
          · rw [extractWord_some noHost, extract_short] at some
            cases port : leadingNumber (nextWord host).2 with
            | none =>
              rw [port] at some
              exact some rfl
            | some found =>
              obtain ⟨negative, number, rest⟩ := found
              rw [port] at some
              refine unread ⟨host, negative, number, rest, not_not.mp here, version, noHost, port, ?_⟩
              exact fun zero => some ((shortOf_eq_zero_iff ..).mpr zero)
        rw [if_pos refused]
        exact kept
    · rw [if_pos one]
      exact kept

/-! ### The grammar -/

/-- What is written by the grammar is read. -/
theorem read_announced (announced : Announces payload port) :
    ∃ host rest, Read payload host false port rest := by
  obtain ⟨start, ⟨versionDigits, one⟩, host, ⟨portDigits, value⟩, ⟨least, _⟩⟩ := announced
  have versionSome : field 1 payload ≠ [] := by
    intro none
    rw [none] at one
    cases one
  have portSome : field 3 payload ≠ [] := by
    intro none
    rw [none] at value
    subst value
    exact absurd least (by decide)
  have version := leadingNumber_word versionDigits versionSome
  have number := leadingNumber_word portDigits portSome
  simp only [field] at one value
  rw [one] at version
  rw [value] at number
  exact ⟨_, _, start, version, host, number, Nat.ne_of_gt least⟩

/-- What is read, and written with digits in their range, is of the grammar. -/
theorem announced_of_read (read : Read payload host negative number rest)
    (versionDigits : ∀ byte ∈ field 1 payload, isDigit byte = true)
    (portDigits : ∀ byte ∈ field 3 payload, isDigit byte = true) (small : number ≤ 65535) :
    negative = false ∧ Announces payload number := by
  obtain ⟨start, version, hostname, port, nonzero⟩ := read
  have word := leadingNumber_word versionDigits (leadingNumber_some version)
  rw [version] at word
  simp only [Option.some.injEq, Prod.mk.injEq, true_and] at word
  obtain ⟨one, rfl⟩ := word
  have portWord := leadingNumber_word portDigits (leadingNumber_some port)
  have shape : behind 3 payload = (nextWord (nextWord (behind 1 payload)).2).2 := rfl
  rw [shape, port] at portWord
  simp only [Option.some.injEq, Prod.mk.injEq] at portWord
  obtain ⟨unsigned, value, _⟩ := portWord
  exact ⟨unsigned, start, ⟨versionDigits, one.symm⟩, hostname, ⟨portDigits, value.symm⟩,
    Nat.pos_of_ne_zero nonzero, small⟩

theorem announces_unique (first : Announces payload port) (second : Announces payload other) :
    port = other := first.number.2.symm.trans second.number.2

theorem misread_iff (payload : List UInt8) :
    Misread payload ↔ ∃ host negative number rest, Read payload host negative number rest ∧
      ¬((∀ byte ∈ field 1 payload, isDigit byte = true) ∧
        (∀ byte ∈ field 3 payload, isDigit byte = true) ∧ number ≤ 65535) := by
  constructor
  · rintro ⟨start, host, negative, number, rest, version, hostname, port, nonzero, loose⟩
    exact ⟨host, negative, number, rest, ⟨start, version, hostname, port, nonzero⟩, loose⟩
  · rintro ⟨host, negative, number, rest, ⟨start, version, hostname, port, nonzero⟩, loose⟩
    exact ⟨start, host, negative, number, rest, version, hostname, port, nonzero, loose⟩

/-! ### Runs -/

/-- All that a message can do. -/
theorem handlePacket_cases (localAddresses : List (List UInt8)) (now : Nat)
    (payload sender : List UInt8) (service : DiscoveryService) :
    (∃ sent, handlePacket localAddresses now payload sender service = { service with sent }) ∨
    ∃ peer, peer.address = sender ∧
      handlePacket localAddresses now payload sender service = upsertPeer peer service := by
  unfold handlePacket
  dsimp only
  split
  · exact .inl ⟨service.sent, rfl⟩
  · split
    · exact .inl ⟨service.sent, rfl⟩
    · split
      · exact .inl ⟨_, rfl⟩
      · split
        · exact .inl ⟨service.sent, rfl⟩
        · split
          · exact .inl ⟨service.sent, rfl⟩
          · exact .inr ⟨_, rfl, rfl⟩

theorem upsertPeer_distinct (distinct : Distinct service) (peer : Peer) :
    Distinct (upsertPeer peer service) := by
  unfold Distinct upsertPeer
  rw [withPeer_eq]
  exact nodup_upsert distinct

theorem handlePacket_distinct (distinct : Distinct service) (localAddresses : List (List UInt8))
    (now : Nat) (payload sender : List UInt8) :
    Distinct (handlePacket localAddresses now payload sender service) := by
  rcases handlePacket_cases localAddresses now payload sender service with
    ⟨sent, same⟩ | ⟨peer, _, refreshed⟩
  · rw [same]
    exact distinct
  · rw [refreshed]
    exact upsertPeer_distinct distinct peer

theorem handlePacket_others (localAddresses : List (List UInt8)) (now : Nat)
    (payload sender : List UInt8) (service : DiscoveryService) :
    (handlePacket localAddresses now payload sender service).peers.filter (·.address ≠ sender) =
      service.peers.filter (·.address ≠ sender) := by
  rcases handlePacket_cases localAddresses now payload sender service with
    ⟨sent, same⟩ | ⟨peer, address, refreshed⟩
  · rw [same]
  · subst address
    rw [refreshed]
    simp only [upsertPeer, withPeer_eq]
    exact filter_upsert (·.address) peer service.peers

theorem run_distinct (hostname : List UInt8) (videoUdpPort : Nat) (events : List Event) :
    Distinct (run hostname videoUdpPort events) := by
  have kept : ∀ service, Distinct service → Distinct (events.foldl step service) := by
    induction events with
    | nil => exact fun _ distinct => distinct
    | cons event events ih =>
      intro service distinct
      apply ih
      cases event with
      | packet localAddresses now payload sender =>
        exact handlePacket_distinct distinct localAddresses now payload sender
      | startScan => exact List.nodup_nil
      | poll => exact distinct
  exact kept _ List.nodup_nil

theorem handle_quiet (packet : Packet) (service : DiscoveryService)
    (here : field 0 packet.payload = herePrefix) : (packet.handle service).sent = service.sent := by
  by_cases read : ∃ host negative number rest, Read packet.payload host negative number rest
  · obtain ⟨host, negative, number, rest, read⟩ := read
    rw [handle_read packet service read]
    rfl
  · obtain ⟨sent, same, quiet⟩ := handle_unread packet service read
    rw [same]
    exact quiet here

/-- After any run a message has its effect exactly if it is one of the grammar, unless it is one that
is misread. -/
theorem packet_sound_iff (hostname : List UInt8) (videoUdpPort : Nat) (events : List Event)
    (packet : Packet) :
    Sound packet (run hostname videoUdpPort events) ↔ ¬Misread packet.payload := by
  have distinct := run_distinct hostname videoUdpPort events
  generalize run hostname videoUdpPort events = service at distinct
  rw [misread_iff]
  constructor
  · rintro sound ⟨host, negative, number, rest, read, loose⟩
    have refreshed := (refreshed_upsert packet distinct (sanitizeToken (nextWord host).1)
      (shortOf negative number) (shortOf negative number)).mpr rfl
    rw [← handle_read packet service read] at refreshed
    have announced := (sound.exact _).mp refreshed
    obtain ⟨otherHost, otherRest, other⟩ := read_announced announced
    have sameHost := read.version.symm.trans other.version
    simp only [Option.some.injEq, Prod.mk.injEq, true_and] at sameHost
    have samePort := read.port.symm.trans (sameHost ▸ other.port)
    simp only [Option.some.injEq, Prod.mk.injEq] at samePort
    apply loose
    exact ⟨announced.version.1, announced.number.1, samePort.2.1 ▸ announced.range.2⟩
  · intro tidy
    refine ⟨?_, handlePacket_distinct distinct .., handlePacket_others .., handle_quiet packet service⟩
    intro port
    by_cases read : ∃ host negative number rest, Read packet.payload host negative number rest
    · obtain ⟨host, negative, number, rest, read⟩ := read
      obtain ⟨versionDigits, portDigits, small⟩ := by_contra fun loose =>
        tidy ⟨host, negative, number, rest, read, loose⟩
      obtain ⟨rfl, announced⟩ := announced_of_read read versionDigits portDigits small
      have stored : shortOf false number = number := by
        unfold shortOf
        rw [if_neg (by omega)]
        rfl
      rw [handle_read packet service read, refreshed_upsert packet distinct, stored]
      constructor
      · rintro rfl
        exact announced
      · exact fun other => announces_unique other announced
    · obtain ⟨sent, same, _⟩ := handle_unread packet service read
      rw [same]
      refine iff_of_false (not_refreshed packet port sent) fun announced => ?_
      obtain ⟨host, rest, found⟩ := read_announced announced
      exact read ⟨host, false, port, rest, found⟩

/-- A port above the range is saturated. -/
theorem large_port_stored : ¬∀ (hostname : List UInt8) (videoUdpPort : Nat) (events : List Event)
    (packet : Packet), Sound packet (run hostname videoUdpPort events) := by
  intro sound
  have exact := (sound (ascii "ground") 5600 [] ⟨[], 0, ascii "OPENHD_GLIDE_HERE 1 drone 70000",
    ascii "10.0.0.2", by decide, rfl⟩).exact 65535
  have announced := exact.mp ⟨⟨⟨ascii "10.0.0.2", ascii "drone", 65535, 0⟩, by decide +kernel, rfl,
    rfl, rfl⟩, by decide +kernel⟩
  exact absurd announced.number.2 (by decide +kernel)

end Glide.NetworkDiscovery
