import Glide.DiscoveryNetwork
import Glide.UserInterface

/-! The machines that a user interface shows. It is told of them in lines: those it missed when it
greets or asks, and then each as it comes. It tells the machines apart by the texts it shows, and
keeps those of an earlier connection until a scan starts. -/
namespace Glide.ShownPeers
open Library AsciiText StringConversions StreamExtraction KeyedLists DiscoveryNetwork
open NetworkDiscovery hiding step run Event
open ControlClients (peerText stateSetting applyThemeStateLine applyNetworkStateLine)
open UserInterface (UiState pollIpcLine requestIfShown panelUsesNetwork)
open NumberText (Platform)
open MavlinkState (Readers)

/-- The lines of `send_network_state`. -/
def networkState (service : DiscoveryService) : List (List UInt8) :=
  ascii "state net idle" :: service.peers.map peerLine

/-- The lines that a user interface reads one after the other, each at some time. -/
def pollIpc (platform : Platform) (readers : Readers) (polls : List (Nat × List UInt8))
    (ui : UiState) : Except CppException UiState :=
  polls.foldlM (fun ui poll => pollIpcLine platform readers poll.1 poll.2 ui) ui

/-- The text of a peer in the list. -/
def shownPeer (peer : Peer) : List UInt8 :=
  peer.hostname ++ [32] ++ peer.address ++ [58] ++ decimal peer.videoPort

def listed (station : Station) : List (List UInt8) := station.service.peers.map shownPeer

/-- While a connection is open, something happens in the network, or the controller answers a
greeting or a "get net". -/
inductive Happening (ι : Type) where
  | event (event : Event ι)
  | state

def Happening.inNetwork : Happening ι → Option (Event ι)
  | .event happened => some happened
  | .state => none

/-- The lines about the network that the connection of a machine's own user interface is sent. -/
def sentLines [DecidableEq ι] (machine : ι) : (ι → Station) → List (Happening ι) → List (List UInt8)
  | _, [] => []
  | world, .event event :: rest =>
    (step world event machine).told.drop (world machine).told.length ++
      sentLines machine (step world event) rest
  | world, .state :: rest => networkState (world machine).service ++ sentLines machine world rest

/-! ### Lines -/

def scanningLine : List UInt8 := ascii "state net scanning"

/-- What a user interface makes of a line of the network. -/
def read (ui : ControlClients.UiState) (line : List UInt8) : ControlClients.UiState :=
  match applyNetworkStateLine line ui with
  | .ok (_, after) => after
  | .error _ => ui

def hear (lines : List (List UInt8)) (ui : ControlClients.UiState) : ControlClients.UiState :=
  lines.foldl read ui

variable {line : List UInt8} {lines : List (List UInt8)}

theorem hear_append (first second : List (List UInt8)) (ui : ControlClients.UiState) :
    hear (first ++ second) ui = hear second (hear first ui) := List.foldl_append ..

/-- A line of the network is no other one. -/
theorem pollIpcLine_network (platform : Platform) (readers : Readers) (rest : List UInt8)
    (start : line = ascii "state net " ++ rest) (ui : UiState) (now : Nat)
    (handled : applyNetworkStateLine line ui.toUiState = .ok (true, base)) :
    ∃ after, pollIpcLine platform readers now line ui = .ok after ∧ after.toUiState = base := by
  have setting : stateSetting line = none := by
    subst start
    simp [stateSetting, RuntimeControls.settings, RuntimeControls.stateLine,
      RuntimeControls.Setting.name, RuntimeControls.Setting.values, ascii]
  have theme : applyThemeStateLine platform line ui.toUiState = .ok (false, ui.toUiState) := by
    subst start
    unfold applyThemeStateLine
    rw [if_pos (by simp [ControlClients.stateThemeCommand, ascii, List.isPrefixOf])]
  exact ⟨requestIfShown panelUsesNetwork now { ui with toUiState := base },
    UserInterface.pollIpcLine_state readers now setting theme handled,
    UserInterface.requestIfShown_base _ _ _⟩

theorem idle_handled (ui : ControlClients.UiState) :
    applyNetworkStateLine (ascii "state net idle") ui =
      .ok (true, { ui with netScanning := false, netStatus := ascii "Idle" }) := rfl

theorem scanning_handled (ui : ControlClients.UiState) :
    applyNetworkStateLine scanningLine ui = .ok (true, { ui with
      netScanning := true, netStatus := ascii "Scanning", netPeers := [] }) := rfl

theorem done_handled (service : DiscoveryService) (ui : ControlClients.UiState) :
    applyNetworkStateLine (doneLine service) ui = .ok (true, { ui with
      netScanning := false
      netStatus := if ui.netPeers = [] then ascii "No peers" else ascii "Ready" }) := by
  unfold applyNetworkStateLine doneLine
  rw [if_neg, if_neg, if_neg, if_neg, if_pos]
  · simp [ascii, List.isPrefixOf]
  · simp [ascii, List.isPrefixOf]
  · simp [ascii]
  · simp [ascii]
  · simp [ascii, List.isPrefixOf]

/-- A host's name and an address as they stand in a line. -/
structure Plain (peer : Peer) : Prop where
  hostname : Token peer.hostname
  address : ∃ address, peer.address = addressToString address

theorem address_plain (address : InAddr) :
    ∀ byte ∈ addressToString address, isSpace byte = false := by
  intro byte member
  rcases addressToString_byte member with digit | rfl
  · exact (digit_plain digit).1
  · decide

theorem peerText_peerLine (plain : Plain peer) :
    peerText (peerLine peer) = some (shownPeer peer) := by
  obtain ⟨token, address, same⟩ := plain
  have line : peerLine peer = ascii "state" ++ 32 :: (ascii "net" ++ 32 :: (ascii "peer" ++
      32 :: (peer.address ++ 32 :: (peer.hostname ++ 32 :: decimal peer.videoPort)))) := by
    unfold peerLine
    simp only [List.append_assoc, List.singleton_append]
    rfl
  have first : nextWord (ascii "state" ++ 32 :: (ascii "net" ++ 32 :: (ascii "peer" ++
      32 :: (peer.address ++ 32 :: (peer.hostname ++ 32 :: decimal peer.videoPort))))) = _ :=
    nextWord_word (by decide +kernel) (by decide +kernel) _
  have second : nextWord (ascii "net" ++ 32 :: (ascii "peer" ++
      32 :: (peer.address ++ 32 :: (peer.hostname ++ 32 :: decimal peer.videoPort)))) = _ :=
    nextWord_word (by decide +kernel) (by decide +kernel) _
  have third : nextWord (ascii "peer" ++
      32 :: (peer.address ++ 32 :: (peer.hostname ++ 32 :: decimal peer.videoPort))) = _ :=
    nextWord_word (by decide +kernel) (by decide +kernel) _
  have named : peer.address ≠ [] := same ▸ addressToString_some address
  have fourth : nextWord
      (peer.address ++ 32 :: (peer.hostname ++ 32 :: decimal peer.videoPort)) = _ :=
    nextWord_word (same ▸ address_plain address) named _
  have fifth : nextWord (peer.hostname ++ 32 :: decimal peer.videoPort) = _ :=
    nextWord_word token.plain token.some _
  unfold peerText shownPeer
  rw [line, first]
  dsimp only
  rw [nextWord_blank, second]
  dsimp only
  rw [nextWord_blank, third]
  dsimp only
  rw [nextWord_blank, fourth]
  dsimp only
  rw [nextWord_blank, fifth]
  dsimp only
  rw [nextWord_blank, nextWord_end (decimal_plain _), if_neg named, if_neg token.some]

theorem peer_handled (plain : Plain peer) (ui : ControlClients.UiState) :
    applyNetworkStateLine (peerLine peer) ui = .ok (true, { ui with
      netPeers :=
        if shownPeer peer ∈ ui.netPeers then ui.netPeers else ui.netPeers ++ [shownPeer peer]
      netStatus := ascii "Peer found" }) := by
  have start : (ascii "state net peer ").isPrefixOf (peerLine peer) = true := by
    unfold peerLine
    simp only [List.append_assoc]
    simp
  unfold applyNetworkStateLine
  rw [if_neg, if_neg, if_neg, if_pos start, peerText_peerLine plain]
  · simp [ascii, peerLine]
  · simp [ascii, peerLine]
  · simp [ascii, peerLine, List.isPrefixOf]

/-- The lines that tell of machines and scans. -/
inductive Spoken : List UInt8 → Prop
  | idle : Spoken (ascii "state net idle")
  | scanning : Spoken scanningLine
  | peer (entry : Peer) (plain : Plain entry) : Spoken (peerLine entry)
  | done (service : DiscoveryService) : Spoken (doneLine service)

theorem read_eq (handled : applyNetworkStateLine line ui = .ok (true, after)) :
    read ui line = after := by
  unfold read
  rw [handled]

theorem Spoken.handled (spoken : Spoken line) (ui : ControlClients.UiState) :
    applyNetworkStateLine line ui = .ok (true, read ui line) := by
  cases spoken with
  | idle => rw [read_eq (idle_handled ui), idle_handled]
  | scanning => rw [read_eq (scanning_handled ui), scanning_handled]
  | peer entry plain => rw [read_eq (peer_handled plain ui), peer_handled plain]
  | done service => rw [read_eq (done_handled service ui), done_handled]

theorem Spoken.start (spoken : Spoken line) : ∃ rest, line = ascii "state net " ++ rest := by
  cases spoken with
  | idle => exact ⟨ascii "idle", rfl⟩
  | scanning => exact ⟨ascii "scanning", rfl⟩
  | peer entry plain =>
    refine ⟨ascii "peer " ++ entry.address ++ [32] ++ entry.hostname ++ [32] ++
      decimal entry.videoPort, ?_⟩
    unfold peerLine
    simp only [← List.append_assoc]
    rfl
  | done service =>
    refine ⟨ascii "done " ++ decimal service.peers.length, ?_⟩
    unfold doneLine
    rw [← List.append_assoc]
    rfl

/-- The lines are read as they are, whatever the user interface shows besides. -/
theorem pollIpc_hear (platform : Platform) (readers : Readers) (polls : List (Nat × List UInt8))
    (ui : UiState) (spoken : ∀ line ∈ polls.map Prod.snd, Spoken line) :
    ∃ after, pollIpc platform readers polls ui = .ok after ∧
      after.toUiState = hear (polls.map Prod.snd) ui.toUiState := by
  induction polls generalizing ui with
  | nil => exact ⟨ui, rfl, rfl⟩
  | cons poll rest ih =>
    have own := spoken poll.2 List.mem_cons_self
    obtain ⟨text, start⟩ := own.start
    obtain ⟨first, polled, base⟩ :=
      pollIpcLine_network platform readers text start ui poll.1
        (own.handled ui.toUiState)
    obtain ⟨after, goes, last⟩ := ih first fun line member => spoken line (List.mem_cons_of_mem _ member)
    refine ⟨after, ?_, ?_⟩
    · unfold pollIpc at goes ⊢
      rw [List.foldlM_cons, polled]
      exact goes
    · rw [last, base]
      rfl

/-! ### Texts of machines -/

/-- The text of a machine holds its address. -/
theorem shownPeer_address (plain : Plain peer) (other : Plain another)
    (same : shownPeer peer = shownPeer another) : peer.address = another.address := by
  have shape {entry : Peer} : shownPeer entry =
      entry.hostname ++ 32 :: (entry.address ++ 58 :: decimal entry.videoPort) := by
    unfold shownPeer
    simp only [List.append_assoc, List.cons_append, List.nil_append]
  have colon {entry : Peer} (plain : Plain entry) :
      (entry.address ++ 58 :: decimal entry.videoPort).takeWhile (· ≠ 58) = entry.address := by
    obtain ⟨address, text⟩ := plain.address
    rw [List.takeWhile_append_of_pos, List.takeWhile_cons_of_neg (by decide), List.append_nil]
    intro byte member
    rw [text] at member
    rcases addressToString_byte member with digit | rfl
    · refine decide_eq_true fun colon => ?_
      subst colon
      exact absurd digit (by decide)
    · decide
  rw [shape, shape] at same
  have words := congrArg nextWord same
  rw [nextWord_word plain.hostname.plain plain.hostname.some,
    nextWord_word other.hostname.plain other.hostname.some] at words
  simp only [Prod.mk.injEq, List.cons.injEq, true_and] at words
  rw [← colon plain, ← colon other, words.2]

theorem answered_plain [DecidableEq ι] {network : Network ι} {world : ι → Station}
    (answered : Answered network world machine other peer) : Plain peer := by
  obtain ⟨address, _, text⟩ := answered.address
  exact ⟨answered.hostname ▸ hostname_token _, address, text⟩

/-- The peers of a list are not told apart by more than their addresses. -/
theorem answered_same_iff [DecidableEq ι] {network : Network ι} {world : ι → Station}
    (answered : Answered network world machine other peer)
    (another : Answered network world machine second entry) :
    peer.address = entry.address ↔ shownPeer peer = shownPeer entry := by
  refine ⟨fun same => ?_, shownPeer_address (answered_plain answered) (answered_plain another)⟩
  obtain ⟨address, own, text⟩ := answered.address
  obtain ⟨place, owned, written⟩ := another.address
  have one : address = place := addressToString_injective (text ▸ written ▸ same)
  have machines : other = second := by
    by_contra apart
    exact network.apart other second apart address own (one ▸ owned)
  unfold shownPeer
  rw [same, answered.hostname, another.hostname, answered.port.1, another.port.1, machines]

/-! ### What is announced -/

/-- All lines of a service, those that are handed over first. -/
def announced (station : Station) : List (List UInt8) :=
  station.told ++ station.service.pendingLines

/-- What a station does, and the lines that tell of it. -/
inductive Change (before after : Station) : List (List UInt8) → Prop
  | quiet (peers : after.service.peers = before.service.peers)
    (scan : after.scanUntil = before.scanUntil) : Change before after []
  | scanning (peers : after.service.peers = []) (scan : after.scanUntil ≠ 0) :
    Change before after [ascii "state net scanning"]
  | peer (entry : Peer) (plain : Plain entry)
    (apart : ∀ other ∈ before.service.peers,
      other.address = entry.address ↔ shownPeer other = shownPeer entry)
    (peers : after.service.peers = upsert (·.address) entry before.service.peers)
    (scan : after.scanUntil = before.scanUntil) : Change before after [peerLine entry]
  | done (peers : after.service.peers = before.service.peers) (scan : after.scanUntil = 0) :
    Change before after [doneLine before.service]

/-- The lines are new, and are either still pending or handed over with all others. -/
structure Tells (before after : Station) (lines : List (List UInt8)) : Prop where
  change : Change before after lines
  announced : announced after = announced before ++ lines
  pending : after.service.pendingLines = before.service.pendingLines ++ lines ∧
    after.told = before.told ∨ after.service.pendingLines = []

theorem tells_endPoll (station : Station) : ∃ lines, Tells station (endPoll station) lines := by
  unfold endPoll
  split
  · exact ⟨[], .quiet rfl rfl, (List.append_nil _).symm, .inl ⟨(List.append_nil _).symm, rfl⟩⟩
  · split
    · refine ⟨_, .done rfl rfl, ?_, .inr rfl⟩
      unfold announced handOver
      simp only [List.append_assoc, List.append_nil]
    · refine ⟨[], .quiet rfl rfl, ?_, .inr rfl⟩
      unfold announced handOver
      simp only [List.append_nil]

section
variable [DecidableEq ι] {network : Network ι} {world : ι → Station} {machine : ι}

theorem tells_receive (honest : Honest network world)
    (effect : Effect network world machine now address answer after) (changed : Station)
    (same : changed = { world machine with service := after }) :
    ∃ lines, Tells (world machine) changed lines := by
  subst same
  cases effect with
  | replied =>
    exact ⟨[], .quiet rfl rfl, (List.append_nil _).symm, .inl ⟨(List.append_nil _).symm, rfl⟩⟩
  | ignored =>
    exact ⟨[], .quiet rfl rfl, (List.append_nil _).symm, .inl ⟨(List.append_nil _).symm, rfl⟩⟩
  | listed apart own port replied =>
    obtain ⟨destination, seen, sent⟩ := replied
    have answered := honest.answered apart own port destination seen sent now
    refine ⟨_, .peer _ (answered_plain answered) ?_ (withPeer_eq ..) rfl, ?_, .inl ⟨rfl, rfl⟩⟩
    · intro other member
      obtain ⟨known, entry⟩ := honest.peers machine other member
      exact answered_same_iff entry answered
    · unfold announced upsertPeer
      exact (List.append_assoc ..).symm

theorem tells_step (honest : Honest network world) (possible : Possible network world event)
    (machine : ι) : ∃ lines, Tells (world machine) (step world event machine) lines := by
  unfold step
  by_cases same : machine = event.machine
  · subst same
    rw [Function.update_self]
    cases event with
    | startScan machine now duration =>
      dsimp only [Event.apply, Event.machine]
      unfold startScan
      split
      · refine ⟨_, .scanning rfl ?_, (List.append_assoc ..).symm, .inl ⟨rfl, rfl⟩⟩
        have later := possible.2.2
        dsimp only
        omega
      · exact ⟨[], .quiet rfl rfl, (List.append_nil _).symm, .inl ⟨(List.append_nil _).symm, rfl⟩⟩
    | beginPoll machine now =>
      dsimp only [Event.apply, Event.machine]
      unfold beginPoll
      split <;>
        exact ⟨[], .quiet rfl rfl, (List.append_nil _).symm, .inl ⟨(List.append_nil _).symm, rfl⟩⟩
    | receive machine localAddresses now payload address =>
      dsimp only [Event.apply, Event.machine]
      unfold receive
      split
      · exact tells_receive honest (honest.effect possible) _ rfl
      · exact ⟨[], .quiet rfl rfl, (List.append_nil _).symm, .inl ⟨(List.append_nil _).symm, rfl⟩⟩
    | endPoll machine => exact tells_endPoll _
  · rw [Function.update_of_ne same]
    exact ⟨[], .quiet rfl rfl, (List.append_nil _).symm, .inl ⟨(List.append_nil _).symm, rfl⟩⟩

end

/-! ### What is shown -/

theorem mem_shown_upsert (apart : ∀ other ∈ peers,
    other.address = entry.address ↔ shownPeer other = shownPeer entry) (text : List UInt8) :
    text ∈ (upsert (·.address) entry peers).map shownPeer ↔
      text ∈ peers.map shownPeer ∨ text = shownPeer entry := by
  rw [upsert_congr apart, map_upsert]
  by_cases known : shownPeer entry ∈ peers.map shownPeer
  · rw [if_pos known]
    exact ⟨.inl, fun shown => shown.elim id fun same => same ▸ known⟩
  · rw [if_neg known, List.mem_append, List.mem_singleton]

/-- A line clears the list or adds to it. -/
theorem Spoken.peers (spoken : Spoken line) :
    line = scanningLine ∧ (∀ ui, (read ui line).netPeers = []) ∨
      line ≠ scanningLine ∧ ∃ added : List (List UInt8), ∀ ui text,
        text ∈ (read ui line).netPeers ↔ text ∈ ui.netPeers ∨ text ∈ added := by
  cases spoken with
  | idle =>
    refine .inr ⟨by decide, [], fun ui text => ?_⟩
    rw [read_eq (idle_handled ui)]
    simp
  | scanning => exact .inl ⟨rfl, fun ui => by rw [read_eq (scanning_handled ui)]⟩
  | peer entry plain =>
    refine .inr ⟨by simp [peerLine, scanningLine, ascii], [shownPeer entry], fun ui text => ?_⟩
    rw [read_eq (peer_handled plain ui), List.mem_singleton]
    dsimp only
    split
    · rename_i known
      exact ⟨.inl, fun shown => shown.elim id fun same => same ▸ known⟩
    · rw [List.mem_append, List.mem_singleton]
  | done service =>
    refine .inr ⟨by simp [doneLine, scanningLine, ascii], [], fun ui text => ?_⟩
    rw [read_eq (done_handled service ui)]
    simp

/-- What was in the list stays until it is cleared, and the lines add the same to any list. -/
theorem hear_adds (spoken : ∀ line ∈ lines, Spoken line) (ui : ControlClients.UiState)
    (text : List UInt8) :
    text ∈ (hear lines ui).netPeers ↔
      scanningLine ∉ lines ∧ text ∈ ui.netPeers ∨ text ∈ (hear lines {}).netPeers := by
  induction lines using List.reverseRecOn with
  | nil => simp [hear]
  | append_singleton before line ih =>
    have earlier := ih fun line member => spoken line (List.mem_append_left _ member)
    simp only [hear_append, List.mem_append, List.mem_singleton, not_or]
    rcases (spoken line (by simp)).peers with ⟨same, clears⟩ | ⟨other, added, adds⟩
    · subst same
      simp [hear, clears]
    · simp only [hear, List.foldl_cons, List.foldl_nil, adds]
      rw [show before.foldl read ui = hear before ui from rfl,
        show before.foldl read {} = hear before {} from rfl, earlier]
      simp only [ne_comm.mp other, not_false_eq_true, and_true, or_assoc]

/-- What a user interface shows that has heard some lines. -/
structure Follows (station : Station) (lines : List (List UInt8)) (informed : Bool) : Prop where
  spoken : ∀ line ∈ lines, Spoken line
  shown : ∀ text ∈ (hear lines {}).netPeers, text ∈ listed station
  told : informed = true ∨ scanningLine ∈ lines →
    ∀ text ∈ listed station, text ∈ (hear lines {}).netPeers
  scanning : ∀ ui, (hear lines ui).netScanning = true →
    informed = false ∧ ui.netScanning = true ∨ station.scanUntil ≠ 0

theorem follows_none (station : Station) : Follows station [] false where
  spoken := fun _ member => absurd member List.not_mem_nil
  shown := fun _ member => absurd member List.not_mem_nil
  told := fun known => by simp at known
  scanning := fun _ shown => .inl ⟨rfl, shown⟩

/-- One more line, which makes of the list what has become of the machines. -/
theorem Follows.append (follows : Follows before lines informed) (spoken : Spoken line)
    (shown : ∀ text ∈ (read (hear lines {}) line).netPeers, text ∈ listed after)
    (told : informed = true ∨ scanningLine ∈ lines ∨ line = scanningLine →
      ∀ text ∈ listed after, text ∈ (read (hear lines {}) line).netPeers)
    (scanning : ∀ ui, (read (hear lines ui) line).netScanning = true →
      informed = false ∧ ui.netScanning = true ∨ after.scanUntil ≠ 0) :
    Follows after (lines ++ [line]) informed where
  spoken := by
    intro other member
    rcases List.mem_append.mp member with early | own
    · exact follows.spoken other early
    · exact List.mem_singleton.mp own ▸ spoken
  shown := by
    rw [hear_append]
    exact shown
  told := by
    intro known
    rw [hear_append]
    refine told (known.imp_right fun member => ?_)
    rcases List.mem_append.mp member with early | own
    · exact .inl early
    · exact .inr (List.mem_singleton.mp own).symm
  scanning := by
    intro ui
    rw [hear_append]
    exact scanning ui

theorem Follows.change (follows : Follows before lines informed) (change : Change before after more) :
    Follows after (lines ++ more) informed := by
  cases change with
  | quiet peers scan =>
    rw [List.append_nil]
    have same : listed after = listed before := by rw [listed, peers, listed]
    exact ⟨follows.spoken, same ▸ follows.shown, same ▸ follows.told, scan ▸ follows.scanning⟩
  | scanning peers scan =>
    have none : listed after = [] := by rw [listed, peers, List.map_nil]
    refine follows.append .scanning ?_ ?_ fun _ _ => .inr scan
    · exact fun text shown => absurd shown List.not_mem_nil
    · intro _ text member
      rw [none] at member
      exact absurd member List.not_mem_nil
  | peer entry plain apart peers scan =>
    have grown (text : List UInt8) :
        text ∈ listed after ↔ text ∈ listed before ∨ text = shownPeer entry := by
      unfold listed
      rw [peers, mem_shown_upsert apart]
    have heard (ui : ControlClients.UiState) (text : List UInt8) :
        text ∈ (read ui (peerLine entry)).netPeers ↔
          text ∈ ui.netPeers ∨ text = shownPeer entry := by
      rw [read_eq (peer_handled plain ui)]
      dsimp only
      split
      · rename_i known
        exact ⟨.inl, fun shown => shown.elim id fun same => same ▸ known⟩
      · rw [List.mem_append, List.mem_singleton]
    refine follows.append (.peer entry plain) ?_ ?_ ?_
    · intro text shown
      exact (grown text).mpr (((heard _ text).mp shown).imp_left (follows.shown text))
    · intro known text member
      have known : informed = true ∨ scanningLine ∈ lines :=
        known.imp_right fun told => told.elim id fun same =>
          absurd same (by simp [peerLine, scanningLine, ascii])
      exact (heard _ text).mpr (((grown text).mp member).imp_left (follows.told known text))
    · intro ui shown
      rw [read_eq (peer_handled plain _)] at shown
      rw [scan]
      exact follows.scanning ui shown
  | done peers scan =>
    have same : listed after = listed before := by rw [listed, peers, listed]
    have heard : (read (hear lines {}) (doneLine before.service)).netPeers =
        (hear lines {}).netPeers := by rw [read_eq (done_handled before.service _)]
    refine follows.append (.done before.service) ?_ ?_ ?_
    · rw [heard, same]
      exact follows.shown
    · intro known
      rw [heard, same]
      exact follows.told (known.imp_right fun told => told.elim id fun line =>
        absurd line (by simp [doneLine, scanningLine, ascii]))
    · intro ui shown
      rw [read_eq (done_handled before.service _)] at shown
      cases shown

/-! ### The state that is sent for a greeting -/

theorem hear_peers (peers : List Peer) (plain : ∀ peer ∈ peers, Plain peer)
    (ui : ControlClients.UiState) (text : List UInt8) :
    text ∈ (hear (peers.map peerLine) ui).netPeers ↔
      text ∈ ui.netPeers ∨ text ∈ peers.map shownPeer := by
  induction peers generalizing ui with
  | nil => simp [hear]
  | cons peer rest ih =>
    have own := plain peer List.mem_cons_self
    have later := ih (fun other member => plain other (List.mem_cons_of_mem _ member))
      (read ui (peerLine peer))
    change text ∈ (hear (rest.map peerLine) (read ui (peerLine peer))).netPeers ↔ _
    rw [later, read_eq (peer_handled own ui), List.map_cons, List.mem_cons, ← or_assoc]
    refine or_congr_left ?_
    dsimp only
    split
    · rename_i known
      exact ⟨.inl, fun shown => shown.elim id fun same => same ▸ known⟩
    · rw [List.mem_append, List.mem_singleton]

theorem hear_peers_scanning (peers : List Peer) (plain : ∀ peer ∈ peers, Plain peer)
    (ui : ControlClients.UiState) :
    (hear (peers.map peerLine) ui).netScanning = ui.netScanning := by
  induction peers generalizing ui with
  | nil => rfl
  | cons peer rest ih =>
    have own := plain peer List.mem_cons_self
    change (hear (rest.map peerLine) (read ui (peerLine peer))).netScanning = _
    rw [ih (fun other member => plain other (List.mem_cons_of_mem _ member)),
      read_eq (peer_handled own ui)]

theorem networkState_spoken (plain : ∀ peer ∈ service.peers, Plain peer) :
    ∀ line ∈ networkState service, Spoken line ∧ line ≠ scanningLine := by
  intro line member
  rcases List.mem_cons.mp member with rfl | member
  · exact ⟨.idle, by decide⟩
  · obtain ⟨peer, there, rfl⟩ := List.mem_map.mp member
    exact ⟨.peer peer (plain peer there), by simp [peerLine, scanningLine, ascii]⟩

theorem hear_networkState (plain : ∀ peer ∈ service.peers, Plain peer)
    (ui : ControlClients.UiState) :
    (∀ text, text ∈ (hear (networkState service) ui).netPeers ↔
      text ∈ ui.netPeers ∨ text ∈ service.peers.map shownPeer) ∧
    (hear (networkState service) ui).netScanning = false := by
  have idle : hear (networkState service) ui =
      hear (service.peers.map peerLine) (read ui (ascii "state net idle")) := rfl
  rw [idle, read_eq (idle_handled ui)]
  exact ⟨hear_peers service.peers plain _, hear_peers_scanning service.peers plain _⟩

/-- The state may come between lines and those that are still to be handed over. -/
theorem Follows.state (follows : Follows station (lines ++ pending) informed)
    (waiting : Follows station pending false)
    (plain : ∀ peer ∈ station.service.peers, Plain peer) :
    Follows station (lines ++ networkState station.service ++ pending) true where
  spoken := by
    intro line member
    rcases List.mem_append.mp member with early | late
    · rcases List.mem_append.mp early with first | state
      · exact follows.spoken line (List.mem_append_left _ first)
      · exact (networkState_spoken plain line state).1
    · exact waiting.spoken line late
  shown := by
    intro text shown
    rw [hear_append, hear_adds waiting.spoken, hear_append,
      (hear_networkState plain _).1] at shown
    rcases shown with ⟨kept, before | state⟩ | late
    · apply follows.shown
      rw [hear_append, hear_adds waiting.spoken]
      exact .inl ⟨kept, before⟩
    · exact state
    · exact waiting.shown text late
  told := by
    intro _ text member
    rw [hear_append, hear_adds waiting.spoken, hear_append, (hear_networkState plain _).1]
    by_cases cleared : scanningLine ∈ pending
    · exact .inr (waiting.told (.inr cleared) text member)
    · exact .inl ⟨cleared, .inr member⟩
  scanning := by
    intro ui shown
    rw [hear_append] at shown
    rcases waiting.scanning _ shown with ⟨_, still⟩ | scans
    · rw [hear_append, (hear_networkState plain _).2] at still
      cases still
    · exact .inr scans

/-! ### Runs -/

section
variable [DecidableEq ι] {network : Network ι} {world : ι → Station}

/-- What has been sent, and what will be handed over, tells of the machines. -/
structure Connected (station : Station) (lines : List (List UInt8)) (informed : Bool) : Prop where
  follows : Follows station (lines ++ station.service.pendingLines) informed
  waiting : Follows station station.service.pendingLines false

/-- The lines that are handed over are sent. -/
theorem Connected.tells (connected : Connected before lines informed)
    (tells : Tells before after more) :
    Connected after (lines ++ after.told.drop before.told.length) informed := by
  have grown := connected.follows.change tells.change
  rcases tells.pending with ⟨pending, told⟩ | none
  · refine ⟨?_, ?_⟩
    · rw [told, List.drop_length, List.append_nil, pending, ← List.append_assoc]
      exact grown
    · rw [pending]
      exact connected.waiting.change tells.change
  · have announced := tells.announced
    unfold ShownPeers.announced at announced
    rw [none, List.append_nil, List.append_assoc] at announced
    refine ⟨?_, none ▸ follows_none after⟩
    rw [announced, List.drop_left, none, List.append_nil, ← List.append_assoc]
    exact grown

omit [DecidableEq ι] in
theorem connected_start (network : Network ι) (bound : ι → Bool) (machine : ι) :
    Connected (startOf network bound machine) [] false := by
  suffices waiting : Follows (startOf network bound machine)
      (startOf network bound machine).service.pendingLines false from ⟨waiting, waiting⟩
  unfold startOf start
  split
  · refine (follows_none created).append .idle ?_ ?_ ?_
    · exact fun text shown => absurd shown List.not_mem_nil
    · exact fun _ text member => absurd member List.not_mem_nil
    · intro ui shown
      cases shown
  · exact follows_none _

omit [DecidableEq ι] in
/-- A connection that is opened has been sent nothing yet. -/
theorem Connected.opened (connected : Connected station lines informed) :
    Connected station [] false := ⟨connected.waiting, connected.waiting⟩

theorem connected_run (machine : ι) (events : List (Event ι)) (honest : Honest network world)
    (possible : Runs.Meets step (Possible network) world events)
    (connected : Connected (world machine) lines false) :
    ∃ more, Connected (events.foldl step world machine) more false := by
  induction events generalizing world lines with
  | nil => exact ⟨lines, connected⟩
  | cons event rest ih =>
    obtain ⟨new, tells⟩ := tells_step honest possible.1 machine
    exact ih (honest_step honest possible.1) possible.2 (connected.tells tells)

/-- Whatever happens while the connection is open, what it is sent tells of the machines. -/
theorem connected_sent (machine : ι) (happenings : List (Happening ι))
    (honest : Honest network world)
    (possible : Runs.Meets step (Possible network) world
      (happenings.filterMap Happening.inNetwork))
    (connected : Connected (world machine) lines informed) :
    ∃ after, (happenings.filterMap Happening.inNetwork).foldl step world machine = after ∧
      Connected after (lines ++ sentLines machine world happenings)
        (informed || happenings.any fun happening => happening.inNetwork.isNone) := by
  induction happenings generalizing world lines informed with
  | nil =>
    refine ⟨_, rfl, ?_⟩
    simp only [sentLines, List.append_nil, List.any_nil, Bool.or_false]
    exact connected
  | cons happening rest ih =>
    cases happening with
    | event event =>
      obtain ⟨new, tells⟩ := tells_step honest possible.1 machine
      obtain ⟨after, reached, later⟩ :=
        ih (honest_step honest possible.1) possible.2 (connected.tells tells)
      refine ⟨after, reached, ?_⟩
      rw [List.append_assoc] at later
      exact later
    | state =>
      have plain : ∀ peer ∈ (world machine).service.peers, Plain peer := by
        intro peer member
        obtain ⟨other, answered⟩ := honest.peers machine peer member
        exact answered_plain answered
      have informed := connected.follows.state connected.waiting plain
      obtain ⟨after, reached, later⟩ := ih honest possible ⟨informed, connected.waiting⟩
      refine ⟨after, reached, ?_⟩
      rw [List.append_assoc, Bool.true_or] at later
      rw [List.any_cons]
      simpa [Happening.inNetwork, sentLines] using later

/-- A user interface that connects at any time, is answered at some time later and reads what it is
sent and what the next poll hands over shows exactly the machines that its machine lists, besides
what it has shown since before as long as no scan has started, and no scan that has ended. -/
theorem shown_machines_are_those_listed (platform : Platform) (readers : Readers)
    (network : Network ι) (bound : ι → Bool) (machine : ι) (before : List (Event ι))
    (happenings : List (Happening ι)) (answered : .state ∈ happenings)
    (possible : Runs.Meets step (Possible network) (startOf network bound)
      (before ++ happenings.filterMap Happening.inNetwork))
    (ui : UiState) (polls : List (Nat × List UInt8))
    (sent : polls.map Prod.snd =
      sentLines machine (run network bound before) happenings ++
        (run network bound (before ++ happenings.filterMap Happening.inNetwork)
          machine).service.pendingLines) :
    ∃ told, pollIpc platform readers polls ui = .ok told ∧
      (∀ text, text ∈ told.netPeers ↔
        scanningLine ∉ polls.map Prod.snd ∧ text ∈ ui.netPeers ∨
          text ∈ listed (run network bound (before ++ happenings.filterMap Happening.inNetwork)
            machine)) ∧
      (told.netScanning = true →
        (run network bound (before ++ happenings.filterMap Happening.inNetwork)
          machine).scanUntil ≠ 0) := by
  obtain ⟨first, second⟩ := Runs.meets_append.mp possible
  have honest := honest_run network bound before first
  obtain ⟨_, opened⟩ := connected_run machine before (honest_start network bound) first
    (connected_start network bound machine)
  obtain ⟨after, reached, connected⟩ :=
    connected_sent machine happenings honest second opened.opened
  have whole : run network bound (before ++ happenings.filterMap Happening.inNetwork) machine =
      after := by
    rw [← reached]
    exact congrFun List.foldl_append machine
  have informed : (happenings.any fun happening => happening.inNetwork.isNone) = true :=
    List.any_eq_true.mpr ⟨_, answered, rfl⟩
  rw [whole] at sent ⊢
  rw [informed, Bool.or_true, List.nil_append] at connected
  have follows := connected.follows
  rw [← sent] at follows
  obtain ⟨told, polled, base⟩ :=
    pollIpc_hear platform readers polls ui follows.spoken
  refine ⟨told, polled, ?_, ?_⟩
  · intro text
    rw [base, hear_adds follows.spoken]
    exact or_congr_right ⟨follows.shown text, follows.told (.inl rfl) text⟩
  · intro shown
    rw [base] at shown
    rcases follows.scanning _ shown with ⟨impossible, _⟩ | scans
    · cases impossible
    · exact scans

end

/-- The user interface still shows a machine of an earlier connection. It connects between the probe
and its answer, and what happens later comes between the answers to its greeting and its "get net". -/
def happeningsOfPair : List (Happening Bool) :=
  .state :: (scanOfPair.drop 4).map .event ++ [.state]

def heardOfPair : List (Nat × List UInt8) :=
  (sentLines true (run pair (fun _ => true) (scanOfPair.take 4)) happeningsOfPair ++
    (run pair (fun _ => true) scanOfPair true).service.pendingLines).map (0, ·)

def earlierInterface : UiState := { netPeers := [ascii "old 192.168.1.9:5600"] }

theorem late_interface_shows_the_answer : ∃ told,
    pollIpc ⟨64, fun _ => 0⟩ MavlinkState.noReaders heardOfPair earlierInterface = .ok told ∧
      (∀ text, text ∈ told.netPeers ↔
        scanningLine ∉ heardOfPair.map Prod.snd ∧ text ∈ earlierInterface.netPeers ∨
          text ∈ listed (run pair (fun _ => true) scanOfPair true)) ∧
      (told.netScanning = true → (run pair (fun _ => true) scanOfPair true).scanUntil ≠ 0) := by
  refine shown_machines_are_those_listed _ _ pair (fun _ => true) true (scanOfPair.take 4)
    happeningsOfPair (.head _) scanOfPair_possible earlierInterface heardOfPair ?_
  rw [heardOfPair, List.map_map]
  exact List.map_id _

end Glide.ShownPeers
