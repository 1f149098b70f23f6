import Glide.Library.Runs
import Glide.UserInterface

/-! Agreement on the settings between the controller and any number of user interfaces. Each
client has a channel to the controller and one from it, both in order and without loss. A
client shows a change before the controller has answered, so what it will show once its
channel is empty depends on all that is on the way to it. -/
namespace Glide.ControlSettings
open Library AsciiText NumberText StringConversions PreviewControl MavlinkState RuntimeControls
open BridgeConnection
open UserInterface (UiState changeSetting updateSetting applyTerminalKey pollIpcLine finishPoll)
open ControlClients (SendStep stateSetting stateSetting_some stateSetting_stateLine value_assign
  value_assign_other setLine_no_hello flag_allowed)

/-- A user interface, the lines on their way from it and to it, whether the controller has
accepted its connection and whether it has sent its greeting. -/
structure Client where
  ui : UiState
  accepted : Bool := false
  greeted : Bool := false
  up : List (List UInt8) := []
  down : List (List UInt8) := []

structure World where
  controller : Controller
  stopped : Bool := false
  clients : BitVec 32 → Option Client := fun _ => none
  /-- The lines that the controller has handled. -/
  handled : List (List UInt8) := []

/-- `send_initial_ipc_requests` -/
def initialRequests (backend : List UInt8) : List (List UInt8) :=
  [ascii "hello glide-ui", ascii "status glide-ui ready " ++ backend, ascii "get fps",
    ascii "get coords", ascii "get compact", ascii "get topbar", ascii "get osd",
    ascii "get theme", ascii "get net", ascii "get telemetry connection"]

inductive Event where
  /-- A user interface that shows anything opens a connection. -/
  | connect (client : BitVec 32) (ui : UiState)
  | accept (client : BitVec 32)
  | greet (client : BitVec 32) (backend : List UInt8)
  /-- A switch or the list of layouts is used. -/
  | choose (client : BitVec 32) (setting : Setting) (value : List UInt8)
  | key (client : BitVec 32) (line : List UInt8)
  /-- The controller handles the first line on its way from a client. -/
  | up (client : BitVec 32) (reply : LineReply)
  /-- A client handles the first line on its way to it. -/
  | down (client : BitVec 32) (now : Nat)
  /-- A client has handled what came, and may try a connection for telemetry. -/
  | finishPoll (client : BitVec 32) (now : Nat)
  /-- The controller tells all clients something that is no setting. -/
  | tell (lines : List (List UInt8))
      (foreign : ∀ line ∈ lines, ∀ setting, startsStateLine setting line = false)

/-- What the user interface has sent goes on its way. -/
def Client.post (client : Client) (ui : UiState) : Client :=
  { client with ui := { ui with sent := [] }, up := client.up ++ ui.sent }

/-- The lines of messages that are meant for a client. -/
def linesFor (client : BitVec 32) (messages : List Message) : List (List UInt8) :=
  messages.filterMap fun message =>
    match message with
    | .to other line => if other = client then some line else none
    | .all line => some line

def Client.receive (number : BitVec 32) (messages : List Message) (client : Client) : Client :=
  if client.accepted then { client with down := client.down ++ linesFor number messages }
  else client

def World.set (world : World) (number : BitVec 32) (client : Option Client) : World :=
  { world with clients := Function.update world.clients number client }

def World.send (world : World) (messages : List Message) : World :=
  { world with clients := fun number => (world.clients number).map (Client.receive number messages) }

/-- An event of a client that is not there changes nothing. -/
def withClient (world : World) (number : BitVec 32) (act : Client → World) : World :=
  match world.clients number with
  | some client => act client
  | none => world

/-- The controller handles a line; an exception ends it. -/
def handle (platform : Platform) (loop : ControlLoop) (world : World) (number : BitVec 32)
    (line : List UInt8) (reply : LineReply) (waiting : Client) : World :=
  let telemetry := { world.controller.telemetry with sent := [] }
  match handleLine platform loop number line reply { world.controller with telemetry } with
  | .error _ => { world with stopped := true }
  | .ok controller =>
    ({ world.set number (some waiting) with
      controller, handled := world.handled ++ [line] }).send controller.telemetry.sent

def step (platform : Platform) (loop : ControlLoop) (readers : Readers) (world : World) :
    Event → World
  | .connect number ui =>
    match world.clients number with
    | some _ => world
    | none => world.set number (some { ui := { ui with connected := true, sent := [] } })
  | .accept number => withClient world number fun client =>
    world.set number (some { client with accepted := true })
  | .greet number backend => withClient world number fun client =>
    world.set number (some { client with
      greeted := true, up := client.up ++ initialRequests backend })
  | .choose number setting value => withClient world number fun client =>
    if value ∈ setting.values then
      world.set number (some (client.post (changeSetting setting value client.ui)))
    else world
  | .key number line => withClient world number fun client =>
    match applyTerminalKey line client.ui with
    | .error _ => world.set number none
    | .ok ui => world.set number (some (client.post ui))
  | .up number reply => withClient world number fun client =>
    if world.stopped || !client.accepted then world
    else
      match client.up with
      | [] => world
      | line :: rest => handle platform loop world number line reply { client with up := rest }
  | .down number now => withClient world number fun client =>
    match client.down with
    | [] => world
    | line :: rest =>
      match pollIpcLine platform readers now line client.ui with
      | .error _ => world.set number none
      | .ok ui => world.set number (some ({ client with down := rest }.post ui))
  | .finishPoll number now => withClient world number fun client =>
    world.set number (some (client.post (finishPoll now client.ui)))
  | .tell lines _ => if world.stopped then world else world.send (lines.map .all)

def run (platform : Platform) (loop : ControlLoop) (readers : Readers) (controller : Controller)
    (events : List Event) : World := events.foldl (step platform loop readers) { controller }

/-- Nothing is on its way. -/
def Quiescent (world : World) : Prop :=
  ∀ number client, world.clients number = some client → client.up = [] ∧ client.down = []

/-- The value that the last handled "set" line of a setting asks for. -/
def requested (setting : Setting) (initial : List UInt8) (handled : List (List UInt8)) : List UInt8 :=
  handled.foldl (fun value line =>
    match setSetting line with
    | some (other, asked) => if other = setting then asked else value
    | none => value) initial

/-- The value of a setting that a client which shows `value` shows after some lines. -/
def shownAfter (setting : Setting) (value : List UInt8) (lines : List (List UInt8)) : List UInt8 :=
  lines.foldl (fun value line =>
    match stateSetting line with
    | some (other, told) => if other = setting then told else value
    | none => value) value

/-! ### What a line of a client does to the settings -/

/-- What becomes of the settings, and what clients are told of it. -/
structure Effect (number : BitVec 32) (line : List UInt8) (before after : RuntimeControlState)
    (messages : List Message) : Prop where
  truthful : ∀ message ∈ messages, Truthful after message
  assigned : ∀ setting, after.value setting = requested setting (before.value setting) [line]
  answered : ∀ setting,
    (ascii "hello ").isPrefixOf line = true ∨ (∃ value ∈ setting.values, line = setLine setting value) →
      stateLine setting (after.value setting) ∈ linesFor number messages
  announced : ∀ setting, after.value setting ≠ before.value setting →
    .all (stateLine setting (after.value setting)) ∈ messages

theorem mem_linesFor_all (number : BitVec 32) (member : .all line ∈ messages) :
    line ∈ linesFor number messages := List.mem_filterMap.mpr ⟨_, member, rfl⟩

theorem mem_linesFor_own (member : .to number line ∈ messages) :
    line ∈ linesFor number messages :=
  List.mem_filterMap.mpr ⟨_, member, if_pos rfl⟩

theorem message_of_mem_linesFor (member : line ∈ linesFor number messages) :
    ∃ message ∈ messages, message.line = line := by
  obtain ⟨message, sent, told⟩ := List.mem_filterMap.mp member
  refine ⟨message, sent, ?_⟩
  rcases message with ⟨other, text⟩ | ⟨text⟩
  · dsimp only at told
    split at told
    · exact Option.some.inj told
    · cases told
  · exact Option.some.inj told

/-- A line that sets nothing and does not greet leaves the settings alone. -/
theorem effect_of_truthful (unset : setSetting line = none)
    (truthful : ∀ message ∈ messages, Truthful state message)
    (greeted : (ascii "hello ").isPrefixOf line = true →
      ∀ setting, .to number (stateLine setting (state.value setting)) ∈ messages) :
    Effect number line state state messages where
  truthful := truthful
  assigned := by
    intro setting
    simp [requested, unset]
  answered := by
    rintro setting (hello | ⟨value, allowed, rfl⟩)
    · exact mem_linesFor_own (greeted hello setting)
    · rw [setSetting_setLine allowed] at unset
      cases unset
  announced := fun setting changed => absurd rfl changed

/-- The new value of a setting is told to all. -/
theorem effect_of_assignment (number : BitVec 32) (state : RuntimeControlState)
    (allowed : value ∈ Setting.values setting) :
    Effect number (setLine setting value) state (state.assign value setting)
      [.all (stateLine setting ((state.assign value setting).value setting))] where
  truthful := by
    intro message member
    rw [List.mem_singleton.mp member]
    exact own_value_truthful rfl
  assigned := by
    intro other
    simp only [requested, List.foldl_cons, List.foldl_nil, setSetting_setLine allowed]
    split
    · rename_i same
      rw [← same, value_assign state allowed]
    · rename_i different
      exact value_assign_other state value (Ne.symm different)
  answered := by
    rintro other (hello | ⟨told, told_allowed, same⟩)
    · rw [setLine_no_hello] at hello
      exact absurd hello Bool.false_ne_true
    · have found := setSetting_setLine allowed
      rw [same, setSetting_setLine told_allowed] at found
      cases found
      exact mem_linesFor_all number (List.mem_singleton_self _)
  announced := by
    intro other changed
    by_cases same : other = setting
    · rw [same]
      exact List.mem_singleton_self _
    · exact absurd (value_assign_other state value same) changed

theorem mem_welcome (client : BitVec 32) (controller : Controller) (setting : Setting) :
    .to client (stateLine setting (controller.state.value setting)) ∈ welcome client controller := by
  unfold welcome
  refine List.mem_append_left _ (List.mem_append_left _ (List.mem_append_left _ ?_))
  exact List.mem_map.mpr ⟨setting, by cases setting <;> decide, rfl⟩

/-- What a telemetry command tells is no setting. -/
theorem telemetry_truthful (line : List UInt8) (client : BitVec 32) (reply : ConnectReply)
    (telemetry : Telemetry) (silent : telemetry.sent = []) (state : RuntimeControlState) :
    ∀ message ∈ (handleTelemetryConnectionLine line client reply telemetry).2.sent,
      Truthful state message := by
  have told (connection : List UInt8) (message : Message)
      (line : message.line = ascii "state telemetry " ++ connection) : Truthful state message := by
    apply other_line_truthful
    rw [line]
    rintro (_ | _ | _ | _ | _) <;> rfl
  unfold handleTelemetryConnectionLine
  intro message member
  split at member
  · rw [silent] at member
    rw [List.mem_singleton.mp member]
    exact told telemetry.connection _ rfl
  · split at member
    · simp only [announce, silent, List.nil_append] at member
      rw [List.mem_singleton.mp member]
      exact told _ _ rfl
    · split at member
      · simp only [announce, connectTelemetry, silent, List.nil_append] at member
        rw [List.mem_singleton.mp member]
        exact told _ _ rfl
      · rw [silent] at member
        exact absurd member List.not_mem_nil

theorem handleLine_effect (long : 24 ≤ platform.longBits) (loop : ControlLoop)
    (number : BitVec 32) (line : List UInt8) (reply : LineReply) (controller : Controller)
    (silent : controller.telemetry.sent = [])
    (handled : handleLine platform loop number line reply controller = .ok after) :
    Effect number line controller.state after.state after.telemetry.sent := by
  obtain ⟨setting, value, allowed, rfl, assigned⟩ | ⟨unset, outcome⟩ :=
    handleLine_cases long loop number line reply controller
  · rw [assigned] at handled
    cases handled
    have sent : ({ controller with state := controller.state.assign value setting }.send
        [.all (stateLine setting ((controller.state.assign value setting).value setting))]).telemetry.sent =
          [.all (stateLine setting ((controller.state.assign value setting).value setting))] := by
      simp [Controller.send, silent]
    rw [sent]
    exact effect_of_assignment number controller.state allowed
  · rw [handled] at outcome
    have ungreeted (plain : (ascii "hello ").isPrefixOf line = false) {messages : List Message} :
        (ascii "hello ").isPrefixOf line = true → ∀ setting,
          Message.to number (stateLine setting (controller.state.value setting)) ∈ messages := by
      rw [plain]
      exact fun impossible => absurd impossible Bool.false_ne_true
    cases outcome with
    | told messages discovery truthful welcomed =>
      refine effect_of_truthful unset ?_ ?_
      · simpa [Controller.send, silent] using truthful
      · intro hello setting
        rw [welcomed hello]
        exact List.mem_append_right _ (mem_welcome number controller setting)
    | connection plain taken =>
      exact effect_of_truthful unset
        (telemetry_truthful line number reply.connect controller.telemetry silent controller.state)
        (ungreeted plain)
    | theme plain taken =>
      obtain ⟨themes, messages, rfl, truthful⟩ := handleThemeLine_taken taken
      refine effect_of_truthful unset ?_ (ungreeted plain)
      simpa [Controller.send, silent] using truthful
    | action start endpoint sent =>
      obtain ⟨rest, rfl⟩ := List.isPrefixOf_iff_prefix.mp start
      refine effect_of_truthful unset ?_ (ungreeted rfl)
      intro message member
      simp only [Controller.send, silent, List.nil_append] at member
      rw [List.mem_singleton.mp member]
      apply other_line_truthful
      rintro (_ | _ | _ | _ | _) <;> rfl

/-! ### What a client will show -/

/-- A line that looks like the state of a setting tells the value it has. -/
def TellsTruth (state : RuntimeControlState) (line : List UInt8) : Prop :=
  ∀ setting, startsStateLine setting line = true → line = stateLine setting (state.value setting)

theorem told_truth (truth : TellsTruth state line) (told : stateSetting line = some (setting, value)) :
    value = state.value setting := by
  obtain ⟨_, same⟩ := stateSetting_some told
  have starts : startsStateLine setting line = true := by
    rw [same, startsStateLine, stateLine_append setting value]
    exact List.isPrefixOf_iff_prefix.mpr (List.prefix_append _ _)
  have equal := truth setting starts
  rw [same, stateLine_append setting value, stateLine_append setting (state.value setting)] at equal
  exact List.append_cancel_left equal

theorem shownAfter_cons (setting : Setting) (value : List UInt8) (line : List UInt8)
    (rest : List (List UInt8)) : shownAfter setting value (line :: rest) =
      shownAfter setting (shownAfter setting value [line]) rest := rfl

theorem shownAfter_append (setting : Setting) (value : List UInt8) (first second : List (List UInt8)) :
    shownAfter setting value (first ++ second) =
      shownAfter setting (shownAfter setting value first) second := List.foldl_append ..

/-- A client that shows the right value goes on to show it. -/
theorem shownAfter_truth {lines : List (List UInt8)}
    (truth : ∀ line ∈ lines, TellsTruth state line) (setting : Setting) :
    shownAfter setting (state.value setting) lines = state.value setting := by
  induction lines with
  | nil => rfl
  | cons line rest ih =>
    have kept : shownAfter setting (state.value setting) [line] = state.value setting := by
      simp only [shownAfter, List.foldl_cons, List.foldl_nil]
      split
      · rename_i other told found
        split
        · rename_i same
          subst same
          exact told_truth (truth line (List.mem_cons_self ..)) found
        · rfl
      · rfl
    rw [shownAfter_cons, kept]
    exact ih fun line member => truth line (List.mem_cons_of_mem _ member)

/-- Whatever a client shows, it shows the right value once it has been told. -/
theorem shownAfter_told {lines : List (List UInt8)}
    (valid : state.value setting ∈ setting.values)
    (truth : ∀ line ∈ lines, TellsTruth state line)
    (told : stateLine setting (state.value setting) ∈ lines) (value : List UInt8) :
    shownAfter setting value lines = state.value setting := by
  induction lines generalizing value with
  | nil => exact absurd told List.not_mem_nil
  | cons line rest ih =>
    have later := fun line member => truth line (List.mem_cons_of_mem _ member)
    rw [shownAfter_cons]
    rcases List.mem_cons.mp told with rfl | told
    · have shown : shownAfter setting value [stateLine setting (state.value setting)] =
          state.value setting := by
        simp only [shownAfter, List.foldl_cons, List.foldl_nil, stateSetting_stateLine valid,
          if_pos trivial]
      rw [shown]
      exact shownAfter_truth later setting
    · exact ih later told _

/-- A client that is not told a setting keeps it. -/
theorem shownAfter_untold (untold : stateSetting line = none) (setting : Setting) (value : List UInt8) :
    shownAfter setting value [line] = value := by
  simp only [shownAfter, List.foldl_cons, List.foldl_nil, untold]

theorem shownAfter_state (setting : Setting) (ui : UiState)
    (told : stateSetting line = some (other, value)) :
    (updateSetting other value ui).controls.value setting =
      shownAfter setting (ui.controls.value setting) [line] := by
  simp only [shownAfter, List.foldl_cons, List.foldl_nil, told]
  unfold updateSetting
  split
  · rename_i shown
    split
    · rename_i same
      rw [← same, shown]
    · rfl
  · split
    · rename_i same
      exact same ▸ value_assign ui.controls (stateSetting_some told).1
    · rename_i different
      exact value_assign_other ui.controls value (Ne.symm different)

theorem updateSetting_unsent (setting : Setting) (value : List UInt8) (ui : UiState) :
    (updateSetting setting value ui).connected = ui.connected ∧
      (updateSetting setting value ui).sent = ui.sent := by
  unfold updateSetting
  split <;> exact ⟨rfl, rfl⟩

/-! ### The invariant -/

/-- The client waits for an answer that will tell it the setting. -/
def Pending (setting : Setting) (up : List (List UInt8)) : Prop :=
  ∃ line ∈ up, (ascii "hello ").isPrefixOf line = true ∨
    ∃ value ∈ setting.values, line = setLine setting value

/-- A greeting is on its way as long as the controller has not accepted the connection, and a
setting for which no answer is due will be shown right once the channel is empty. -/
structure InStep (state : RuntimeControlState) (client : Client) : Prop where
  online : client.ui.connected = true
  posted : client.ui.sent = []
  waiting : client.greeted = true → client.accepted = false → ∀ setting, Pending setting client.up
  settled : client.greeted = true → ∀ setting, ¬Pending setting client.up →
    shownAfter setting (client.ui.controls.value setting) client.down = state.value setting

structure Agreed (initial : RuntimeControlState) (world : World) : Prop where
  valid : ∀ setting, world.controller.state.value setting ∈ setting.values
  last : ∀ setting, world.controller.state.value setting =
    requested setting (initial.value setting) world.handled
  clients : ∀ number client, world.clients number = some client →
    InStep world.controller.state client

theorem pending_append (pending : Pending setting up) (more : List (List UInt8)) :
    Pending setting (up ++ more) := by
  obtain ⟨line, member, due⟩ := pending
  exact ⟨line, List.mem_append_left _ member, due⟩

/-- What a user interface does by itself keeps it in step. -/
theorem post_inStep (inStep : InStep state client)
    (sends : SendStep client.ui.toUiState ui.toUiState) :
    InStep state (client.post ui) := by
  obtain ⟨lines, sent, plain, changed⟩ := sends.sends
  rw [inStep.posted, List.nil_append] at sent
  refine ⟨sends.connected.trans inStep.online, rfl, ?_, ?_⟩
  · intro greeted unaccepted setting
    exact pending_append (inStep.waiting greeted unaccepted setting) ui.sent
  · intro greeted setting idle
    change ¬Pending setting (client.up ++ ui.sent) at idle
    change shownAfter setting (ui.controls.value setting) client.down = _
    have before : ¬Pending setting client.up := fun pending => idle (pending_append pending ui.sent)
    rcases changed inStep.online setting with same | ⟨value, allowed, member⟩
    · rw [same]
      exact inStep.settled greeted setting before
    · refine absurd ⟨_, List.mem_append_right _ ?_, .inr ⟨value, allowed, rfl⟩⟩ idle
      rw [sent]
      exact member

/-- A client handles a line on its way to it. -/
theorem down_inStep (inStep : InStep state client) (next : client.down = line :: rest)
    (polled : pollIpcLine platform readers now line client.ui = .ok ui) :
    InStep state ({ client with down := rest }.post ui) := by
  cases told : stateSetting line with
  | none =>
    have sends := UserInterface.pollIpcLine_sends told polled
    refine post_inStep ⟨inStep.online, inStep.posted, inStep.waiting, ?_⟩ sends
    intro greeted setting idle
    have settled := inStep.settled greeted setting idle
    rwa [next, shownAfter_cons, shownAfter_untold told] at settled
  | some pair =>
    obtain ⟨other, value⟩ := pair
    rw [UserInterface.pollIpcLine_told platform readers now client.ui told] at polled
    cases polled
    obtain ⟨connected, sent⟩ := updateSetting_unsent other value client.ui
    have unsent : client.up ++ (updateSetting other value client.ui).sent = client.up := by
      simp [sent, inStep.posted]
    refine ⟨connected.trans inStep.online, rfl, ?_, ?_⟩
    · intro greeted unaccepted setting
      change Pending setting (client.up ++ (updateSetting other value client.ui).sent)
      rw [unsent]
      exact inStep.waiting greeted unaccepted setting
    · intro greeted setting idle
      change ¬Pending setting (client.up ++ (updateSetting other value client.ui).sent) at idle
      rw [unsent] at idle
      have settled := inStep.settled greeted setting idle
      rw [next, shownAfter_cons, ← shownAfter_state setting client.ui told] at settled
      exact settled

theorem truth_of_messages (truthful : ∀ message ∈ messages, Truthful state message)
    (number : BitVec 32) : ∀ line ∈ linesFor number messages, TellsTruth state line := by
  intro line member
  obtain ⟨message, sent, rfl⟩ := message_of_mem_linesFor member
  exact truthful message sent

/-- Truthful messages, among them every value that has changed, keep a client in step. -/
theorem receive_inStep (inStep : InStep before client) (number : BitVec 32)
    (valid : ∀ setting, after.value setting ∈ setting.values)
    (truthful : ∀ message ∈ messages, Truthful after message)
    (announced : ∀ setting, after.value setting ≠ before.value setting →
      .all (stateLine setting (after.value setting)) ∈ messages) :
    InStep after (client.receive number messages) := by
  have truth := truth_of_messages truthful number
  unfold Client.receive
  split
  · refine ⟨inStep.online, inStep.posted, inStep.waiting, ?_⟩
    intro greeted setting idle
    change shownAfter setting _ (client.down ++ linesFor number messages) = _
    rw [shownAfter_append, inStep.settled greeted setting idle]
    by_cases same : after.value setting = before.value setting
    · rw [← same]
      exact shownAfter_truth truth setting
    · exact shownAfter_told (valid setting) truth
        (mem_linesFor_all number (announced setting same)) _
  · rename_i unaccepted
    rw [Bool.not_eq_true] at unaccepted
    refine ⟨inStep.online, inStep.posted, inStep.waiting, ?_⟩
    intro greeted setting idle
    exact absurd (inStep.waiting greeted unaccepted setting) idle

/-- The client whose line was handled has its answer, if one was due. -/
theorem answered_inStep (inStep : InStep before client) (next : client.up = line :: rest)
    (accepted : client.accepted = true) (valid : ∀ setting, after.value setting ∈ setting.values)
    (effect : Effect number line before after messages) :
    InStep after ({ client with up := rest }.receive number messages) := by
  have truth := truth_of_messages effect.truthful number
  unfold Client.receive
  rw [if_pos accepted]
  refine ⟨inStep.online, inStep.posted, ?_, ?_⟩
  · intro _ unaccepted
    exact absurd (accepted.symm.trans unaccepted) Bool.false_ne_true.symm
  · intro greeted setting idle
    change shownAfter setting _ (client.down ++ linesFor number messages) = _
    by_cases due : (ascii "hello ").isPrefixOf line = true ∨
        ∃ value ∈ setting.values, line = setLine setting value
    · rw [shownAfter_append]
      exact shownAfter_told (valid setting) truth (effect.answered setting due) _
    · have before_idle : ¬Pending setting client.up := by
        rw [next]
        rintro ⟨other, member, reason⟩
        rcases List.mem_cons.mp member with rfl | member
        · exact due reason
        · exact idle ⟨other, member, reason⟩
      rw [shownAfter_append, inStep.settled greeted setting before_idle]
      by_cases same : after.value setting = before.value setting
      · rw [← same]
        exact shownAfter_truth truth setting
      · exact shownAfter_told (valid setting) truth
          (mem_linesFor_all number (effect.announced setting same)) _

theorem set_agreed (agreed : Agreed initial world) (number : BitVec 32)
    (inStep : ∀ client, replacement = some client → InStep world.controller.state client) :
    Agreed initial (world.set number replacement) where
  valid := agreed.valid
  last := agreed.last
  clients := by
    intro other client found
    change Function.update world.clients number replacement other = some client at found
    by_cases same : other = number
    · subst same
      rw [Function.update_self] at found
      exact inStep client found
    · rw [Function.update_of_ne same] at found
      exact agreed.clients other client found

theorem requested_snoc (setting : Setting) (initial : List UInt8) (handled : List (List UInt8))
    (line : List UInt8) : requested setting initial (handled ++ [line]) =
      requested setting (requested setting initial handled) [line] := List.foldl_append ..

/-- A setting is assigned only one of its values. -/
theorem requested_valid (valid : value ∈ Setting.values setting) (line : List UInt8) :
    requested setting value [line] ∈ setting.values := by
  simp only [requested, List.foldl_cons, List.foldl_nil]
  split
  · rename_i other asked found
    split
    · rename_i same
      exact same ▸ (setSetting_some found).1
    · exact valid
  · exact valid

theorem handle_agreed (long : 24 ≤ platform.longBits) (loop : ControlLoop) (reply : LineReply)
    (agreed : Agreed initial world) (found : world.clients number = some client)
    (accepted : client.accepted = true) (next : client.up = line :: rest) :
    Agreed initial (handle platform loop world number line reply { client with up := rest }) := by
  unfold handle
  dsimp only
  split
  · exact ⟨agreed.valid, agreed.last, agreed.clients⟩
  · rename_i after handled
    have effect := handleLine_effect long loop number line reply _ rfl handled
    dsimp only at effect
    have valid : ∀ setting, after.state.value setting ∈ setting.values := by
      intro setting
      rw [effect.assigned setting]
      exact requested_valid (agreed.valid setting) line
    refine ⟨valid, ?_, ?_⟩
    · intro setting
      change after.state.value setting = requested setting _ (world.handled ++ [line])
      rw [requested_snoc, ← agreed.last setting]
      exact effect.assigned setting
    · intro other receiver present
      obtain ⟨waiting, there, rfl⟩ := Option.map_eq_some_iff.mp present
      change Function.update world.clients number (some { client with up := rest }) other =
        some waiting at there
      by_cases same : other = number
      · subst same
        rw [Function.update_self] at there
        cases there
        exact answered_inStep (agreed.clients other client found) next accepted valid effect
      · rw [Function.update_of_ne same] at there
        exact receive_inStep (agreed.clients other waiting there) other valid effect.truthful
          effect.announced

theorem tell_agreed {lines : List (List UInt8)} (agreed : Agreed initial world)
    (foreign : ∀ line ∈ lines, ∀ setting, startsStateLine setting line = false) :
    Agreed initial (world.send (lines.map .all)) where
  valid := agreed.valid
  last := agreed.last
  clients := by
    intro number client found
    obtain ⟨before, there, rfl⟩ := Option.map_eq_some_iff.mp found
    apply receive_inStep (agreed.clients number before there) number agreed.valid
    · intro message member
      obtain ⟨line, told, rfl⟩ := List.mem_map.mp member
      exact other_line_truthful (foreign line told)
    · exact fun setting changed => absurd rfl changed

theorem initialRequests_pending (setting : Setting) (up : List (List UInt8)) (backend : List UInt8) :
    Pending setting (up ++ initialRequests backend) :=
  ⟨ascii "hello glide-ui", List.mem_append_right _ (List.mem_cons_self ..), .inl rfl⟩

theorem withClient_agreed (agreed : Agreed initial world) (number : BitVec 32)
    (act : ∀ client, world.clients number = some client → Agreed initial (change client)) :
    Agreed initial (withClient world number change) := by
  unfold withClient
  split
  · rename_i client found
    exact act client found
  · exact agreed

/-- Every event keeps the agreement. -/
theorem step_agreed (long : 24 ≤ platform.longBits) (loop : ControlLoop) (readers : Readers)
    (world : World) (event : Event) (agreed : Agreed initial world) :
    Agreed initial (step platform loop readers world event) := by
  cases event with
  | connect number ui =>
    dsimp only [step]
    split
    · exact agreed
    · apply set_agreed agreed
      rintro _ ⟨⟩
      exact ⟨rfl, rfl, fun greeted => absurd greeted Bool.false_ne_true,
        fun greeted => absurd greeted Bool.false_ne_true⟩
  | accept number =>
    apply withClient_agreed agreed
    intro client found
    have inStep := agreed.clients number client found
    apply set_agreed agreed
    rintro _ ⟨⟩
    exact ⟨inStep.online, inStep.posted,
      fun _ unaccepted => absurd unaccepted Bool.false_ne_true.symm, inStep.settled⟩
  | greet number backend =>
    apply withClient_agreed agreed
    intro client found
    have inStep := agreed.clients number client found
    apply set_agreed agreed
    rintro _ ⟨⟩
    refine ⟨inStep.online, inStep.posted, ?_, ?_⟩
    · exact fun _ _ setting => initialRequests_pending setting client.up backend
    · exact fun _ setting idle => absurd (initialRequests_pending setting client.up backend) idle
  | choose number setting value =>
    apply withClient_agreed agreed
    intro client found
    split
    · rename_i allowed
      apply set_agreed agreed
      rintro _ ⟨⟩
      exact post_inStep (agreed.clients number client found)
        (UserInterface.changeSetting_step client.ui allowed).toSendStep
    · exact agreed
  | key number line =>
    apply withClient_agreed agreed
    intro client found
    rw [UserInterface.applyTerminalKey_eq]
    cases UserInterface.lineThrows line client.ui.overlayMode client.ui.environment with
    | error exception =>
      apply set_agreed agreed
      rintro _ ⟨⟩
    | ok _ =>
      apply set_agreed agreed
      rintro _ ⟨⟩
      exact post_inStep (agreed.clients number client found)
        (UserInterface.pressLine_sends line client.ui)
  | up number reply =>
    apply withClient_agreed agreed
    intro client found
    split
    · exact agreed
    · rename_i free
      split
      · exact agreed
      · rename_i line rest next
        have accepted : client.accepted = true := by
          cases taken : client.accepted with
          | true => rfl
          | false => simp [taken] at free
        exact handle_agreed long loop reply agreed found accepted next
  | down number now =>
    apply withClient_agreed agreed
    intro client found
    split
    · exact agreed
    · rename_i line rest next
      split
      · apply set_agreed agreed
        rintro _ ⟨⟩
      · rename_i ui polled
        apply set_agreed agreed
        rintro _ ⟨⟩
        exact down_inStep (agreed.clients number client found) next polled
  | finishPoll number now =>
    apply withClient_agreed agreed
    intro client found
    apply set_agreed agreed
    rintro _ ⟨⟩
    exact post_inStep (agreed.clients number client found)
      (UserInterface.finishPoll_sends now client.ui)
  | tell lines foreign =>
    dsimp only [step]
    split
    · exact agreed
    · exact tell_agreed agreed foreign

/-- The settings a loop starts with; the layout is read from its file. -/
def startControls (layoutFile : List UInt8) : RuntimeControlState :=
  { osdLayout := osdLayout layoutFile }

theorem startControls_valid (layoutFile : List UInt8) (setting : Setting) :
    (startControls layoutFile).value setting ∈ setting.values := by
  cases setting
  case osd =>
    change osdLayout layoutFile ∈ Setting.osd.values
    unfold osdLayout
    dsimp only
    split
    · rename_i known
      rcases known with known | known | known <;> rw [known] <;> decide
    · decide
  all_goals exact flag_allowed _

theorem run_agreed (long : 24 ≤ platform.longBits) (loop : ControlLoop) (readers : Readers)
    (start : controller.state = startControls layoutFile) (events : List Event) :
    Agreed (startControls layoutFile) (run platform loop readers controller events) := by
  apply Runs.invariant_after_any_run events
  · intro world event agreed
    exact step_agreed long loop readers world event agreed
  · refine ⟨?_, ?_, ?_⟩
    · intro setting
      rw [start]
      exact startControls_valid layoutFile setting
    · intro setting
      rw [start]
      rfl
    · exact fun number client impossible => (Option.some_ne_none client impossible.symm).elim

/-- The event does not open this connection. -/
def Event.leaves (number : BitVec 32) : Event → Bool
  | .connect other _ => other ≠ number
  | _ => true

theorem set_absent {world : World} (absent : world.clients number = none) (there : number ≠ other)
    (client : Option Client) : (world.set other client).clients number = none := by
  change Function.update world.clients other client number = none
  rw [Function.update_of_ne there, absent]

theorem withClient_absent {world : World} (absent : world.clients number = none)
    (act : ∀ client, number ≠ other → (change client).clients number = none) :
    (withClient world other change).clients number = none := by
  unfold withClient
  split
  · rename_i client found
    apply act client
    rintro rfl
    rw [absent] at found
    cases found
  · exact absent

/-- A client is there only after it has connected. -/
theorem step_absent (world : World) (event : Event) (leaves : event.leaves number = true)
    (absent : world.clients number = none) :
    (step platform loop readers world event).clients number = none := by
  cases event with
  | connect other ui =>
    dsimp only [step]
    split
    · exact absent
    · exact set_absent absent (Ne.symm (of_decide_eq_true leaves)) _
  | accept other => exact withClient_absent absent fun client there => set_absent absent there _
  | greet other backend =>
    exact withClient_absent absent fun client there => set_absent absent there _
  | choose other setting value =>
    apply withClient_absent absent
    intro client there
    split
    · exact set_absent absent there _
    · exact absent
  | key other line =>
    apply withClient_absent absent
    intro client there
    split <;> exact set_absent absent there _
  | up other reply =>
    apply withClient_absent absent
    intro client there
    split
    · exact absent
    · split
      · exact absent
      · unfold handle
        dsimp only
        split
        · exact absent
        · exact Option.map_eq_none_iff.mpr (set_absent absent there _)
  | down other now =>
    apply withClient_absent absent
    intro client there
    split
    · exact absent
    · split <;> exact set_absent absent there _
  | finishPoll other now =>
    exact withClient_absent absent fun client there => set_absent absent there _
  | tell lines foreign =>
    dsimp only [step]
    split
    · exact absent
    · exact Option.map_eq_none_iff.mpr absent

theorem run_absent (controller : Controller) (events : List Event)
    (leave : ∀ event ∈ events, event.leaves number = true) :
    (run platform loop readers controller events).clients number = none := by
  have absent : ∀ world : World, world.clients number = none →
      (events.foldl (step platform loop readers) world).clients number = none := by
    induction events with
    | nil => exact fun world absent => absent
    | cons event rest ih =>
      intro world absent
      exact ih (fun event member => leave event (List.mem_cons_of_mem _ member)) _
        (step_absent world event (leave event (List.mem_cons_self ..)) absent)
  exact absent { controller } rfl

/-- A client greets, switches the frames display off before it has read the controller's
answer, which still tells it on, and then reads what it was sent. -/
def lateAnswer : List Event :=
  [.connect 7 {}, .accept 7, .greet 7 (ascii "lvgl")] ++ List.replicate 10 (.up 7 {}) ++
    [.choose 7 .fps (ascii "0"), .up 7 {}] ++ List.replicate 24 (.down 7 0)

theorem late_answer_quiescent :
    Quiescent (run linux .kmsStack noReaders quietController lateAnswer) := by
  intro number client found
  by_cases same : number = 7
  · subst same
    have channels : ((run linux .kmsStack noReaders quietController lateAnswer).clients 7).map
        (fun client => (client.up, client.down)) = some ([], []) := by decide +kernel
    rw [found] at channels
    have empty := Option.some.inj channels
    exact ⟨congrArg Prod.fst empty, congrArg Prod.snd empty⟩
  · have absent : (run linux .kmsStack noReaders quietController lateAnswer).clients number = none := by
      apply run_absent
      intro event member
      simp only [lateAnswer, List.mem_append, List.mem_cons, List.not_mem_nil, or_false,
        List.mem_replicate] at member
      rcases member with (((rfl | rfl | rfl) | ⟨_, rfl⟩) | rfl | rfl) | ⟨_, rfl⟩
      · exact decide_eq_true (Ne.symm same)
      all_goals rfl
    rw [absent] at found
    cases found

end Glide.ControlSettings
