import Glide.FramePresentation

/-! When the i.MX and the Cedar decoder keep the buffer on the video plane. Both
return the frame as soon as it has been presented, so what the decoder writes next
may go into the buffer that is being scanned out. -/
namespace Glide.ScanOutSafety
open Library FramePresentation

/-- `deliver_ready_frame`, unless a frame has not been returned yet. -/
def deliverIfFree (frames : Frames) : Option Nat × Frames :=
  if frames.current.isSome then (none, frames) else deliver frames

theorem deliverIfFree_keeps (frames : Frames) : Keeps frames (deliverIfFree frames).2 := by
  unfold deliverIfFree
  split
  · exact Keeps.refl frames
  · rename_i free
    exact deliver_keeps (by simpa using free)

theorem deliverIfFree_current (delivered : (deliverIfFree frames).1 = some buffer) :
    ∃ frame, (deliverIfFree frames).2.current = some frame ∧ frame.buffer = buffer := by
  unfold deliverIfFree at delivered ⊢
  split at delivered
  · exact absurd delivered.symm (Option.some_ne_none _)
  · rename_i free
    rw [if_neg free]
    exact deliver_current delivered

/-! ### The i.MX decoder -/

/-- What the stream information says about the frames to come. -/
structure StreamInfo where
  linearNv12 : Bool := true
  colorFormat : String := ""
  minNumRequiredFramebuffers : Nat := 0
  deriving DecidableEq, Repr

/-- How the pool grows: whether the stream information is there, the buffers that can be
allocated, and what the decoder says to them. -/
structure PoolReply where
  streamInfo : Bool := true
  buffers : List Nat := []
  allocationError : String := ""
  addError : Option String := none
  deriving DecidableEq, Repr

/-- What the hardware answers to one decode step. -/
inductive DecodeOutput where
  | failed (code : String)
  | noOutputYet
  | newStreamInfo (info : Option StreamInfo) (pool : PoolReply)
  | needAdditionalFramebuffer (pool : PoolReply)
  | decodedFrame (buffer : Nat) (hasFd : Bool)
  | decodedFrameFailed (code : String)
  | frameSkipped
  | moreInputDataNeeded
  | videoParametersChanged
  | endOfStream
  deriving DecidableEq, Repr

def addFramebuffers (count : Nat) (reply : PoolReply) (frames : Frames) : Bool × Frames :=
  if !reply.streamInfo then
    (false, fail "cannot allocate i.MX VPU framebuffers without stream information" frames)
  else if reply.buffers.length < count then
    (false, fail ("failed to allocate i.MX VPU framebuffer: " ++ reply.allocationError)
      { frames with pool := frames.pool ++ reply.buffers })
  else
    let frames := { frames with pool := frames.pool ++ reply.buffers.take count }
    if count = 0 then (true, frames)
    else
      match reply.addError with
      | some code => (false, fail ("failed to add i.MX VPU framebuffer pool: " ++ code) frames)
      | none => (true, frames)

/-- New stream information takes all frames and buffers of the old stream away. -/
def updateStreamInfo (info : Option StreamInfo) (reply : PoolReply) (frames : Frames) :
    Bool × Frames :=
  match info with
  | none => (false, fail "i.MX VPU returned no stream information" frames)
  | some info =>
    if !info.linearNv12 then
      (false, fail ("i.MX VPU output cannot be imported as linear NV12: " ++ info.colorFormat) frames)
    else
      addFramebuffers info.minNumRequiredFramebuffers reply
        (deallocatePool (clearDecoderFrames frames))

/-- The decode steps that remain. The list of outputs ends where the hardware asks for
more input. -/
def decodeSteps : Nat → List DecodeOutput → Frames → Bool × Frames
  | 0, _, frames =>
    (false, fail "i.MX VPU decoder did not request more input after 128 decode steps" frames)
  | _ + 1, [], frames => (true, frames)
  | steps + 1, output :: rest, frames =>
    match output with
    | .failed code => (false, fail ("native i.MX VPU decode failed: " ++ code) frames)
    | .noOutputYet => decodeSteps steps rest frames
    | .newStreamInfo info reply =>
      match updateStreamInfo info reply frames with
      | (true, frames) => decodeSteps steps rest frames
      | (false, frames) => (false, frames)
    | .needAdditionalFramebuffer reply =>
      match addFramebuffers 1 reply frames with
      | (true, frames) => decodeSteps steps rest frames
      | (false, frames) => (false, frames)
    | .decodedFrame buffer hasFd =>
      let fault := if hasFd then none
        else some "decoded i.MX VPU frame has no DMA-BUF file descriptor"
      decodeSteps steps rest (dropStale (enqueue buffer fault frames))
    | .decodedFrameFailed code =>
      (false, fail ("failed to get decoded i.MX VPU frame: " ++ code) frames)
    | .frameSkipped => decodeSteps steps rest frames
    | .moreInputDataNeeded => (true, frames)
    | .videoParametersChanged =>
      (false, fail "i.MX VPU stream parameters changed; restart the native decoder" frames)
    | .endOfStream => (false, fail "i.MX VPU decoder reached end of stream" frames)

def decodeAvailable (outputs : List DecodeOutput) (frames : Frames) : Bool × Frames :=
  decodeSteps 128 outputs frames

/-- A packet submits some access units, each of which is decoded at once; the last may be
refused instead. -/
structure ImxPacket where
  submissions : List (List DecodeOutput) := []
  refused : Option String := none
  deriving DecidableEq, Repr

def handlePacket (packet : ImxPacket) (frames : Frames) : Bool × Frames :=
  go packet.submissions frames
where
  go : List (List DecodeOutput) → Frames → Bool × Frames
    | [], frames =>
      match packet.refused with
      | some code => (false, fail ("failed to push access unit into i.MX VPU: " ++ code) frames)
      | none => (true, frames)
    | outputs :: rest, frames =>
      match decodeAvailable outputs frames with
      | (true, frames) => go rest frames
      | (false, frames) => (false, frames)

/-- What the socket holds: packets, up to an error if there is one. -/
structure Socket (ρ : Type) where
  packets : List ρ := []
  error : Option String := none
  deriving DecidableEq

def imxReceive (error : Option String) : List ImxPacket → Frames → Option Nat × Frames
  | [], frames =>
    match error with
    | some text => (none, fail ("failed to receive i.MX VPU RTP packet: " ++ text) frames)
    | none => deliverIfFree frames
  | packet :: rest, frames =>
    match handlePacket packet frames with
    | (false, frames) => (none, frames)
    | (true, frames) =>
      match deliverIfFree frames with
      | (some buffer, frames) => (some buffer, frames)
      | (none, frames) => imxReceive error rest frames

/-- A frame that waits already is delivered before the socket is read. -/
def imxPoll (socket : Socket ImxPacket) (frames : Frames) : Option Nat × Frames :=
  match deliverIfFree (fail "" frames) with
  | (some buffer, frames) => (some buffer, frames)
  | (none, frames) => imxReceive socket.error socket.packets frames

def imxDecoder : Decoder (Socket ImxPacket) where
  poll := imxPoll
  cleanup := fun frames => deallocatePool (clearDecoderFrames frames)

private theorem pool_keeps (frames : Frames) (pool : List Nat) :
    Keeps frames { frames with pool } :=
  ⟨id, (Keeps.refl frames).unshown⟩

theorem addFramebuffers_keeps (count : Nat) (reply : PoolReply) (frames : Frames) :
    Keeps frames (addFramebuffers count reply frames).2 := by
  unfold addFramebuffers
  split
  · exact fail_keeps _ _
  · split
    · exact (pool_keeps frames _).trans (fail_keeps _ _)
    · dsimp only
      split
      · exact pool_keeps frames _
      · split
        · exact (pool_keeps frames _).trans (fail_keeps _ _)
        · exact pool_keeps frames _

theorem updateStreamInfo_keeps (info : Option StreamInfo) (reply : PoolReply) (frames : Frames) :
    Keeps frames (updateStreamInfo info reply frames).2 := by
  unfold updateStreamInfo
  split
  · exact fail_keeps _ _
  · split
    · exact fail_keeps _ _
    · exact ((clearDecoderFrames_keeps frames).trans (deallocatePool_keeps _)).trans
        (addFramebuffers_keeps _ _ _)

theorem decodeSteps_keeps (steps : Nat) (outputs : List DecodeOutput) (frames : Frames) :
    Keeps frames (decodeSteps steps outputs frames).2 := by
  induction steps generalizing outputs frames with
  | zero => cases outputs <;> exact fail_keeps _ _
  | succ steps ih =>
    cases outputs with
    | nil => exact Keeps.refl frames
    | cons output rest =>
      cases output with
      | failed code => exact fail_keeps _ _
      | noOutputYet => exact ih rest frames
      | newStreamInfo info reply =>
        have updated := updateStreamInfo_keeps info reply frames
        rw [decodeSteps]
        generalize updateStreamInfo info reply frames = result at updated ⊢
        rcases result with ⟨_ | _, after⟩
        · exact updated
        · exact updated.trans (ih rest after)
      | needAdditionalFramebuffer reply =>
        have added := addFramebuffers_keeps 1 reply frames
        rw [decodeSteps]
        generalize addFramebuffers 1 reply frames = result at added ⊢
        rcases result with ⟨_ | _, after⟩
        · exact added
        · exact added.trans (ih rest after)
      | decodedFrame buffer hasFd =>
        exact ((enqueue_keeps buffer _ frames).trans (dropStale_keeps _)).trans (ih rest _)
      | decodedFrameFailed code => exact fail_keeps _ _
      | frameSkipped => exact ih rest frames
      | moreInputDataNeeded => exact Keeps.refl frames
      | videoParametersChanged => exact fail_keeps _ _
      | endOfStream => exact fail_keeps _ _

theorem handlePacket_keeps (packet : ImxPacket) (frames : Frames) :
    Keeps frames (handlePacket packet frames).2 := by
  obtain ⟨submissions, refused⟩ := packet
  suffices kept : ∀ submissions' frames, Keeps frames
      (handlePacket.go ⟨submissions, refused⟩ submissions' frames).2 from kept _ frames
  intro submissions' frames
  induction submissions' generalizing frames with
  | nil =>
    cases refused with
    | none => exact Keeps.refl frames
    | some code => exact fail_keeps _ _
  | cons outputs rest ih =>
    have decoded := decodeSteps_keeps 128 outputs frames
    rw [handlePacket.go, decodeAvailable]
    generalize decodeSteps 128 outputs frames = result at decoded ⊢
    rcases result with ⟨_ | _, after⟩
    · exact decoded
    · exact decoded.trans (ih after)

/-- A frame that is found is the current one. -/
def Found (result : Option Nat × Frames) : Prop :=
  ∀ buffer, result.1 = some buffer → ∃ frame, result.2.current = some frame ∧ frame.buffer = buffer

theorem found_none (frames : Frames) : Found (none, frames) :=
  fun buffer found => absurd found.symm (Option.some_ne_none buffer)

theorem deliverIfFree_found (frames : Frames) : Found (deliverIfFree frames) :=
  fun _ delivered => deliverIfFree_current delivered

theorem imxReceive_lawful (error : Option String) (packets : List ImxPacket) (frames : Frames) :
    Keeps frames (imxReceive error packets frames).2 ∧ Found (imxReceive error packets frames) := by
  induction packets generalizing frames with
  | nil =>
    cases error with
    | none => exact ⟨deliverIfFree_keeps frames, deliverIfFree_found frames⟩
    | some text => exact ⟨fail_keeps _ _, found_none _⟩
  | cons packet rest ih =>
    have handled := handlePacket_keeps packet frames
    rw [imxReceive]
    generalize handlePacket packet frames = result at handled ⊢
    rcases result with ⟨_ | _, after⟩
    · exact ⟨handled, found_none _⟩
    · have kept := handled.trans (deliverIfFree_keeps after)
      have found := deliverIfFree_found after
      dsimp only
      generalize deliverIfFree after = result at kept found ⊢
      rcases result with ⟨_ | buffer, later⟩
      · exact ⟨kept.trans (ih later).1, (ih later).2⟩
      · exact ⟨kept, found⟩

theorem imxPoll_lawful (socket : Socket ImxPacket) (frames : Frames) :
    Keeps frames (imxPoll socket frames).2 ∧ Found (imxPoll socket frames) := by
  have kept := (fail_keeps "" frames).trans (deliverIfFree_keeps _)
  have found := deliverIfFree_found (fail "" frames)
  rw [imxPoll]
  generalize deliverIfFree (fail "" frames) = result at kept found ⊢
  rcases result with ⟨_ | buffer, after⟩
  · have received := imxReceive_lawful socket.error socket.packets after
    exact ⟨kept.trans received.1, received.2⟩
  · exact ⟨kept, found⟩

theorem imxDecoder_lawful : Lawful imxDecoder where
  poll := fun socket frames => (imxPoll_lawful socket frames).1
  current := fun socket frames => (imxPoll_lawful socket frames).2
  cleanup := fun frames => (clearDecoderFrames_keeps frames).trans (deallocatePool_keeps _)
  empty := fun _ => ⟨rfl, rfl⟩

/-! ### The Cedar decoder -/

/-- A picture of the hardware: its buffer, and what `picture_to_frame` has against it. -/
structure Picture where
  buffer : Nat
  fault : Option String := none
  deriving DecidableEq, Repr

/-- A packet may submit access units, and submitting may fail; the pictures are those
that the hardware has when it is asked next. -/
structure CedarPacket where
  submitted : Bool := false
  failure : Option String := none
  pictures : List Picture := []
  deriving DecidableEq, Repr

def requestPictures (pictures : List Picture) (frames : Frames) : Frames :=
  pictures.foldl (fun frames picture => enqueue picture.buffer picture.fault frames) frames

def drainPicture (pictures : List Picture) (frames : Frames) : Option Nat × Frames :=
  deliverIfFree (dropStale (requestPictures pictures frames))

/-- All packets are handled, also after a frame has been found. -/
def cedarReceive (error : Option String) (last : List Picture) :
    List CedarPacket → Option Nat → Frames → Option Nat × Frames
  | [], got, frames =>
    match error with
    | some text => (none, fail ("failed to receive RTP packet: " ++ text) frames)
    | none =>
      match got with
      | some buffer => (some buffer, frames)
      | none => drainPicture last frames
  | packet :: rest, got, frames =>
    match packet.failure with
    | some text => (none, fail text frames)
    | none =>
      if packet.submitted then
        match drainPicture packet.pictures frames with
        | (some buffer, frames) => cedarReceive error last rest (some buffer) frames
        | (none, frames) => cedarReceive error last rest got frames
      else cedarReceive error last rest got frames

/-- What `poll` meets: the socket, and the pictures it asks for at the end. -/
structure CedarInput where
  socket : Socket CedarPacket := {}
  pictures : List Picture := []
  deriving DecidableEq

def cedarDecoder : Decoder CedarInput where
  poll := fun input frames =>
    cedarReceive input.socket.error input.pictures input.socket.packets none (fail "" frames)
  cleanup := clearDecoderFrames

theorem requestPictures_keeps (pictures : List Picture) (frames : Frames) :
    Keeps frames (requestPictures pictures frames) := by
  induction pictures generalizing frames with
  | nil => exact Keeps.refl frames
  | cons picture rest ih => exact (enqueue_keeps _ _ frames).trans (ih _)

theorem drainPicture_keeps (pictures : List Picture) (frames : Frames) :
    Keeps frames (drainPicture pictures frames).2 :=
  ((requestPictures_keeps pictures frames).trans (dropStale_keeps _)).trans (deliverIfFree_keeps _)

/-- While a frame is current, asking for pictures changes neither it nor the answer. -/
theorem drainPicture_busy (busy : frames.current = some frame) (pictures : List Picture) :
    (drainPicture pictures frames).1 = none ∧
      (drainPicture pictures frames).2.current = some frame := by
  have requested : (requestPictures pictures frames).current = some frame := by
    induction pictures generalizing frames with
    | nil => exact busy
    | cons picture rest ih => exact ih busy
  have stale : (dropStale (requestPictures pictures frames)).current = some frame := requested
  rw [drainPicture, deliverIfFree, stale]
  exact ⟨rfl, stale⟩

/-- The frame found so far, if there is one, stays the current one. -/
theorem cedarReceive_lawful (error : Option String) (last : List Picture)
    (packets : List CedarPacket) (got : Option Nat) (frames : Frames) (found : Found (got, frames)) :
    Keeps frames (cedarReceive error last packets got frames).2 ∧
      Found (cedarReceive error last packets got frames) := by
  induction packets generalizing got frames with
  | nil =>
    cases error with
    | some text => exact ⟨fail_keeps _ _, found_none _⟩
    | none =>
      cases got with
      | some buffer => exact ⟨Keeps.refl frames, found⟩
      | none => exact ⟨drainPicture_keeps last frames, deliverIfFree_found _⟩
  | cons packet rest ih =>
    rw [cedarReceive]
    split
    · exact ⟨fail_keeps _ _, found_none _⟩
    · split
      · have kept := drainPicture_keeps packet.pictures frames
        have drained : Found (drainPicture packet.pictures frames) := deliverIfFree_found _
        have held : ∀ buffer, got = some buffer → ∃ frame,
            (drainPicture packet.pictures frames).2.current = some frame ∧ frame.buffer = buffer := by
          intro buffer is_got
          obtain ⟨frame, busy, same⟩ := found buffer is_got
          exact ⟨frame, (drainPicture_busy busy packet.pictures).2, same⟩
        generalize drainPicture packet.pictures frames = result at kept drained held ⊢
        rcases result with ⟨_ | buffer, after⟩
        · have received := ih got after held
          exact ⟨kept.trans received.1, received.2⟩
        · have received := ih (some buffer) after drained
          exact ⟨kept.trans received.1, received.2⟩
      · exact ih got frames found

theorem cedarPoll_lawful (input : CedarInput) (frames : Frames) :
    Keeps frames (cedarDecoder.poll input frames).2 ∧ Found (cedarDecoder.poll input frames) := by
  have received := cedarReceive_lawful input.socket.error input.pictures input.socket.packets none
    (fail "" frames) (found_none _)
  exact ⟨(fail_keeps "" frames).trans received.1, received.2⟩

theorem cedarDecoder_lawful : Lawful cedarDecoder where
  poll := fun input frames => (cedarPoll_lawful input frames).1
  current := fun input frames => (cedarPoll_lawful input frames).2
  cleanup := clearDecoderFrames_keeps
  empty := fun _ => ⟨rfl, rfl⟩

/-! ### Scan-out safety -/

/-- For both decoders, every frame is returned once in every run, and the buffer on the video
plane is kept from the decoder exactly in the runs that never put one there. -/
theorem scan_out_safe_iff_unshown (imxTurns : List (Turn (Socket ImxPacket)))
    (cedarTurns : List (Turn CedarInput)) :
    (Safe (run imxDecoder imxTurns) ↔
      Runs.Meets (step imxDecoder) (ShowsNothing imxDecoder) {} imxTurns) ∧
    (Safe (run cedarDecoder cedarTurns) ↔
      Runs.Meets (step cedarDecoder) (ShowsNothing cedarDecoder) {} cedarTurns) :=
  ⟨safe_iff_shows_nothing imxDecoder_lawful imxTurns,
    safe_iff_shows_nothing cedarDecoder_lawful cedarTurns⟩

/-- One packet whose access unit yields one frame, which is presented. -/
def oneFrame : List (Turn (Socket ImxPacket)) :=
  [.iterate { packets := [{ submissions := [[.newStreamInfo (some {}) {}, .decodedFrame 7 true]] }] }
    true true]

def onePicture : List (Turn CedarInput) :=
  [.iterate { socket := { packets := [{ submitted := true, pictures := [{ buffer := 7 }] }] } }
    true true]

theorem presented_frame_returned_at_once :
    ¬ (∀ turns, Safe (run imxDecoder turns)) ∧ ¬ (∀ turns, Safe (run cedarDecoder turns)) := by
  constructor
  · intro safe
    have shown : ¬ ScanOutSafe none (run imxDecoder oneFrame).frames.log := by decide +kernel
    exact shown (safe oneFrame).scanOut
  · intro safe
    have shown : ¬ ScanOutSafe none (run cedarDecoder onePicture).frames.log := by decide +kernel
    exact shown (safe onePicture).scanOut

end Glide.ScanOutSafety
