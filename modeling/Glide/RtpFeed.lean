import Glide.RtpPackets
import Glide.Library.Runs

/-! Datagrams of any kind at a decoder, one after another. The feed ends with the
first call that fails. -/
namespace Glide.RtpFeed
open RtpPackets Library.Runs

structure Feed (σ : Type) where
  decoder : σ
  running : Bool := true
  deriving DecidableEq, Repr

def receive (handle : List UInt8 → σ → Bool × σ) (feed : Feed σ) (datagram : List UInt8) :
    Feed σ :=
  if feed.running then
    { decoder := (handle datagram feed.decoder).2, running := (handle datagram feed.decoder).1 }
  else feed

/-- The condition on the datagrams that a running decoder is fed. -/
def WhenRunning (condition : σ → List UInt8 → Prop) (feed : Feed σ) (datagram : List UInt8) :
    Prop :=
  feed.running = true → condition feed.decoder datagram

instance (condition : σ → List UInt8 → Prop) [∀ decoder datagram, Decidable (condition decoder datagram)]
    (feed : Feed σ) (datagram : List UInt8) : Decidable (WhenRunning condition feed datagram) := by
  unfold WhenRunning
  infer_instance

/-- What holds while the feed runs, and what is left of it after a call that failed. -/
theorem invariants_after_feed {going ended : σ → Prop} {handle : List UInt8 → σ → Bool × σ}
    {condition : σ → List UInt8 → Prop} (weaker : ∀ decoder, going decoder → ended decoder)
    (preserved : ∀ decoder datagram, going decoder → condition decoder datagram →
      ended (handle datagram decoder).2 ∧
        ((handle datagram decoder).1 = true → going (handle datagram decoder).2))
    {feed : Feed σ} (start : going feed.decoder) (datagrams : List (List UInt8))
    (meets : Meets (receive handle) (WhenRunning condition) feed datagrams) :
    ended (datagrams.foldl (receive handle) feed).decoder ∧
      ((datagrams.foldl (receive handle) feed).running = true →
        going (datagrams.foldl (receive handle) feed).decoder) := by
  have kept : ∀ (feed : Feed σ) (datagram : List UInt8),
      ended feed.decoder ∧ (feed.running = true → going feed.decoder) →
      WhenRunning condition feed datagram →
      ended (receive handle feed datagram).decoder ∧
        ((receive handle feed datagram).running = true →
          going (receive handle feed datagram).decoder) := by
    intro feed datagram holds admitted
    unfold receive
    split
    · rename_i running
      exact preserved _ _ (holds.2 running) (admitted running)
    · exact holds
  exact invariant_after_run datagrams kept ⟨weaker _ start, fun _ => start⟩ meets

theorem invariant_after_feed {going ended : σ → Prop} {handle : List UInt8 → σ → Bool × σ}
    {condition : σ → List UInt8 → Prop} (weaker : ∀ decoder, going decoder → ended decoder)
    (preserved : ∀ decoder datagram, going decoder → condition decoder datagram →
      ended (handle datagram decoder).2 ∧
        ((handle datagram decoder).1 = true → going (handle datagram decoder).2))
    {feed : Feed σ} (start : going feed.decoder) (datagrams : List (List UInt8))
    (meets : Meets (receive handle) (WhenRunning condition) feed datagrams) :
    ended (datagrams.foldl (receive handle) feed).decoder :=
  (invariants_after_feed weaker preserved start datagrams meets).1

/-- What datagrams of any kind preserve, whether or not the call fails. -/
theorem invariant_after_any_feed {invariant : σ → Prop} {handle : List UInt8 → σ → Bool × σ}
    (preserved : ∀ decoder datagram, invariant decoder → invariant (handle datagram decoder).2)
    {feed : Feed σ} (start : invariant feed.decoder) (datagrams : List (List UInt8)) :
    invariant (datagrams.foldl (receive handle) feed).decoder := by
  have kept : ∀ (feed : Feed σ) (datagram : List UInt8), invariant feed.decoder →
      invariant (receive handle feed datagram).decoder := by
    intro feed datagram holds
    unfold receive
    split
    · exact preserved _ _ holds
    · exact holds
  exact invariant_after_any_run datagrams kept start

/-- A feed that has ended stays as it is. -/
theorem foldl_receive_ended (handle : List UInt8 → σ → Bool × σ) (datagrams : List (List UInt8))
    (decoder : σ) :
    datagrams.foldl (receive handle) ⟨decoder, false⟩ = ⟨decoder, false⟩ := by
  induction datagrams with
  | nil => rfl
  | cons datagram rest ih => exact ih

end Glide.RtpFeed
