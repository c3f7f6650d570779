import LateBinding.Session.Basic

/-!
# The shared image of a host

Code that has no image of its own uses the one that its host shares. It is created by
whoever asks for it first, from that caller's configuration. Every later caller gets the
same image, and the configuration it brings has no effect, not even on the log threshold.
-/

namespace LateBinding

variable [NameHash]

/-- A session together with the number of its shared image, once there is one. -/
structure Host where
  session : Session
  shared : Option ImageId

namespace Host

/-- A host in which nobody has asked for the shared image. -/
def start (threshold : Log.Level) : Host where
  session := .idle threshold
  shared := none

/-- The shared image, created from a configuration on first use. -/
def share (host : Host) (config : Config) : Except Panic (ImageId × Host) :=
  match host.shared with
  | some id => .ok (id, host)
  | none => do
    let session ← host.session.addImage config
    let id := host.session.images.size
    return (id, { session, shared := some id })

/-- Whoever asks after the first gets the same image, whatever configuration it brings, and
    leaves the host as it is. -/
theorem share_after_share (host after : Host) (id : ImageId) (first second : Config)
    (shared : host.share first = .ok (id, after)) : after.share second = .ok (id, after) := by
  unfold share at shared
  split at shared
  · rename_i given
    cases shared
    simp [share, given]
  · cases added : host.session.addImage first with
    | error panic => simp [added, bind, Except.bind] at shared
    | ok session =>
      simp only [added, bind, Except.bind, pure, Except.pure, Except.ok.injEq,
        Prod.mk.injEq] at shared
      obtain ⟨rfl, rfl⟩ := shared
      rfl

end Host

end LateBinding
