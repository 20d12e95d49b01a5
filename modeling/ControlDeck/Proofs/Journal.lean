import ControlDeck.Proofs.Steps

/-!
# What a run writes

The button writes of a worker that has its joystick for itself.

- **Alone** (`Rig.Solo`): until it stops, nobody interferes with the feeder of the worker. It holds
  in front of a fresh joystick (`solo_start`), and every step of the worker, its timers and its
  producers keeps it (`Solo.apply`).
- **Writes of a step** (`Rig.writesOf`): a job that is executed and a button whose pulse was cut
  short write at most one button; no other step writes. `Solo.wrote` says that the journal gains
  these writes, and that the buttons are then as they say.
- **The journal of a run** (`Run.buttonWrites`, `Run.isPressed`): all writes, step by step.
-/

namespace ControlDeck.Dispatch

open Device

/-- Whether an event is one of the worker, its timers or its producers. -/
def Event.isOwn : Event → Bool
  | .outside _ => false
  | _ => true

namespace Rig

/-- Until it stops, the worker has its joystick for itself. -/
def Solo (s : Rig) : Prop := s.phase ≠ .stopped → s.feeder.Alone

/-- On the way from `s` to `u` the buttons `ws` were written. -/
structure Wrote (s u : Rig) (ws : List (ButtonKey × Bool)) : Prop where
  available : u.joystick.available = s.joystick.available
  writes : u.joystick.buttonWrites = s.joystick.buttonWrites ++ ws
  pressed : u.joystick.isPressed = replay s.joystick.isPressed ws

theorem Wrote.refl (s : Rig) : Wrote s s [] := ⟨rfl, (List.append_nil _).symm, rfl⟩

theorem Wrote.trans {s u v : Rig} {ws vs : List (ButtonKey × Bool)} (hw : Wrote s u ws)
    (hv : Wrote u v vs) : Wrote s v (ws ++ vs) where
  available := hv.available.trans hw.available
  writes := by rw [hv.writes, hw.writes, List.append_assoc]
  pressed := by rw [hv.pressed, hw.pressed, replay_append]

theorem Wrote.canFeed {s u : Rig} {ws : List (ButtonKey × Bool)} (h : Wrote s u ws)
    (k : ButtonKey) : u.joystick.canFeed k = s.joystick.canFeed k := by
  unfold Joystick.canFeed
  rw [h.available]

variable {s : Rig} {e : Event}

/-- Nobody has used a fresh joystick yet. -/
theorem solo_start (settings : Settings) (devices : List UInt32) :
    Solo (start settings { joystick := Joystick.ofAvailable devices }) :=
  fun _ => Feeder.alone_ofAvailable devices

/-- A job that is executed writes as `jobWrites` says. -/
theorem fed_execute (h : s.feeder.Alone) {job : Job} {rest : List Job} {now : Moment}
    (ha : s.apply e =
      s.put (Worker.execute (s.worker.setQueue { s.queue with jobs := rest }) s.backend now
        job).value) :
    s.feeder.Fed (s.apply e).feeder (s.jobWrites job) := by
  rw [ha]
  exact Worker.execute_fed (w := s.worker.setQueue { s.queue with jobs := rest }) h now job

/-- What a step other than the last does to the feeder. -/
theorem fed_apply (h : s.feeder.Alone) (he : s.Enabled e) (ho : e.isOwn = true)
    (hs : e ≠ .stop) : s.feeder.Fed (s.apply e).feeder (s.writesOf e) := by
  cases e with
  | execute now =>
    obtain ⟨job, rest, hj⟩ := List.exists_cons_of_ne_nil he.2.2
    unfold writesOf
    rw [hj]
    exact fed_execute h (apply_execute hj now)
  | flush now =>
    obtain ⟨job, rest, hj⟩ := List.exists_cons_of_ne_nil he.2.2
    unfold writesOf
    rw [hj]
    dsimp only
    split
    · rename_i hm
      exact fed_execute h (apply_flush_release hj now hm)
    · rename_i hm
      rw [apply_flush_drop hj now hm]
      exact Feeder.Fed.refl h
  | release =>
    obtain ⟨k, rest, hc⟩ := List.exists_cons_of_ne_nil he.2.2.2.2
    unfold writesOf
    rw [hc, apply_release hc]
    exact Feeder.setButton_fed h k false
  | stop => exact absurd rfl hs
  | outside b => cases ho
  | _ => exact Feeder.Fed.refl h

/-- A step of the worker, its timers and its producers leaves the worker alone with its joystick. -/
theorem Solo.apply (h : s.Solo) (he : s.Enabled e) (ho : e.isOwn = true) : (s.apply e).Solo := by
  intro hp
  rw [phase_apply] at hp
  have hs : e ≠ .stop := by
    rintro rfl
    exact hp rfl
  refine (fed_apply (h ?_) he ho hs).alone
  cases e with
  | leave => rw [he.1]; exact nofun
  | stop => exact absurd rfl hs
  | _ => exact hp

/-- The journal gains the writes of a step, and the buttons are as they say. -/
theorem Solo.wrote (h : s.Solo) (he : s.Enabled e) (ho : e.isOwn = true) :
    Wrote s (s.apply e) (s.writesOf e) := by
  by_cases hs : e = .stop
  · subst hs
    obtain ⟨hw, hp, ha⟩ := s.feeder.relinquishAll_spec
    exact ⟨ha, hw.trans (List.append_nil _).symm, hp⟩
  · by_cases hp : s.phase = .stopped
    · cases e with
      | execute | flush | release => rw [he.1] at hp; cases hp
      | stop => exact absurd rfl hs
      | outside b => cases ho
      | _ => exact ⟨rfl, (List.append_nil _).symm, rfl⟩
    · have hf := fed_apply (h hp) he ho hs
      exact ⟨hf.available, hf.writes, hf.pressed⟩

theorem writes_eq (h : s.Solo) (he : s.Enabled e) (ho : e.isOwn = true) :
    Transition.writes ⟨s, e, s.apply e⟩ = s.writesOf e := by
  unfold Transition.writes
  rw [(h.wrote he ho).writes, List.drop_left]

end Rig

/-! ## Runs -/

/-- Nobody but the worker, its timers and its producers did anything. -/
def Own (trace : List Transition) : Prop := ∀ t ∈ trace, t.event.isOwn = true

instance (trace : List Transition) : Decidable (Own trace) :=
  inferInstanceAs (Decidable (∀ t ∈ trace, _))

namespace Run

variable {s u : Rig} {trace : List Transition}

/-- In a run of its own the worker stays alone with its joystick, and the journal gains what its
steps write. -/
theorem wrote (h : Run s trace u) (hs : s.Solo) (ho : Own trace) :
    u.Solo ∧ Rig.Wrote s u (trace.flatMap (·.writes)) := by
  induction h with
  | nil => exact ⟨hs, Rig.Wrote.refl s⟩
  | @snoc trace m e hr he ih =>
    obtain ⟨hm, hw⟩ := ih fun t ht => ho t (List.mem_append_left _ ht)
    have hoe : e.isOwn = true := ho _ (List.mem_append_right _ (List.mem_singleton_self _))
    refine ⟨hm.apply he hoe, ?_⟩
    rw [List.flatMap_append, List.flatMap_singleton, Rig.writes_eq hm he hoe]
    exact hw.trans (hm.wrote he hoe)

variable {settings : Settings} {devices : List UInt32}

/-- The journal of a fresh joystick holds the writes of the run, in order. -/
theorem buttonWrites
    (h : Run (Rig.start settings { joystick := Joystick.ofAvailable devices }) trace u)
    (ho : Own trace) : u.joystick.buttonWrites = trace.flatMap (·.writes) :=
  (h.wrote (Rig.solo_start settings devices) ho).2.writes

/-- The buttons of a fresh joystick are as the writes of the run say. -/
theorem isPressed
    (h : Run (Rig.start settings { joystick := Joystick.ofAvailable devices }) trace u)
    (ho : Own trace) :
    u.joystick.isPressed = replay (fun _ => false) (trace.flatMap (·.writes)) := by
  refine (h.wrote (Rig.solo_start settings devices) ho).2.pressed.trans ?_
  congr 1
  funext k
  exact Bank.isDown_empty k.button

end Run

end ControlDeck.Dispatch
