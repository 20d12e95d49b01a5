import ControlDeck.Device.Feeder

/-!
# Feeding a joystick alone

What a feeder does to a joystick that nobody else uses and that does not fail.

- **Replay** (`replay`): the state of the buttons after a list of button writes.
- **Alone** (`Feeder.Alone`): no fault is waiting, the feeder holds exactly the acquired devices,
  these are available, and no other device shows a button. It holds of a fresh joystick
  (`alone_ofAvailable`), and every write keeps it.
- **Fed** (`Feeder.Fed f g ws`): on the way from `f` to `g` the journal gained the button writes
  `ws`, the buttons are as these writes say, and nothing else changed that a reader of buttons
  could tell. `setButton_fed` and `toggle_fed` say which writes an operation makes: one if the
  device is available and has the button, else none.
- `relinquishAll_spec`: handing the devices back writes no button.
-/

namespace ControlDeck.Device

/-- The buttons after some writes. -/
def replay (state : ButtonKey → Bool) (writes : List (ButtonKey × Bool)) (k : ButtonKey) : Bool :=
  writes.foldl (fun down w => if w.1 = k then w.2 else down) (state k)

@[simp] theorem replay_nil (state : ButtonKey → Bool) : replay state [] = state := rfl

theorem replay_append (state : ButtonKey → Bool) (ws vs : List (ButtonKey × Bool)) :
    replay state (ws ++ vs) = replay (replay state ws) vs := by
  funext k
  simp [replay]

theorem replay_singleton (state : ButtonKey → Bool) (k other : ButtonKey) (down : Bool) :
    replay state [(k, down)] other = if other = k then down else state other := by
  simp [replay, eq_comm]

/-- Buttons that no write names stay as they are. -/
theorem replay_of_notMem {state : ButtonKey → Bool} {ws : List (ButtonKey × Bool)} {k : ButtonKey}
    (h : ∀ down, (k, down) ∉ ws) : replay state ws k = state k := by
  induction ws generalizing state with
  | nil => rfl
  | cons w ws ih =>
    have hw : w.1 ≠ k := by
      rintro rfl
      exact h w.2 List.mem_cons_self
    rw [← List.singleton_append, replay_append,
      ih fun down hm => h down (List.mem_cons_of_mem _ hm), replay_singleton, if_neg (Ne.symm hw)]

/-- Without a write that presses it, a button that is down was down before. -/
theorem replay_up_of_notMem {state : ButtonKey → Bool} {ws : List (ButtonKey × Bool)}
    {k : ButtonKey} (h : (k, true) ∉ ws) (hd : replay state ws k = true) :
    state k = true ∧ (k, false) ∉ ws := by
  induction ws generalizing state with
  | nil => exact ⟨hd, List.not_mem_nil⟩
  | cons w ws ih =>
    rw [List.mem_cons, not_or] at h
    rw [← List.singleton_append, replay_append] at hd
    obtain ⟨hs, hn⟩ := ih h.2 hd
    rw [replay_singleton] at hs
    by_cases hk : k = w.1
    · rw [if_pos hk] at hs
      exact absurd (Prod.ext hk hs.symm) h.1
    · rw [if_neg hk] at hs
      exact ⟨hs, by simpa [hn] using fun e => hk (congrArg Prod.fst e)⟩

namespace Joystick

/-- Whether a button can be fed: its device is available and has it. -/
def canFeed (j : Joystick) (k : ButtonKey) : Bool :=
  j.available.contains k.device && hasButton k.button

theorem isPressed_feed (j : Joystick) (device : UInt32) (p : Panel) (change : Change)
    (k : ButtonKey) :
    (j.feed device p change).isPressed k =
      if k.device = device then p.buttons.isDown k.button else j.isPressed k := by
  unfold isPressed
  rw [panel_feed]
  split <;> rfl

theorem buttonWrites_feed_button (j : Joystick) (k : ButtonKey) (p : Panel) (down : Bool) :
    (j.feed k.device p (.button k.button down)).buttonWrites = j.buttonWrites ++ [(k, down)] := by
  simp [buttonWrites, feed]

theorem buttonWrites_feed_acquire (j : Joystick) (device : UInt32) (p : Panel) :
    (j.feed device p .acquire).buttonWrites = j.buttonWrites := by
  simp [buttonWrites, feed]

/-- Handing a device back touches no button. -/
theorem relinquish_spec (j : Joystick) (device : UInt32) :
    (j.relinquish device).value.buttonWrites = j.buttonWrites ∧
      (j.relinquish device).value.isPressed = j.isPressed ∧
      (j.relinquish device).value.available = j.available := by
  unfold relinquish
  split
  · refine ⟨?_, rfl, rfl⟩
    simp [buttonWrites]
  · exact ⟨rfl, rfl, rfl⟩

/-- A button that is down exists. -/
theorem hasButton_of_isPressed {j : Joystick} {k : ButtonKey} (h : j.isPressed k = true) :
    hasButton k.button = true := by
  simp only [isPressed, Bank.isDown, Bool.and_eq_true] at h
  exact h.1

end Joystick

/-- Without a fault every call reaches the joystick. -/
theorem Backend.call_value {α : Type} {b : Backend} (h : b.faults = [])
    (operation : Joystick → Logged (Except DeviceError (α × Joystick))) :
    (b.call operation).value =
      match (operation b.joystick).value with
      | .ok (answer, joystick) => (.ok answer, { b with joystick })
      | .error e => (.error e, b) := by
  have hc := b.value_call operation
  rw [fault?_of_nil h, passed_of_nil h] at hc
  exact hc

namespace Feeder

/-- The joystick behind a feeder. -/
abbrev joystick (f : Feeder) : Joystick := f.backend.joystick

/-- A feeder with which nobody interferes. -/
structure Alone (f : Feeder) : Prop where
  faultless : f.backend.faults = []
  held_eq : ∀ d, f.held.contains d = f.joystick.isAcquired d
  available : ∀ d, f.joystick.isAcquired d = true → f.joystick.available.contains d = true
  idle_up : ∀ k : ButtonKey, f.joystick.isAcquired k.device = false → f.joystick.isPressed k = false

/-- A fresh joystick is nobody's. -/
theorem alone_ofAvailable (devices : List UInt32) :
    Alone ⟨{ joystick := Joystick.ofAvailable devices }, ∅⟩ where
  faultless := rfl
  held_eq _ := rfl
  available d h := by simp [Joystick.ofAvailable, Joystick.isAcquired] at h
  idle_up k _ := Bank.isDown_empty k.button

/-- From `f` to `g` the buttons `ws` were written, and nothing else happened to buttons. -/
structure Fed (f g : Feeder) (ws : List (ButtonKey × Bool)) : Prop where
  alone : g.Alone
  available : g.joystick.available = f.joystick.available
  writes : g.joystick.buttonWrites = f.joystick.buttonWrites ++ ws
  pressed : g.joystick.isPressed = replay f.joystick.isPressed ws

theorem Fed.refl {f : Feeder} (h : f.Alone) : Fed f f [] := ⟨h, rfl, by simp, rfl⟩

theorem Fed.trans {f g h : Feeder} {ws vs : List (ButtonKey × Bool)} (hw : Fed f g ws)
    (hv : Fed g h vs) : Fed f h (ws ++ vs) where
  alone := hv.alone
  available := hv.available.trans hw.available
  writes := by rw [hv.writes, hw.writes, List.append_assoc]
  pressed := by rw [hv.pressed, hw.pressed, replay_append]

theorem Fed.canFeed {f g : Feeder} {ws : List (ButtonKey × Bool)} (h : Fed f g ws) (k : ButtonKey) :
    g.joystick.canFeed k = f.joystick.canFeed k := by
  unfold Joystick.canFeed
  rw [h.available]

/-! ## Acquiring -/

/-- Acquiring writes no button, and it succeeds exactly if the device is available. -/
theorem ensureAcquired_spec {f : Feeder} (h : f.Alone) (d : UInt32) :
    Fed f (f.ensureAcquired d).value.2 [] ∧
      (f.ensureAcquired d).value.1 = f.joystick.available.contains d ∧
      (f.ensureAcquired d).value.2.joystick.isAcquired d = f.joystick.available.contains d := by
  unfold ensureAcquired
  by_cases hh : f.held.contains d = true
  · rw [if_pos hh]
    have ha := (h.held_eq d).symm.trans hh
    exact ⟨Fed.refl h, (h.available d ha).symm, ha.trans (h.available d ha).symm⟩
  · rw [if_neg hh]
    have ha : f.joystick.isAcquired d = false := by
      rw [← h.held_eq d]
      exact Bool.eq_false_iff.mpr hh
    simp only [Logged.value_bind, Backend.acquire, Backend.call_value h.faultless, Joystick.acquire]
    by_cases hv : f.joystick.available.contains d = true
    · simp only [hv, Bool.not_true, Bool.false_eq_true, ↓reduceIte, ha, Logged.value_bind,
        Logged.value_pure, Except.map, true_and]
      refine ⟨⟨⟨h.faultless, ?_, ?_, ?_⟩, rfl, ?_, ?_⟩, ?_⟩
      · intro e
        simp only [Joystick.isAcquired, Std.TreeSet.contains_insert]
        rw [h.held_eq e, Joystick.isAcquired]
      · intro e he
        simp only [Joystick.isAcquired, Std.TreeSet.contains_insert, Bool.or_eq_true,
          Std.compare_eq_iff_eq, beq_iff_eq] at he
        rcases he with rfl | he
        · exact hv
        · exact h.available e he
      · intro k hk
        simp only [Joystick.isAcquired, Std.TreeSet.contains_insert, Bool.or_eq_false_iff,
          beq_eq_false_iff_ne, ne_eq, Std.compare_eq_iff_eq] at hk
        exact (Joystick.isPressed_feed _ _ _ .acquire k).trans
          ((if_neg fun e => hk.1 e.symm).trans (h.idle_up k hk.2))
      · rw [List.append_nil]
        exact Joystick.buttonWrites_feed_acquire f.joystick d {}
      · funext k
        refine (Joystick.isPressed_feed _ _ _ .acquire k).trans ?_
        split
        · rename_i e
          rw [replay_nil, h.idle_up k (by rw [e]; exact ha)]
          exact Bank.isDown_empty _
        · rfl
      · simp [Joystick.isAcquired]
    · simp only [hv, Bool.not_false, ↓reduceIte, Logged.value_bind, Logged.value_pure, Except.map,
        true_and]
      exact ⟨Fed.refl h, ha⟩

/-! ## Writing -/

/-- The outcome of a write to a device that is acquired. -/
theorem settle_setButton_spec {f : Feeder} (h : f.Alone) {k : ButtonKey}
    (ha : f.joystick.isAcquired k.device = true) (down : Bool) :
    Fed f (f.settle k.device (f.backend.setButton k down).value).value
      (if f.joystick.canFeed k then [(k, down)] else []) := by
  have hv := h.available _ ha
  rw [Backend.setButton, Backend.call_value h.faultless]
  simp only [Joystick.canFeed, hv, Bool.true_and]
  by_cases hb : hasButton k.button = true
  · have he : f.joystick.setButton k down = .ok _ :=
      Joystick.setButton_eq_ok_iff.mpr ⟨ha, hb, rfl⟩
    rw [if_pos hb]
    simp only [he, Except.map, Logged.value_pure, settle]
    refine ⟨⟨h.faultless, h.held_eq, h.available, ?_⟩, rfl,
      Joystick.buttonWrites_feed_button .., ?_⟩
    · intro o ho
      refine (Joystick.isPressed_feed ..).trans ((if_neg ?_).trans (h.idle_up o ho))
      intro e
      rw [← e] at ha
      exact Bool.false_ne_true (ho.symm.trans ha)
    · funext o
      rw [replay_singleton]
      exact Joystick.isPressed_of_setButton he o
  · have he : f.joystick.setButton k down = .error (.buttonOutOfRange k.device k.button) := by
      simp [Joystick.setButton, Joystick.requireAcquired, Joystick.requireButton, ha, hb, bind,
        Except.bind]
    rw [if_neg hb]
    simp only [he, Except.map, Logged.value_bind, Logged.value_pure, settle, absorb]
    exact Fed.refl h

/-- Writing a button. -/
theorem setButton_fed {f : Feeder} (h : f.Alone) (k : ButtonKey) (down : Bool) :
    Fed f (f.setButton k down).value (if f.joystick.canFeed k then [(k, down)] else []) := by
  obtain ⟨hf, hv, ha⟩ := ensureAcquired_spec h k.device
  simp only [setButton, withDevice, Logged.value_bind, Logged.value_ite, Logged.value_pure]
  by_cases he : f.joystick.available.contains k.device = true
  · rw [if_pos (hv.trans he), ← hf.canFeed]
    exact hf.trans (settle_setButton_spec hf.alone (ha.trans he) down)
  · rw [if_neg fun e => he (hv.symm.trans e)]
    simpa [Joystick.canFeed, he] using hf

/-- Toggling a button. -/
theorem toggle_fed {f : Feeder} (h : f.Alone) (k : ButtonKey) :
    Fed f (f.toggle k).value
      (if f.joystick.canFeed k then [(k, !f.joystick.isPressed k)] else []) := by
  obtain ⟨hf, hv, ha⟩ := ensureAcquired_spec h k.device
  simp only [toggle, withDevice, Logged.value_bind, Logged.value_ite, Logged.value_pure]
  by_cases he : f.joystick.available.contains k.device = true
  · rw [if_pos (hv.trans he), ← hf.canFeed, show f.joystick.isPressed = _ from hf.pressed.symm]
    generalize (f.ensureAcquired k.device).value.2 = g at hf ha
    replace ha := ha.trans he
    rw [Backend.buttonState, Backend.call_value hf.alone.faultless]
    by_cases hb : hasButton k.button = true
    · have hs : g.joystick.buttonState k = .ok (g.joystick.isPressed k) := by
        simp [Joystick.buttonState, Joystick.requireAcquired, Joystick.requireButton, ha, hb, bind,
          Except.bind, pure, Except.pure]
      simp only [hs, Except.map, Logged.value_pure]
      exact hf.trans (setButton_fed hf.alone k _)
    · have hs : g.joystick.buttonState k = .error (.buttonOutOfRange k.device k.button) := by
        simp [Joystick.buttonState, Joystick.requireAcquired, Joystick.requireButton, ha, hb, bind,
          Except.bind]
      simp only [hs, Except.map, Logged.value_bind, Logged.value_pure, absorb]
      simpa [Joystick.canFeed, hb] using hf
  · rw [if_neg fun e => he (hv.symm.trans e)]
    simpa [Joystick.canFeed, he] using hf

/-! ## Handing back -/

/-- Handing all devices back touches no button. -/
theorem relinquishAll_spec (f : Feeder) :
    f.relinquishAll.value.joystick.buttonWrites = f.joystick.buttonWrites ∧
      f.relinquishAll.value.joystick.isPressed = f.joystick.isPressed ∧
      f.relinquishAll.value.joystick.available = f.joystick.available := by
  unfold relinquishAll
  generalize f.heldDevices = ds
  induction ds generalizing f with
  | nil => exact ⟨rfl, rfl, rfl⟩
  | cons d ds ih =>
    obtain ⟨hw, hp, ha⟩ := ih (f.relinquish d).value
    obtain ⟨hw', hp', ha'⟩ := f.joystick.relinquish_spec d
    rw [List.foldlM_cons]
    exact ⟨hw.trans hw', hp.trans hp', ha.trans ha'⟩

end Feeder

end ControlDeck.Device
